import HandlerGuard.Script.Character

namespace HandlerGuard.ValuePattern

/-- What follows so many hexadecimal digits that are the code of a character. -/
def afterCode (count : Nat) (t : Text) : Option Text :=
  let digits := t.take count
  let code := digits.foldl (fun n c => n * 16 + (Script.hexValue? c).getD 0) 0
  if digits.length = count && digits.all Script.isHexDigit && decide code.isValidChar then
    some (t.drop count)
  else none

/-- The letters that stand for a class of characters after a backslash. -/
def classLetters : List Char := ['d', 'D', 's', 'S', 'w', 'W']

/-- The letters that stand for a control character after a backslash. -/
def controlLetters : List Char := ['a', 'f', 't', 'n', 'r', 'v']

/-- The letters that stand for an end of the text after a backslash. -/
def edgeLetters : List Char := ['A', 'z']

/-- A mark that a backslash makes an ordinary character. -/
def isEscapable (c : Char) : Bool :=
  c.toNat < 0x80 && !c.isAlphanum && c ≠ '<' && c ≠ '>' && 0x20 ≤ c.toNat && c.toNat ≠ 0x7F

/-- The general categories that one letter names. -/
def categoryLetters : List Char := ['L', 'M', 'N', 'S', 'P', 'Z', 'C', 'l', 'm', 'n', 's', 'p', 'z', 'c']

/-- What follows an escape, after its backslash. Inside brackets no end of the text can be meant. -/
def afterEscape (inClass : Bool) : Text → Option Text
  | [] => none
  | c :: rest =>
      if isEscapable c || classLetters.contains c || controlLetters.contains c then some rest
      else if edgeLetters.contains c then if inClass then none else some rest
      else if c = 'x' then afterCode 2 rest
      else if c = 'u' then afterCode 4 rest
      else if c = 'U' then afterCode 8 rest
      else if c = 'p' || c = 'P' then
        match rest with
        | letter :: others => if categoryLetters.contains letter then some others else none
        | [] => none
      else none

/-- What follows a class, after the bracket that opens it. `first` tells that nothing of it was read,
`low` is the character before, which may begin a range. `fuel` bounds the number of steps. -/
def afterClass : Nat → Bool → Option Char → Text → Option Text
  | 0, _, _, _ => none
  | _ + 1, _, _, [] => none
  | fuel + 1, first, low, c :: rest =>
      if c = ']' && !first then some rest
      else if c = '[' then
        let body := if rest.head? = some '^' then rest.drop 1 else rest
        (afterClass fuel true none body).bind (afterClass fuel false none)
      else if c = '\\' then (afterEscape true rest).bind (afterClass fuel false none)
      else
        match low, c, rest with
        | some l, '-', high :: others =>
            if high = ']' || high = '-' || high = '[' || high = '\\' then
              afterClass fuel false none rest
            else if l ≤ high then afterClass fuel false none others
            else none
        | _, _, _ => afterClass fuel false (some c) rest

def flagLetters : List Char := ['i', 'm', 's', 'U', 'u', 'x', 'R']

/-- What follows the flags of a group. Each stands once, and something follows the minus. -/
def afterFlags (seen : List Char) : Text → Option Text
  | [] => none
  | c :: rest =>
      if c = ')' || c = ':' then if seen.head? = some '-' then none else some (c :: rest)
      else if (c = '-' || flagLetters.contains c) && !seen.contains c then afterFlags (c :: seen) rest
      else none

/-- A character that the name of a group begins with. -/
def isNameHead (c : Char) : Bool := c.isAlpha || c = '_'

/-- A character that the name of a group goes on with. -/
def isNameTail (c : Char) : Bool := c.isAlphanum || c = '_' || c = '.' || c = '[' || c = ']'

/-- What follows the name of a group and its closing bracket. -/
def afterName (t : Text) : Option Text :=
  match t with
  | c :: rest =>
      if isNameHead c then
        match rest.dropWhile isNameTail with
        | '>' :: others => some others
        | _ => none
      else none
  | [] => none

/-- What a group holds, after the parenthesis that opens it: its body, or what follows flags that stand
alone. -/
inductive GroupHead where
  | body (t : Text)
  | flagsOnly (rest : Text)

/-- The head of a group, after the parenthesis that opens it. -/
def groupHead? : Text → Option GroupHead
  | '?' :: 'P' :: '<' :: rest => (afterName rest).map .body
  | '?' :: '<' :: rest => (afterName rest).map .body
  | '?' :: ')' :: _ => none
  | '?' :: rest =>
      match afterFlags [] rest with
      | some (':' :: others) => some (.body others)
      | some (_ :: others) => some (.flagsOnly others)
      | _ => none
  | rest => some (.body rest)

/-- What follows a sequence, up to the parenthesis that ends it. `repeatable` tells that something
stands in front that may be repeated; `fuel` bounds the number of steps. -/
def afterSequence : Nat → Bool → Text → Option Text
  | 0, _, _ => none
  | _ + 1, _, [] => some []
  | fuel + 1, repeatable, c :: rest =>
      if c = ')' then some (c :: rest)
      else if c = '|' then afterSequence fuel false rest
      else if c = '*' || c = '+' || c = '?' then
        if repeatable then afterSequence fuel true rest else none
      else if c = '\x7b' then none
      else if c = '[' then
        let body := if rest.head? = some '^' then rest.drop 1 else rest
        (afterClass fuel true none body).bind (afterSequence fuel true)
      else if c = '\\' then (afterEscape false rest).bind (afterSequence fuel true)
      else if c = '(' then
        match groupHead? rest with
        | some (.body body) =>
            match afterSequence fuel false body with
            | some (')' :: others) => afterSequence fuel true others
            | _ => none
        | some (.flagsOnly others) => afterSequence fuel false others
        | none => none
      else afterSequence fuel true rest

/-- The text is a regular expression. -/
def isValid (t : Text) : Bool := afterSequence (2 * t.length + 2) false t = some []

end HandlerGuard.ValuePattern

import HandlerGuard.Json.Printer
import HandlerGuard.Toml.Quoted

/-!
Printing of TOML documents.

The plain values of a table come first, then its tables, each under a header after an empty line. A
list of two items or more has a line for each of them. A string is written in the first of these forms
that needs no escapes but for tabs: quotes, apostrophes, tripled quotes, tripled apostrophes; otherwise
in quotes with escapes, tripled if it has line breaks.
-/
namespace HandlerGuard.Toml

/-- The longest run of a character, after a run of `run` of them and one of `best` before. -/
def longestRun (c : Char) (run best : Nat) : Text → Nat
  | [] => best
  | x :: rest =>
      if x = c then longestRun c (run + 1) (max best (run + 1)) rest else longestRun c 0 best rest

/-- The text has at most so many of a character one after the other. -/
def runsAtMost (c : Char) (count : Nat) (t : Text) : Bool := longestRun c 0 0 t ≤ count

/-- A control character other than the tab and the line feed. -/
def isControl (c : Char) : Bool :=
  (c.toNat < 0x20 && c ≠ '\t' && c ≠ '\n') || c.toNat = 0x7F

/-- The hexadecimal digits, in upper case, of a number below 256, with two zeros in front. -/
def fourHexDigits (n : Nat) : Text :=
  ['0', '0', (Json.hexDigit (n / 16)).toUpper, (Json.hexDigit (n % 16)).toUpper]

/-- A character other than a quote inside quotes. Line feeds are kept where the string may have several
lines. -/
def escape (lines : Bool) (c : Char) : Text :=
  if c = '\x08' then ['\\', 'b']
  else if c = '\t' then ['\\', 't']
  else if c = '\n' then if lines then ['\n'] else ['\\', 'n']
  else if c = '\x0c' then ['\\', 'f']
  else if c = '\r' then ['\\', 'r']
  else if c = '\\' then ['\\', '\\']
  else if isControl c then '\\' :: 'u' :: fourHexDigits c.toNat
  else [c]

/-- The text inside quotes. No more than `allowed` quotes stand together, and `quotes` stand just
before. -/
def escapeText (allowed : Nat) (lines : Bool) (quotes : Nat) : Text → Text
  | [] => []
  | c :: rest =>
      if c = '"' then
        if quotes < allowed then '"' :: escapeText allowed lines (quotes + 1) rest
        else '\\' :: '"' :: escapeText allowed lines 0 rest
      else escape lines c ++ escapeText allowed lines 0 rest

/-- A string of one line in quotes. -/
def printBasic (t : Text) : Text := '"' :: escapeText 0 false 0 t ++ ['"']

/-- A string of one line in apostrophes. -/
def printLiteral (t : Text) : Text := '\'' :: t ++ ['\'']

/-- What stands after the opening mark of a string over several lines: a line break, if the string has
one. -/
def openingBreak (t : Text) : Text := if t.contains '\n' then ['\n'] else []

/-- A string over several lines in quotes. -/
def printBasicLines (t : Text) : Text :=
  ['"', '"', '"'] ++ openingBreak t ++ escapeText 2 true 0 t ++ ['"', '"', '"']

/-- A string over several lines in apostrophes. -/
def printLiteralLines (t : Text) : Text :=
  ['\'', '\'', '\''] ++ openingBreak t ++ t ++ ['\'', '\'', '\'']

def printString (t : Text) : Text :=
  let lines := t.contains '\n'
  let control := t.any isControl
  let slash := t.contains '\\'
  if !control && !slash && !t.contains '"' && !lines then printBasic t
  else if !control && !t.contains '\'' && !lines then printLiteral t
  else if !control && !slash && runsAtMost '"' 2 t then printBasicLines t
  else if !control && runsAtMost '\'' 2 t then printLiteralLines t
  else if lines then printBasicLines t
  else printBasic t

/-- A key, in quotes where it needs them. -/
def printKey (key : Text) : Text :=
  if !key.isEmpty && key.all isBareKeyChar then key else printString key

mutual

def printValue : Value → Text
  | .null => printString []
  | .bool b => if b then "true".toList else "false".toList
  | .natural n => Text.ofNat n
  | .integer n => Json.signed n
  | .float x => x.toText
  | .text t => printString t
  | .character c => printString [c]
  | .list [] => "[]".toList
  | .list [item] => ['['] ++ printValue item ++ [']']
  | .list items => "[\n".toList ++ printItems items ++ [']']
  | .table entries => "\x7b ".toList ++ printFields entries ++ ['\x7d']

def printItems : List Value → Text
  | [] => []
  | item :: rest => "    ".toList ++ printValue item ++ ",\n".toList ++ printItems rest

/-- The entries of a table in braces. -/
def printFields : List (Text × Value) → Text
  | [] => []
  | [(key, value)] => printKey key ++ " = ".toList ++ printValue value ++ [' ']
  | (key, value) :: rest =>
      printKey key ++ " = ".toList ++ printValue value ++ ", ".toList ++ printFields rest

end

def printEntry (key : Text) (value : Value) : Text :=
  printKey key ++ " = ".toList ++ printValue value ++ ['\n']

/-- The lines of the entries that are not tables. -/
def printPlain : List (Text × Value) → Text
  | [] => []
  | (_, .table _) :: rest => printPlain rest
  | (key, value) :: rest => printEntry key value ++ printPlain rest

def printHeader (path : List Text) : Text :=
  ['['] ++ Text.join ['.'] (path.map printKey) ++ "]\n".toList

/-- The tables among the entries of the table under a path, each after an empty line. -/
def printTables (path : List Text) : List (Text × Value) → Text
  | [] => []
  | (key, .table inner) :: rest =>
      ['\n'] ++ printHeader (path ++ [key]) ++ printPlain inner ++ printTables (path ++ [key]) inner ++
        printTables path rest
  | (_, _) :: rest => printTables path rest

def print : Value → Text
  | .table entries => printPlain entries ++ printTables [] entries
  | value => printValue value

end HandlerGuard.Toml

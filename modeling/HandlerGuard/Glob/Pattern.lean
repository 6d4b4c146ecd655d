import HandlerGuard.Text.Basic

/-!
Glob patterns.

`?` stands for one byte, `*` for any number of them, and `**` as a whole component for any number of
components. A class in brackets stands for one of its characters, or none of them after `!` or `^`,
alternatives stand in braces, and a backslash takes the next character literally.
-/
namespace HandlerGuard.Glob

/-- A part of a pattern. -/
inductive Part where
  | literal (c : Char)
  /-- One byte. -/
  | any
  /-- Any number of bytes. -/
  | star
  /-- Any number of components in front. -/
  | leadingComponents
  /-- Any number of components at the end. -/
  | trailingComponents
  /-- Any number of components in between. -/
  | innerComponents
  /-- One of the characters in the ranges, or none of them. -/
  | oneOf (negated : Bool) (ranges : List (Char × Char))
  /-- One of several patterns. -/
  | alternatives (branches : List (List Part))
deriving Repr, Inhabited

/-- What is wrong with a pattern. -/
inductive Fault where
  | unclosedClass
  | invalidRange (low high : Char)
  | unopenedGroup
  | unclosedGroup
  | danglingEscape
  /-- Groups stand too deep in one another: the number of the expression among those that are compiled
  together, or the expression itself if it is compiled alone. -/
  | tooDeep (number : Nat) (alone : Option Text)
deriving DecidableEq, Repr

namespace Fault

def message : Fault → Text
  | unclosedClass => "unclosed character class; missing ']'".toList
  | invalidRange low high =>
      "invalid range; '".toList ++ [low] ++ "' > '".toList ++ [high] ++ ['\'']
  | unopenedGroup =>
      "unopened alternate group; missing '\x7b' (maybe escape '\x7d' with '[\x7d]'?)".toList
  | unclosedGroup =>
      "unclosed alternate group; missing '\x7d' (maybe escape '\x7b' with '[\x7b]'?)".toList
  | danglingEscape => "dangling '\\'".toList
  | tooDeep number _ => "error parsing pattern ".toList ++ Text.ofNat number

end Fault

/-- A group of alternatives that is still open: its finished branches, the last first, and the parts
that stand before it, the last first. -/
structure Group where
  finished : List (List Part)
  before : List Part

/-- The state of the reading: the parts of the current branch, the last first, and the open groups,
the innermost first. -/
structure Reading where
  parts : List Part
  groups : List Group

namespace Reading

def push (r : Reading) (part : Part) : Reading := { r with parts := part :: r.parts }

/-- The number of branches being read, the whole pattern included. -/
def branchCount (r : Reading) : Nat :=
  r.groups.foldl (fun n group => n + group.finished.length + 1) 1

def openGroup (r : Reading) : Reading := ⟨[], ⟨[], r.parts⟩ :: r.groups⟩

/-- Ends a branch; outside groups a comma stands for itself. -/
def comma (r : Reading) : Reading :=
  match r.groups with
  | [] => r.push (.literal ',')
  | group :: others => ⟨[], ⟨r.parts.reverse :: group.finished, group.before⟩ :: others⟩

def closeGroup (r : Reading) : Except Fault Reading :=
  match r.groups with
  | [] => .error .unopenedGroup
  | group :: others =>
      .ok ⟨.alternatives (r.parts.reverse :: group.finished).reverse :: group.before, others⟩

/-- Takes the separator before `**` together with it. -/
def components (r : Reading) (last : Bool) : Reading :=
  match r.parts with
  | .leadingComponents :: _ => r
  | .trailingComponents :: _ => r
  | _ :: before => { r with parts := (if last then .trailingComponents else .innerComponents) :: before }
  | [] => r

/-- The reading after `**`, with the character before it and what follows it; then the last character
read and what remains. -/
def doubleStar (r : Reading) (before : Option Char) (rest : Text) : Reading × Char × Text :=
  let plain := ((r.push .star).push .star, '*', rest)
  if r.parts.isEmpty then
    match rest with
    | [] => (r.push .leadingComponents, '*', [])
    | '/' :: others => (r.push .leadingComponents, '/', others)
    | _ => plain
  else if before ≠ some '/' ∧ (r.branchCount ≤ 1 ∨ (before ≠ some ',' ∧ before ≠ some '\x7b')) then plain
  else
    match rest with
    | [] => (r.components true, '*', [])
    | '/' :: others => (r.components false, '/', others)
    | c :: _ =>
        if (c = ',' ∨ c = '\x7d') ∧ 2 ≤ r.branchCount then (r.components true, '*', rest) else plain

end Reading

/-- A class after its bracket and its negation: its ranges, the last first, and what follows. `first`
tells that no character precedes, `inRange` that a range waits for its end. -/
def readClass (ranges : List (Char × Char)) (first inRange : Bool) :
    Text → Except Fault (List (Char × Char) × Text)
  | [] => .error .unclosedClass
  | c :: rest =>
      if c = ']' ∧ !first then
        .ok ((if inRange then ('-', '-') :: ranges else ranges), rest)
      else if c = '-' ∧ !first ∧ !inRange then readClass ranges false true rest
      else if inRange then
        match ranges with
        | (low, _) :: others =>
            if c < low then .error (.invalidRange low c)
            else readClass ((low, c) :: others) false false rest
        | [] => readClass [(c, c)] false false rest
      else readClass ((c, c) :: ranges) false false rest

/-- The parts of a pattern from here on. `before` is the character before; `fuel` bounds the number of
steps. -/
def readParts : Nat → Reading → Option Char → Text → Except Fault Reading
  | 0, r, _, _ => .ok r
  | _ + 1, r, _, [] => .ok r
  | fuel + 1, r, before, c :: rest =>
      if c = '?' then readParts fuel (r.push .any) (some c) rest
      else if c = '*' then
        match rest with
        | '*' :: others =>
            let (r, last, others) := r.doubleStar before others
            readParts fuel r (some last) others
        | _ => readParts fuel (r.push .star) (some c) rest
      else if c = '[' then
        let (negated, body) :=
          match rest with
          | '!' :: others => (true, others)
          | '^' :: others => (true, others)
          | _ => (false, rest)
        match readClass [] true false body with
        | .ok (ranges, others) =>
            readParts fuel (r.push (.oneOf negated ranges.reverse)) (some ']') others
        | .error fault => .error fault
      else if c = '\x7b' then readParts fuel r.openGroup (some c) rest
      else if c = '\x7d' then
        match r.closeGroup with
        | .ok r => readParts fuel r (some c) rest
        | .error fault => .error fault
      else if c = ',' then readParts fuel r.comma (some c) rest
      else if c = '\\' then
        match rest with
        | [] => .error .danglingEscape
        | escaped :: others => readParts fuel (r.push (.literal escaped)) (some escaped) others
      else readParts fuel (r.push (.literal c)) (some c) rest

def parse (pattern : Text) : Except Fault (List Part) :=
  match readParts (pattern.length + 1) ⟨[], []⟩ none pattern with
  | .ok r => if r.groups.isEmpty then .ok r.parts.reverse else .error .unclosedGroup
  | .error fault => .error fault

/-- What the message for a bad pattern quotes: the pattern, or the expression that it stands for. -/
def Fault.quotation? (pattern : Text) : Fault → Option Text
  | tooDeep _ alone => alone
  | _ => some pattern

def errorMessage (pattern : Text) (fault : Fault) : Text :=
  match fault.quotation? pattern with
  | some quotation => "error parsing glob '".toList ++ quotation ++ "': ".toList ++ fault.message
  | none => fault.message

end HandlerGuard.Glob

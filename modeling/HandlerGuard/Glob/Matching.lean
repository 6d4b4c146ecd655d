import HandlerGuard.Glob.Expression

namespace HandlerGuard

namespace Glob

abbrev Bytes := List UInt8

/-- The separator of components. -/
def slash : UInt8 := 0x2F

/-- Some end of the bytes, the whole included, satisfies `k`. -/
def anyEnd (k : Bytes → Bool) : Bytes → Bool
  | [] => k []
  | b :: rest => k (b :: rest) || anyEnd k rest

/-- What follows some separator satisfies `k`. -/
def anyComponent (k : Bytes → Bool) : Bytes → Bool
  | [] => false
  | b :: rest => (b == slash && k rest) || anyComponent k rest

/-- The bytes begin with the given ones, and the rest satisfies `k`. -/
def afterBytes (k : Bytes → Bool) : Bytes → Bytes → Bool
  | [], bytes => k bytes
  | b :: expected, c :: rest => b == c && afterBytes k expected rest
  | _ :: _, [] => false

/-- The byte ranges that a range of characters stands for: between the last byte of the first character
and the first byte of the last one, and the other bytes alone. -/
def byteRanges (range : Char × Char) : List (UInt8 × UInt8) :=
  let low := String.utf8EncodeChar range.1
  let high := String.utf8EncodeChar range.2
  if range.1 = range.2 then low.map fun b => (b, b)
  else
    match low.getLast?, high with
    | some l, h :: others => low.dropLast.map (fun b => (b, b)) ++ (l, h) :: others.map fun b => (b, b)
    | _, _ => []

def inRanges (ranges : List (Char × Char)) (b : UInt8) : Bool :=
  (ranges.flatMap byteRanges).any fun r => r.1 ≤ b && b ≤ r.2

mutual

/-- A part matches the front of the bytes, and the rest satisfies `k`. -/
def matchPart : Part → (Bytes → Bool) → Bytes → Bool
  | .literal c, k, bytes => afterBytes k (String.utf8EncodeChar c) bytes
  | .any, k, bytes =>
      match bytes with
      | [] => false
      | _ :: rest => k rest
  | .star, k, bytes => anyEnd k bytes
  | .leadingComponents, k, bytes => k bytes || anyComponent k bytes
  | .trailingComponents, k, bytes =>
      match bytes with
      | [] => false
      | b :: rest => b == slash && anyEnd k rest
  | .innerComponents, k, bytes =>
      match bytes with
      | [] => false
      | b :: rest => b == slash && (k rest || anyComponent k rest)
  | .oneOf negated ranges, k, bytes =>
      match bytes with
      | [] => false
      | b :: rest => (inRanges ranges b != negated) && k rest
  | .alternatives branches, k, bytes =>
      if areVoidBranches branches then k bytes else matchBranches branches k bytes

/-- Parts match the front of the bytes one after the other, and the rest satisfies `k`. -/
def matchParts : List Part → (Bytes → Bool) → Bytes → Bool
  | [], k, bytes => k bytes
  | part :: rest, k, bytes => matchPart part (matchParts rest k) bytes

/-- A branch that stands for something matches the front of the bytes, and the rest satisfies `k`. -/
def matchBranches : List (List Part) → (Bytes → Bool) → Bytes → Bool
  | [], _, _ => false
  | branch :: rest, k, bytes =>
      (!areVoid branch && matchParts branch k bytes) || matchBranches rest k bytes

end

def literal? (parts : List Part) : Option Text :=
  parts.mapM fun part =>
    match part with
    | .literal c => some c
    | _ => none

/-- How a pattern is compared with a path. -/
inductive Strategy where
  /-- By the bytes of the path. -/
  | path
  /-- By the name of the last component. -/
  | name
  /-- By the extension of that name, and then as an expression. -/
  | extension
  /-- As an expression. -/
  | expression
deriving DecidableEq, Repr

/-- The pattern is a name without separators in any directory. -/
def isNameOnly : List Part → Bool
  | .leadingComponents :: rest =>
      match literal? rest with
      | some name => !name.isEmpty && !name.contains '/'
      | none => false
  | _ => false

def isExtensionOnly (parts : List Part) : Bool :=
  match parts with
  | .star :: .literal '.' :: rest =>
      match literal? rest with
      | some name => !name.contains '.' && !name.contains '/'
      | none => false
  | _ => false

/-- The pattern is a text, perhaps with anything after it. -/
def isFront (parts : List Part) : Bool :=
  match parts.reverse with
  | .star :: rest => !rest.isEmpty && (literal? rest).isSome
  | .trailingComponents :: rest => (literal? rest).isSome
  | rest => !rest.isEmpty && (literal? rest).isSome

/-- The pattern is anything and a text after it. -/
def isEnd (parts : List Part) : Bool :=
  let body :=
    match parts with
    | .leadingComponents :: rest => rest
    | _ => parts
  let text :=
    match body with
    | .star :: rest => rest
    | _ => body
  !text.isEmpty && (literal? text).isSome

/-- The pattern ends with an extension. -/
def hasExtension (parts : List Part) : Bool :=
  let isPlain (part : Part) : Bool :=
    match part with
    | .literal c => c ≠ '/' && c ≠ '.'
    | _ => false
  match parts.reverse.dropWhile isPlain with
  | .literal '.' :: _ => true
  | _ => false

/-- How a pattern is compared with a path. -/
def strategy (parts : List Part) : Strategy :=
  let body :=
    match parts with
    | .leadingComponents :: rest => rest
    | _ => parts
  if isNameOnly parts then .name
  else if !parts.isEmpty && (literal? parts).isSome then .path
  else if isExtensionOnly body then .name
  else if isFront parts || isEnd parts then .path
  else if hasExtension parts then .extension
  else .expression

/-- The last component of the path is `..`, which counts as no name. -/
def isNameless (path : Text) : Bool := (path.splitAll '/').getLast? = some ['.', '.']

/-- The pattern matches the whole path. One that asks for a name or an extension needs a path with a
name. -/
def Matches (parts : List Part) (path : Text) : Bool :=
  (matchAll parts || matchParts parts List.isEmpty path.toBytes) &&
    !(isNameless path && (strategy parts = .name || strategy parts = .extension))

end Glob

/-- A set of patterns: a path belongs to it if one of them matches. -/
structure PatternSet where
  patterns : List (List Glob.Part)
deriving Repr

namespace PatternSet

/-- The set of the given patterns, or the first one that cannot be read with its fault. -/
def parse : List Text → Except (Text × Glob.Fault) PatternSet
  | [] => .ok ⟨[]⟩
  | pattern :: rest =>
      match Glob.parse pattern with
      | .ok parts => (parse rest).map fun set => ⟨parts :: set.patterns⟩
      | .error fault => .error (pattern, fault)

/-- Why the patterns cannot be compiled. Those with an extension are compiled alone, before those that
are compiled together. -/
def compilationFault? (set : PatternSet) : Option Glob.Fault :=
  let withStrategy (s : Glob.Strategy) := set.patterns.filter fun parts => Glob.strategy parts = s
  match (withStrategy .extension).find? Glob.isTooDeep with
  | some parts => some (.tooDeep 0 (some (Glob.expression parts)))
  | none =>
      ((withStrategy .expression).findIdx? Glob.isTooDeep).map fun number => .tooDeep number none

/-- The set of the given patterns, or the bad ones with their fault. -/
def ofPatterns (patterns : List Text) : Except (Text × Glob.Fault) PatternSet := do
  let set ← parse patterns
  match set.compilationFault? with
  | some fault => .error (Text.join ", ".toList patterns, fault)
  | none => .ok set

def contains (set : PatternSet) (path : Text) : Bool := set.patterns.any fun parts => Glob.Matches parts path

end PatternSet

end HandlerGuard

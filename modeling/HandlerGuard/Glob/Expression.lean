import HandlerGuard.Glob.Pattern
import HandlerGuard.Text.Utf8

namespace HandlerGuard.Glob

mutual

/-- A part that stands for nothing at all. -/
def isVoid : Part → Bool
  | .alternatives branches => areVoidBranches branches
  | _ => false

/-- Parts that stand for nothing at all. -/
def areVoid : List Part → Bool
  | [] => true
  | part :: rest => isVoid part && areVoid rest

/-- Branches of which each stands for nothing at all. -/
def areVoidBranches : List (List Part) → Bool
  | [] => true
  | branch :: rest => areVoid branch && areVoidBranches rest

end

/-- The characters with a meaning of their own in an expression. -/
def isOperator (c : Char) : Bool := "\\.+*?()|[]\x7b\x7d^$#&-~".toList.contains c

def byteExpression (b : UInt8) : Text :=
  if b < 0x80 then
    let c := Char.ofNat b.toNat
    if isOperator c then ['\\', c] else [c]
  else "\\x".toList ++ Nat.toDigits 16 b.toNat

def charExpression (c : Char) : Text := (String.utf8EncodeChar c).flatMap byteExpression

def rangeExpression (range : Char × Char) : Text :=
  if range.1 = range.2 then charExpression range.1
  else charExpression range.1 ++ ['-'] ++ charExpression range.2

mutual

def partExpression : Part → Text
  | .literal c => charExpression c
  | .any => ['.']
  | .star => ".*".toList
  | .leadingComponents => "(?:/?|.*/)".toList
  | .trailingComponents => "/.*".toList
  | .innerComponents => "(?:/|/.*/)".toList
  | .oneOf negated ranges =>
      ['['] ++ (if negated then ['^'] else []) ++ ranges.flatMap rangeExpression ++ [']']
  | .alternatives branches =>
      if areVoidBranches branches then []
      else "(?:".toList ++ Text.join ['|'] (branchExpressions branches) ++ [')']

def sequenceExpression : List Part → Text
  | [] => []
  | part :: rest => partExpression part ++ sequenceExpression rest

/-- The expressions of the branches that stand for something. -/
def branchExpressions : List (List Part) → List Text
  | [] => []
  | branch :: rest =>
      (if areVoid branch then [] else [sequenceExpression branch]) ++ branchExpressions rest

end

/-- A pattern that is only `**` or `**/`. -/
def matchAll : List Part → Bool
  | [.leadingComponents] => true
  | _ => false

def expression (parts : List Part) : Text :=
  "(?-u)^".toList ++ (if matchAll parts then ".*".toList else sequenceExpression parts) ++ ['$']

/-- How many pieces the expression of a part has at its top. -/
def pieceCount : Part → Nat
  | .literal c => (String.utf8EncodeChar c).length
  | .trailingComponents => 2
  | .alternatives branches => if areVoidBranches branches then 0 else 1
  | _ => 1

/-- How many bytes and ranges of bytes a range of characters is written with. -/
def rangePieces (range : Char × Char) : Nat :=
  let low := (String.utf8EncodeChar range.1).length
  if range.1 = range.2 then low else low + (String.utf8EncodeChar range.2).length - 1

mutual

/-- How deep the expression of a part nests. -/
def partDepth : Part → Nat
  | .literal _ => 0
  | .any => 0
  | .star => 1
  | .leadingComponents => 4
  | .trailingComponents => 1
  | .innerComponents => 4
  | .oneOf _ ranges => if 1 < (ranges.map rangePieces).sum then 2 else 1
  | .alternatives branches =>
      if areVoidBranches branches then 0
      else 1 + (if 1 < (branches.filter (!areVoid ·)).length then 1 else 0) + branchDepth branches

/-- How deep the expressions of parts nest. -/
def partsDepth : List Part → Nat
  | [] => 0
  | part :: rest => max (partDepth part) (partsDepth rest)

/-- How deep the expressions of branches nest. -/
def branchDepth : List (List Part) → Nat
  | [] => 0
  | branch :: rest =>
      max ((if 1 < (branch.map pieceCount).sum then 1 else 0) + partsDepth branch) (branchDepth rest)

end

/-- How deep expressions may nest. -/
def depthLimit : Nat := 250

def isTooDeep (parts : List Part) : Bool := depthLimit < 1 + partsDepth parts

end HandlerGuard.Glob

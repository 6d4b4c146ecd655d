import HandlerGuard.Text.Basic

namespace HandlerGuard.Text

/-- An ASCII letter, a digit, `_` or `$`. -/
def isIdentifierPart (c : Char) : Bool := c.isAlphanum || c = '_' || c = '$'

/-- A character that a plain identifier may begin with. -/
def isIdentifierStart (c : Char) : Bool := c.isAlpha || c = '_' || c = '$'

def isIdentifier : Text → Bool
  | [] => false
  | c :: rest => isIdentifierStart c && rest.all isIdentifierPart

/-- The leftmost occurrences of `needle` that do not overlap, each as what stands before it and what
follows it. `fuel` bounds the number of steps and `seen` holds the reversed part already passed. -/
def occurrencesFrom (needle : Text) : Nat → Text → Text → List (Text × Text)
  | 0, _, _ => []
  | fuel + 1, seen, t =>
      if needle.isPrefixOf t then
        let after := t.drop needle.length
        (seen.reverse, after) ::
          (if needle.isEmpty then
            match t with
            | [] => []
            | c :: rest => occurrencesFrom needle fuel (c :: seen) rest
          else occurrencesFrom needle fuel (needle.reverse ++ seen) after)
      else
        match t with
        | [] => []
        | c :: rest => occurrencesFrom needle fuel (c :: seen) rest

/-- The leftmost occurrences of `needle` that do not overlap, each as what stands before it and what
follows it. -/
def occurrences (t needle : Text) : List (Text × Text) :=
  occurrencesFrom needle (t.length + 1) [] t

/-- Whether one of the occurrences of `name` has no identifier character on either side. -/
def includesIdentifier (t name : Text) : Bool :=
  (occurrences t name).any fun (before, after) =>
    !(before.getLast?.any isIdentifierPart) && !(after.head?.any isIdentifierPart)

end HandlerGuard.Text

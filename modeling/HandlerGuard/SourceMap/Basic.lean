import HandlerGuard.Json.Quoted
import HandlerGuard.SourceMap.Mapping
import HandlerGuard.SourceMap.Vlq

/-!
Source maps, version 3, of one source whose text is part of the map.

Mappings are written line by line of the generated text. Each is four numbers, the generated column,
the source index, the source line and the source column, given as differences to the mapping before;
the generated column starts anew on each line.
-/
namespace HandlerGuard

/-- A source map with a single source. -/
structure SourceMap where
  source : Text
  content : Text
  mappings : List Mapping
deriving DecidableEq, Repr

namespace SourceMap

/-- The four numbers of a mapping as differences to the column and the source position before it. -/
def writeMapping (column : Nat) (source : Position) (m : Mapping) : Text :=
  Vlq.encode ((m.generated.column : Int) - column) ++ Vlq.encode 0 ++
    Vlq.encode ((m.source.line : Int) - source.line) ++
    Vlq.encode ((m.source.column : Int) - source.column)

/-- The mappings from generated line `line` on. `first` tells that none precedes on this line, `column`
and `source` are the positions of the mapping before. -/
def writeMappings (line : Nat) (first : Bool) (column : Nat) (source : Position) :
    List Mapping → Text
  | [] => []
  | m :: rest =>
      if line < m.generated.line then
        List.replicate (m.generated.line - line) ';' ++ writeMapping 0 source m ++
          writeMappings m.generated.line false m.generated.column m.source rest
      else
        (if first then [] else [',']) ++ writeMapping column source m ++
          writeMappings line false m.generated.column m.source rest

def toJson (map : SourceMap) : Text :=
  "\x7b\"version\":3,\"names\":[],\"sources\":[".toList ++ Json.quote map.source ++
    "],\"sourcesContent\":[".toList ++ Json.quote map.content ++
    "],\"mappings\":\"".toList ++ writeMappings 0 true 0 Position.origin map.mappings ++
    "\"\x7d".toList

end SourceMap

end HandlerGuard

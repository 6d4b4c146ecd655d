import HandlerGuard.Settings.Layer
import HandlerGuard.Target.Basic
import HandlerGuard.Text.Quoted

/-!
The target that settings describe.

A structure is a table, or a list of its fields in their order. Fields with a default may be missing.
Keys that are not known are passed over. Of several faults the first in the order of the keys is
reported.
-/
namespace HandlerGuard

/-- What a setting has to be. -/
inductive Expectation where
  | text
  | boolean
  | list
  | null
  | fallback
  | directive
  | mapOptions
  | target
  | shape
  /-- One of several names. -/
  | choice
deriving DecidableEq, Repr

/-- What is expected, in words. -/
def Expectation.describe : Expectation → Text
  | text => "a string".toList
  | boolean => "a boolean".toList
  | list => "a sequence".toList
  | null => "unit".toList
  | fallback => "struct FallbackSpec".toList
  | directive => "struct ImportDirective".toList
  | mapOptions => "struct SourceMapOptions".toList
  | target => "struct TargetSpec".toList
  | shape => "enum FallbackShape".toList
  | choice => "enum".toList

/-- What is wrong with a setting. -/
inductive DecodingFault where
  | wrongType (found : Setting) (expected : Expectation)
  /-- A list with too few or too many of the fields of a structure. -/
  | wrongLength (length : Nat) (expected : Expectation) (fields : Nat)
  | unknownShape (found : Text)
  | missing (field : Text)
deriving Repr

namespace DecodingFault

def describeValue : Value → Text
  | .null => "unit".toList
  | .bool b => if b then "bool true".toList else "bool false".toList
  | .natural n => "unsigned int `".toList ++ Text.ofNat n ++ ['\x60']
  | .integer n =>
      "signed int `".toList ++ (if n < 0 then ['-'] else []) ++ Text.ofNat n.natAbs ++ ['\x60']
  | .float x => "float `".toList ++ x.toText ++ ['\x60']
  | .text t => "string ".toList ++ t.quoted
  | .character c => "string ".toList ++ Text.quoted [c]
  | .list _ => "sequence".toList
  | .table _ => "map".toList

def describeSetting : Setting → Text
  | .leaf _ value => describeValue value
  | .table _ _ => "map".toList

def message : DecodingFault → Text
  | wrongType found expected =>
      "invalid type: found ".toList ++ describeSetting found ++ ", expected ".toList ++
        expected.describe
  | wrongLength length expected fields =>
      "invalid length ".toList ++ Text.ofNat length ++ ", expected ".toList ++ expected.describe ++
        " with ".toList ++ Text.ofNat fields ++ " element".toList ++
        (if fields = 1 then [] else ['s'])
  | unknownShape found =>
      "unknown variant: found `".toList ++ found ++
        "`, expected `one of `identifier`, `call`, `keyed-call``".toList
  | missing field => "missing field `".toList ++ field ++ ['\x60']

end DecodingFault

/-- A fault and where it was found. -/
structure DecodingError where
  fault : DecodingFault
  path : List Text
  layer : Layer
deriving Repr

def DecodingError.message (e : DecodingError) : Text :=
  e.fault.message ++
    (if e.path.isEmpty then [] else " for key ".toList ++ (e.layer.describePath e.path).quoted) ++
    " in ".toList ++ e.layer.describe

/-- Reads a setting at a path of keys. -/
abbrev Decoder (α : Type) := List Text → Setting → Except DecodingError α

namespace Decoder

def refuse {α : Type} (expected : Expectation) : Decoder α := fun path setting =>
  .error ⟨.wrongType setting expected, path, setting.layer⟩

def text : Decoder Text
  | _, .leaf _ (.text t) => .ok t
  | _, .leaf _ (.character c) => .ok [c]
  | path, setting => refuse .text path setting

/-- A truth value. -/
def boolean : Decoder Bool
  | _, .leaf _ (.bool b) => .ok b
  | path, setting => refuse .boolean path setting

def items {α : Type} (item : Decoder α) (path : List Text) (layer : Layer) :
    Nat → List Value → Except DecodingError (List α)
  | _, [] => .ok []
  | index, value :: rest => do
      let first ← item (path ++ [Text.ofNat index]) (Setting.ofValue layer value)
      let others ← items item path layer (index + 1) rest
      .ok (first :: others)

def list {α : Type} (item : Decoder α) : Decoder (List α)
  | path, .leaf layer (.list values) => items item path layer 0 values
  | path, setting => refuse .list path setting

def shapeNames : List (Text × FallbackShape) :=
  [("identifier".toList, .identifier), ("call".toList, .call), ("keyed-call".toList, .keyedCall)]

def shapeNamed (path : List Text) (layer : Layer) (name : Text) :
    Except DecodingError FallbackShape :=
  match shapeNames.lookup name with
  | some shape => .ok shape
  | none => .error ⟨.unknownShape name, path, layer⟩

/-- The entry of a table with the least key. -/
def leastNamed? {α : Type} : List (Text × α) → Option (Text × α)
  | [] => none
  | entry :: rest =>
      match leastNamed? rest with
      | some other => some (if other.1 < entry.1 then other else entry)
      | none => some entry

/-- A shape: its name, or a table with nothing under that name. Of several keys the least counts. -/
def shape : Decoder FallbackShape
  | path, .leaf layer (.text name) => shapeNamed path layer name
  | path, .table layer entries =>
      match leastNamed? entries with
      | none => refuse .choice path (.table layer entries)
      | some (name, content) => do
          let found ← shapeNamed (path ++ [name]) content.layer name
          match content with
          | .leaf _ .null => .ok found
          | other => refuse .null (path ++ [name]) other
  | path, setting => refuse .shape path setting

def field? {α : Type} (decoder : Decoder α) (path : List Text) (setting : Setting) (key : Text) :
    Except DecodingError (Option α) :=
  match setting.get? key with
  | some inner => some <$> decoder (path ++ [key]) inner
  | none => .ok none

def fieldD {α : Type} (decoder : Decoder α) (path : List Text) (setting : Setting) (key : Text)
    (default : α) : Except DecodingError α :=
  (·.getD default) <$> field? decoder path setting key

/-- A field that was found; its absence is reported otherwise. -/
def found {α : Type} (path : List Text) (setting : Setting) (key : Text) :
    Option α → Except DecodingError α
  | some value => .ok value
  | none => .error ⟨.missing key, path, setting.layer⟩

/-- The field of a structure in list form at an index, if it is there. -/
def item? {α : Type} (decoder : Decoder α) (path : List Text) (layer : Layer) (values : List Value)
    (index : Nat) : Except DecodingError (Option α) :=
  match values[index]? with
  | some value => some <$> decoder (path ++ [Text.ofNat index]) (Setting.ofValue layer value)
  | none => .ok none

/-- A field of a structure in list form, or its default. -/
def itemD {α : Type} (decoder : Decoder α) (path : List Text) (layer : Layer) (values : List Value)
    (index : Nat) (default : α) : Except DecodingError α :=
  (·.getD default) <$> item? decoder path layer values index

/-- A structure in list form has no more items than fields, where this is asked for. -/
def checkLength (exact : Bool) (path : List Text) (layer : Layer) (expected : Expectation)
    (fields : Nat) (values : List Value) : Except DecodingError Unit :=
  if exact && fields < values.length then
    .error ⟨.wrongLength values.length expected fields, path, layer⟩
  else .ok ()

/-- The field of a structure in list form that was found; a shorter list is reported otherwise. -/
def foundItem {α : Type} (path : List Text) (layer : Layer) (expected : Expectation) (fields : Nat)
    (index : Nat) : Option α → Except DecodingError α
  | some value => .ok value
  | none => .error ⟨.wrongLength index expected fields, path, layer⟩

def fallback (exact : Bool) : Decoder Fallback
  | path, .leaf layer (.list values) => do
      let symbol ← item? text path layer values 0
      let symbol ← foundItem path layer .fallback 2 0 symbol
      let shape ← itemD shape path layer values 1 .call
      checkLength exact path layer .fallback 2 values
      .ok ⟨symbol, shape⟩
  | path, .table layer entries => do
      let setting := Setting.table layer entries
      let shape ← fieldD shape path setting "shape".toList .call
      let symbol ← field? text path setting "symbol".toList
      let symbol ← found path setting "symbol".toList symbol
      .ok ⟨symbol, shape⟩
  | path, setting => refuse .fallback path setting

def directive (exact : Bool) : Decoder ImportDirective
  | path, .leaf layer (.list values) => do
      let statement ← item? text path layer values 0
      let statement ← foundItem path layer .directive 2 0 statement
      let marker ← item? text path layer values 1
      let marker ← foundItem path layer .directive 2 1 marker
      checkLength exact path layer .directive 2 values
      .ok ⟨statement, marker⟩
  | path, .table layer entries => do
      let setting := Setting.table layer entries
      let marker ← field? text path setting "marker".toList
      let statement ← field? text path setting "statement".toList
      let statement ← found path setting "statement".toList statement
      let marker ← found path setting "marker".toList marker
      .ok ⟨statement, marker⟩
  | path, setting => refuse .directive path setting

/-- Whether source maps hold every character. -/
def mapOptions (exact : Bool) : Decoder Bool
  | path, .leaf layer (.list values) => do
      let hires ← itemD boolean path layer values 0 true
      checkLength exact path layer .mapOptions 1 values
      .ok hires
  | path, .table layer entries =>
      fieldD boolean path (.table layer entries) "hires".toList true
  | path, setting => refuse .mapOptions path setting

/-- A target. `exact` asks that structures in list form have no more items than fields. -/
def target (exact : Bool) : Decoder Target
  | path, .leaf layer (.list values) => do
      let base := Target.standard
      let functionName ← itemD text path layer values 0 base.functionName
      let guard ← itemD text path layer values 1 base.guard
      let fallback ← itemD (fallback exact) path layer values 2 base.fallback
      let directive ← itemD (directive exact) path layer values 3 base.directive
      let included ← itemD (list text) path layer values 4 base.included
      let excluded ← itemD (list text) path layer values 5 base.excluded
      let markupExtensions ← itemD (list text) path layer values 6 base.markupExtensions
      let devBypass ← itemD boolean path layer values 7 base.devBypass
      let enabled ← itemD boolean path layer values 8 base.enabled
      let hires ← itemD (mapOptions exact) path layer values 9 base.hires
      checkLength exact path layer .target 10 values
      .ok
        { functionName, guard, fallback, directive, included, excluded, markupExtensions, devBypass,
          enabled, hires }
  | path, .table layer entries => do
      let base := Target.standard
      let setting := Setting.table layer entries
      let devBypass ← fieldD boolean path setting "devBypass".toList base.devBypass
      let enabled ← fieldD boolean path setting "enabled".toList base.enabled
      let excluded ← fieldD (list text) path setting "exclude".toList base.excluded
      let fallback ← fieldD (fallback exact) path setting "fallback".toList base.fallback
      let functionName ← fieldD text path setting "functionName".toList base.functionName
      let guard ← fieldD text path setting "guard".toList base.guard
      let directive ← fieldD (directive exact) path setting "import".toList base.directive
      let included ← fieldD (list text) path setting "include".toList base.included
      let markupExtensions ←
        fieldD (list text) path setting "markupExtensions".toList base.markupExtensions
      let hires ← fieldD (mapOptions exact) path setting "sourcemap".toList base.hires
      .ok
        { functionName, guard, fallback, directive, included, excluded, markupExtensions, devBypass,
          enabled, hires }
  | path, setting => refuse .target path setting

end Decoder

namespace FallbackShape

def label : FallbackShape → Text
  | identifier => "identifier".toList
  | call => "call".toList
  | keyedCall => "keyed-call".toList

def ofLabel? (name : Text) : Option FallbackShape := Decoder.shapeNames.lookup name

end FallbackShape

namespace Target

/-- The target as a value, with its fields in their order. -/
def toValue (target : Target) : Value :=
  .table
    [("functionName".toList, .text target.functionName),
      ("guard".toList, .text target.guard),
      ("fallback".toList,
        .table
          [("symbol".toList, .text target.fallback.symbol),
            ("shape".toList, .text target.fallback.shape.label)]),
      ("import".toList,
        .table
          [("statement".toList, .text target.directive.statement),
            ("marker".toList, .text target.directive.marker)]),
      ("include".toList, .list (target.included.map .text)),
      ("exclude".toList, .list (target.excluded.map .text)),
      ("markupExtensions".toList, .list (target.markupExtensions.map .text)),
      ("devBypass".toList, .bool target.devBypass),
      ("enabled".toList, .bool target.enabled),
      ("sourcemap".toList, .table [("hires".toList, .bool target.hires)])]

def ofValue? (value : Value) : Option Target :=
  (Decoder.target true [] (Setting.ofValue .defaults value)).toOption

end Target

end HandlerGuard

import HandlerGuard.Settings.Value

namespace HandlerGuard

/-- The format of a file with settings. -/
inductive FileFormat where
  | toml
  | json
deriving DecidableEq, Repr

/-- Where a setting comes from. -/
inductive Layer where
  | defaults
  | file (format : FileFormat) (path : Text)
  | environment
deriving DecidableEq, Repr

/-- What names of variables begin with. -/
def variablePrefix : Text := "PRERENDER_".toList

namespace Layer

def describe : Layer → Text
  | defaults => "defaults".toList
  | file .toml path => path ++ " TOML file".toList
  | file .json path => path ++ " JSON file".toList
  | environment => '\x60' :: variablePrefix ++ "` environment variable(s)".toList

def describePath (layer : Layer) (path : List Text) : Text :=
  match layer with
  | environment => (Text.join ['.'] path).map Char.toUpper
  | _ => Text.join ['.'] ("default".toList :: path)

end Layer

/-- A value or a table of settings, with the layer that it comes from. -/
inductive Setting where
  /-- A value that is not a table. -/
  | leaf (layer : Layer) (value : Value)
  | table (layer : Layer) (entries : List (Text × Setting))
deriving Repr

namespace Setting

def layer : Setting → Layer
  | leaf layer _ => layer
  | table layer _ => layer

mutual

def ofValue (layer : Layer) : Value → Setting
  | .table entries => table layer (ofEntries layer entries)
  | value => leaf layer value

def ofEntries (layer : Layer) : List (Text × Value) → List (Text × Setting)
  | [] => []
  | (key, value) :: rest => (key, ofValue layer value) :: ofEntries layer rest

end

def nest (layer : Layer) (path : List Text) (setting : Setting) : Setting :=
  path.foldr (fun key inner => table layer [(key, inner)]) setting

mutual

def merge : Setting → Setting → Setting
  | table _ below, table layer above =>
      table layer
        (mergeEntries below above ++
          above.filter fun entry => !(below.map Prod.fst).contains entry.1)
  | _, above => above

/-- The entries below, each under the entry of its key above. -/
def mergeEntries : List (Text × Setting) → List (Text × Setting) → List (Text × Setting)
  | [], _ => []
  | (key, setting) :: rest, above =>
      (match above.lookup key with
        | some upper => (key, merge setting upper)
        | none => (key, setting)) ::
        mergeEntries rest above

end

def get? (setting : Setting) (key : Text) : Option Setting :=
  match setting with
  | table _ entries => entries.lookup key
  | leaf _ _ => none

/-- The setting under a path of keys. -/
def find? (setting : Setting) : List Text → Option Setting
  | [] => some setting
  | key :: path => (setting.get? key).bind (find? · path)

end Setting

end HandlerGuard

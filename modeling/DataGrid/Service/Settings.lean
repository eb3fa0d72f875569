-- SUMMARY: The settings of a process, from a file and the environment, and the grids it loads.
import DataGrid.Grid.Definition
import DataGrid.Json.Parser
import DataGrid.Service.KeyPath
import DataGrid.Text.Lowercase

/-!
# Settings

Every setting is a text with a default. A settings file gives values under the
names of the settings, and variables of the environment win over it. A number or
truth value given for a setting becomes its text.
-/

namespace DataGrid

structure Settings where
  bind : String
  version : String
  /-- Where documents are kept: in memory, or in the file of that path. -/
  persistence : String
  /-- The role under which the hosted grids can be called. -/
  service : String
  /-- The file of grid definitions. -/
  grids : String
  /-- A file of rows to start with. -/
  seed : Option String
  deriving DecidableEq

/-- Where documents are kept. -/
inductive Persistence where
  | inMemory
  | file (path : String)
  deriving DecidableEq

def Persistence.ofSetting (setting : String) : Persistence :=
  let path := Text.trim setting
  if path = "" ∨ path = "memory" ∨ path = ":memory:" then .inMemory else .file path

namespace Settings

def defaults : Settings where
  bind := "127.0.0.1:8080"
  version := "0.1.0"
  persistence := "memory"
  service := "grid"
  grids := "grids.json"
  seed := none

/-- A settings file, as it was looked for. -/
inductive Source where
  /-- No file was named, and there is none at the usual place. -/
  | absent
  /-- The named file does not exist. -/
  | missing
  | file (text : String)

/-- A value for a setting: a text, nothing, or something that has parts. -/
inductive Given where
  | text (text : String)
  | nothing
  | compound
  deriving DecidableEq

namespace Given

/-- The value that a file gives. -/
def ofJson : Json → Given
  | .null => .nothing
  | .bool true => .text "true"
  | .bool false => .text "false"
  | .num (.int i) => .text (toString i)
  | .num (.double d) => .text d.plainText
  | .str s => .text s
  | .arr _ | .obj _ => .compound

end Given

/-- Give a value to a setting or to a part of it. -/
def give (values : Keyed Given) (key : String) (value : Given) : Keyed Given :=
  let (name, whole) := KeyPath.target key
  Keyed.insert values name (if whole then value else .compound)

/-- The variables of the environment that are settings start so, whatever their case. -/
def variablePrefix : List Char := "querygrid__".toList

/-- Replace double underscores by points. -/
def pointed : List Char → List Char
  | '_' :: '_' :: rest => '.' :: pointed rest
  | c :: rest => c :: pointed rest
  | [] => []

/-- The setting that a variable of the environment gives. -/
def variableKey? (name : String) : Option String :=
  let lowered := Text.lowerChars name.toList
  if variablePrefix.isPrefixOf lowered then some (String.ofList (pointed (lowered.drop variablePrefix.length))) else none

/-- A text without the mark that may stand at the beginning of a file. -/
def withoutMark (text : String) : String :=
  match text.toList with
  | '\ufeff' :: rest => String.ofList rest
  | _ => text

/-- The values that a file gives; the file must be an object. -/
def fileValues? : Source → Option (Keyed Given)
  | .absent => some []
  | .missing => none
  | .file text =>
    match Json.parse? (withoutMark text) with
    | some (.obj members) => some (members.foldl (fun values (key, value) => give values key (.ofJson value)) [])
    | _ => none

/-- A text setting. -/
def text? (values : Keyed Given) (name default : String) : Option String :=
  match Keyed.get? values name with
  | none => some default
  | some (.text text) => some text
  | some _ => none

/-- A text setting that may be left out. -/
def optionalText? (values : Keyed Given) (name : String) : Option (Option String) :=
  match Keyed.get? values name with
  | none | some .nothing => some none
  | some (.text text) => some (some text)
  | some .compound => none

/-- The settings of a process; nothing if the file cannot be read or a value does not suit its setting. -/
def load? (source : Source) (environment : List (String × String)) : Option Settings := do
  let fromFile ← fileValues? source
  let values := environment.foldl (fun values (name, value) =>
    match variableKey? name with
    | some key => give values key (.text value)
    | none => values) fromFile
  let bind ← text? values "bind" defaults.bind
  let version ← text? values "version" defaults.version
  let persistence ← text? values "persistence" defaults.persistence
  let service ← text? values "service" defaults.service
  let grids ← text? values "grids" defaults.grids
  let seed ← optionalText? values "seed"
  return { bind, version, persistence, service, grids, seed }

end Settings

/-- Why grid definitions could not be loaded. -/
inductive LoadFault where
  /-- The file is not there, or does not hold grid definitions. -/
  | unreadable
  | invalid (fault : ConfigFault)

/-- Read and check the grid definitions in a file's text. Members may be written twice in the text. -/
def GridDefinition.load (text : Option String) : Except LoadFault (Keyed GridDefinition) :=
  match text.bind (Json.outlined? (.map GridDefinition.outline)) with
  | none => .error .unreadable
  | some document =>
    match decodeAll document with
    | .error _ => .error .unreadable
    | .ok grids => ((checkAll grids).map fun _ => grids).mapError .invalid

end DataGrid

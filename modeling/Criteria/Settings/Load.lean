import Criteria.Settings.Json
import Criteria.Settings.Variables
import Criteria.Toml.File

/-!
# Loading settings

A service is told its settings by three files and by the environment: a file for all services in
all environments, one for its environment, one for itself, and variables. Each overrides those
before it.

## Main definitions

* `Criteria.Settings.fileNames` — the files, in the order in which they are read.
* `Criteria.Settings.fileLayer?` — the layer of a file.
* `Criteria.Settings.load?` — the settings of a service.
-/

set_option autoImplicit false
set_option relaxedAutoImplicit false

namespace Criteria.Settings

/-- What a settings file can be written in. -/
inductive Format where
  /-- Sections with assignments. -/
  | toml
  /-- An object. -/
  | json
  deriving DecidableEq

/-- The layer that a text in a format is. A mark may stand before it. -/
def Format.read? (format : Format) (text : String) : Option Layer :=
  let text := String.ofList (Toml.skipMark text.toList)
  match format with
  | .toml => Layer.ofToml? text
  | .json => Layer.ofJson? text

/-- The files that a service is told its settings by. -/
def fileNames (serviceName environment : String) : List String :=
  ["default.toml", environment ++ ".toml", serviceName ++ ".toml"]

/-- The file that there is for a name, with its format: the file with that name, or else one with a
further ending for its format. A file whose name is only an ending has no format and is passed
over. -/
def find? (files : String → Option String) (name : String) : Option (Format × String) :=
  match files name with
  | some text => if name = ".toml" then none else some (.toml, text)
  | none =>
    match files (name ++ ".toml") with
    | some text => some (.toml, text)
    | none => (files (name ++ ".json")).map fun text => (.json, text)

/-- The layer of a file; a file that is absent assigns nothing. -/
def fileLayer? (files : String → Option String) (name : String) : Option Layer :=
  match find? files name with
  | none => some []
  | some (format, text) => format.read? text

/-- The settings of a service in an environment, none if a file cannot be read or a setting
cannot be what was assigned to it. -/
def load? (files : String → Option String) (vars : List (String × String))
    (serviceName environment : String) : Option Settings := do
  let layers ← (fileNames serviceName environment).mapM (fileLayer? files)
  ofLayers? serviceName environment (layers ++ [Layer.ofVariables vars])

end Criteria.Settings

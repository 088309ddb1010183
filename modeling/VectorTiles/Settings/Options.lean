import VectorTiles.Json.Basic
import VectorTiles.Tileset.Files
import VectorTiles.Text.LowerCase

/-!
# How sources of settings are read

Among the arguments for settings may be options, whose names begin with an underscore. They say how
the names and the texts of the other sources are read.

**Results.**

* `SourceOptions.ofArguments`: the options among arguments.
* `SourceOptions.isOption`: whether an argument is an option.
* `SourceOptions.key`, `SourceOptions.members`: names and texts as the options ask for them.
-/

namespace VectorTiles

/-- How sources of texts are read. -/
structure SourceOptions where
  /-- Whether names have to be given in lower case, or else may be in either case. -/
  isCaseSensitive : Bool
  /-- What stands in front of the names of settings. -/
  nameStart : String
  /-- Whether an empty text counts as none. -/
  ignoresEmpty : Bool
  /-- The text that stands for null. -/
  nullText : Option String
  /-- Whether the environment file is read. -/
  readsFile : Bool
  deriving DecidableEq, Repr

namespace SourceOptions

def filePath : String := ".env"

/-- The options that hold unless others are given. -/
def standard : SourceOptions := ⟨false, "", false, none, true⟩

/-- The name of the option `isCaseSensitive`. -/
def caseName : String := "_case_sensitive"

/-- The name of the option `nameStart`. -/
def startName : String := "_env_prefix"

/-- The name of the option `ignoresEmpty`. -/
def emptyName : String := "_env_ignore_empty"

/-- The name of the option `nullText`. -/
def nullName : String := "_env_parse_none_str"

/-- The name of the option that names the environment file. -/
def fileName : String := "_env_file"

/-- The names of the options that matter for settings without parts. -/
def names : List String :=
  [caseName, startName, emptyName, nullName, fileName]

def otherNames : List String :=
  ["_nested_model_default_partial_update", "_env_file_encoding", "_env_nested_delimiter",
    "_env_nested_max_split", "_env_parse_enums", "_cli_prog_name", "_cli_parse_args",
    "_cli_settings_source", "_cli_parse_none_str", "_cli_hide_none_type", "_cli_avoid_json",
    "_cli_enforce_required", "_cli_use_class_docs_for_groups", "_cli_exit_on_error",
    "_cli_prefix", "_cli_flag_prefix_char", "_cli_implicit_flags", "_cli_ignore_unknown_args",
    "_cli_kebab_case", "_cli_shortcuts", "_secrets_dir"]

def isOption (argument : String × Json) : Bool :=
  names.contains argument.1 || otherNames.contains argument.1

/-- Whether a value stands for yes. -/
def isYes : Json → Bool
  | .null => false
  | .bool b => b
  | .int n => n != 0
  | .float x => x.toInt? != some 0
  | .string s => s != ""
  | .array items => !items.isEmpty
  | .object members => !members.isEmpty

def text? : Json → Option String
  | .string s => some s
  | _ => none

/-- Whether the path of the environment file is among those that a value names. -/
def namesFile : Json → Bool
  | .string path => normalPath path = filePath
  | .array paths => paths.any fun path => (text? path).any fun path => normalPath path = filePath
  | _ => false

def ofArguments (arguments : List (String × Json)) : SourceOptions where
  isCaseSensitive := (Json.lookup? caseName arguments).any isYes
  nameStart := ((Json.lookup? startName arguments).bind text?).getD standard.nameStart
  ignoresEmpty := (Json.lookup? emptyName arguments).any isYes
  nullText := (Json.lookup? nullName arguments).bind text?
  readsFile := ((Json.lookup? fileName arguments).map namesFile).getD standard.readsFile

/-- A name as it is compared with others. -/
def key (options : SourceOptions) (name : String) : String :=
  if options.isCaseSensitive then name else Text.lower name

/-- The name under which a source of texts gives a setting. -/
def sourceName (options : SourceOptions) (name : String) : String :=
  options.key (options.nameStart ++ name)

def value (options : SourceOptions) (text : String) : Json :=
  if options.nullText = some text then .null else .string text

/-- Texts by the names that are compared; of several with one name the last counts. -/
def members (options : SourceOptions) (texts : List (String × String)) : List (String × Json) :=
  let texts := if options.ignoresEmpty then texts.filter (·.2 != "") else texts
  texts.foldl (fun members entry =>
    Json.put (options.key entry.1) (options.value entry.2) members) []

end SourceOptions
end VectorTiles

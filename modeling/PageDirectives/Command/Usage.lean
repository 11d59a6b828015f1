import PageDirectives.Command.Arguments

set_option autoImplicit false

/-! # Usage

The options of the program and of its commands, and the help text that lists them. The options
of the program may also stand behind a command.
-/

namespace PageDirectives.Command

def programName : String := "shorthand"

def release : String := "0.1.0"

/-- The line that tells the version. -/
def versionText : String := programName ++ " " ++ release ++ "\n"

/-! ## Options -/

namespace CommandOption

def config : CommandOption where
  name := "config"
  letter := some 'c'
  kind := .takes ⟨"CONFIG", false⟩
  about := "Path to configuration file (default: auto-discover shorthand.toml)"

def baseDir : CommandOption where
  name := "base-dir"
  kind := .takes ⟨"BASE_DIR", false⟩
  about := "Base directory for relative \x60load\x60 URLs (overrides config)"

def noHttp : CommandOption where
  name := "no-http"
  about := "Refuse to fetch http:// and https:// URLs (overrides config)"

def verbose : CommandOption where
  name := "verbose"
  letter := some 'v'
  about := "Enable verbose output (log parsing, binding and dispatch)"

def help : CommandOption where
  name := "help"
  letter := some 'h'
  kind := .help
  about := "Print help"

def version : CommandOption where
  name := "version"
  letter := some 'V'
  kind := .version
  about := "Print version"

def inline : CommandOption where
  name := "inline"
  letter := some 'i'
  kind := .collects ⟨"INLINE", true⟩
  about := "Extra directive lines to check against the page, after its own"

def strict : CommandOption where
  name := "strict"
  about := "Fail when any diagnostic is reported"

def fire : CommandOption where
  name := "fire"
  letter := some 'f'
  kind := .collects ⟨"SELECTOR@EVENT", true⟩
  about := "Event to fire, as \x60<selector>@<event>\x60 (repeatable, fired in order)"

def output : CommandOption where
  name := "output"
  letter := some 'o'
  kind := .takes ⟨"OUTPUT", false⟩
  about := "Write the resulting HTML to this file instead of stdout"

/-- The parameter of an option. -/
def parameter? (o : CommandOption) : Option Parameter :=
  match o.kind with
  | .takes p | .collects p => some p
  | .switch | .help | .version => none

/-- An option as it is listed. -/
def heading (o : CommandOption) : String :=
  (match o.letter with
    | some c => .ofList ['-', c, ',', ' ']
    | none => "    ")
  ++ "--" ++ o.name
  ++ (match o.parameter? with
    | some p => " <" ++ p.name ++ ">"
    | none => "")

end CommandOption

/-! ## Levels -/

/-- A level of the command line with its help. -/
structure Topic where
  /-- The words behind the name of the program. -/
  usage : String
  about : String
  level : Level
  /-- The commands and operands, each with what it is. -/
  commandsAbout : List (String × String) := []
  operandsAbout : List (String × String) := []
  deriving DecidableEq, Repr

namespace Topic

open CommandOption

def checkAbout : String :=
  "Parse and bind a page's directives, then list them with any diagnostics"

def runAbout : String := "Bind a page's directives, fire events and print the resulting HTML"

def helpAbout : String := "Print this message or the help of the given subcommand(s)"

def program : Topic where
  usage := "[OPTIONS] <COMMAND>"
  about := "Natural-language interaction directives - CLI"
  level :=
    { options := [config, baseDir, noHttp, verbose, help, version]
      commands := ["check", "run", "help"] }
  commandsAbout := [("check", checkAbout), ("run", runAbout), ("help", helpAbout)]

/-- The operand of a command that works on a page. -/
def pageAbout : List (String × String) := [("<PAGE>", "Path to the HTML page")]

def check : Topic where
  usage := "check [OPTIONS] <PAGE>"
  about := checkAbout
  level :=
    { options := [config, inline, baseDir, strict, noHttp, verbose, help], operands := ["page"] }
  operandsAbout := pageAbout

def run : Topic where
  usage := "run [OPTIONS] <PAGE>"
  about := runAbout
  level :=
    { options := [config, fire, baseDir, output, noHttp, verbose, help], operands := ["page"] }
  operandsAbout := pageAbout

def helpCommand : Topic where
  usage := "help [COMMAND]..."
  about := helpAbout
  level := { options := [] }
  operandsAbout := [("[COMMAND]...", "Print help for the subcommand(s)")]

/-- The topic of the help for some words. -/
def ofWords? : List String → Option Topic
  | [] => some program
  | ["check"] => some check
  | ["run"] => some run
  | ["help"] => some helpCommand
  | _ => none

/-! ## Help -/

/-- A list of things and what they are, in two columns. -/
def columns (title : String) (rows : List (String × String)) : List String :=
  let width := (rows.map fun r => r.1.length).foldl max 0
  if rows = [] then []
  else
    ["", title] ++ rows.map fun (thing, about) =>
      "  " ++ thing ++ .ofList (List.replicate (width - thing.length + 2) ' ') ++ about

/-- The help text. -/
def text (t : Topic) : String :=
  let lines := [t.about, "", "Usage: " ++ programName ++ " " ++ t.usage]
    ++ columns "Commands:" t.commandsAbout
    ++ columns "Arguments:" t.operandsAbout
    ++ columns "Options:" (t.level.options.map fun o => (o.heading, o.about))
  Text.join "\n" lines ++ "\n"

end Topic

end PageDirectives.Command

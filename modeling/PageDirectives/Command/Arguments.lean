import PageDirectives.Text.Basic

set_option autoImplicit false

/-! # Arguments

How the arguments of a command line are read. A level of the command line knows some options
and either commands, each of which opens a level of its own, or operands. An option is written
in one of these ways, and a value on its own must not look like an option:

    --name VALUE   --name=VALUE   -n VALUE   -nVALUE   -n=VALUE

Letters of options without a value may be joined, and after `--` there are only operands.
-/

namespace PageDirectives.Command

/-- The value of an option. -/
structure Parameter where
  name : String
  mayBeEmpty : Bool
  deriving DecidableEq, Repr

/-- What an option does. -/
inductive OptionKind where
  | switch
  | takes (parameter : Parameter)
  /-- It takes a value and may be given several times. -/
  | collects (parameter : Parameter)
  | help
  | version
  deriving DecidableEq, Repr

structure CommandOption where
  name : String
  letter : Option Char := none
  kind : OptionKind := .switch
  about : String
  deriving DecidableEq, Repr

structure Level where
  options : List CommandOption
  /-- The names of the commands. -/
  commands : List String := []
  /-- The names of the operands, none of which may be empty. -/
  operands : List String := []
  deriving DecidableEq, Repr

/-- Why reading the arguments comes to an early end. -/
inductive Stop where
  | misuse
  | help
  | version
  deriving DecidableEq, Repr

/-- What has been read of the arguments. -/
structure Given where
  /-- The names and values of options, in order. -/
  values : List (String × String) := []
  operands : List String := []
  /-- The command and the arguments behind it. -/
  command : Option (String × List String) := none
  /-- The option whose value comes next. -/
  pending : Option CommandOption := none
  /-- Only operands may follow. -/
  literal : Bool := false
  deriving DecidableEq, Repr

namespace Given

def has (g : Given) (name : String) : Bool := g.values.any (·.1 == name)

def value? (g : Given) (name : String) : Option String := g.values.lookup name

/-- The values of an option that may be given several times. -/
def valuesOf (g : Given) (name : String) : List String :=
  (g.values.filter (·.1 == name)).map Prod.snd

def operand? (g : Given) (index : Nat) : Option String := g.operands[index]?

/-! ## Reading -/

def add (g : Given) (name value : String) : Given :=
  { g with values := g.values ++ [(name, value)], pending := none }

/-- Takes the value of an option. -/
def take (g : Given) (o : CommandOption) (value : String) : Except Stop Given :=
  match o.kind with
  | .takes p =>
    if g.has o.name ∨ (value = "" ∧ ¬ p.mayBeEmpty) then .error .misuse
    else .ok (g.add o.name value)
  | .collects p =>
    if value = "" ∧ ¬ p.mayBeEmpty then .error .misuse else .ok (g.add o.name value)
  | .switch | .help | .version => .error .misuse

/-- Takes an option without a value. One that needs a value waits for it. -/
def takeAlone (g : Given) (o : CommandOption) : Except Stop Given :=
  match o.kind with
  | .switch => if g.has o.name then .error .misuse else .ok (g.add o.name "")
  | .takes _ | .collects _ => .ok { g with pending := some o }
  | .help => .error .help
  | .version => .error .version

def takeOperand (l : Level) (g : Given) (s : String) : Except Stop Given :=
  if s = "" ∨ l.operands.length ≤ g.operands.length then .error .misuse
  else .ok { g with operands := g.operands ++ [s] }

/-- Takes an option that is written with its name. -/
def takeName (l : Level) (g : Given) (s : List Char) : Except Stop Given :=
  let name := s.takeWhile (· != '=')
  match l.options.find? fun o => o.name == .ofList name with
  | none => .error .misuse
  | some o =>
    match s.drop name.length with
    | [] => g.takeAlone o
    | _ :: value => g.take o (.ofList value)

/-- Takes options that are written with their letters. -/
def takeLetters (l : Level) (g : Given) : List Char → Except Stop Given
  | [] => .ok g
  | c :: r =>
    match l.options.find? fun o => o.letter == some c with
    | none => .error .misuse
    | some o =>
      match o.kind, r with
      | .takes _, _ :: _ | .collects _, _ :: _ =>
        g.take o (.ofList (if r.head? = some '=' then r.tail else r))
      | _, _ => (g.takeAlone o).bind fun g => takeLetters l g r

/-- Whether an argument is written like an option. A lone dash is not. -/
def looksLikeOption (s : String) : Bool := Text.startsWith "-" s && s != "-"

/-- Reads one argument. -/
def step (l : Level) (g : Given) (s : String) : Except Stop Given :=
  match g.command, g.pending with
  | some (name, rest), _ => .ok { g with command := some (name, rest ++ [s]) }
  | none, some o => if looksLikeOption s then .error .misuse else g.take o s
  | none, none =>
    if g.literal then takeOperand l g s
    else if s = "--" then .ok { g with literal := true }
    else if s ∈ l.commands then .ok { g with command := some (s, []) }
    else
      match s.toList with
      | '-' :: '-' :: name => takeName l g name
      | '-' :: c :: letters => takeLetters l g (c :: letters)
      | _ => takeOperand l g s

/-- Reads the arguments of a level. -/
def ofArguments (l : Level) (arguments : List String) : Except Stop Given :=
  (arguments.foldlM (step l) { }).bind fun g =>
    if g.pending.isSome then .error .misuse else .ok g

end Given

end PageDirectives.Command

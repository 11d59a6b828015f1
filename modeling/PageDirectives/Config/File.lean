import PageDirectives.Config.Basic
import PageDirectives.Toml.Parser

set_option autoImplicit false

/-! # Settings files

What a settings file says. It is TOML with four tables, all of them and all of their keys
optional, and keys without a meaning are passed over. A table may also be written as an array
with the values in the order of their keys.
-/

namespace PageDirectives

structure ConfigFile where
  grammar : Grammar := {}
  scriptTypes : Option (List String) := none
  /-- The base directory as it is written, before variables in it are replaced. -/
  baseDir : Option String := none
  allowHttp : Bool := true
  timeoutSecs : Nat := 30
  enabled : List String := []
  deriving DecidableEq, Repr

namespace ConfigFile

open Toml (Table Value)

/-! ## Values -/

def string? : Value → Option String
  | .string s => some s
  | _ => none

def boolean? : Value → Option Bool
  | .boolean b => some b
  | _ => none

/-- A number that 64 bits without sign can hold. -/
def natural? : Value → Option Nat
  | .integer n => if 0 ≤ n ∧ n < 0x10000000000000000 then some n.toNat else none
  | _ => none

def strings? : Value → Option (List String)
  | .array values => values.mapM string?
  | _ => none

/-! ## Tables -/

/-- The value under a key, or a default if the key is not there. -/
def field? {α : Type} (t : Table) (key : String) (read : Value → Option α) (default : α) :
    Option α :=
  match t.lookup key with
  | some v => read v
  | none => some default

/-- The entries of a value that stands for a table with these keys. A date has none of them. -/
def entries? (keys : List String) : Value → Option Table
  | .table _ t => some t
  | .array values => some (keys.zip values)
  | .tables ts => some (keys.zip (ts.map (.table .explicit)))
  | .datetime _ => some []
  | _ => none

/-- The entries of one of the tables of a document. -/
def table? (document : Table) (key : String) (keys : List String) : Option Table :=
  field? document key (entries? keys) []

def grammar? (t : Table) : Option Grammar := do
  let d : Grammar := {}
  return {
    verb := ← field? t "verb" string? d.verb
    preposition := ← field? t "preposition" string? d.preposition
    auxiliary := ← field? t "auxiliary" string? d.auxiliary
    options := ← field? t "options" string? d.options
    conjunction := ← field? t "conjunction" string? d.conjunction
    comment := ← field? t "comment" string? d.comment
    loadSentinel := ← field? t "load_sentinel" string? d.loadSentinel }

/-- Reads the settings in a document. A value of a wrong type makes them useless. -/
def ofTable? (document : Table) : Option ConfigFile := do
  let grammar ← table? document "grammar" (({ : Grammar }).phrases.map Prod.fst)
  let page ← table? document "page" ["script_types", "base_dir"]
  let loader ← table? document "loader" ["allow_http", "timeout_secs"]
  let modules ← table? document "modules" ["enabled"]
  let d : ConfigFile := {}
  return {
    grammar := ← grammar? grammar
    scriptTypes := ← field? page "script_types" (fun v => (strings? v).map some) d.scriptTypes
    baseDir := ← field? page "base_dir" (fun v => (string? v).map some) d.baseDir
    allowHttp := ← field? loader "allow_http" boolean? d.allowHttp
    timeoutSecs := ← field? loader "timeout_secs" natural? d.timeoutSecs
    enabled := ← field? modules "enabled" strings? d.enabled }

def parse? (text : String) : Option ConfigFile := (Toml.parse? text).bind ofTable?

end ConfigFile

end PageDirectives

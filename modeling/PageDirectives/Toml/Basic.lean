set_option autoImplicit false

/-! # TOML tables

The values a TOML document can hold, and how a table grows while the document is read. A table
remembers how it came about, because that decides what may still be added to it:

    closed      written between braces: it is complete
    explicit    opened by its own header
    implied     only named on the way to another header, so that its own may still follow
    dotted      named on the way to a key with dots, and to be extended by such keys alone

All changes go down along a path of keys, and none ever replaces what is there.
-/

namespace PageDirectives.Toml

/-- How a table came about. -/
inductive Form where
  | closed
  | explicit
  | implied
  | dotted
  deriving DecidableEq, Repr

inductive Value where
  | string (s : String)
  | integer (n : Int)
  /-- A number with a fraction or an exponent, as it is written. -/
  | float (text : String)
  | boolean (b : Bool)
  /-- A date or a time of day or both, as it is written. -/
  | datetime (text : String)
  | array (values : List Value)
  /-- The tables of the headers with doubled brackets, in order. -/
  | tables (list : List (List (String × Value)))
  | table (form : Form) (entries : List (String × Value))
  deriving Inhabited

/-- The entries of a table, in the order in which their keys were first named. -/
abbrev Table := List (String × Value)

namespace Table

/-- Puts a value under a key, in the place of the former one if there is one. -/
def put (key : String) (v : Value) : Table → Table
  | [] => [(key, v)]
  | e :: t => if e.1 = key then (key, v) :: t else e :: put key v t

/-- Changes the last one of some tables. -/
def changeLast? (f : Table → Option Table) : List Table → Option (List Table)
  | [] => none
  | [t] => (f t).map fun t => [t]
  | t :: ts => (changeLast? f ts).map fun ts => t :: ts

/-- Changes the table that a header names by the keys before its last one. -/
def descend? (f : Table → Option Table) : List String → Table → Option Table
  | [], t => f t
  | key :: path, t =>
    match t.lookup key with
    | none => (descend? f path []).map fun sub => t.put key (.table .implied sub)
    | some (.table .closed _) => none
    | some (.table form sub) => (descend? f path sub).map fun sub => t.put key (.table form sub)
    | some (.tables ts) =>
      (changeLast? (descend? f path) ts).map fun ts => t.put key (.tables ts)
    | some _ => none

/-- Sets a value at a key with dots. Only tables without a header of their own are extended in
this way, and those named on the way to a header only further down. -/
def assign? (v : Value) : List String → Table → Option Table
  | [], _ => none
  | [key], t => if (t.lookup key).isSome then none else some (t.put key v)
  | key :: path, t =>
    match t.lookup key with
    | none => (assign? v path []).map fun sub => t.put key (.table .dotted sub)
    | some (.table .dotted sub) =>
      (assign? v path sub).map fun sub => t.put key (.table .dotted sub)
    | some (.table .implied sub) =>
      if path.length = 1 then none
      else (assign? v path sub).map fun sub => t.put key (.table .implied sub)
    | some (.tables ts) =>
      if path.length = 1 then none
      else (changeLast? (assign? v path) ts).map fun ts => t.put key (.tables ts)
    | some _ => none

/-- Sets values one after the other. -/
def assignAll? (values : List (List String × Value)) (t : Table) : Option Table :=
  values.foldlM (fun t (path, v) => assign? v path t) t

end Table

/-! ## Documents -/

inductive Header where
  /-- No header: what follows belongs to the document itself. -/
  | top
  | single (path : List String)
  /-- A header with doubled brackets. -/
  | another (path : List String)
  deriving DecidableEq, Repr

/-- A header and the values below it, each with the parts of its key. -/
structure Section where
  header : Header
  values : List (List String × Value)

namespace Table

/-- Fills the table that the last key of a header names. -/
def fill? (values : List (List String × Value)) (key : String) (t : Table) : Option Table :=
  match t.lookup key with
  | none => (assignAll? values []).map fun sub => t.put key (.table .explicit sub)
  | some (.table .implied sub) =>
    (assignAll? values sub).map fun sub => t.put key (.table .explicit sub)
  | some _ => none

/-- Adds another table to those of a key. -/
def fillAnother? (values : List (List String × Value)) (key : String) (t : Table) :
    Option Table :=
  match t.lookup key with
  | none => (assignAll? values []).map fun sub => t.put key (.tables [sub])
  | some (.tables ts) => (assignAll? values []).map fun sub => t.put key (.tables (ts ++ [sub]))
  | some _ => none

def addSection? (t : Table) (s : Section) : Option Table :=
  match s.header with
  | .top => assignAll? s.values t
  | .single path => path.getLast?.bind fun key => descend? (fill? s.values key) path.dropLast t
  | .another path =>
    path.getLast?.bind fun key => descend? (fillAnother? s.values key) path.dropLast t

/-- The table that the sections of a document make up. -/
def ofSections? (sections : List Section) : Option Table := sections.foldlM addSection? []

end Table

end PageDirectives.Toml

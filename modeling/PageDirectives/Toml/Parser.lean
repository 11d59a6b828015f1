import PageDirectives.Toml.Quoted

set_option autoImplicit false

/-! # Reading TOML

`Toml.parse?` reads a document of TOML 1.1. A document with any error in it is none at all: it
is read by its lines into sections, which then have to fit together.
-/

namespace PageDirectives.Toml

/-- Drops white space, line ends and comments. -/
def skipTrivia (s : List Char) : List Char :=
  match skipLines s with
  | '#' :: r =>
    if _h : (r.dropWhile isPlain).length < s.length then skipTrivia (r.dropWhile isPlain) else r
  | r => r
termination_by s.length

/-- What follows the line end, if nothing but white space and a comment stands before it. -/
def nextLine? (s : List Char) : Option (List Char) :=
  let rest := match s.dropWhile isSpace with
    | '#' :: r => r.dropWhile isPlain
    | r => r
  if rest = [] then some [] else lineEnd? rest

/-! ## Keys -/

/-- The characters of keys without quotes. -/
def isBare (c : Char) : Bool := c.isAlphanum || c == '_' || c == '-'

/-- How deep values may be nested, and how many parts a key may have. -/
def depthLimit : Nat := 80

def keyPart? (s : List Char) : Option (String × List Char) :=
  match quoted? s with
  | some (part, r) => some (.ofList part, r)
  | none =>
    let part := s.takeWhile isBare
    if part = [] then none else some (.ofList part, s.drop part.length)

/-- Reads the parts of a key with the white space around them. -/
def keyParts? (s : List Char) : Option (List String × List Char) :=
  (keyPart? (s.dropWhile isSpace)).bind fun (part, r) =>
    match r.dropWhile isSpace with
    | '.' :: r =>
      if _h : r.length < s.length then (keyParts? r).map fun (parts, r) => (part :: parts, r)
      else none
    | r => some ([part], r)
termination_by s.length

def key? (s : List Char) : Option (List String × List Char) :=
  (keyParts? s).filter (·.1.length ≤ depthLimit)

/-! ## Values -/

def inWord (c : Char) : Bool := !(isSpace c || ['\n', '\r', ',', ']', '}', '#'].contains c)

/-- Reads a value that is one word. A date and a time of day may have a space between them. -/
def word? (s : List Char) : Option (Value × List Char) :=
  let word := s.takeWhile inWord
  let rest := s.drop word.length
  let time := (rest.drop 1).takeWhile inWord
  if isDate word ∧ rest.head? = some ' ' ∧ time.head?.any Char.isDigit then
    (Value.ofWord? (word ++ ' ' :: time)).map fun v => (v, rest.drop (time.length + 1))
  else (Value.ofWord? word).map fun v => (v, rest)

/-- Reads items up to a closing character. A comma stands between two of them, and one more may
stand behind the last. -/
def items? {α : Type} (item : List Char → Option (α × List Char)) (close : Char)
    (s : List Char) : Option (List α × List Char) :=
  let s' := skipTrivia s
  if s'.head? = some close then some ([], s'.drop 1)
  else
    (item s').bind fun (a, r) =>
      match skipTrivia r with
      | c :: r =>
        if c = close then some ([a], r)
        else if c = ',' then
          if _h : r.length < s.length then (items? item close r).map fun (l, r) => (a :: l, r)
          else none
        else none
      | [] => none
termination_by s.length

/-- Reads a key and its value. -/
def assignment? (value : List Char → Option (Value × List Char)) (s : List Char) :
    Option ((List String × Value) × List Char) :=
  (key? s).bind fun (path, r) =>
    match r with
    | '=' :: r => (value (r.dropWhile isSpace)).map fun (v, r) => ((path, v), r)
    | _ => none

/-- Reads a value with others nested in it up to a depth. -/
def value? (depth : Nat) (s : List Char) : Option (Value × List Char) :=
  match depth, s with
  | depth + 1, '[' :: r =>
    (items? (value? depth) ']' r).map fun (values, r) => (.array values, r)
  | depth + 1, '{' :: r =>
    (items? (assignment? (value? depth)) '}' r).bind fun (values, r) =>
      (Table.assignAll? values []).map fun t => (.table .closed t, r)
  | _, '"' :: r => (anyQuoted? ('"' :: r)).map fun (t, r) => (.string (.ofList t), r)
  | _, '\'' :: r => (anyQuoted? ('\'' :: r)).map fun (t, r) => (.string (.ofList t), r)
  | _, s => word? s

/-! ## Lines -/

/-- Reads a header. -/
def header? : List Char → Option (Header × List Char)
  | '[' :: '[' :: r =>
    (key? r).bind fun (path, r) =>
      match r with
      | ']' :: ']' :: r => some (.another path, r)
      | _ => none
  | '[' :: r =>
    (key? r).bind fun (path, r) =>
      match r with
      | ']' :: r => some (.single path, r)
      | _ => none
  | _ => none

/-- Reads the rest of a document behind a header and some values. -/
def sections? (header : Header) (values : List (List String × Value)) (s : List Char) :
    Option (List Section) :=
  match skipTrivia s with
  | [] => some [⟨header, values⟩]
  | '[' :: r =>
    (header? ('[' :: r)).bind fun (next, r) =>
      (nextLine? r).bind fun r =>
        if _h : r.length < s.length then
          (sections? next [] r).map fun l => ⟨header, values⟩ :: l
        else none
  | c :: r =>
    (assignment? (value? depthLimit) (c :: r)).bind fun (v, r) =>
      (nextLine? r).bind fun r =>
        if _h : r.length < s.length then sections? header (values ++ [v]) r else none
termination_by s.length

/-- Reads a document. A byte order mark may stand in front. -/
def parse? (document : String) : Option Table :=
  let s := document.toList
  (sections? .top [] (if s.head? = some '\uFEFF' then s.tail else s)).bind Table.ofSections?

end PageDirectives.Toml

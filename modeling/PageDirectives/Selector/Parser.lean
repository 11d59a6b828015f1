import PageDirectives.Selector.Basic
import PageDirectives.Selector.Token

set_option autoImplicit false

/-! # Reading selectors

`Selector.parse?` reads a list of selectors, separated by commas. What is not a selector as a
whole is none, except in the list of `:is` and `:where`: there a part that cannot be read only
matches nothing.
-/

namespace PageDirectives.Selector

def skipBlank (ts : List Token) : List Token := ts.dropWhile (· == .blank)

/-- What was read, if nothing but white space is left. -/
def finish {α : Type} (a : α) (rest : List Token) : Option α :=
  if skipBlank rest = [] then some a else none

/-! ## Places among siblings -/

/-- The digits in a name `n-5`, with the minus sign. -/
def dashDigits? (s : List Char) : Option Int :=
  match s with
  | 'n' :: '-' :: digits =>
    if digits ≠ [] ∧ digits.all Char.isDigit then
      some (saturate (-(digits.foldl (fun n c => 10 * n + (c.toNat - '0'.toNat : Nat)) 0 : Int)))
    else none
  | _ => none

/-- Reads a number without a sign after a sign. -/
def readUnsigned (a sign : Int) (ts : List Token) : Option (Int × Int) :=
  match skipBlank ts with
  | .number false (some b) :: r => finish (a, sign * b) r
  | _ => none

/-- Reads what is added to the multiples of `a`. -/
def readOffset (a : Int) (ts : List Token) : Option (Int × Int) :=
  match skipBlank ts with
  | .mark '+' :: r => readUnsigned a 1 r
  | .mark '-' :: r => readUnsigned a (-1) r
  | .number true (some b) :: r => finish (a, b) r
  | r => finish (a, 0) r

/-- Reads what follows `a` times: `n` with or without something added. -/
def readMultiple (a : Int) (unit : List Char) (ts : List Token) : Option (Int × Int) :=
  if unit = ['n'] then readOffset a ts
  else if unit = ['n', '-'] then readUnsigned a (-1) ts
  else (dashDigits? unit).bind fun b => finish (a, b) ts

/-- Reads a formula `an+b`. -/
def readFormula (ts : List Token) : Option (Int × Int) :=
  match skipBlank ts with
  | .number _ (some b) :: r => finish (0, b) r
  | .dimension (some a) unit :: r => readMultiple a (Chars.lower unit.toList) r
  | .mark '+' :: .name s :: r => readMultiple 1 (Chars.lower s.toList) r
  | .name s :: r =>
    match Chars.lower s.toList with
    | ['e', 'v', 'e', 'n'] => finish (2, 0) r
    | ['o', 'd', 'd'] => finish (2, 1) r
    | '-' :: s => readMultiple (-1) s r
    | s => readMultiple 1 s r
  | _ => none

/-! ## Attributes -/

def relationOf : Token → Option AttrRelation
  | .mark '=' => some .equal
  | .operator '~' => some .word
  | .operator '|' => some .dash
  | .operator '^' => some .start
  | .operator '$' => some .finish
  | .operator '*' => some .inside
  | _ => none

/-- Reads the flag behind a value. -/
def readCaseRule (ts : List Token) : Option CaseRule :=
  match skipBlank ts with
  | [] => some .byName
  | .name s :: r =>
    if Text.sameFold s "i" then finish .fold r
    else if Text.sameFold s "s" then finish .exact r
    else none
  | _ => none

/-- Reads what follows the name of an attribute. -/
def readAttrValue (anySpace : Bool) (name : String) (ts : List Token) : Option AttrTest :=
  match skipBlank ts with
  | [] => some { anySpace, name }
  | t :: r => do
    let relation ← relationOf t
    match skipBlank r with
    | .name s :: r | .string s :: r =>
      let rule ← readCaseRule r
      return { anySpace, name, value := some (relation, s, rule) }
    | _ => none

/-- Reads the inside of square brackets. -/
def readAttr (ts : List Token) : Option AttrTest :=
  match skipBlank ts with
  | .name _ :: .mark '|' :: _ => none
  | .name n :: r | .mark '|' :: .name n :: r => readAttrValue false n r
  | .mark '*' :: .mark '|' :: .name n :: r => readAttrValue true n r
  | _ => none

/-! ## Tests by name -/

/-- The first or last of its siblings. -/
def edge (sameTag fromEnd : Bool) : Selector := test (.nth sameTag fromEnd 0 1)

/-- A test that is written as a colon and a name. -/
def namedTest? (name : String) : Option Selector :=
  match Text.lower name with
  | "root" | "scope" => some (test .root)
  | "empty" => some (test .empty)
  | "first-child" => some (edge false false)
  | "last-child" => some (edge false true)
  | "only-child" => some (both (edge false false) (edge false true))
  | "first-of-type" => some (edge true false)
  | "last-of-type" => some (edge true true)
  | "only-of-type" => some (both (edge true false) (edge true true))
  | _ => none

/-- How a list of selectors in parentheses is read. -/
inductive ListKind where
  /-- A part that cannot be read matches nothing. -/
  | forgiving
  | strict
  /-- Each part starts at the anchor. -/
  | relative
  /-- One compound and nothing else. -/
  | single
  deriving DecidableEq, Repr

/-- A way to read lists in parentheses; it is told whether the list is inside of a `:has`. -/
abbrev ListReader := Bool → ListKind → List Token → Option Selector

/-- A test that is written as a colon, a name and something in parentheses. A `:has` does not
stand in another one. No element hosts a tree of its own. -/
def functionalTest? (lists : ListReader) (inHas : Bool) (name : String) (inside : List Token) :
    Option Selector :=
  let nth (sameTag fromEnd : Bool) :=
    (readFormula inside).map fun (a, b) => test (.nth sameTag fromEnd a b)
  match Text.lower name with
  | "is" | "where" => lists inHas .forgiving inside
  | "not" => (lists inHas .strict inside).map not
  | "has" => if inHas then none else (lists true .relative inside).map has
  | "host" => (lists inHas .single inside).map fun _ => never
  | "nth-child" => nth false false
  | "nth-last-child" => nth false true
  | "nth-of-type" => nth true false
  | "nth-last-of-type" => nth true true
  | _ => none

/-! ## Compounds -/

/-- Reads the tag in front of a compound: the condition, if one is written, and the rest. No
prefix of a vocabulary is known, and no element is without a vocabulary. -/
def readTagTest (ts : List Token) : Option (Option Selector × List Token) :=
  match ts with
  | .name _ :: .mark '|' :: _ => none
  | .name n :: r => some (some (test (.tag n)), r)
  | .mark '*' :: .mark '|' :: .name n :: r => some (some (test (.tag n)), r)
  | .mark '*' :: .mark '|' :: .mark '*' :: r => some (some always, r)
  | .mark '*' :: .mark '|' :: _ => none
  | .mark '*' :: r => some (some always, r)
  | .mark '|' :: .name _ :: r | .mark '|' :: .mark '*' :: r =>
    some (some never, r)
  | .mark '|' :: _ => none
  | _ => some (none, ts)

/-- Reads one further test of a compound, if one is written. -/
def readTest (lists : ListReader) (inHas : Bool) (ts : List Token) :
    Option (Option Selector × List Token) :=
  match ts with
  | .id s :: r => some (some (test (.id s)), r)
  | .mark '.' :: .name c :: r => some (some (test (.hasClass c)), r)
  | .mark '.' :: _ => none
  | .opening ']' :: r =>
    let (inside, rest) := splitBlock [']'] r
    (readAttr inside).map fun t => (some (test (.attr t)), rest)
  | .mark ':' :: .name n :: r => (namedTest? n).map fun s => (some s, r)
  | .mark ':' :: .function n :: r =>
    let (inside, rest) := splitBlock [')'] r
    (functionalTest? lists inHas n inside).map fun s => (some s, rest)
  | .mark ':' :: _ => none
  | _ => some (none, ts)

/-- Reads the tests of a compound as far as they go, after the condition `s`. -/
def readTests (lists : ListReader) (inHas : Bool) (s : Option Selector) (ts : List Token) :
    Option (Option Selector × List Token) :=
  match readTest lists inHas ts with
  | none => none
  | some (none, rest) => some (s, rest)
  | some (some t, rest) =>
    let s := match s with
      | none => t
      | some s => both s t
    if _h : rest.length < ts.length then readTests lists inHas (some s) rest else none
termination_by ts.length

/-- Reads a compound. An empty one is none. -/
def readCompound (lists : ListReader) (inHas : Bool) (ts : List Token) :
    Option (Selector × List Token) := do
  let (tag, rest) ← readTagTest (skipBlank ts)
  let (s, rest) ← readTests lists inHas tag rest
  let s ← s
  return (s, rest)

/-! ## Chains of compounds -/

/-- Reads what stands between two compounds, if another one follows. -/
def readRelation (ts : List Token) : Option (Relation × List Token) :=
  match skipBlank ts with
  | [] => none
  | .mark '>' :: r => some (.parent, r)
  | .mark '+' :: r => some (.previous, r)
  | .mark '~' :: r => some (.earlier, r)
  | r => if ts.head? = some .blank then some (.ancestor, r) else none

/-- Reads the compounds that follow the selector `left`. -/
def readChain (lists : ListReader) (inHas : Bool) (left : Selector) (ts : List Token) :
    Option Selector :=
  match readRelation ts with
  | none => finish left ts
  | some (r, rest) =>
    match readCompound lists inHas rest with
    | none => none
    | some (s, rest') =>
      if _h : rest'.length < ts.length then readChain lists inHas (both (related r left) s) rest'
      else none
termination_by ts.length

/-- Reads one selector. A relative one is a chain that starts at the anchor. -/
def readOne (lists : ListReader) (inHas : Bool) (kind : ListKind) (ts : List Token) :
    Option Selector :=
  if kind = .relative then
    let (r, rest) := (readRelation (skipBlank ts)).getD (.ancestor, ts)
    (readCompound lists inHas rest).bind fun (s, rest) =>
      readChain lists inHas (both (related r anchor) s) rest
  else
    (readCompound lists inHas ts).bind fun (s, rest) =>
      if kind = .single then finish s rest else readChain lists inHas s rest

/-- Reads a part of a list. -/
def readPart (lists : ListReader) (inHas : Bool) (kind : ListKind) (ts : List Token) :
    Option Selector :=
  (readOne lists inHas kind ts).or
    (if kind = .forgiving ∧ isSound [] ts then some never else none)

/-- Reads a list, in which parentheses stand at most `depth` deep in each other. -/
def readList (depth : Nat) (inHas : Bool) (kind : ListKind) (ts : List Token) :
    Option Selector :=
  match depth with
  | 0 => none
  | depth + 1 =>
    let parts := splitCommas [] ts
    if kind = .single ∧ 1 < parts.length then none
    else
      (parts.mapM (readPart (readList depth) inHas kind)).map fun parts =>
        parts.foldr either never

/-- Reads a list of selectors. -/
def parse? (s : String) : Option Selector :=
  let ts := tokens s.toList
  readList (ts.length + 1) false .strict ts

end PageDirectives.Selector

import PageDirectives.Text.Basic

set_option autoImplicit false

/-! # Compounds

A compound is written `tag#id.class.class`, each part optional, `*` for any tag. It describes
an element of a sketch, and in a comma-separated list it selects elements.
-/

namespace PageDirectives

/-- A tag, an id and classes; the tag and the id may be left open. -/
structure Compound where
  tag : Option String
  id : Option String
  classes : List String
  deriving DecidableEq, Repr

namespace Compound

/-- The characters that open an id and a class. -/
def isMark (c : Char) : Bool := c == '#' || c == '.'

/-- The text in front of the first mark, and each mark with the text up to the next one. -/
def parts : List Char → List Char × List (Char × List Char)
  | [] => ([], [])
  | c :: s =>
    let (front, marked) := parts s
    if isMark c then ([], (c, front) :: marked) else (c :: front, marked)

/-- Reads a compound. Of several ids the last one counts. -/
def ofChars (s : List Char) : Compound :=
  let (front, marked) := parts s
  { tag := if front = [] ∨ front = ['*'] then none else some (.ofList front)
    id := ((marked.filter (·.1 == '#')).getLast?).map fun p => .ofList p.2
    classes := (marked.filter (·.1 == '.')).map fun p => .ofList p.2 }

def ofText (s : String) : Compound := ofChars s.toList

end Compound

end PageDirectives

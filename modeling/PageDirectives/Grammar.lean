set_option autoImplicit false

/-! # Grammar

The phrases that separate the parts of a directive line. A phrase is a plain text: it is found
wherever it occurs, inside a word or not, and its spaces belong to it.
-/

namespace PageDirectives

/-- The seven phrases a directive is written with. -/
structure Grammar where
  /-- Separates the selector from what its elements do. -/
  verb : String := " should "
  /-- Separates the actions from the interaction they wait for. -/
  preposition : String := " on "
  /-- May open the actions of a directive without interaction. -/
  auxiliary : String := " be "
  /-- Separates the actions of a directive without interaction from their options. -/
  options : String := " with "
  /-- Separates chained actions. -/
  conjunction : String := " and "
  /-- Opens a comment. -/
  comment : String := "//"
  /-- The interaction of a directive that runs as soon as it is read. -/
  loadSentinel : String := "load"
  deriving DecidableEq, Repr

/-- The phrases with the names they are configured under. -/
def Grammar.phrases (g : Grammar) : List (String × String) :=
  [("verb", g.verb), ("preposition", g.preposition), ("auxiliary", g.auxiliary),
   ("options", g.options), ("conjunction", g.conjunction), ("comment", g.comment),
   ("load_sentinel", g.loadSentinel)]

end PageDirectives

import PageDirectives.Text.Basic

set_option autoImplicit false

/-! # Directive source

Directives are written one on a line, in any number of blocks of text.
-/

namespace PageDirectives

/-- The trimmed lines of the blocks, block after block, without the blank ones. -/
def sourceLines (blocks : List String) : List String :=
  blocks.flatMap fun block => ((Text.lines block).map Text.trim).filter (· ≠ "")

theorem sourceLines_append (bs cs : List String) :
    sourceLines (bs ++ cs) = sourceLines bs ++ sourceLines cs := by
  simp [sourceLines]

end PageDirectives

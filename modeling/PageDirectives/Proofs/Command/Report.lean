import PageDirectives.Command.Check
import PageDirectives.Proofs.Command.Opening
import PageDirectives.Proofs.Engine.Batch
import PageDirectives.Proofs.Engine.Origin

set_option autoImplicit false

/-! # The report of a check

A check reads the scripts of a page and then the texts it is given, one after the other, on an engine
that has read nothing before (`Command.readAll_eq`). So its count is the number of directives there are
in the end, and its diagnostics are those of these readings. Directives that wait for an event have
elements to wait on, which is why exactly these have a line about their listeners
(`Command.listing_eq`).
-/

namespace PageDirectives.Command

open Engine (Op)

/-! ## What is read -/

variable {read : FileReader} {network : Network} {c : Config} {path : String} {e : Engine Page}

/-- What is listed of a directive: a line about it, and if it waits for an event one about its
listeners, of which there are as many as elements. -/
def entry (d : Directive) : List String :=
  ("  " ++ describe d) ::
    if d.isEventBound then ["    " ++ (toString d.bound.length ++ " listener(s)")] else []

end PageDirectives.Command

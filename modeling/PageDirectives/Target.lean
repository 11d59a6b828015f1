import PageDirectives.Host

set_option autoImplicit false

/-! # Targets

The elements an action works on are written as a token: `self` and `itself` name the element
the action runs for, `next` and `previous` its neighbours, and every other token is a selector.
A neighbour may be filtered by the argument written after the keyword.
-/

namespace PageDirectives

/-- The argument after the first argument equal to `token`. -/
def argumentAfter? (token : String) : List String → Option String
  | [] => none
  | arg :: args => if arg = token then args.head? else argumentAfter? token args

/-- The elements a token names. Keywords are relative to the first element of `origin`. -/
def findTarget {H : Type} [Host H] (h : H) (origin : List NodeId) (token : String)
    (args : List String) : List NodeId :=
  if token = "self" ∨ token = "itself" then origin.head?.toList
  else if token = "next" then
    (origin.head?.bind fun node => Host.nextSibling? h node (argumentAfter? token args)).toList
  else if token = "previous" then
    (origin.head?.bind fun node =>
      Host.previousSibling? h node (argumentAfter? token args)).toList
  else Host.select h token

end PageDirectives

import PageDirectives.Error

set_option autoImplicit false

/-! # Hosts

The engine works on any page that can answer questions about its elements and change them.
`Host` lists what it asks for; the engine never looks at a page in any other way. Elements are
named by numbers, which stay valid when an element is taken out of the page.
-/

namespace PageDirectives

/-- An element, by its number in the order of creation. -/
abbrev NodeId := Nat

/-- Element numbers are written in 32 bits. -/
def NodeId.ofIndex? (index : Nat) : Option NodeId :=
  if index < 0x100000000 then some index else none

/-- What the engine asks of a page of type `H`. Every change answers the changed page. -/
class Host (H : Type) where
  /-- A bound on the length of every chain of parents. -/
  depth : H → Nat
  /-- The elements that match a selector, in document order; none if it is not a selector. -/
  select : H → String → List NodeId
  /-- Whether an element matches a selector. -/
  isMatch : H → NodeId → String → Bool
  /-- The parent element. -/
  parent? : H → NodeId → Option NodeId
  /-- The next element under the same parent. -/
  next? : H → NodeId → Option NodeId
  /-- The previous element under the same parent. -/
  previous? : H → NodeId → Option NodeId
  isVisible : H → NodeId → Bool
  setVisible : H → NodeId → Bool → H
  hasClass : H → NodeId → String → Bool
  addClass : H → NodeId → String → H
  removeClass : H → NodeId → String → H
  /-- Gives an inline style property a value. -/
  setStyle : H → NodeId → String → String → H
  /-- Replaces the content of an element by markup. -/
  setInnerHtml : H → NodeId → String → Except DomError H
  navigate : H → String → H
  /-- The texts of the script blocks of a type, in document order. -/
  scriptBlocks : H → String → List String
  /-- Loads a resource; the page may keep a record of the request. -/
  fetch : H → String → Except LoadError String × H
  injectScript : H → String → H
  injectStylesheet : H → String → H

namespace Host

variable {H : Type} [Host H]

/-- The next element, if it matches the filter. The filter looks no further. -/
def nextSibling? (h : H) (node : NodeId) (filter : Option String) : Option NodeId :=
  (next? h node).filter fun sibling => filter.all (isMatch h sibling)

/-- The previous element, if it matches the filter. -/
def previousSibling? (h : H) (node : NodeId) (filter : Option String) : Option NodeId :=
  (previous? h node).filter fun sibling => filter.all (isMatch h sibling)

/-- At most `fuel` ancestors of a node, innermost first. -/
def climb (h : H) : Nat → NodeId → List NodeId
  | 0, _ => []
  | fuel + 1, node =>
    match parent? h node with
    | none => []
    | some parent => parent :: climb h fuel parent

/-- A node and its ancestors, innermost first: the way an event takes through the page. -/
def lineage (h : H) (node : NodeId) : List NodeId := node :: climb h (depth h) node

end Host

end PageDirectives

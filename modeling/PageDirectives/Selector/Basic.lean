import PageDirectives.Document.Query

set_option autoImplicit false

/-! # Selectors

A selector is a condition on an element and its surroundings. Conditions are put together from
tests on one element, and from steps to elements that stand in a relation to it: `a > b` is the
test `b` together with a step to a parent that passes the test `a`.
-/

namespace PageDirectives

/-- How the value of an attribute is compared. -/
inductive AttrRelation where
  | equal
  /-- One of the words of the value. -/
  | word
  /-- The value, or what stands in it in front of a dash. -/
  | dash
  | start
  | finish
  | inside
  deriving DecidableEq, Repr

/-- Whether the case of letters counts in the value of an attribute. -/
inductive CaseRule where
  | exact
  | fold
  /-- It does not count for some attributes of elements of pages. -/
  | byName
  deriving DecidableEq, Repr

structure AttrTest where
  /-- Whether attributes of all vocabularies are meant, or the plain ones only. -/
  anySpace : Bool := false
  name : String
  /-- What is asked of the value. -/
  value : Option (AttrRelation × String × CaseRule) := none
  deriving DecidableEq, Repr

/-- A test on one element among its siblings. -/
inductive ElementTest where
  | tag (name : String)
  | id (s : String)
  | hasClass (s : String)
  | attr (t : AttrTest)
  | root
  | empty
  /-- The place among the siblings, or those of the same tag, is `a * n + b` for some `n`. It
  is counted from 1, from the front or from the end. -/
  | nth (sameTag fromEnd : Bool) (a b : Int)
  deriving DecidableEq, Repr

/-- Where an element stands, as seen from another one. -/
inductive Relation where
  | ancestor
  | parent
  | previous
  | earlier
  deriving DecidableEq, Repr

inductive Selector where
  | always
  | never
  | test (t : ElementTest)
  | both (s t : Selector)
  | either (s t : Selector)
  | not (s : Selector)
  /-- Some element in a relation to this one passes. -/
  | related (r : Relation) (s : Selector)
  /-- Some element below this one, or after it, passes; `anchor` stands for this one. -/
  | has (s : Selector)
  /-- The element that the innermost `has` is asked for. -/
  | anchor
  deriving DecidableEq, Repr

/-! ## Attributes -/

/-- Attributes of pages whose values are compared without regard to the case of letters. -/
def foldedAttributes : List String := [
  "accept", "accept-charset", "align", "alink", "axis", "bgcolor", "charset", "checked",
  "clear", "codetype", "color", "compact", "declare", "defer", "dir", "direction", "disabled",
  "enctype", "face", "frame", "hreflang", "http-equiv", "lang", "language", "link", "media",
  "method", "multiple", "nohref", "noresize", "noshade", "nowrap", "readonly", "rel", "rev",
  "rules", "scope", "scrolling", "selected", "shape", "target", "text", "type", "valign",
  "valuetype", "vlink"]

/-- Compares the value of an attribute; the empty text is neither a word nor a part of it. -/
def AttrRelation.holds (r : AttrRelation) (value s : List Char) : Bool :=
  match r with
  | equal => value == s
  | word => s != [] && (value.splitOnP isAsciiBlank).contains s
  | dash => value == s || (s ++ ['-']).isPrefixOf value
  | start => s != [] && s.isPrefixOf value
  | finish => s != [] && s.isSuffixOf value
  | inside => s != [] && Chars.contains s value

namespace AttrTest

/-- Whether the case of letters in the value does not count for an element. -/
def folds (t : AttrTest) (isHtml : Bool) : CaseRule → Bool
  | .exact => false
  | .fold => true
  | .byName => isHtml && !t.anySpace && foldedAttributes.contains (Text.lower t.name)

def acceptsValue (t : AttrTest) (isHtml : Bool) (value : String) : Bool :=
  match t.value with
  | none => true
  | some (relation, s, rule) =>
    if t.folds isHtml rule then relation.holds (Chars.lower value.toList) (Chars.lower s.toList)
    else relation.holds value.toList s.toList

/-- Whether an element has an attribute that passes. The names of pages are in small letters. -/
def accepts (t : AttrTest) (e : Element) : Bool :=
  let isHtml := e.tag.space == .html
  let name := if isHtml then Text.lower t.name else t.name
  e.attrs.any fun a =>
    (t.anySpace || a.name.space == .plain) && a.name.name == name && t.acceptsValue isHtml a.value

end AttrTest

/-! ## Tests on one element -/

namespace Cursor

/-- The place of an element among its siblings, or those of the same tag, counted from 1. -/
def position (c : Cursor Node) (sameTag fromEnd : Bool) : Nat :=
  let others := if fromEnd then c.after else c.before
  let tag := c.element?.map Element.tag
  1 + others.countP fun s => s.isElement && (!sameTag || s.element?.map Element.tag == tag)

/-- Whether the element is right below the root of the document. -/
def isRoot (c : Cursor Node) : Bool := c.up?.any (·.content == .document)

/-- Whether there are neither elements nor texts right below. -/
def isEmpty (c : Cursor Node) : Bool :=
  c.down.all fun d => !d.isElement && d.content.text?.isNone

/-- The elements around the element, innermost first. -/
def ancestors (c : Cursor Node) : List (Cursor Node) :=
  go c.above
where
  go : List (Spot Node) → List (Cursor Node)
    | [] => []
    | s :: above => if s.label.content.isElement then ⟨s, above⟩ :: go above else []

end Cursor

/-- Whether `index` is `a * n + b` for some natural number `n`. -/
def isNth (a b : Int) (index : Nat) : Bool :=
  let d := (index : Int) - b
  d < 2147483648 && (if a = 0 then d == 0 else d % a == 0 && 0 ≤ d / a)

namespace ElementTest

/-- The classes that selectors see: the words of the attribute, split at ASCII white space. -/
def classesOf (e : Element) : List String :=
  match e.attrs.find? (·.name.name == "class") with
  | none => []
  | some a => ((a.value.toList.splitOnP isAsciiBlank).filter (· != [])).map String.ofList

/-- Whether an element passes; a node that is no element does not. -/
def accepts (t : ElementTest) (c : Cursor Node) : Bool :=
  match c.element? with
  | none => false
  | some e =>
    match t with
    | tag name => e.tag.name == if e.tag.space == .html then Text.lower name else name
    | id s => (e.attrs.find? (·.name.name == "id")).any (·.value == s)
    | hasClass s => (classesOf e).contains s
    | attr t => t.accepts e
    | root => c.isRoot
    | empty => c.isEmpty
    | nth sameTag fromEnd a b => isNth a b (c.position sameTag fromEnd)

end ElementTest

/-! ## Selectors -/

/-- The elements that stand in a relation to an element. -/
def Relation.reach (r : Relation) (c : Cursor Node) : List (Cursor Node) :=
  match r with
  | ancestor => c.ancestors
  | parent => c.parentElement?.toList
  | previous => c.previousElement?.toList
  | earlier => c.before.filter Cursor.isElement

namespace Selector

/-- Whether an element passes, with another one as the anchor. -/
def acceptsFrom (anchorId : Option NodeId) : Selector → Cursor Node → Bool
  | always, _ => true
  | never, _ => false
  | test t, c => t.accepts c
  | both s t, c => acceptsFrom anchorId s c && acceptsFrom anchorId t c
  | either s t, c => acceptsFrom anchorId s c || acceptsFrom anchorId t c
  | not s, c => !acceptsFrom anchorId s c
  | related r s, c => (r.reach c).any fun d => acceptsFrom anchorId s d
  | has s, c =>
    (c.below ++ c.after.flatMap fun d => d :: d.below).any fun d =>
      d.isElement && acceptsFrom (some c.id) s d
  | anchor, c => anchorId == some c.id

/-- Whether an element passes. -/
def accepts (s : Selector) (c : Cursor Node) : Bool := c.isElement && s.acceptsFrom none c

end Selector

end PageDirectives

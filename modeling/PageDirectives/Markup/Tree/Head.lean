import PageDirectives.Markup.Tree.Formatting

set_option autoImplicit false

/-! # Rules before the body

The rules for the start of a page and for its head. Text reaches the rules in runs: a run holds
blank characters only, or null characters only, or other characters only.
-/

namespace PageDirectives.Markup

def isBlankRun (s : List Char) : Bool := s.all isAsciiBlank

def isNullRun (s : List Char) : Bool := s.all (· == '\x00')

namespace Builder

/-- In front of everything. A page without a document type relies on old layout rules. -/
def initial (b : Builder) (t : Token) : Builder :=
  match t with
  | .comment s => b.commentUnder 0 s
  | .text s => if isBlankRun s then b else ({ b with oldRules := true }).retry .beforeHtml
  | _ => ({ b with oldRules := true }).retry .beforeHtml

/-- End tags that open what is missing in front of them; other ones are ignored there. -/
def endsEarly (name : String) : Bool := ["head", "body", "html", "br"].contains name

def beforeHtml (b : Builder) (t : Token) : Builder :=
  let other := (b.openNamed "html").retry .beforeHead
  match t with
  | .comment s => b.commentUnder 0 s
  | .text s => if isBlankRun s then b else other
  | .startTag tag => if tag.name == "html" then (b.openTag tag).setMode .beforeHead else other
  | .endTag name => if endsEarly name then other else b
  | _ => other

/-- A further `html` tag only adds attributes to the root. -/
def htmlTag (b : Builder) (tag : StartTag) : Builder :=
  match b.root? with
  | some root => if b.hasOpen "template" then b else b.addMissing root.id tag
  | none => b

def openHead (b : Builder) (tag : StartTag) : Builder :=
  let (b, o) := b.insertTag tag
  { b with head := some o }

def beforeHead (b : Builder) (t : Token) : Builder :=
  let other := (b.openHead { name := "head" }).retry .inHead
  match t with
  | .comment s => b.insertComment s
  | .text s => if isBlankRun s then b else other
  | .startTag tag =>
    if tag.name == "html" then b.htmlTag tag
    else if tag.name == "head" then (b.openHead tag).setMode .inHead
    else other
  | .endTag name => if endsEarly name then other else b
  | _ => other

def openTemplate (b : Builder) (tag : StartTag) : Builder :=
  let b := (b.addMarker.noFrameset).openTag tag
  { b with mode := .inTemplate, templateModes := .inTemplate :: b.templateModes }

/-- Closes a template: the mode goes back to that of the elements around it. -/
def leaveTemplate (b : Builder) : Builder :=
  let b := (b.popUntilNamed "template").clearToMarker
  let b := { b with templateModes := b.templateModes.drop 1 }
  b.setMode b.naturalMode

def endTemplate (b : Builder) : Builder :=
  if b.hasOpen "template" then (b.closeImplied impliedEndsOfTemplate).leaveTemplate else b

/-- The tags that are handled as in the head wherever they are. -/
def isHeadTag (name : String) : Bool :=
  ["base", "basefont", "bgsound", "link", "meta", "noframes", "script", "style", "template",
    "title"].contains name

/-- Handles a tag that is allowed in the head. -/
def headTag (b : Builder) (tag : StartTag) : Builder :=
  if ["base", "basefont", "bgsound", "link", "meta"].contains tag.name then b.insertVoid tag
  else if tag.name == "title" then b.openText tag (.escapable "title")
  else if tag.name == "script" then b.openText tag .script
  else if tag.name == "template" then b.openTemplate tag
  else b.openText tag (.raw tag.name)

def inHead (b : Builder) (t : Token) : Builder :=
  let other := b.pop.retry .afterHead
  match t with
  | .comment s => b.insertComment s
  | .text s => if isBlankRun s then b.insertText s else other
  | .startTag tag =>
    if tag.name == "html" then b.htmlTag tag
    else if isHeadTag tag.name || tag.name == "noscript" then b.headTag tag
    else if tag.name == "head" then b
    else other
  | .endTag name =>
    if name == "head" then b.pop.setMode .afterHead
    else if name == "template" then b.endTemplate
    else if endsEarly name then other
    else b
  | _ => other

/-- Handles a tag behind the head as if the head were still open. -/
def lateHeadTag (b : Builder) (tag : StartTag) : Builder :=
  match b.head with
  | none => b
  | some head => (({ b with stack := head :: b.stack }).headTag tag).dropOpen head.id

def afterHead (b : Builder) (t : Token) : Builder :=
  let other := (b.openNamed "body").retry .inBody
  match t with
  | .comment s => b.insertComment s
  | .text s => if isBlankRun s then b.insertText s else other
  | .startTag tag =>
    if tag.name == "html" then b.htmlTag tag
    else if tag.name == "body" then ((b.openTag tag).noFrameset).setMode .inBody
    else if tag.name == "frameset" then (b.openTag tag).setMode .inFrameset
    else if isHeadTag tag.name then b.lateHeadTag tag
    else if tag.name == "head" then b
    else other
  | .endTag name =>
    if name == "template" then b.endTemplate
    else if endsEarly name then other
    else b
  | _ => other

end Builder

end PageDirectives.Markup

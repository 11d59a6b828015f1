import PageDirectives.Markup.Tree.Foreign
import PageDirectives.Markup.Tree.Head

set_option autoImplicit false

/-! # Rules for the body

The rules for the content of a page. Start tags close what cannot stay open around them, and
end tags close what was left open inside of them.
-/

namespace PageDirectives.Markup

/-- Elements that close a paragraph when they begin. -/
def blockNames : List String := [
  "address", "article", "aside", "blockquote", "center", "details", "dialog", "dir", "div",
  "dl", "fieldset", "figcaption", "figure", "footer", "header", "hgroup", "main", "menu",
  "nav", "ol", "p", "search", "section", "summary", "ul"]

/-- Elements that end only with their own end tag, or with one around them. -/
def blockEnds : List String :=
  blockNames.filter (· != "p") ++ ["button", "listing", "pre", "select"]

def headings : List String := ["h1", "h2", "h3", "h4", "h5", "h6"]

def formattingNames : List String :=
  ["b", "big", "code", "em", "font", "i", "s", "small", "strike", "strong", "tt", "u"]

/-- Elements that hide the formatting around them from their content. -/
def islands : List String := ["applet", "marquee", "object"]

/-- Whether a tag makes an input field that is not shown. -/
def isHiddenInput (t : StartTag) : Bool :=
  (t.attrs.lookup "type").any (Text.sameFold · "hidden")

namespace Builder

/-- A further `body` tag only adds attributes to the body. -/
def bodyTag (b : Builder) (tag : StartTag) : Builder :=
  match b.body? with
  | some body => if b.hasOpen "template" then b else b.noFrameset.addMissing body.id tag
  | none => b

/-- Frames take the place of a body that holds nothing yet. -/
def lateFrameset (b : Builder) (tag : StartTag) : Builder :=
  match b.body? with
  | some body =>
    if b.framesetOk then
      let b := { b with
        document := b.document.detach body.id
        stack := b.stack.drop (b.stack.length - 1) }
      (b.openTag tag).setMode .inFrameset
    else b
  | none => b

/-- Begins an item of a list: an item that is open is closed, unless other elements than
addresses, divisions and paragraphs stand between. -/
def listItem (b : Builder) (names : List String) (tag : StartTag) : Builder :=
  let b := b.noFrameset
  let isWall (o : Open) : Bool := isSpecial o && !o.isOneOf ["address", "div", "p"]
  let b := match b.stack.find? fun o => o.isOneOf names || isWall o with
    | some o => if o.isOneOf names then b.close o.tag.name else b
    | none => b
  b.closeParagraph.openTag tag

def formTag (b : Builder) (tag : StartTag) : Builder :=
  let inTemplate := b.hasOpen "template"
  if b.form.isSome && !inTemplate then b
  else
    let (b, o) := b.closeParagraph.insertTag tag
    if inTemplate then b else { b with form := some o.id }

def endForm (b : Builder) : Builder :=
  if b.hasOpen "template" then
    if b.hasInScope "form" then (b.closeImplied impliedEnds).popUntilNamed "form" else b
  else
    match b.form with
    | none => b
    | some form =>
      let b := { b with form := none }
      if inScope (isBoundary []) (·.id == form) b.stack then
        (b.closeImplied impliedEnds).dropOpen form
      else b

/-- Closes an element of a name with what is open inside of it, if it is in scope. -/
def endBlock (b : Builder) (name : String) : Builder :=
  if b.hasInScope name then (b.closeImplied impliedEnds).popUntilNamed name else b

/-- Opens an element behind formatting elements that go on. -/
def openInline (b : Builder) (tag : StartTag) : Builder := b.reconstruct.openTag tag

/-- Closes a choice that is open where none can stand. -/
def endOpenSelect (b : Builder) : Builder :=
  if b.hasInScope "select" then b.popUntilNamed "select" else b

/-- A choice does not stand in another one: the tag of a second one closes the first. -/
def selectTag (b : Builder) (tag : StartTag) : Builder :=
  if b.hasInScope "select" then b.popUntilNamed "select" else (b.openInline tag).noFrameset

/-- Begins an option, or a group of options: the ones that are open are closed. -/
def optionTag (b : Builder) (tag : StartTag) : Builder :=
  let b := if b.hasInScope "select" then
      if tag.name == "option" then b.closeImpliedExcept "optgroup" else b.closeImplied impliedEnds
    else if b.currentIs ["option"] then b.pop
    else b
  b.openInline tag

/-- Handles a start tag in the body. -/
def bodyStart (b : Builder) (tag : StartTag) : Builder :=
  let name := tag.name
  let isOneOf (names : List String) : Bool := names.contains name
  if name == "html" then b.htmlTag tag
  else if isHeadTag name then b.headTag tag
  else if name == "body" then b.bodyTag tag
  else if name == "frameset" then b.lateFrameset tag
  else if isOneOf blockNames then b.closeParagraph.openTag tag
  else if isOneOf headings then
    let b := b.closeParagraph
    (if b.currentIs headings then b.pop else b).openTag tag
  else if isOneOf ["pre", "listing"] then
    { (b.closeParagraph.openTag tag).noFrameset with skipLineFeed := true }
  else if name == "form" then b.formTag tag
  else if name == "li" then b.listItem ["li"] tag
  else if isOneOf ["dd", "dt"] then b.listItem ["dd", "dt"] tag
  else if name == "plaintext" then { b.closeParagraph.openTag tag with lexing := .plain }
  else if name == "button" then
    let b := if b.hasInScope "button" then
      (b.closeImplied impliedEnds).popUntilNamed "button" else b
    (b.openInline tag).noFrameset
  else if name == "a" then b.endOpenLink.reconstruct.openFormatting tag
  else if isOneOf formattingNames then b.reconstruct.openFormatting tag
  else if name == "nobr" then
    let b := b.reconstruct
    let b := if b.hasInScope "nobr" then (b.endFormatting "nobr").reconstruct else b
    b.openFormatting tag
  else if isOneOf islands then ((b.openInline tag).addMarker).noFrameset
  else if name == "table" then
    let b := if b.oldRules then b else b.closeParagraph
    ((b.openTag tag).noFrameset).setMode .inTable
  else if isOneOf ["area", "br", "embed", "img", "keygen", "wbr"] then
    (b.reconstruct.insertVoid tag).noFrameset
  else if name == "image" then
    (b.reconstruct.insertVoid { tag with name := "img" }).noFrameset
  else if name == "input" then
    let b := b.endOpenSelect.reconstruct.insertVoid tag
    if isHiddenInput tag then b else b.noFrameset
  else if isOneOf ["param", "source", "track"] then b.insertVoid tag
  else if name == "hr" then
    let b := b.closeParagraph
    let b := if b.hasInScope "select" then b.closeImplied impliedEnds else b
    (b.insertVoid tag).noFrameset
  else if name == "textarea" then
    { b.noFrameset.openText tag (.escapable name) with skipLineFeed := true }
  else if name == "xmp" then
    b.closeParagraph.reconstruct.noFrameset.openText tag (.raw name)
  else if name == "iframe" then b.noFrameset.openText tag (.raw name)
  else if isOneOf ["noembed", "noscript"] then b.openText tag (.raw name)
  else if name == "select" then b.selectTag tag
  else if isOneOf ["optgroup", "option"] then b.optionTag tag
  else if isOneOf ["rb", "rtc"] then
    (if b.hasInScope "ruby" then b.closeImplied impliedEnds else b).openTag tag
  else if isOneOf ["rp", "rt"] then
    (if b.hasInScope "ruby" then b.closeImpliedExcept "rtc" else b).openTag tag
  else if name == "math" then b.reconstruct.openForeign .mathml tag
  else if name == "svg" then b.reconstruct.openForeign .svg tag
  else if isOneOf ["caption", "col", "colgroup", "frame", "head", "tbody", "td", "tfoot",
      "th", "thead", "tr"] then b
  else b.openInline tag

/-- Handles an end tag in the body. -/
def bodyEnd (b : Builder) (name : String) : Builder :=
  let isOneOf (names : List String) : Bool := names.contains name
  if name == "template" then b.endTemplate
  else if name == "body" then if b.hasInScope "body" then b.setMode .afterBody else b
  else if name == "html" then if b.hasInScope "body" then b.retry .afterBody else b
  else if isOneOf blockEnds then b.endBlock name
  else if name == "form" then b.endForm
  else if name == "p" then
    (if b.hasInButtonScope "p" then b else b.openNamed "p").close "p"
  else if name == "li" then if b.hasInListScope "li" then b.close "li" else b
  else if isOneOf ["dd", "dt"] then if b.hasInScope name then b.close name else b
  else if isOneOf headings then
    if inScope (isBoundary []) (·.isOneOf headings) b.stack then
      (b.closeImplied impliedEnds).popUntil (·.isOneOf headings)
    else b
  else if name == "a" || name == "nobr" || isOneOf formattingNames then b.endFormatting name
  else if isOneOf islands then
    if b.hasInScope name then (b.endBlock name).clearToMarker else b
  else if name == "br" then b.bodyStart { name }
  else b.closeOrdinary name

/-- The input ends in a template: it is closed, and the end reaches the mode around it. -/
def endOfTemplate (b : Builder) : Builder :=
  if b.hasOpen "template" then
    let b := b.leaveTemplate
    b.retry b.mode
  else b

def inBody (b : Builder) (t : Token) : Builder :=
  match t with
  | .text s =>
    if isNullRun s then b
    else
      let b := b.reconstruct.insertText s
      if isBlankRun s then b else b.noFrameset
  | .comment s => b.insertComment s
  | .startTag tag => b.bodyStart tag
  | .endTag name => b.bodyEnd name
  | .endOfInput => if b.templateModes.isEmpty then b else b.endOfTemplate
  | .doctype _ => b

/-- The content of an element that holds text. -/
def inText (b : Builder) (t : Token) : Builder :=
  match t with
  | .text s => b.insertText s
  | .endOfInput => { b.pop.retry b.returnMode with lexing := .markup }
  | _ => { b.pop.setMode b.returnMode with lexing := .markup }

def afterBody (b : Builder) (t : Token) : Builder :=
  let other := b.retry .inBody
  match t with
  | .comment s =>
    match b.root? with
    | some root => b.commentUnder root.id s
    | none => b
  | .text s => if isBlankRun s then b.inBody t else other
  | .startTag tag => if tag.name == "html" then b.htmlTag tag else other
  | .endTag name =>
    if name == "html" then if b.isFragment then b else b.setMode .afterAfterBody
    else other
  | .endOfInput => b
  | .doctype _ => b

def afterAfterBody (b : Builder) (t : Token) : Builder :=
  let other := b.retry .inBody
  match t with
  | .comment s => b.commentUnder 0 s
  | .text s => if isBlankRun s then b.inBody t else other
  | .startTag tag => if tag.name == "html" then b.htmlTag tag else other
  | .endTag _ => other
  | .endOfInput => b
  | .doctype _ => b

end Builder

end PageDirectives.Markup

import PageDirectives.Markup.Tree.Body

set_option autoImplicit false

/-! # Rules for tables, templates and frames

What does not belong into a table goes in front of it. A template takes on the mode of its
first tag.
-/

namespace PageDirectives.Markup

namespace Builder

/-! ## Tables -/

/-- Handles a token as in the body, and puts what it makes in front of the table. -/
def foster (b : Builder) (t : Token) : Builder :=
  { ({ b with fostering := true }).inBody t with fostering := false }

/-- Begins a part of a table: what is open in the part `within` is closed. -/
def openPart (b : Builder) (within : List String) (tag : StartTag) : Builder :=
  (b.popDownTo (within ++ ["template", "html"])).openTag tag

/-- Closes a part of a table. -/
def closePart (b : Builder) (within : List String) : Builder :=
  (b.popDownTo (within ++ ["template", "html"])).pop

def tableParts : List String := ["tbody", "tfoot", "thead"]

/-- Start tags that only make sense in a table. -/
def tableTags : List String :=
  ["caption", "col", "colgroup", "tbody", "td", "tfoot", "th", "thead", "tr"]

/-- Closes the table, if one is open. -/
def endTable (b : Builder) : Builder :=
  if b.hasInTableScope ["table"] then
    let b := b.popUntilNamed "table"
    b.setMode b.naturalMode
  else b

def inTable (b : Builder) (t : Token) : Builder :=
  match t with
  | .text _ =>
    if b.currentIs ["table", "tbody", "tfoot", "thead", "tr"] then
      { b.retry .inTableText with returnMode := b.mode }
    else b.foster t
  | .comment s => b.insertComment s
  | .startTag tag =>
    let name := tag.name
    let within := ["table"]
    if name == "caption" then
      ((b.popDownTo (within ++ ["template", "html"])).addMarker.openTag tag).setMode .inCaption
    else if name == "colgroup" then (b.openPart within tag).setMode .inColumnGroup
    else if name == "col" then (b.openPart within { name := "colgroup" }).retry .inColumnGroup
    else if tableParts.contains name then (b.openPart within tag).setMode .inTableBody
    else if ["td", "th", "tr"].contains name then
      (b.openPart within { name := "tbody" }).retry .inTableBody
    else if name == "table" then
      if b.hasInTableScope ["table"] then
        let b := b.endTable
        b.retry b.mode
      else b
    else if ["style", "script", "template"].contains name then b.headTag tag
    else if name == "input" && isHiddenInput tag then b.insertVoid tag
    else if name == "form" then
      if b.form.isSome || b.hasOpen "template" then b
      else
        let (b, o) := b.insertTag tag
        { b.pop with form := some o.id }
    else b.foster t
  | .endTag name =>
    if name == "table" then b.endTable
    else if name == "template" then b.endTemplate
    else if name == "body" || name == "html" || tableTags.contains name then b
    else b.foster t
  | .endOfInput => b.inBody t
  | .doctype _ => b

/-- Text in a table is kept back until it ends. It may stay if it is blank. -/
def inTableText (b : Builder) (t : Token) : Builder :=
  match t with
  | .text s => if isNullRun s then b else { b with tableText := b.tableText ++ [s] }
  | _ =>
    let text := b.tableText
    let b := { b with tableText := [] }
    let b := if text.all isBlankRun then text.foldl insertText b
      else text.foldl (fun b s => b.foster (.text s)) b
    b.retry b.returnMode

def inCaption (b : Builder) (t : Token) : Builder :=
  let leave (f : Builder → Builder) : Builder :=
    if b.hasInTableScope ["caption"] then
      f ((b.closeImplied impliedEnds).popUntilNamed "caption").clearToMarker
    else b
  match t with
  | .startTag tag => if tableTags.contains tag.name then leave (·.retry .inTable) else b.inBody t
  | .endTag name =>
    if name == "caption" then leave (·.setMode .inTable)
    else if name == "table" then leave (·.retry .inTable)
    else if name == "body" || name == "html" || tableTags.contains name then b
    else b.inBody t
  | _ => b.inBody t

def inColumnGroup (b : Builder) (t : Token) : Builder :=
  let other := if b.currentIs ["colgroup"] then b.pop.retry .inTable else b
  match t with
  | .comment s => b.insertComment s
  | .text s => if isBlankRun s then b.insertText s else other
  | .startTag tag =>
    if tag.name == "html" then b.htmlTag tag
    else if tag.name == "col" then b.insertVoid tag
    else if tag.name == "template" then b.headTag tag
    else other
  | .endTag name =>
    if name == "colgroup" then
      if b.currentIs ["colgroup"] then b.pop.setMode .inTable else b
    else if name == "col" then b
    else if name == "template" then b.endTemplate
    else other
  | .endOfInput => b.inBody t
  | .doctype _ => b

def inTableBody (b : Builder) (t : Token) : Builder :=
  let leave : Builder :=
    if b.hasInTableScope tableParts then (b.closePart tableParts).retry .inTable else b
  match t with
  | .startTag tag =>
    if tag.name == "tr" then (b.openPart tableParts tag).setMode .inRow
    else if tag.name == "td" || tag.name == "th" then
      (b.openPart tableParts { name := "tr" }).retry .inRow
    else if tableTags.contains tag.name then leave
    else b.inTable t
  | .endTag name =>
    if tableParts.contains name then
      if b.hasInTableScope [name] then (b.closePart tableParts).setMode .inTable else b
    else if name == "table" then leave
    else if name == "body" || name == "html" || tableTags.contains name then b
    else b.inTable t
  | _ => b.inTable t

def inRow (b : Builder) (t : Token) : Builder :=
  let within := ["tr"]
  let leave : Builder :=
    if b.hasInTableScope within then (b.closePart within).retry .inTableBody else b
  match t with
  | .startTag tag =>
    if tag.name == "td" || tag.name == "th" then
      ((b.openPart within tag).setMode .inCell).addMarker
    else if tableTags.contains tag.name then leave
    else b.inTable t
  | .endTag name =>
    if name == "tr" then
      if b.hasInTableScope within then (b.closePart within).setMode .inTableBody else b
    else if name == "table" then leave
    else if tableParts.contains name then if b.hasInTableScope [name] then leave else b
    else if name == "body" || name == "html" || tableTags.contains name then b
    else b.inTable t
  | _ => b.inTable t

/-- Closes the cell that is open. -/
def closeCell (b : Builder) : Builder :=
  ((b.closeImplied impliedEnds).popUntil (·.isOneOf ["td", "th"])).clearToMarker

def inCell (b : Builder) (t : Token) : Builder :=
  match t with
  | .startTag tag =>
    if tableTags.contains tag.name then
      if b.hasInTableScope ["td", "th"] then b.closeCell.retry .inRow else b
    else b.inBody t
  | .endTag name =>
    if name == "td" || name == "th" then
      if b.hasInTableScope [name] then
        (((b.closeImplied impliedEnds).popUntilNamed name).clearToMarker).setMode .inRow
      else b
    else if ["body", "caption", "col", "colgroup", "html"].contains name then b
    else if name == "table" || name == "tr" || tableParts.contains name then
      if b.hasInTableScope [name] then b.closeCell.retry .inRow else b
    else b.inBody t
  | _ => b.inBody t

/-! ## Templates -/

/-- The template goes on in the mode of its first tag. -/
def turnTemplate (b : Builder) (mode : Mode) : Builder :=
  { b.retry mode with templateModes := mode :: b.templateModes.drop 1 }

def inTemplate (b : Builder) (t : Token) : Builder :=
  match t with
  | .text _ | .comment _ => b.inBody t
  | .startTag tag =>
    let name := tag.name
    if isHeadTag name then b.headTag tag
    else if ["caption", "colgroup", "tbody", "tfoot", "thead"].contains name then
      b.turnTemplate .inTable
    else if name == "col" then b.turnTemplate .inColumnGroup
    else if name == "tr" then b.turnTemplate .inTableBody
    else if name == "td" || name == "th" then b.turnTemplate .inRow
    else b.turnTemplate .inBody
  | .endTag name => if name == "template" then b.endTemplate else b
  | .endOfInput => b.endOfTemplate
  | .doctype _ => b

/-! ## Frames -/

def inFrameset (b : Builder) (t : Token) : Builder :=
  match t with
  | .comment s => b.insertComment s
  | .text s => if isBlankRun s then b.insertText s else b
  | .startTag tag =>
    if tag.name == "html" then b.htmlTag tag
    else if tag.name == "frameset" then b.openTag tag
    else if tag.name == "frame" then b.insertVoid tag
    else if tag.name == "noframes" then b.headTag tag
    else b
  | .endTag name =>
    if name == "frameset" && 1 < b.stack.length then
      let b := b.pop
      if b.isFragment || b.currentIs ["frameset"] then b else b.setMode .afterFrameset
    else b
  | _ => b

def afterFrameset (b : Builder) (t : Token) : Builder :=
  match t with
  | .comment s => b.insertComment s
  | .text s => if isBlankRun s then b.insertText s else b
  | .startTag tag =>
    if tag.name == "html" then b.htmlTag tag
    else if tag.name == "noframes" then b.headTag tag
    else b
  | .endTag name => if name == "html" then b.setMode .afterAfterFrameset else b
  | _ => b

def afterAfterFrameset (b : Builder) (t : Token) : Builder :=
  match t with
  | .comment s => b.commentUnder 0 s
  | .text s => if isBlankRun s then b.inBody t else b
  | .startTag tag =>
    if tag.name == "html" then b.htmlTag tag
    else if tag.name == "noframes" then b.headTag tag
    else b
  | _ => b

end Builder

end PageDirectives.Markup

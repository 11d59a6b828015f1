import PageDirectives.Document.Query

set_option autoImplicit false

/-! # Writing markup

A document as markup. In text the characters with a meaning are written as references, except in
elements whose content is not markup. Elements that never have content are written without
an end tag and without what is below them, but for text.
-/

namespace PageDirectives.Markup

/-- A character of a text. -/
def escapeChar (c : Char) : String :=
  if c = '&' then "&amp;" else if c = '<' then "&lt;" else if c = '>' then "&gt;"
  else if c = '\u00A0' then "&nbsp;" else String.singleton c

/-- A character of the value of an attribute. -/
def escapeAttrChar (c : Char) : String :=
  if c = '&' then "&amp;" else if c = '"' then "&quot;"
  else if c = '\u00A0' then "&nbsp;" else String.singleton c

def escape (s : String) : String := String.join (s.toList.map escapeChar)

def escapeAttr (s : String) : String := String.join (s.toList.map escapeAttrChar)

/-- Elements without content. -/
def voidNames : List String := [
  "area", "base", "basefont", "bgsound", "br", "col", "embed", "frame", "hr", "img", "input",
  "keygen", "link", "meta", "param", "source", "track", "wbr"]

/-- Elements whose text is written as it is. -/
def rawNames : List String :=
  ["style", "script", "xmp", "iframe", "noembed", "noframes", "plaintext"]

def writeAttr (a : Attr) : String := " " ++ a.name.written ++ "=\"" ++ escapeAttr a.value ++ "\""

def writeStart (e : Element) : String :=
  "<" ++ e.tag.name ++ String.join (e.attrs.map writeAttr) ++ ">"

def writeEnd (e : Element) : String := "</" ++ e.tag.name ++ ">"

def isVoid (e : Element) : Bool := e.tag.space == .html && voidNames.contains e.tag.name

def isRaw (t : Tag) : Bool := t.space == .html && rawNames.contains t.name

/-- Writes trees that stand in an element of a tag. Inside of an element without content
`bare` holds: of the elements there nothing is written but their text. -/
def write (parent : Option Tag) (bare : Bool) : Forest Node → String
  | .nil => ""
  | .node n children rest =>
    let here := match n.content with
      | .document | .fragment => write parent bare children
      | .doctype name => "<!DOCTYPE " ++ name ++ ">"
      | .comment s => "<!--" ++ s ++ "-->"
      | .text s => if parent.any isRaw then s else escape s
      | .element e =>
        let inside := write (some e.tag) (bare || isVoid e) children
        if bare then inside
        else if isVoid e then writeStart e ++ inside
        else writeStart e ++ inside ++ writeEnd e
    here ++ write parent bare rest

end PageDirectives.Markup

namespace PageDirectives.Document

/-- The whole document. -/
def toHtml (d : Document) : String :=
  ((d.cursor? root).map fun c =>
    Markup.write none false (.tree c.here.label c.here.children)).getD ""

/-- An element with what is below it. -/
def outerHtml (d : Document) (id : NodeId) : String :=
  (((d.cursor? id).filter Cursor.isElement).map fun c =>
    Markup.write none false (.tree c.here.label c.here.children)).getD ""

/-- What is below an element. Its text is written as that of an ordinary element. -/
def innerHtml (d : Document) (id : NodeId) : String :=
  (((d.cursor? id).filter Cursor.isElement).map fun c =>
    Markup.write none false c.here.children).getD ""

end PageDirectives.Document

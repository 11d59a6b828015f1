import PageDirectives.Markup.Tree.Formatting

set_option autoImplicit false

/-! # Foreign vocabularies

Drawings and formulas have vocabularies of their own. Some of their names have capital letters,
which tags have lost and get back here, and some of their attributes belong to further
vocabularies.
-/

namespace PageDirectives.Markup

/-- The names of elements of drawings that have capital letters. -/
def drawingNames : List String := [
  "altGlyph", "altGlyphDef", "altGlyphItem", "animateColor", "animateMotion",
  "animateTransform", "clipPath", "feBlend", "feColorMatrix", "feComponentTransfer",
  "feComposite", "feConvolveMatrix", "feDiffuseLighting", "feDisplacementMap",
  "feDistantLight", "feDropShadow", "feFlood", "feFuncA", "feFuncB", "feFuncG", "feFuncR",
  "feGaussianBlur", "feImage", "feMerge", "feMergeNode", "feMorphology", "feOffset",
  "fePointLight", "feSpecularLighting", "feSpotLight", "feTile", "feTurbulence",
  "foreignObject", "glyphRef", "linearGradient", "radialGradient", "textPath"]

/-- The names of attributes of drawings that have capital letters. -/
def drawingAttributes : List String := [
  "attributeName", "attributeType", "baseFrequency", "baseProfile", "calcMode",
  "clipPathUnits", "diffuseConstant", "edgeMode", "filterUnits", "glyphRef",
  "gradientTransform", "gradientUnits", "kernelMatrix", "kernelUnitLength", "keyPoints",
  "keySplines", "keyTimes", "lengthAdjust", "limitingConeAngle", "markerHeight",
  "markerUnits", "markerWidth", "maskContentUnits", "maskUnits", "numOctaves", "pathLength",
  "patternContentUnits", "patternTransform", "patternUnits", "pointsAtX", "pointsAtY",
  "pointsAtZ", "preserveAlpha", "preserveAspectRatio", "primitiveUnits", "refX", "refY",
  "repeatCount", "repeatDur", "requiredExtensions", "requiredFeatures", "specularConstant",
  "specularExponent", "spreadMethod", "startOffset", "stdDeviation", "stitchTiles",
  "surfaceScale", "systemLanguage", "tableValues", "targetX", "targetY", "textLength",
  "viewBox", "viewTarget", "xChannelSelector", "yChannelSelector", "zoomAndPan"]

/-- The name in the list that differs at most in the case of letters. -/
def recase (names : List String) (name : String) : String :=
  (names.find? fun n => Text.lower n == name).getD name

/-- The vocabularies that attributes of foreign elements can name in front of a colon. -/
def foreignAttribute? (name : String) : Option AttrName :=
  match (name.toList.splitOn ':').map String.ofList with
  | ["xmlns"] => some ⟨.xmlns, "xmlns"⟩
  | ["xmlns", "xlink"] => some ⟨.xmlns, "xlink"⟩
  | ["xml", n] => if n == "lang" || n == "space" then some ⟨.xml, n⟩ else none
  | ["xlink", n] =>
    if ["actuate", "arcrole", "href", "role", "show", "title", "type"].contains n then
      some ⟨.xlink, n⟩
    else none
  | _ => none

/-- The attributes of a tag that makes an element of a vocabulary. -/
def foreignAttrs (space : Space) (t : StartTag) : List Attr :=
  t.attrs.map fun (name, value) =>
    let name' := match space with
      | .svg => recase drawingAttributes name
      | .mathml => if name == "definitionurl" then "definitionURL" else name
      | .html => name
    ⟨(foreignAttribute? name).getD { name := name' }, value⟩

/-- Tags that cannot stand in a foreign vocabulary and close it. -/
def leavesForeign (t : StartTag) : Bool :=
  ["b", "big", "blockquote", "body", "br", "center", "code", "dd", "div", "dl", "dt", "em",
    "embed", "h1", "h2", "h3", "h4", "h5", "h6", "head", "hr", "i", "img", "li", "listing",
    "menu", "meta", "nobr", "ol", "p", "pre", "ruby", "s", "small", "span", "strong", "strike",
    "sub", "sup", "table", "tt", "u", "ul", "var"].contains t.name
  || (t.name == "font" && t.attrs.any fun a => ["color", "face", "size"].contains a.1)

namespace Builder

/-- Opens an element of a foreign vocabulary; a tag that closes itself leaves it empty. -/
def openForeign (b : Builder) (space : Space) (t : StartTag) : Builder :=
  let name := match space with
    | .svg => recase drawingNames t.name
    | _ => t.name
  let b := (b.insertElement ⟨space, name⟩ (foreignAttrs space t)).1
  if t.selfClosing then b.pop else b

/-- Whether the innermost element belongs to a foreign vocabulary. -/
def inForeign (b : Builder) : Bool := b.stack.head?.any (·.tag.space != .html)

/-- Whether a token is handled by the rules for foreign vocabularies. -/
def isForeign (b : Builder) (t : Token) : Bool :=
  match b.stack with
  | [] => false
  | o :: _ =>
    let text := match t with
      | .text _ => true
      | _ => false
    match o.tag.space, t with
    | .html, _ => false
    | _, .endOfInput => false
    | .mathml, .startTag tag =>
      !(isMathText o.tag && tag.name ∉ ["mglyph", "malignmark"])
        && !(o.tag.name == "annotation-xml" && tag.name == "svg")
    | .svg, .startTag _ => !isDrawnHtml o.tag
    | _, _ => !(text && (isMathText o.tag || isDrawnHtml o.tag))

/-- Closes elements until one is reached in which elements of the page can stand. -/
def leaveForeign (b : Builder) : Builder :=
  { b with stack := b.stack.dropWhile fun o =>
      o.tag.space != .html && !isMathText o.tag && !isDrawnHtml o.tag }

/-- Handles an end tag: `rules` are those for the page, which take over at the first element
of the page. The innermost element is not asked, and the root never is closed. -/
def foreignEnd (b : Builder) (rules : Builder → Builder) (name : String) (innermost : Bool) :
    List Open → Builder
  | [] | [_] => b
  | o :: os =>
    if !innermost && o.tag.space == .html then rules b
    else if Text.sameFold o.tag.name name then b.popUntil (·.id == o.id)
    else foreignEnd b rules name false os

/-- Handles a token inside of a foreign element, with `rules` as those for the page. -/
def foreign (b : Builder) (rules : Builder → Token → Builder) (t : Token) : Builder :=
  match t with
  | .text s =>
    if s.all (· == '\x00') then b.insertText (s.map fun _ => '\uFFFD')
    else if s.all isAsciiBlank then b.insertText s
    else b.noFrameset.insertText s
  | .comment s => b.insertComment s
  | .startTag tag =>
    if leavesForeign tag then rules b.leaveForeign t
    else b.openForeign ((b.stack.head?.map (·.tag.space)).getD .html) tag
  | .endTag name =>
    if name == "br" || name == "p" then rules b.leaveForeign t
    else b.foreignEnd (rules · t) name true b.stack
  | _ => b

end Builder

end PageDirectives.Markup

import PageDirectives.Markup.Token.Lexer
import PageDirectives.Markup.Tree.Table

set_option autoImplicit false

/-! # Reading markup

`Document.parse` reads a page and `Document.parseFragment` reads what can stand in the body of
a page. Markup of any kind is read: every text gives a document.
-/

namespace PageDirectives.Markup

namespace Builder

/-- The rules of a mode. -/
def rules (b : Builder) (t : Token) : Builder :=
  match b.mode with
  | .initial => b.initial t
  | .beforeHtml => b.beforeHtml t
  | .beforeHead => b.beforeHead t
  | .inHead => b.inHead t
  | .afterHead => b.afterHead t
  | .inBody => b.inBody t
  | .text => b.inText t
  | .inTable => b.inTable t
  | .inTableText => b.inTableText t
  | .inCaption => b.inCaption t
  | .inColumnGroup => b.inColumnGroup t
  | .inTableBody => b.inTableBody t
  | .inRow => b.inRow t
  | .inCell => b.inCell t
  | .inTemplate => b.inTemplate t
  | .afterBody => b.afterBody t
  | .inFrameset => b.inFrameset t
  | .afterFrameset => b.afterFrameset t
  | .afterAfterBody => b.afterAfterBody t
  | .afterAfterFrameset => b.afterAfterFrameset t

/-- Handles a token until it is not put off any more. Every round but a few closes an element,
so that `fuel` bounds the rounds. -/
def settle (b : Builder) (t : Token) : Nat → Builder
  | 0 => b
  | fuel + 1 =>
    let b := { b with again := false }
    let b := if b.isForeign t then b.foreign rules t else b.rules t
    if b.again then b.settle t fuel else b

def handle (b : Builder) (t : Token) : Builder := b.settle t (8 * b.stack.length + 32)

/-- The document type counts in front of everything else only. -/
def handleDoctype (b : Builder) (d : Doctype) : Builder :=
  if b.mode = .initial then
    { b with
      document := (b.document.createUnder 0 (.doctype (d.name.getD ""))).1
      oldRules := d.asksForOldRules
      mode := .beforeHtml }
  else b

/-- The kinds of runs that rules tell apart. -/
def runKind (c : Char) : Nat := if c = '\x00' then 0 else if isAsciiBlank c then 1 else 2

/-- A text in runs of characters of one kind. -/
def runs (s : List Char) : List (List Char) := s.splitBy fun c d => runKind c == runKind d

/-- Takes in a token as it was read. -/
def take (b : Builder) (t : Token) : Builder :=
  let skip := b.skipLineFeed
  let b' := { b with skipLineFeed := false }
  match t with
  | .text [] => b
  | .text s =>
    (runs (if skip && s.head? = some '\n' then s.tail else s)).foldl
      (fun b run => b.handle (.text run)) b'
  | .doctype d => b'.handleDoctype d
  | _ => b'.handle t

/-- Reads tokens up to the end of the input. -/
def readAll (b : Builder) (s : List Char) : Builder :=
  match Token.read b.inForeign b.lexing s with
  | (.endOfInput, _) => b.take .endOfInput
  | (t, rest) =>
    if _h : rest.length < s.length then (b.take t).readAll rest
    else b.take t
termination_by s.length

end Builder

end Markup

namespace Document

/-- Reads a page. -/
def parse (markup : String) : Document :=
  let b : Markup.Builder := { document := ofRoot .document, mode := .initial }
  (b.readAll (Markup.normalizeInput markup.toList)).document

/-- Reads what can stand in a body. The nodes that were read are the children of the one
element below the root. The element in whose context they were read is a tree of its own. -/
def parseFragment (markup : String) : Document :=
  let (document, _) := (ofRoot .fragment).create (.element (.ofAttrs { name := "body" } []))
  let b : Markup.Builder := { document, mode := .inBody, isFragment := true }
  ((b.openNamed "html").readAll (Markup.normalizeInput markup.toList)).document

/-- Reads markup and adds its nodes to a node, behind its children. -/
def appendHtml (d : Document) (target : NodeId) (markup : String) : Document :=
  if (d.content? target).isNone then d
  else
    let fragment := parseFragment markup
    let wrapper := (fragment.children 0).find? (·.content.isElement)
    let parsed := (wrapper.map fun w => fragment.children w.id).getD []
    (d.absorb fragment).moveAll target (parsed.map fun n => d.size + n.id)

/-- Takes the children of a node away and puts markup in their place. -/
def replaceChildren (d : Document) (target : NodeId) (markup : String) : Document :=
  if (d.content? target).isNone then d
  else ((d.children target).foldl (fun d n => d.detach n.id) d).appendHtml target markup

end Document

end PageDirectives

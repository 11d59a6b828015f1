import PageDirectives.Text.Basic

set_option autoImplicit false

/-! # Tokens of markup

Markup is a row of tags, texts, comments and document types. A tag keeps its name and the names
of its attributes in small letters, and of several attributes of one name only the first.
-/

namespace PageDirectives.Markup

/-- A start tag. -/
structure StartTag where
  name : String
  attrs : List (String × String) := []
  selfClosing : Bool := false
  deriving DecidableEq, Repr

/-- A document type, as far as it was written. It is `broken` if it was written wrongly. -/
structure Doctype where
  name : Option String := none
  publicId : Option String := none
  systemId : Option String := none
  broken : Bool := false
  deriving DecidableEq, Repr

inductive Token where
  | text (s : List Char)
  | comment (s : String)
  | doctype (d : Doctype)
  | startTag (t : StartTag)
  | endTag (name : String)
  | endOfInput
  deriving DecidableEq, Repr

/-- How the text in front is read. The end of an element whose content is not markup is its
own end tag. -/
inductive Lexing where
  | markup
  /-- Text in which references are replaced. -/
  | escapable (element : String)
  | raw (element : String)
  /-- The text of a script, in which a comment can hide an end tag. -/
  | script
  /-- Text up to the end of the input. -/
  | plain
  deriving DecidableEq, Repr

namespace Doctype

/-- Beginnings of public identifiers of pages that rely on old layout rules. -/
def oldPublicIds : List String := [
  "-//advasoft ltd//dtd html 3.0 aswedit + extensions//",
  "-//as//dtd html 3.0 aswedit + extensions//",
  "-//ietf//dtd html 2.0 level 1//",
  "-//ietf//dtd html 2.0 level 2//",
  "-//ietf//dtd html 2.0 strict level 1//",
  "-//ietf//dtd html 2.0 strict level 2//",
  "-//ietf//dtd html 2.0 strict//",
  "-//ietf//dtd html 2.0//",
  "-//ietf//dtd html 2.1e//",
  "-//ietf//dtd html 3.0//",
  "-//ietf//dtd html 3.2 final//",
  "-//ietf//dtd html 3.2//",
  "-//ietf//dtd html 3//",
  "-//ietf//dtd html level 0//",
  "-//ietf//dtd html level 1//",
  "-//ietf//dtd html level 2//",
  "-//ietf//dtd html level 3//",
  "-//ietf//dtd html strict level 0//",
  "-//ietf//dtd html strict level 1//",
  "-//ietf//dtd html strict level 2//",
  "-//ietf//dtd html strict level 3//",
  "-//ietf//dtd html strict//",
  "-//ietf//dtd html//",
  "-//metrius//dtd metrius presentational//",
  "-//microsoft//dtd internet explorer 2.0 html strict//",
  "-//microsoft//dtd internet explorer 2.0 html//",
  "-//microsoft//dtd internet explorer 2.0 tables//",
  "-//microsoft//dtd internet explorer 3.0 html strict//",
  "-//microsoft//dtd internet explorer 3.0 html//",
  "-//microsoft//dtd internet explorer 3.0 tables//",
  "-//netscape comm. corp.//dtd html//",
  "-//netscape comm. corp.//dtd strict html//",
  "-//o'reilly and associates//dtd html 2.0//",
  "-//o'reilly and associates//dtd html extended 1.0//",
  "-//o'reilly and associates//dtd html extended relaxed 1.0//",
  "-//softquad software//dtd hotmetal pro 6.0::19990601::extensions to html 4.0//",
  "-//softquad//dtd hotmetal pro 4.0::19971010::extensions to html 4.0//",
  "-//spyglass//dtd html 2.0 extended//",
  "-//sq//dtd html 2.0 hotmetal + extensions//",
  "-//sun microsystems corp.//dtd hotjava html//",
  "-//sun microsystems corp.//dtd hotjava strict html//",
  "-//w3c//dtd html 3 1995-03-24//",
  "-//w3c//dtd html 3.2 draft//",
  "-//w3c//dtd html 3.2 final//",
  "-//w3c//dtd html 3.2//",
  "-//w3c//dtd html 3.2s draft//",
  "-//w3c//dtd html 4.0 frameset//",
  "-//w3c//dtd html 4.0 transitional//",
  "-//w3c//dtd html experimental 19960712//",
  "-//w3c//dtd html experimental 970421//",
  "-//w3c//dtd w3 html//",
  "-//w3o//dtd w3 html 3.0//",
  "-//webtechs//dtd mozilla html 2.0//",
  "-//webtechs//dtd mozilla html//"]

/-- Beginnings of public identifiers that count as old only without a system identifier. -/
def olderWithoutSystem : List String := [
  "-//w3c//dtd html 4.01 frameset//",
  "-//w3c//dtd html 4.01 transitional//"]

/-- Whether the page relies on old layout rules. -/
def asksForOldRules (d : Doctype) : Bool :=
  let publicId := Text.lower (d.publicId.getD "")
  let systemId := Text.lower (d.systemId.getD "")
  d.broken || d.name != some "html"
    || ["-//w3o//dtd w3 html strict 3.0//en//", "-/w3c/dtd html 4.0 transitional/en",
        "html"].contains publicId
    || systemId == "http://www.ibm.com/data/dtd/v11/ibmxhtml1-transitional.dtd"
    || oldPublicIds.any (Text.startsWith · publicId)
    || (d.systemId.isNone && olderWithoutSystem.any (Text.startsWith · publicId))

end Doctype

end PageDirectives.Markup

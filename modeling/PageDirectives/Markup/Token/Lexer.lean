import PageDirectives.Markup.Reference.Basic
import PageDirectives.Markup.Token.Basic

set_option autoImplicit false

/-! # Reading tokens

`Token.read` reads the next token in front of a text and answers what is left of it. There is
no markup that cannot be read: a `<` that opens nothing is text, and a tag that never ends is
dropped with the rest of the input.
-/

namespace PageDirectives.Markup

/-! ## Characters -/

/-- Every line end is read as a line feed, and a byte order mark in front is dropped. -/
def normalizeInput (s : List Char) : List Char :=
  let rec lineFeeds : List Char → List Char
    | '\r' :: '\n' :: s => '\n' :: lineFeeds s
    | '\r' :: s => '\n' :: lineFeeds s
    | c :: s => c :: lineFeeds s
    | [] => []
  lineFeeds (if s.head? = some '\uFEFF' then s.tail else s)

/-- The text with every null character marked as wrong. -/
def patch (s : List Char) : List Char := s.map fun c => if c = '\x00' then replacement else c

/-- The characters that end the name of a tag. -/
def endsName (c : Char) : Bool := isAsciiBlank c || c == '/' || c == '>'

def nameOf (s : List Char) : String := .ofList (patch (Chars.lower s))

/-! ## Attributes -/

/-- Reads the value of an attribute, after the equals sign: none if the input ends in it. -/
def readValue? (s : List Char) : Option (String × List Char) :=
  let decode (v : List Char) : String := .ofList (expand true (patch v))
  let quoted (mark : Char) (r : List Char) :=
    (Chars.cut? [mark] r).map fun p => (decode p.1, p.2)
  match s.dropWhile isAsciiBlank with
  | [] => none
  | '"' :: r => quoted '"' r
  | '\'' :: r => quoted '\'' r
  | r =>
    let inValue (c : Char) : Bool := !isAsciiBlank c && c != '>'
    some (decode (r.takeWhile inValue), r.dropWhile inValue)

/-- Reads one attribute: none if the input ends in it. A name may start with an equals sign. -/
def readAttribute? (s : List Char) : Option ((String × String) × List Char) :=
  let inName (c : Char) : Bool := !endsName c && c != '='
  let name := s.take 1 ++ (s.drop 1).takeWhile inName
  match (s.drop name.length).dropWhile isAsciiBlank with
  | [] => none
  | '=' :: r => (readValue? r).map fun (value, r) => ((nameOf name, value), r)
  | r => some ((nameOf name, ""), r)

/-- Reads attributes up to the end of the tag: the attributes, whether the tag closes itself,
and the rest. -/
def readAttributes? (known : List (String × String)) (s : List Char) :
    Option (List (String × String) × Bool × List Char) :=
  match s.dropWhile isAsciiBlank with
  | [] => none
  | '>' :: r => some (known, false, r)
  | '/' :: '>' :: r => some (known, true, r)
  | '/' :: r => if _h : r.length < s.length then readAttributes? known r else none
  | r =>
    match readAttribute? r with
    | none => none
    | some (a, r) =>
      let known := if known.any (·.1 == a.1) then known else known ++ [a]
      if _h : r.length < s.length then readAttributes? known r else none
termination_by s.length

/-- Reads a tag whose name stands in front. -/
def readTag (make : String → List (String × String) → Bool → Token) (s : List Char) :
    Token × List Char :=
  let inName (c : Char) : Bool := !endsName c
  match readAttributes? [] (s.dropWhile inName) with
  | none => (.endOfInput, [])
  | some (attrs, selfClosing, r) => (make (nameOf (s.takeWhile inName)) attrs selfClosing, r)

def readStartTag (s : List Char) : Token × List Char :=
  readTag (fun name attrs selfClosing => .startTag { name, attrs, selfClosing }) s

def readEndTag (s : List Char) : Token × List Char := readTag (fun name _ _ => .endTag name) s

/-! ## Declarations -/

def commentOf (s : List Char) : Token := .comment (.ofList (patch s))

/-- The text in front of the first end of a comment, and what follows it. -/
def splitComment : List Char → Option (List Char × List Char)
  | '-' :: '-' :: '>' :: r => some ([], r)
  | '-' :: '-' :: '!' :: '>' :: r => some ([], r)
  | c :: r => (splitComment r).map fun p => (c :: p.1, p.2)
  | [] => none

/-- What a comment holds that the input ends in: the start of an end is not part of it. -/
def openComment (s : List Char) : List Char :=
  match s.reverse with
  | '!' :: '-' :: '-' :: r => r.reverse
  | '-' :: '-' :: r => r.reverse
  | '-' :: r => r.reverse
  | _ => s

/-- Reads a comment after its opening. -/
def readComment (s : List Char) : Token × List Char :=
  match s with
  | '>' :: r => (commentOf [], r)
  | '-' :: '>' :: r => (commentOf [], r)
  | _ =>
    match splitComment s with
    | some (body, r) => (commentOf body, r)
    | none => (commentOf (openComment s), [])

/-- Reads what is no declaration as a comment up to the next `>`. -/
def readBogus (s : List Char) : Token × List Char :=
  (commentOf (s.takeWhile (· != '>')), (s.dropWhile (· != '>')).drop 1)

/-- Reads an identifier in quotes: the identifier, whether it was closed, and the rest. -/
def readIdentifier? (s : List Char) : Option (String × Bool × List Char) :=
  let upTo (mark : Char) (r : List Char) :=
    let inside (c : Char) : Bool := c != mark && c != '>'
    let after := r.dropWhile inside
    let closed := after.head? == some mark
    let rest := if closed then after.drop 1 else after
    some (String.ofList (patch (r.takeWhile inside)), closed, rest)
  match s with
  | '"' :: r => upTo '"' r
  | '\'' :: r => upTo '\'' r
  | _ => none

/-- Reads the identifiers of a document type. -/
def readIdentifiers (d : Doctype) (s : List Char) : Doctype :=
  let trim (r : List Char) := r.dropWhile isAsciiBlank
  let keyword := String.ofList (Chars.lower (s.take 6))
  let system (d : Doctype) (required : Bool) (r : List Char) : Doctype :=
    match readIdentifier? (trim r) with
    | some (id, closed, _) => { d with systemId := some id, broken := d.broken || !closed }
    | none => { d with broken := d.broken || required || !(trim r).isEmpty }
  if s.isEmpty then d
  else if keyword == "public" then
    match readIdentifier? (trim (s.drop 6)) with
    | none => { d with broken := true }
    | some (id, closed, r) =>
      if closed then system { d with publicId := some id } false r
      else { d with publicId := some id, broken := true }
  else if keyword == "system" then system d true (s.drop 6)
  else { d with broken := true }

/-- The text of a document type: quotes do not hide the `>` that ends it. -/
def doctypeBody (s : List Char) : List Char := s.takeWhile (· != '>')

/-- Reads a document type after its keyword. -/
def readDoctype (s : List Char) : Token × List Char :=
  let body := (doctypeBody s).dropWhile isAsciiBlank
  let rest := s.drop (doctypeBody s).length
  let unfinished := rest.isEmpty
  let inName (c : Char) : Bool := !isAsciiBlank c
  let name := body.takeWhile inName
  let d : Doctype :=
    if name.isEmpty then { broken := true }
    else readIdentifiers { name := some (nameOf name) }
      ((body.dropWhile inName).dropWhile isAsciiBlank)
  (.doctype { d with broken := d.broken || unfinished }, rest.drop 1)

/-- Reads a declaration after `<!`. Marked sections exist in foreign vocabularies only. -/
def readDeclaration (foreign : Bool) (s : List Char) : Token × List Char :=
  match Chars.dropFront? ['-', '-'] s with
  | some r => readComment r
  | none =>
    if String.ofList (Chars.lower (s.take 7)) == "doctype" then readDoctype (s.drop 7)
    else
      match (Chars.dropFront? "[CDATA[".toList s).filter fun _ => foreign with
      | some r =>
        match Chars.cut? "]]>".toList r with
        | some (body, r) => (.text body, r)
        | none => (.text r, [])
      | none => readBogus s

/-! ## Text -/

/-- Whether `<` opens markup in front of the text. -/
def opensMarkup : List Char → Bool
  | '/' :: r => !r.isEmpty
  | c :: _ => c.isAlpha || c == '!' || c == '?'
  | [] => false

/-- The text in front of the next markup, and the rest. -/
def splitText : List Char → List Char × List Char
  | [] => ([], [])
  | c :: s =>
    if c = '<' ∧ opensMarkup s then ([], c :: s)
    else
      let (text, rest) := splitText s
      (c :: text, rest)

/-- Whether the name of an element stands in front, as the name of a tag. -/
def namesElement (element : String) (s : List Char) : Bool :=
  Chars.lower (s.take element.length) == element.toList
    && (s.drop element.length).head?.any endsName

/-- Whether an end tag of an element stands in front. -/
def closes (element : String) : List Char → Bool
  | '<' :: '/' :: s => namesElement element s
  | _ => false

/-- The text in front of the end tag of an element, and the rest. -/
def splitRaw (element : String) : List Char → List Char × List Char
  | [] => ([], [])
  | c :: s =>
    if closes element (c :: s) then ([], c :: s)
    else
      let (text, rest) := splitRaw element s
      (c :: text, rest)

/-- Where in a script the text is: outside of comments, or in one, or in a script tag in one,
in both cases after a number of dashes. -/
inductive ScriptPlace where
  | outside
  | comment (dashes : Nat)
  | nested (dashes : Nat)
  deriving DecidableEq, Repr

/-- The place after one more character, with the text that follows it. -/
def ScriptPlace.next (p : ScriptPlace) (c : Char) (s : List Char) : ScriptPlace :=
  match p with
  | .outside => if c = '<' ∧ "!--".toList.isPrefixOf s then .comment 0 else .outside
  | .comment dashes =>
    if c = '-' then .comment (dashes + 1)
    else if c = '>' ∧ 2 ≤ dashes then .outside
    else if c = '<' ∧ namesElement "script" s then .nested 0
    else .comment 0
  | .nested dashes =>
    if c = '-' then .nested (dashes + 1)
    else if c = '>' ∧ 2 ≤ dashes then .outside
    else if closes "script" (c :: s) then .comment 0
    else .nested 0

/-- The text of a script in front of its end tag, and the rest. -/
def splitScript (p : ScriptPlace) : List Char → List Char × List Char
  | [] => ([], [])
  | c :: s =>
    let hidden := match p with
      | .nested _ => true
      | _ => false
    if !hidden && closes "script" (c :: s) then ([], c :: s)
    else
      let (text, rest) := splitScript (p.next c s) s
      (c :: text, rest)

/-! ## Tokens -/

/-- Reads markup that a `<` in front has opened. -/
def readMarkup (foreign : Bool) (s : List Char) : Token × List Char :=
  match s with
  | '!' :: r => readDeclaration foreign r
  | '?' :: _ => readBogus s
  | '/' :: '>' :: r => (.text [], r)
  | '/' :: c :: r => if c.isAlpha then readEndTag (c :: r) else readBogus (c :: r)
  | _ => readStartTag s

/-- The text in front that is not markup, and the rest. -/
def splitContent (l : Lexing) (s : List Char) : List Char × List Char :=
  match l with
  | .markup =>
    let (text, rest) := splitText s
    (expand false text, rest)
  | .escapable element =>
    let (text, rest) := splitRaw element s
    (expand false (patch text), rest)
  | .raw element =>
    let (text, rest) := splitRaw element s
    (patch text, rest)
  | .script =>
    let (text, rest) := splitScript .outside s
    (patch text, rest)
  | .plain => (patch s, [])

/-- Reads the next token. `foreign` says that the text stands in a foreign vocabulary. -/
def Token.read (foreign : Bool) (l : Lexing) (s : List Char) : Token × List Char :=
  match splitContent l s with
  | ([], []) => (.endOfInput, [])
  | ([], _ :: rest) => readMarkup foreign rest
  | (body, rest) => (.text body, rest)

end PageDirectives.Markup

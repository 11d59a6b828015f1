import PageDirectives.Toml.Scalar

set_option autoImplicit false

/-! # Quoted texts of TOML

The four kinds of quotes: double ones with escapes and single ones without, each also tripled
around a text of several lines. All readers start behind the opening quotes and answer what is
left behind the closing ones.
-/

namespace PageDirectives.Toml

def isSpace (c : Char) : Bool := c == ' ' || c == '\t'

/-- The characters that may stand in a quoted text or a comment: no control characters other
than the tab. -/
def isPlain (c : Char) : Bool := c == '\t' || (' ' ≤ c && c != '\x7f')

/-- The line end in front of a text, if it starts with one: a line feed that may have a
carriage return before it. -/
def lineEnd? : List Char → Option (List Char)
  | '\n' :: r => some r
  | '\r' :: '\n' :: r => some r
  | _ => none

/-- Drops spaces, tabs and line ends. -/
def skipLines (s : List Char) : List Char :=
  match s with
  | c :: r =>
    if isSpace c ∨ c = '\n' then skipLines r
    else
      match c, r with
      | '\r', '\n' :: r => skipLines r
      | _, _ => s
  | [] => []

/-! ## Escapes -/

/-- The character with the number that the first `count` digits write. -/
def codePoint? (count : Nat) (s : List Char) : Option (Char × List Char) :=
  if s.length < count then none
  else
    (ofDigits? 16 (s.take count)).bind fun n =>
      if n.isValidChar then some (Char.ofNat n, s.drop count) else none

/-- Reads what follows a backslash. -/
def escape? : List Char → Option (Char × List Char)
  | 'b' :: r => some ('\x08', r)
  | 't' :: r => some ('\t', r)
  | 'n' :: r => some ('\n', r)
  | 'f' :: r => some ('\x0c', r)
  | 'r' :: r => some ('\r', r)
  | 'e' :: r => some ('\x1b', r)
  | '"' :: r => some ('"', r)
  | '\\' :: r => some ('\\', r)
  | 'x' :: r => codePoint? 2 r
  | 'u' :: r => codePoint? 4 r
  | 'U' :: r => codePoint? 8 r
  | _ => none

/-! ## Quotes -/

/-- A character in front of what a reader finds further on. -/
def before (c : Char) (p : List Char × List Char) : List Char × List Char := (c :: p.1, p.2)

/-- Reads a text in single quotes. -/
def literal? : List Char → Option (List Char × List Char)
  | [] => none
  | c :: r =>
    if c = '\'' then some ([], r)
    else if isPlain c then (literal? r).map (before c)
    else none

/-- Reads a text in double quotes. -/
def basic? (s : List Char) : Option (List Char × List Char) :=
  match s with
  | [] => none
  | '"' :: r => some ([], r)
  | '\\' :: r =>
    (escape? r).bind fun (c, rest) =>
      if _h : rest.length ≤ r.length then (basic? rest).map (before c) else none
  | c :: r => if isPlain c then (basic? r).map (before c) else none
termination_by s.length

/-- Up to two more quotes right before the closing ones belong to the text. -/
def closing? (quote : Char) (s : List Char) : Option (List Char × List Char) :=
  let extra := s.takeWhile (· == quote)
  if extra.length ≤ 2 then some (extra, s.drop extra.length) else none

/-- Reads a text in tripled single quotes. -/
def literalLines? : List Char → Option (List Char × List Char)
  | [] => none
  | '\'' :: '\'' :: '\'' :: r => closing? '\'' r
  | '\r' :: '\n' :: r => (literalLines? r).map fun p => before '\r' (before '\n' p)
  | c :: r => if isPlain c ∨ c = '\n' then (literalLines? r).map (before c) else none

/-- Reads a text in tripled double quotes. A backslash at the end of a line swallows all white
space up to the next character. -/
def basicLines? (s : List Char) : Option (List Char × List Char) :=
  match s with
  | [] => none
  | '"' :: '"' :: '"' :: r => closing? '"' r
  | '\\' :: r =>
    match lineEnd? (r.dropWhile isSpace) with
    | some rest =>
      if _h : (skipLines rest).length ≤ r.length then basicLines? (skipLines rest) else none
    | none =>
      (escape? r).bind fun (c, rest) =>
        if _h : rest.length ≤ r.length then (basicLines? rest).map (before c) else none
  | '\r' :: '\n' :: r => (basicLines? r).map fun p => before '\r' (before '\n' p)
  | c :: r => if isPlain c ∨ c = '\n' then (basicLines? r).map (before c) else none
termination_by s.length

/-- Reads a quoted text of one line that starts with its quotes. -/
def quoted? : List Char → Option (List Char × List Char)
  | '"' :: r => basic? r
  | '\'' :: r => literal? r
  | _ => none

/-- Reads a quoted text that starts with its quotes. A line end right behind tripled quotes does
not belong to the text. -/
def anyQuoted? : List Char → Option (List Char × List Char)
  | '"' :: '"' :: '"' :: r => basicLines? ((lineEnd? r).getD r)
  | '\'' :: '\'' :: '\'' :: r => literalLines? ((lineEnd? r).getD r)
  | s => quoted? s

end PageDirectives.Toml

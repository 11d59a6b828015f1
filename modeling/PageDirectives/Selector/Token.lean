import PageDirectives.Text.Basic

set_option autoImplicit false

/-! # Tokens of selectors

A selector is read as a row of tokens. Comments are left out. A block that is never closed ends
with the selector.
-/

namespace PageDirectives.Selector

inductive Token where
  | name (s : String)
  /-- A name with an opening parenthesis. -/
  | function (name : String)
  /-- A number sign with a name after it that can be an id. -/
  | id (s : String)
  | string (s : String)
  /-- A number, if it is whole, and whether it has a sign. -/
  | number (signed : Bool) (value : Option Int)
  /-- A number, if it is whole, with a name after it. -/
  | dimension (value : Option Int) (unit : String)
  /-- An opening bracket, by the bracket that closes it. -/
  | opening (closer : Char)
  | closing (closer : Char)
  /-- One of the characters `~ | ^ $ *` with an equals sign after it. -/
  | operator (c : Char)
  | mark (c : Char)
  | blank
  /-- A string that is broken off by the end of a line. -/
  | broken
  /-- A token that has no use in selectors. -/
  | foreign
  deriving DecidableEq, Repr

/-! ## Names -/

def isNewline (c : Char) : Bool := c == '\n' || c == '\r' || c == '\x0c'

def startsName (c : Char) : Bool := c.isAlpha || c == '_' || c == '\x00' || 0x80 ≤ c.toNat

def isInName (c : Char) : Bool := startsName c || c.isDigit || c == '-'

/-- Whether a backslash before the text begins an escape. -/
def isEscape (s : List Char) : Bool := !s.head?.any isNewline

/-- Whether a name stands in front. -/
def opensName : List Char → Bool
  | '-' :: '\\' :: s => isEscape s
  | '-' :: c :: _ => startsName c || c == '-'
  | '\\' :: s => isEscape s
  | c :: _ => startsName c
  | [] => false

def isHex (c : Char) : Bool :=
  c.isDigit || ('a' ≤ c && c ≤ 'f') || ('A' ≤ c && c ≤ 'F')

def hexDigit (c : Char) : Nat :=
  if c.isDigit then c.toNat - '0'.toNat else c.toLower.toNat - 'a'.toNat + 10

/-- The character of a code point; what is none, and the null character, is replaced. -/
def charOf (n : Nat) : Char :=
  if n = 0 ∨ 0x10FFFF < n ∨ (0xD800 ≤ n ∧ n < 0xE000) then '\uFFFD' else Char.ofNat n

/-- Drops one white space character behind the digits of an escape. -/
def dropOneBlank : List Char → List Char
  | '\r' :: '\n' :: s => s
  | c :: s => if isAsciiBlank c then s else c :: s
  | [] => []

/-- Reads an escape after its backslash: up to six hexadecimal digits, or any character. -/
def readEscape (s : List Char) : Char × List Char :=
  let digits := (s.take 6).takeWhile isHex
  match digits, s with
  | [], [] => ('\uFFFD', [])
  | [], c :: s => (if c = '\x00' then '\uFFFD' else c, s)
  | _, s => (charOf (digits.foldl (fun n c => 16 * n + hexDigit c) 0),
      dropOneBlank (s.drop digits.length))

/-- Reads a name, as far as it goes. -/
def readName (s : List Char) : List Char × List Char :=
  match s with
  | '\\' :: r =>
    if isEscape r then
      let (c, rest) := readEscape r
      if _h : rest.length ≤ r.length then
        let (name, rest) := readName rest
        (c :: name, rest)
      else ([c], rest)
    else ([], s)
  | c :: r =>
    if isInName c then
      let (name, rest) := readName r
      ((if c = '\x00' then '\uFFFD' else c) :: name, rest)
    else ([], s)
  | [] => ([], [])
termination_by s.length

/-! ## Strings and numbers -/

/-- Reads a string after its opening quote: none if a line ends in it. -/
def readString (quote : Char) (s : List Char) : Option (List Char) × List Char :=
  match s with
  | [] => (some [], [])
  | '\\' :: '\r' :: '\n' :: r => readString quote r
  | ['\\'] => (some [], [])
  | '\\' :: c :: r =>
    if isNewline c then readString quote r
    else
      let (d, rest) := readEscape (c :: r)
      if _h : rest.length ≤ r.length then
        let (t, rest) := readString quote rest
        (t.map (d :: ·), rest)
      else (some [d], rest)
  | c :: r =>
    if c = quote then (some [], r)
    else if isNewline c then (none, s)
    else
      let (t, rest) := readString quote r
      (t.map ((if c = '\x00' then '\uFFFD' else c) :: ·), rest)
termination_by s.length

/-- Whether a number stands in front. -/
def opensNumber : List Char → Bool
  | '+' :: '.' :: c :: _ | '-' :: '.' :: c :: _ | '.' :: c :: _ => c.isDigit
  | '+' :: c :: _ | '-' :: c :: _ => c.isDigit
  | c :: _ => c.isDigit
  | [] => false

/-- Numbers are kept within 32 bits. -/
def saturate (n : Int) : Int := max (-2147483648) (min 2147483647 n)

/-- What stands behind the fraction of a number. -/
def afterFraction (s : List Char) : List Char :=
  match s with
  | '.' :: c :: r => if c.isDigit then r.dropWhile Char.isDigit else s
  | _ => s

/-- What stands behind the exponent of a number. -/
def afterExponent (s : List Char) : List Char :=
  let power := match s.drop 1 with
    | '+' :: r | '-' :: r => r
    | r => r
  if s.head?.any (fun c => c == 'e' || c == 'E') && power.head?.any Char.isDigit then
    power.dropWhile Char.isDigit
  else s

/-- Reads a number, with the name after it if there is one. -/
def readNumber (s : List Char) : Token × List Char :=
  let signed := s.head? == some '+' || s.head? == some '-'
  let body := if signed then s.drop 1 else s
  let digits := body.takeWhile Char.isDigit
  let whole := body.drop digits.length
  let rest := afterExponent (afterFraction whole)
  let size : Int := digits.foldl (fun n c => 10 * n + (c.toNat - '0'.toNat)) 0
  let value := if rest == whole then
      some (saturate (if s.head? == some '-' then -size else size))
    else none
  if rest.head? == some '%' then (.foreign, rest.drop 1)
  else if opensName rest then
    let (unit, rest) := readName rest
    (.dimension value (.ofList unit), rest)
  else (.number signed value, rest)

/-! ## Tokens -/

/-- What follows a comment after its opening. -/
def afterComment : List Char → List Char
  | '*' :: '/' :: s => s
  | _ :: s => afterComment s
  | [] => []

/-- Reads what begins with a name. -/
def readNamed (s : List Char) : Token × List Char :=
  match readName s with
  | (name, '(' :: rest) => (.function (.ofList name), rest)
  | (name, rest) => (.name (.ofList name), rest)

/-- Reads the next token: none if a comment stands in front. -/
def readToken (c : Char) (s : List Char) : Option Token × List Char :=
  let one (t : Token) : Option Token × List Char := (some t, s)
  let read (p : Token × List Char) : Option Token × List Char := (some p.1, p.2)
  if isAsciiBlank c then (some .blank, s.dropWhile isAsciiBlank)
  else if c = '/' ∧ s.head? = some '*' then (none, afterComment (s.drop 1))
  else if c = '"' ∨ c = '\'' then
    match readString c s with
    | (some t, rest) => (some (.string (.ofList t)), rest)
    | (none, rest) => (some .broken, rest)
  else if c = '#' then
    if opensName s then
      let (name, rest) := readName s
      (some (.id (.ofList name)), rest)
    else if s.head?.any fun d => d.isDigit || d == '-' then (some .foreign, (readName s).2)
    else one (.mark c)
  else if opensNumber (c :: s) then read (readNumber (c :: s))
  else if "<!--".toList.isPrefixOf (c :: s) then (some .foreign, s.drop 3)
  else if "-->".toList.isPrefixOf (c :: s) then (some .foreign, s.drop 2)
  else if opensName (c :: s) then read (readNamed (c :: s))
  else if c = '@' ∧ opensName s then (some .foreign, (readName s).2)
  else if ['~', '|', '^', '$', '*'].contains c ∧ s.head? = some '=' then
    (some (.operator c), s.drop 1)
  else if c = '(' then one (.opening ')')
  else if c = '[' then one (.opening ']')
  else if c = '{' then one (.opening '}')
  else if c = ')' ∨ c = ']' ∨ c = '}' then one (.closing c)
  else one (.mark c)

/-- The tokens of a selector. -/
def tokens (s : List Char) : List Token :=
  match s with
  | [] => []
  | c :: r =>
    let (t, rest) := readToken c r
    if _h : rest.length ≤ r.length then t.toList ++ tokens rest else t.toList
termination_by s.length

/-! ## Blocks -/

/-- The bracket that closes what a token opens. -/
def Token.closer? : Token → Option Char
  | .function _ => some ')'
  | .opening closer => some closer
  | _ => none

/-- Splits off the inside of a block that awaits closing brackets, innermost first. -/
def splitBlock : List Char → List Token → List Token × List Token
  | [], ts => ([], ts)
  | _, [] => ([], [])
  | c :: awaited, t :: ts =>
    if t = .closing c then
      match awaited with
      | [] => ([], ts)
      | _ =>
        let (inside, rest) := splitBlock awaited ts
        (t :: inside, rest)
    else
      let (inside, rest) := splitBlock (t.closer?.toList ++ c :: awaited) ts
      (t :: inside, rest)

/-- The parts of a row of tokens between commas outside of blocks. -/
def splitCommas (awaited : List Char) : List Token → List (List Token)
  | [] => [[]]
  | t :: ts =>
    if awaited = [] ∧ t = .mark ',' then [] :: splitCommas [] ts
    else
      let awaited := match t.closer? with
        | some c => c :: awaited
        | none => if awaited.head?.any fun c => t == .closing c then awaited.drop 1 else awaited
      match splitCommas awaited ts with
      | part :: parts => (t :: part) :: parts
      | [] => [[t]]

/-- Whether the brackets in a row of tokens fit and no string is broken. -/
def isSound : List Char → List Token → Bool
  | _, [] => true
  | awaited, t :: ts =>
    match t, awaited with
    | .broken, _ => false
    | .closing c, d :: awaited => c == d && isSound awaited ts
    | .closing _, [] => false
    | t, _ => isSound (t.closer?.toList ++ awaited) ts

end PageDirectives.Selector

import PageDirectives.Markup.Reference.Names
import PageDirectives.Text.Basic

set_option autoImplicit false

/-! # Character references

A character reference is `&name;`, `&#number;` or `&#xnumber;`. `expand` replaces the references
in a text. Where no reference can be read, the ampersand stands for itself.
-/

namespace PageDirectives.Markup

/-! ## Names -/

/-- The value of hexadecimal digits. -/
def hexValue (digits : List Char) : Nat :=
  digits.foldl (fun n c =>
    16 * n + (if c.isDigit then c.toNat - '0'.toNat
      else c.toLower.toNat - 'a'.toNat + 10)) 0

def isHexDigit (c : Char) : Bool :=
  c.isDigit || ('a' ≤ c && c ≤ 'f') || ('A' ≤ c && c ≤ 'F')

/-- The names as they are written after an ampersand, with or without a semicolon, and the
characters they stand for. -/
def referenceTable : List (List Char × List Char) :=
  let short := shortNames.flatMap (·.splitOn " ")
  namedCharacters.flatMap fun line => (line.splitOn " ").flatMap fun entry =>
    match entry.splitOn "=" with
    | [name, codes] =>
      let value := (codes.splitOn "+").map fun code => Char.ofNat (hexValue code.toList)
      (name.toList ++ [';'], value) ::
        (if short.contains name then [(name.toList, value)] else [])
    | _ => []

/-- The longest name that the text starts with: its value and its length. -/
def longestName? (s : List Char) : Option (List Char × Nat) :=
  (referenceTable.filter fun e => e.1.isPrefixOf s).foldl (fun best e =>
    match best with
    | some (_, n) => if n < e.1.length then some (e.2, e.1.length) else best
    | none => some (e.2, e.1.length)) none

/-! ## Numbers -/

/-- The characters that the numbers 128 to 159 stand for, by their position in an old
character set; 0 where there is none. -/
def oldControls : List Nat := [
  0x20AC, 0, 0x201A, 0x0192, 0x201E, 0x2026, 0x2020, 0x2021, 0x02C6, 0x2030, 0x0160, 0x2039,
  0x0152, 0, 0x017D, 0, 0, 0x2018, 0x2019, 0x201C, 0x201D, 0x2022, 0x2013, 0x2014, 0x02DC,
  0x2122, 0x0161, 0x203A, 0x0153, 0, 0x017E, 0x0178]

/-- The mark put in place of what is no character. -/
def replacement : Char := '\uFFFD'

/-- The character of a number. -/
def characterOf (n : Nat) : Char :=
  if n = 0 ∨ 0x10FFFF < n ∨ (0xD800 ≤ n ∧ n < 0xE000) then replacement
  else if 0x80 ≤ n ∧ n < 0xA0 then
    match oldControls[n - 0x80]? with
    | some (m + 1) => Char.ofNat (m + 1)
    | _ => Char.ofNat n
  else Char.ofNat n

/-- A number that begins after `skipped` characters, with its digits and an optional semicolon:
the character, and how many characters the reference takes. -/
def numeric? (skipped : Nat) (isDigit : Char → Bool) (value : List Char → Nat)
    (s : List Char) : Option (List Char × Nat) :=
  let digits := s.takeWhile isDigit
  if digits = [] then none
  else
    let close := if (s.drop digits.length).head? = some ';' then 1 else 0
    some ([characterOf (value digits)], skipped + digits.length + close)

/-- The value of decimal digits. -/
def decimalValue (digits : List Char) : Nat :=
  digits.foldl (fun n c => 10 * n + (c.toNat - '0'.toNat)) 0

/-! ## Reading -/

/-- Reads the reference that stands after an ampersand: its characters, and how many characters
it takes. In an attribute a name without a semicolon is no reference if a letter, a digit or
an equals sign follows. -/
def reference? (inAttribute : Bool) (s : List Char) : Option (List Char × Nat) :=
  match s with
  | '#' :: 'x' :: r | '#' :: 'X' :: r => numeric? 2 isHexDigit hexValue r
  | '#' :: r => numeric? 1 Char.isDigit decimalValue r
  | _ =>
    (longestName? s).bind fun (value, n) =>
      let closed := (s.take n).getLast? = some ';'
      let goesOn := (s.drop n).head?.any fun c => c.isAlphanum || c == '='
      if inAttribute && !closed && goesOn then none else some (value, n)

/-- Replaces references; the first `skip` characters are passed over. -/
def expandFrom (inAttribute : Bool) : Nat → List Char → List Char
  | _, [] => []
  | skip + 1, _ :: s => expandFrom inAttribute skip s
  | 0, c :: s =>
    if c = '&' then
      match reference? inAttribute s with
      | some (value, n) => value ++ expandFrom inAttribute n s
      | none => c :: expandFrom inAttribute 0 s
    else c :: expandFrom inAttribute 0 s

/-- The text with its references replaced. -/
def expand (inAttribute : Bool) (s : List Char) : List Char := expandFrom inAttribute 0 s

end PageDirectives.Markup

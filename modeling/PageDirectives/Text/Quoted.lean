import PageDirectives.Text.Printable

set_option autoImplicit false

/-! # Quoted text

A text shown between quotes. Quotes and backslashes are escaped by a backslash, line ends, tabs
and the null character have short escapes, and other characters that cannot be shown are written
by their code point in hexadecimal.
-/

namespace PageDirectives

namespace Text

/-- One character inside quotes. -/
def quoteChar (c : Char) : List Char :=
  if c = '"' ∨ c = '\\' then ['\\', c]
  else if c = '\n' then ['\\', 'n']
  else if c = '\r' then ['\\', 'r']
  else if c = '\t' then ['\\', 't']
  else if c = Char.ofNat 0 then ['\\', '0']
  else if isPrintable c then [c]
  else ['\\', 'u', '\x7b'] ++ Nat.toDigits 16 c.toNat ++ ['\x7d']

/-- A text in quotes. -/
def quoted (s : String) : String := .ofList ('"' :: s.toList.flatMap quoteChar ++ ['"'])

end Text

end PageDirectives

import PageDirectives.Text.Basic

set_option autoImplicit false

/-! # Inline styles

The text of a `style` attribute as a list of declarations. A declaration is written
`name: value;`, and what has no colon, or nothing before its colon, is none. Names are compared
without regard to the case of ASCII letters and kept in small letters.
-/

namespace PageDirectives

namespace Style

/-- Reads one declaration. -/
def declaration? (s : List Char) : Option (String × String) :=
  (Chars.cut? [':'] s).bind fun p =>
    let name := Chars.trim p.1
    if name = [] then none
    else some (.ofList (Chars.lower name), .ofList (Chars.trim p.2))

/-- The declarations of a style, in order. -/
def decode (style : String) : List (String × String) :=
  (style.toList.splitOn ';').filterMap declaration?

/-- Writes one declaration. -/
def writeDeclaration (d : String × String) : String := d.1 ++ ": " ++ d.2 ++ ";"

/-- Writes declarations, with a space between every two. -/
def encode (ds : List (String × String)) : String := Text.join " " (ds.map writeDeclaration)

/-- The value of the first declaration of a property. -/
def find? (ds : List (String × String)) (property : String) : Option String :=
  (ds.find? fun d => Text.sameFold d.1 property).map Prod.snd

/-- Changes the first declaration of a property, or adds one at the end. -/
def set (property value : String) : List (String × String) → List (String × String)
  | [] => [(Text.lower property, value)]
  | d :: ds => if Text.sameFold d.1 property then (d.1, value) :: ds else d :: set property value ds

/-- Removes every declaration of a property. -/
def remove (property : String) (ds : List (String × String)) : List (String × String) :=
  ds.filter fun d => !Text.sameFold d.1 property

end Style

end PageDirectives

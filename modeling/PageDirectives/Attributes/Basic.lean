import PageDirectives.Attributes.Style

set_option autoImplicit false

/-! # Attributes

The attributes of an element as a list of names and values. Names are compared without regard
to the case of ASCII letters. The attributes `class` and `style` hold lists of their own, which
are read from their text and written back to it.
-/

namespace PageDirectives

/-- Names and values, in order. -/
structure Attributes where
  entries : List (String × String) := []
  deriving DecidableEq, Repr

namespace Attributes

/-- The value of the first attribute of a name. -/
def get? (a : Attributes) (name : String) : Option String :=
  (a.entries.find? fun e => Text.sameFold e.1 name).map Prod.snd

/-- Changes the first entry of a name, or adds one at the end, in small letters. -/
def setEntry (name value : String) : List (String × String) → List (String × String)
  | [] => [(Text.lower name, value)]
  | e :: es => if Text.sameFold e.1 name then (e.1, value) :: es else e :: setEntry name value es

def set (a : Attributes) (name value : String) : Attributes := ⟨setEntry name value a.entries⟩

/-- Removes every entry of a name. -/
def remove (a : Attributes) (name : String) : Attributes :=
  ⟨a.entries.filter fun e => !Text.sameFold e.1 name⟩

/-! ## Classes -/

/-- The classes of an element: the words of its attribute `class`. -/
def classes (a : Attributes) : List String := Text.words ((a.get? "class").getD "")

def hasClass (a : Attributes) (c : String) : Bool := a.classes.contains c

/-- Adds a class at the end, if the element does not have it. -/
def addClass (a : Attributes) (c : String) : Attributes :=
  if a.hasClass c then a else a.set "class" (Text.join " " (a.classes ++ [c]))

/-- Removes a class, if the element has it. -/
def removeClass (a : Attributes) (c : String) : Attributes :=
  if a.hasClass c then a.set "class" (Text.join " " (a.classes.filter (· != c))) else a

/-! ## Styles -/

/-- The declarations of the attribute `style`. -/
def styles (a : Attributes) : List (String × String) := Style.decode ((a.get? "style").getD "")

def style? (a : Attributes) (property : String) : Option String := Style.find? a.styles property

/-- Writes the attribute `style`; no declarations are written as no attribute. -/
def writeStyles (a : Attributes) (ds : List (String × String)) : Attributes :=
  if ds = [] then a.remove "style" else a.set "style" (Style.encode ds)

def setStyle (a : Attributes) (property value : String) : Attributes :=
  a.writeStyles (Style.set property value a.styles)

def removeStyle (a : Attributes) (property : String) : Attributes :=
  a.writeStyles (Style.remove property a.styles)

end Attributes

end PageDirectives

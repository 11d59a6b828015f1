import PageDirectives.File.Error
import PageDirectives.File.Path

set_option autoImplicit false

/-! # File trees

A file system as a value. A file tree lists its files and directories by the names on the way
to them from the root; the directories on the way need not be listed.
-/

namespace PageDirectives

inductive FileEntry where
  | directory
  | text (s : String)
  /-- A file that is not text. -/
  | binary
  deriving DecidableEq, Repr

structure FileTree where
  entries : List (List String × FileEntry) := []
  deriving DecidableEq, Repr

namespace FileTree

/-- What is at the end of a way from the root. -/
def entry? (t : FileTree) (names : List String) : Option FileEntry :=
  match t.entries.lookup names with
  | some e => some e
  | none =>
    if names = [] ∨ t.entries.any fun e => names.isPrefixOf e.1 then some .directory else none

/-- The longest name in bytes that a file can have. -/
def longestName : Nat := 255

/-- Follows the steps of a path from a place in the tree. -/
def walk (t : FileTree) (place : List String) : List String → Except FileError (List String)
  | [] => .ok place
  | step :: steps =>
    if t.entry? place ≠ some .directory then .error .notDirectory
    else if step = "" ∨ step = "." then t.walk place steps
    else if step = ".." then t.walk place.dropLast steps
    else if longestName < step.utf8ByteSize then .error .nameTooLong
    else if (t.entry? (place ++ [step])).isNone then .error .notFound
    else t.walk (place ++ [step]) steps

/-- The place that a path names, seen from a directory. -/
def find (t : FileTree) (directory : List String) (path : String) :
    Except FileError (List String) :=
  if path.toList.contains '\x00' then .error .nullInName
  else if path = "" then .error .notFound
  else t.walk (if Path.isAbsolute path then [] else directory) (Path.steps path)

/-- Reads the text of a file. -/
def read (t : FileTree) (directory : List String) : FileReader := fun path =>
  match t.find directory path with
  | .error e => .error e
  | .ok place =>
    match t.entry? place with
    | some (.text s) => .ok s
    | some .binary => .error .notText
    | some .directory => .error .isDirectory
    | none => .error .notFound

/-- Puts an entry at a place. -/
def put (t : FileTree) (place : List String) (e : FileEntry) : FileTree :=
  ⟨(place, e) :: t.entries.filter (·.1 != place)⟩

/-- Writes a text to a file. The file may be new, but not the directory it is in, and a slash
at the end asks for a directory. -/
def write (t : FileTree) (directory : List String) (path text : String) :
    Except FileError FileTree :=
  let steps := (Path.steps path).reverse
  if path.toList.contains '\x00' then .error .nullInName
  else if path = "" then .error .notFound
  else
    match steps.dropWhile (· == "") with
    | [] => .error .isDirectory
    | name :: above =>
      match t.walk (if Path.isAbsolute path then [] else directory) above.reverse with
      | .error e => .error e
      | .ok place =>
        if t.entry? place ≠ some .directory then .error .notDirectory
        else if steps.head? = some "" ∨ name = "." ∨ name = ".." then .error .isDirectory
        else if longestName < name.utf8ByteSize then .error .nameTooLong
        else if t.entry? (place ++ [name]) = some .directory then .error .isDirectory
        else .ok (t.put (place ++ [name]) (.text text))

end FileTree

end PageDirectives

set_option autoImplicit false

/-! # Reading files

Why a file could not be read or written, and what the rest of the library knows of files: a way
to read the text at a path.
-/

namespace PageDirectives

inductive FileError where
  | notFound
  | permissionDenied
  | notDirectory
  | isDirectory
  | nameTooLong
  /-- Symbolic links lead to each other. -/
  | linkLoop
  | nullInName
  /-- The file is not text in UTF-8. -/
  | notText
  | other (text : String)
  deriving DecidableEq, Repr

def FileError.message : FileError → String
  | .notFound => "No such file or directory (os error 2)"
  | .permissionDenied => "Permission denied (os error 13)"
  | .notDirectory => "Not a directory (os error 20)"
  | .isDirectory => "Is a directory (os error 21)"
  | .nameTooLong => "File name too long (os error 36)"
  | .linkLoop => "Too many levels of symbolic links (os error 40)"
  | .nullInName => "file name contained an unexpected NUL byte"
  | .notText => "stream did not contain valid UTF-8"
  | .other text => text

/-- A way to read the text of the file at a path. -/
abbrev FileReader := String → Except FileError String

/-- What reading tells of whether there is something at a path. It tells the truth if nothing that
is there is out of reach. -/
def FileReader.hasPath (read : FileReader) (path : String) : Bool :=
  match read path with
  | .ok _ | .error .isDirectory | .error .notText | .error (.other _) => true
  | .error _ => false

end PageDirectives

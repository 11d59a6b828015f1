import PageDirectives.Error
import PageDirectives.File.Error
import PageDirectives.File.Path

set_option autoImplicit false

/-! # Loaders

A loader gives the text at an address. Addresses of the network start with `http://` or
`https://`; all other ones name files below a base directory, and an address that leads out of
that directory is refused before any file is touched.
-/

namespace PageDirectives

/-- A way to load resources. -/
abbrev Loader := String → Except LoadError String

/-- What the network answers to a request. -/
structure Response where
  status : Nat
  body : String
  deriving DecidableEq, Repr

/-- A way to send requests; a request can fail without an answer. -/
abbrev Network := String → Option Response

/-- A network that nobody can reach. -/
def Network.offline : Network := fun _ => none

namespace Url

/-- The path in an address of a file: without the scheme of files in front, without a query or a
fragment, and without the slashes that it begins with. -/
def filePath (url : List Char) : List Char :=
  (((Chars.dropFront? "file://".toList url).getD url).takeWhile
    fun c => c != '?' && c != '#').dropWhile (· == '/')

/-- The steps of the way from the base directory to the file. -/
def steps (url : String) : List String := Path.steps (String.ofList (filePath url.toList))

/-- Whether an address is one of the network. The longer of the two schemes takes up eight bytes, so
these are looked at only, unless they are no whole characters. -/
def isRemote (url : String) : Bool :=
  let s := Text.lower ((Text.takeBytes? 8 url).getD url)
  Text.startsWith "http://" s || Text.startsWith "https://" s

end Url

namespace Loader

/-- Loads nothing. -/
def empty : Loader := fun url => .error (.notFound url)

/-- Loads from a list of addresses and texts. Of several entries of one address the last one
counts. -/
def ofEntries (entries : List (String × String)) : Loader := fun url =>
  (entries.reverse.lookup url).elim (.error (.notFound url)) .ok

/-- Where a way from the base directory has led: a path, and how far below the directory it is. -/
structure Descent where
  path : String
  depth : Nat := 0
  deriving DecidableEq, Repr

/-- Takes one step: to a name below, or back up. There is no way up from the base directory. -/
def Descent.step? (d : Descent) (s : String) : Option Descent :=
  if s = "" ∨ s = "." then some d
  else if s = ".." then
    if d.depth = 0 then none
    else some ⟨(Path.parent? d.path).getD d.path, d.depth - 1⟩
  else some ⟨Path.join d.path s, d.depth + 1⟩

/-- The path of the file that an address names: none if the way to it leads out of the base
directory, be it only for a part of the way. -/
def path? (base url : String) : Option String :=
  ((Url.steps url).foldlM Descent.step? { path := base }).map Descent.path

/-- Loads files below a base directory. -/
def files (read : FileReader) (base : String) : Loader := fun url =>
  match path? base url with
  | none => .error (.forbidden url)
  | some path =>
    match read path with
    | .ok text => .ok text
    | .error .notFound => .error (.notFound url)
    | .error _ => .error (.io url)

/-- Loads from the network. An answer with a status of an error is none. -/
def remote (network : Network) : Loader := fun url =>
  match network url with
  | none => .error (.request url)
  | some r => if 400 ≤ r.status then .error (.status url r.status) else .ok r.body

/-- Loads from the network what is there, if that is allowed, and all else from files. -/
def site (read : FileReader) (base : String) (network : Option Network) : Loader := fun url =>
  if Url.isRemote url then
    match network with
    | some n => remote n url
    | none => .error (.forbidden url)
  else files read base url

end Loader

end PageDirectives

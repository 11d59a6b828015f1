import PageDirectives.Command.Program

set_option autoImplicit false

/-! # The executable

Carries out what `Command` plans: it looks which settings files there are, reads the files that a
command asks for, and prints and writes what comes of it. Which files a page loads is only known once
its directives run, so a command is planned again with more files at hand until it asks for no other
ones. There is no network.
-/

namespace PageDirectives

open Command

/-- The texts of files, as far as they have been read. -/
abbrev Shelf := List (String × Except FileError String)

def Shelf.reader (shelf : Shelf) : FileReader := fun path =>
  (shelf.lookup path).getD (.error .notFound)

/-- The number under which the system knows an error, as far as one is needed here. -/
def errorNumber? : IO.Error → Option UInt32
  | .noFileOrDirectory _ number _ | .permissionDenied _ number _ | .inappropriateType _ number _
  | .invalidArgument _ number _ =>
    -- the number may come with its sign changed
    some (min number (-number))
  | _ => none

def FileError.ofError (e : IO.Error) : FileError :=
  match errorNumber? e with
  | some 2 => .notFound
  | some 13 => .permissionDenied
  | some 20 => .notDirectory
  | some 21 => .isDirectory
  | some 36 => .nameTooLong
  | some 40 => .linkLoop
  | _ => .other (toString e)

def readText (path : String) : IO (Except FileError String) := do
  if path.toList.contains '\x00' then return .error .nullInName
  try
    let bytes ← IO.FS.readBinFile path
    return (String.fromUTF8? bytes).elim (.error .notText) .ok
  catch e => return .error (.ofError e)

/-- Whether there is something at a path. It is if the path can be followed to its end. -/
def isThere (path : String) : IO Bool := do
  try
    let _ ← IO.FS.realPath path
    return true
  catch _ => return false

/-- Reads the files that are not on the shelf yet. -/
def Shelf.fetch (shelf : Shelf) (paths : List String) : IO Shelf :=
  paths.foldlM (fun shelf path => do
    if (shelf.lookup path).isSome then return shelf
    else return (path, ← readText path) :: shelf) shelf

/-- The variables of the environment. -/
def readEnvironment : IO Environment := do
  match ← readText "/proc/self/environ" with
  | .error _ => return fun _ => none
  | .ok text =>
    let entries := (Text.split "\x00" text).filterMap (Text.cut? "=")
    return fun name => entries.lookup name

/-- Plans a command, and again as long as it asks for files that are not on the shelf. -/
partial def settle (i : Invocation) (s : Surroundings) (shelf : Shelf) : IO Outcome := do
  let outcome := i.perform { s with read := shelf.reader }
  let more ← shelf.fetch outcome.loaded
  if more.length = shelf.length then return outcome else settle i s more

def saveText (o : Outcome) : IO (Except FileError Unit) := do
  match o.ending with
  | .save path text =>
    try
      IO.FS.writeFile path text
      return .ok ()
    catch e => return .error (.ofError e)
  | _ => return .ok ()

/-- The working directory, unless it is gone. -/
def workingDirectory? : IO (Option String) := do
  try
    return some (← IO.currentDir).toString
  catch _ => return none

def performAll (i : Invocation) : IO Command.Result := do
  let cwd ← workingDirectory?
  let above := cwd.elim [] Path.ancestors
  let there ← (i.config.toList ++ above.map (Path.join · Config.fileName)).filterM isThere
  let shelf ← Shelf.fetch [] (i.page :: there)
  let s : Surroundings := {
    read := shelf.reader, hasPath := there.contains, environment := ← readEnvironment, cwd }
  let outcome ← settle i s shelf
  return outcome.result (← saveText outcome)

def start (arguments : List String) : IO UInt32 := do
  let r ← match Request.ofArguments arguments with
    | none => pure misuse
    | some (.tell text) => pure ⟨0, text, ""⟩
    | some (.perform i) => performAll i
  IO.print r.stdout
  IO.eprint r.stderr
  return r.status.toUInt32

end PageDirectives

def main (arguments : List String) : IO UInt32 := PageDirectives.start arguments

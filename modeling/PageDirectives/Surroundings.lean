import PageDirectives.Loader

set_option autoImplicit false

/-! # Surroundings

What a program finds around it when it is started: files, environment variables, a working
directory and a network.
-/

namespace PageDirectives

/-- The values of the environment variables that are set. -/
abbrev Environment := String → Option String

structure Surroundings where
  read : FileReader
  /-- Whether there is something at a path, readable or not. Reading need not tell: it also fails
  where the way to the path cannot be followed. -/
  hasPath : String → Bool := read.hasPath
  environment : Environment
  /-- The absolute path of the working directory, unless it is gone. -/
  cwd : Option String
  network : Network := Network.offline

end PageDirectives

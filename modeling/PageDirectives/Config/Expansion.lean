import PageDirectives.Surroundings
import PageDirectives.Text.Alphanumeric

set_option autoImplicit false

/-! # Expansion

A path may refer to environment variables and, by a tilde in front, to the home directory:

    $NAME  ${NAME}    the value of the variable
    ${NAME:-TEXT}     the value of the variable, or the text if it is not set
    $$                a dollar sign
    ~  ~/PATH         the home directory, if there is one

A dollar sign that starts none of these stands for itself. Values are not expanded again.
-/

namespace PageDirectives

namespace Expansion

def inName (c : Char) : Bool := isAlphanumeric c || c == '_'

/-- The name of the variable that is written between braces, and the text to take if it is not
set. A name is not empty if it has such a text. -/
def reference (s : List Char) : List Char × Option (List Char) :=
  match Chars.cut? [':', '-'] s with
  | some (name, text) => if name = [] then (s, none) else (name, some text)
  | none => (s, none)

/-- The value of a variable. Without a value and another text, its name is the error. -/
def value (env : Environment) (name : List Char) (default : Option (List Char)) :
    Except String (List Char) :=
  match env (.ofList name), default with
  | some v, _ => .ok v.toList
  | none, some text => .ok text
  | none, none => .error (.ofList name)

/-- Replaces the variables in a text. -/
def substitute (env : Environment) (s : List Char) : Except String (List Char) :=
  match s with
  | [] => .ok []
  | '$' :: '\x7b' :: r =>
    match _h : Chars.cut? ['\x7d'] r with
    | none => (substitute env r).map fun t => '$' :: '\x7b' :: t
    | some (inside, after) => do
      let v ← value env (reference inside).1 (reference inside).2
      return v ++ (← substitute env after)
  | '$' :: '$' :: r => (substitute env r).map ('$' :: ·)
  | '$' :: r =>
    if r.takeWhile inName = [] then (substitute env r).map ('$' :: ·)
    else do
      let v ← value env (r.takeWhile inName) none
      return v ++ (← substitute env (r.dropWhile inName))
  | c :: r => (substitute env r).map (c :: ·)
termination_by s.length
decreasing_by
  all_goals simp only [List.length_cons]
  all_goals try omega
  · have := congrArg List.length (Chars.eq_append_of_cut? _h)
    simp only [List.length_append, List.length_cons] at this
    omega
  · have := (List.dropWhile_sublist inName (l := r)).length_le
    omega

/-- Replaces a tilde in front of a path. -/
def tilde (home : Option String) (s : List Char) : List Char :=
  match s, home with
  | '~' :: r, some h => if r = [] ∨ r.head? = some '/' then h.toList ++ r else s
  | _, _ => s

/-- Expands a path: the variables, and then a tilde unless a variable has put it there. -/
def expand (env : Environment) (path : String) : Except String String :=
  (substitute env path.toList).map fun s =>
    .ofList (if path.toList.head? = some '~' then tilde (env "HOME") s else s)

end Expansion

end PageDirectives

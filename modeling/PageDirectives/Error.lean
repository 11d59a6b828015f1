set_option autoImplicit false

/-! # Errors

What can go wrong while an action runs, as causes, and the text in which each is reported.
-/

namespace PageDirectives

/-- Why a resource was not loaded. -/
inductive LoadError where
  | notFound (url : String)
  | forbidden (url : String)
  | io (url : String)
  | status (url : String) (code : Nat)
  | request (url : String)
  deriving DecidableEq, Repr

def LoadError.message : LoadError → String
  | .notFound url => "resource not found: " ++ url
  | .forbidden url => "loading " ++ url ++ " is not allowed"
  | .io url => "I/O error loading " ++ url
  | .status url code => "HTTP " ++ toString code ++ " loading " ++ url
  | .request url => "request for " ++ url ++ " failed"

/-- Why a page refused a change. -/
inductive DomError where
  | notAnElement (node : Nat)
  deriving DecidableEq, Repr

def DomError.message : DomError → String
  | .notAnElement node => "node " ++ toString node ++ " is not an element"

/-- Why an action failed. -/
inductive ActionError where
  | missingArgument (name : String) (position : Nat)
  | load (cause : LoadError)
  | dom (cause : DomError)
  | other (text : String)
  deriving DecidableEq, Repr

def ActionError.message : ActionError → String
  | .missingArgument name position =>
    "missing " ++ name ++ " argument (position " ++ toString position ++ ")"
  | .load cause => cause.message
  | .dom cause => cause.message
  | .other text => text

end PageDirectives

import PageDirectives.Action.Basic
import PageDirectives.Text.Quoted

set_option autoImplicit false

/-! # The registry of actions

Actions by name. A name is matched exactly; registering it again replaces its action, and no
name is ever removed. The entries are kept in strictly increasing order of their names.
-/

namespace PageDirectives

/-- Actions under their names, in increasing order of the names. -/
structure Registry (H : Type) where
  entries : List (String × Action H)

namespace Registry

variable {H : Type}

def empty : Registry H := ⟨[]⟩

/-- Puts an entry in its place, replacing the one of the same name. -/
def insertEntry (name : String) (action : Action H) :
    List (String × Action H) → List (String × Action H)
  | [] => [(name, action)]
  | e :: es =>
    if name < e.1 then (name, action) :: e :: es
    else if name = e.1 then (name, action) :: es
    else e :: insertEntry name action es

def register (r : Registry H) (name : String) (action : Action H) : Registry H :=
  ⟨insertEntry name action r.entries⟩

def find? (r : Registry H) (name : String) : Option (Action H) :=
  (r.entries.find? fun e => e.1 == name).map Prod.snd

def contains (r : Registry H) (name : String) : Bool := (r.find? name).isSome

/-- Registers an action and answers the one that it replaces, if any. -/
def replace (r : Registry H) (name : String) (action : Action H) :
    Registry H × Option (Action H) :=
  (r.register name action, r.find? name)

/-- Registers actions one after the other. -/
def registerAll (r : Registry H) (actions : List (String × Action H)) : Registry H :=
  actions.foldl (fun r e => r.register e.1 e.2) r

/-- The registered names, in increasing order. -/
def names (r : Registry H) : List String := r.entries.map Prod.fst

def size (r : Registry H) : Nat := r.entries.length

def isEmpty (r : Registry H) : Bool := r.entries.isEmpty

/-- The registry in words: its names, quoted. -/
def describe (r : Registry H) : String :=
  "ActionRegistry \x7b actions: [" ++ Text.join ", " (r.names.map Text.quoted) ++ "] \x7d"

@[simp] theorem length_names (r : Registry H) : r.names.length = r.size := by
  simp [names, size]

/-- A registration is found under its name. -/
theorem find?_register_self (r : Registry H) (name : String) (action : Action H) :
    (r.register name action).find? name = some action := by
  obtain ⟨es⟩ := r
  simp only [find?, register]
  induction es with
  | nil => simp [insertEntry]
  | cons e es ih =>
    rw [insertEntry]
    split
    · simp
    · split
      · simp
      · next hne => simpa [Ne.symm hne] using ih

/-- A registration changes nothing under other names. -/
theorem find?_register_of_ne (r : Registry H) {name other : String} (action : Action H)
    (h : other ≠ name) : (r.register name action).find? other = r.find? other := by
  obtain ⟨es⟩ := r
  simp only [find?, register]
  induction es with
  | nil => simp [insertEntry, Ne.symm h]
  | cons e es ih =>
    rw [insertEntry]
    split
    · simp [Ne.symm h]
    · split
      · next heq => subst heq; simp [Ne.symm h]
      · by_cases he : e.1 = other <;> simp [he, ih]

section Forall

variable {r : Registry H} {P : Action H → Prop}
  (hr : ∀ name action, r.find? name = some action → P action)
include hr

/-- What is true of all registered actions stays so if it is true of one that is registered. -/
theorem forall_register {name : String} {action : Action H} (haction : P action) :
    ∀ other found, (r.register name action).find? other = some found → P found := by
  intro other found hfound
  by_cases hname : other = name
  · rw [hname, find?_register_self] at hfound
    obtain rfl := Option.some.inj hfound
    exact haction
  · rw [find?_register_of_ne r action hname] at hfound
    exact hr other found hfound

theorem forall_registerAll {entries : List (String × Action H)}
    (hentries : ∀ entry ∈ entries, P entry.2) :
    ∀ name action, (r.registerAll entries).find? name = some action → P action := by
  induction entries generalizing r with
  | nil => exact hr
  | cons entry entries ih =>
    obtain ⟨hentry, hentries⟩ := List.forall_mem_cons.mp hentries
    exact ih (forall_register hr hentry) hentries

end Forall

end Registry

end PageDirectives

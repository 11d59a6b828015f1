import Mathlib.Data.Finset.Card
import Mathlib.Data.List.Induction
import Mathlib.Data.String.Basic
import PageDirectives.Action.Registry

set_option autoImplicit false

/-! # The latest registration

Registering actions one after the other makes a registry that answers, under every name, the action
that was registered last under this name (`Registry.find?_registerAll_iff`). Its names are those that
were ever registered, each of them once and in increasing order (`Registry.isSorted_registerAll`,
`Registry.mem_names_registerAll_iff`), so it has as many entries as there are such names.
-/

namespace PageDirectives

variable {H : Type}

/-- Whether an action is the one that was registered last under a name. -/
def IsLatest (regs : List (String × Action H)) (name : String) (action : Action H) : Prop :=
  ∃ before after, regs = before ++ (name, action) :: after ∧ ∀ e ∈ after, e.1 ≠ name

section Latest

variable {regs : List (String × Action H)} {name : String} {action : Action H}

/-- One more registration counts for its own name and for no other. -/
theorem isLatest_concat_iff {e : String × Action H} :
    IsLatest (regs ++ [e]) name action ↔
      e = (name, action) ∨ e.1 ≠ name ∧ IsLatest regs name action := by
  constructor
  · rintro ⟨before, after, heq, hafter⟩
    rcases List.eq_nil_or_concat after with rfl | ⟨after, e', rfl⟩
    · exact Or.inl (List.singleton_inj.mp (List.append_inj' heq rfl).2)
    · have hsplit : regs ++ [e] = (before ++ (name, action) :: after) ++ [e'] := by simp [heq]
      obtain ⟨rfl, hlast⟩ := List.append_inj' hsplit rfl
      obtain rfl := List.singleton_inj.mp hlast
      exact Or.inr ⟨hafter e (by simp), before, after, rfl, fun a ha => hafter a (by simp [ha])⟩
  · rintro (rfl | ⟨hne, before, after, rfl, hafter⟩)
    · exact ⟨regs, [], rfl, List.forall_mem_nil _⟩
    · refine ⟨before, after ++ [e], by simp, fun a ha => ?_⟩
      rcases List.mem_append.mp ha with ha | ha
      · exact hafter a ha
      · obtain rfl := List.mem_singleton.mp ha
        exact hne

end Latest

namespace Registry

variable {r : Registry H} {regs : List (String × Action H)} {name other : String}
  {action : Action H}

/-! ## What is found -/

theorem registerAll_append (r : Registry H) (regs more : List (String × Action H)) :
    r.registerAll (regs ++ more) = (r.registerAll regs).registerAll more :=
  List.foldl_append

theorem registerAll_concat (r : Registry H) (regs : List (String × Action H))
    (e : String × Action H) :
    r.registerAll (regs ++ [e]) = (r.registerAll regs).register e.1 e.2 := by
  rw [registerAll_append]
  rfl

/-- **Under a name the action is found that was registered last.** -/
theorem find?_registerAll_iff :
    (empty.registerAll regs).find? name = some action ↔ IsLatest regs name action := by
  induction regs using List.reverseRecOn with
  | nil =>
      constructor
      · intro h
        cases h
      · rintro ⟨before, after, heq, -⟩
        cases before <;> cases heq
  | append_singleton regs e ih =>
      obtain ⟨key, value⟩ := e
      rw [registerAll_concat, isLatest_concat_iff]
      by_cases hname : key = name
      · subst hname
        rw [find?_register_self]
        simp
      · rw [find?_register_of_ne _ _ (Ne.symm hname), ih]
        simp [hname]

/-! ## The names -/

/-- The names increase from entry to entry. -/
def IsSorted (r : Registry H) : Prop := r.names.Pairwise (· < ·)

theorem mem_names_iff : name ∈ r.names ↔ (r.find? name).isSome := by
  simp [names, find?, List.find?_isSome]

theorem mem_map_insertEntry_iff {es : List (String × Action H)} :
    other ∈ (insertEntry name action es).map Prod.fst ↔
      other = name ∨ other ∈ es.map Prod.fst := by
  induction es with
  | nil => simp [insertEntry]
  | cons e es ih =>
      rw [insertEntry]
      split
      · simp
      · split
        · next heq => simp [heq]
        · rw [List.map_cons, List.mem_cons, ih, List.map_cons, List.mem_cons]
          tauto

theorem mem_names_register_iff :
    other ∈ (r.register name action).names ↔ other = name ∨ other ∈ r.names :=
  mem_map_insertEntry_iff

/-- An entry is put where it belongs. -/
theorem pairwise_insertEntry {es : List (String × Action H)}
    (hes : (es.map Prod.fst).Pairwise (· < ·)) :
    ((insertEntry name action es).map Prod.fst).Pairwise (· < ·) := by
  induction es with
  | nil => exact List.pairwise_singleton _ _
  | cons e es ih =>
      have hrest := List.pairwise_cons.mp hes
      rw [insertEntry]
      split
      · next hlt =>
          refine List.pairwise_cons.mpr ⟨fun m hm => ?_, hes⟩
          rcases List.mem_cons.mp hm with rfl | hm
          · exact hlt
          · exact lt_trans hlt (hrest.1 m hm)
      · next hnlt =>
          split
          · next heq => exact heq ▸ hes
          · next hne =>
              -- the new name is behind the first, and so are all the others
              have hlt : e.1 < name := lt_of_le_of_ne (not_lt.mp hnlt) (Ne.symm hne)
              refine List.pairwise_cons.mpr ⟨fun m hm => ?_, ih hrest.2⟩
              rcases mem_map_insertEntry_iff.mp hm with rfl | hm
              · exact hlt
              · exact hrest.1 m hm

theorem IsSorted.register (hr : r.IsSorted) (name : String) (action : Action H) :
    (r.register name action).IsSorted :=
  pairwise_insertEntry hr

/-- **The names are in increasing order** once all is registered. -/
theorem isSorted_registerAll (regs : List (String × Action H)) :
    (empty.registerAll regs).IsSorted := by
  induction regs using List.reverseRecOn with
  | nil => exact List.Pairwise.nil
  | append_singleton regs e ih =>
      rw [registerAll_concat]
      exact ih.register e.1 e.2

/-- **The names are those that were registered**: none of them goes. -/
theorem mem_names_registerAll_iff :
    name ∈ (empty.registerAll regs).names ↔ name ∈ regs.map Prod.fst := by
  induction regs using List.reverseRecOn with
  | nil => exact Iff.rfl
  | append_singleton regs e ih =>
      rw [registerAll_concat, mem_names_register_iff, ih]
      simp [or_comm]

/-- There is one entry for each name. -/
theorem size_registerAll (regs : List (String × Action H)) :
    (empty.registerAll regs).size = (regs.map Prod.fst).toFinset.card := by
  have hnodup : (empty.registerAll regs).names.Nodup := (isSorted_registerAll regs).imp ne_of_lt
  have hsame : (empty.registerAll regs).names.toFinset = (regs.map Prod.fst).toFinset := by
    ext name
    rw [List.mem_toFinset, List.mem_toFinset, mem_names_registerAll_iff]
  rw [← length_names, ← List.toFinset_card_of_nodup hnodup, hsame]

end Registry

end PageDirectives

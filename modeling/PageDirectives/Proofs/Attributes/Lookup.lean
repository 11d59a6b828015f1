import PageDirectives.Proofs.Attributes.Style

set_option autoImplicit false

/-! # Looking up what was set

Attributes and declarations are changed in the same way: the first entry of a name gets another
value, or an entry is added at the end (`Style.IsSet`, `Attributes.setEntry_eq_set`). What is found
afterwards follows from this relation: the new value under the name, and what was there before under
every other name. Setting what is there already changes nothing (`Style.set_of_find?`,
`Attributes.set_of_get?`), and neither does removing what is not there.
-/

namespace PageDirectives

namespace Style

/-- In a list of entries a name has been given a value: the first entry of the name has it now, or
an entry stands behind all others. -/
inductive IsSet (p v : String) : List (String × String) → List (String × String) → Prop
  | changed {before after : List (String × String)} {name old : String}
      (first : ∀ d ∈ before, Text.sameFold d.1 p = false) (named : Text.sameFold name p) :
      IsSet p v (before ++ (name, old) :: after) (before ++ (name, v) :: after)
  | added {ds : List (String × String)} (fresh : ∀ d ∈ ds, Text.sameFold d.1 p = false) :
      IsSet p v ds (ds ++ [(Text.lower p, v)])

variable {p q v : String} {ds ds' : List (String × String)}

theorem IsSet.cons {d : String × String} (hd : Text.sameFold d.1 p = false) (h : IsSet p v ds ds') :
    IsSet p v (d :: ds) (d :: ds') := by
  cases h with
  | changed first named => exact .changed (List.forall_mem_cons.mpr ⟨hd, first⟩) named
  | added fresh => exact .added (List.forall_mem_cons.mpr ⟨hd, fresh⟩)

theorem isSet_set (p v : String) (ds : List (String × String)) : IsSet p v ds (set p v ds) := by
  induction ds with
  | nil => exact .added (List.forall_mem_nil _)
  | cons d ds ih =>
      rw [set]
      split
      · next hnamed => exact .changed (List.forall_mem_nil _) hnamed
      · next hother => exact ih.cons (by simpa using hother)

theorem sameFold_lower (p : String) : Text.sameFold (Text.lower p) p :=
  Text.sameFold_iff.mpr (Text.lower_lower p)

/-- Names that are the same as one and the same name are the same. -/
theorem sameFold_of_sameFold {s : String} (hs : Text.sameFold s p) (q : String) :
    Text.sameFold s q = Text.sameFold p q := by
  rw [Text.sameFold, Text.sameFold, Text.sameFold_iff.mp hs]

/-! ## What is found -/

theorem find?_append_of_forall {before : List (String × String)}
    (h : ∀ d ∈ before, Text.sameFold d.1 p = false) (after : List (String × String)) :
    find? (before ++ after) p = find? after p := by
  have hnone : before.find? (fun d => Text.sameFold d.1 p) = none :=
    List.find?_eq_none.mpr fun d hd => by simp [h d hd]
  rw [find?, find?, List.find?_append, hnone, Option.none_or]

theorem find?_cons_of_sameFold {name : String} (h : Text.sameFold name p) (value : String)
    (after : List (String × String)) : find? ((name, value) :: after) p = some value := by
  simp [find?, h]

theorem find?_eq_none_iff : find? ds p = none ↔ ∀ d ∈ ds, Text.sameFold d.1 p = false := by
  simp [find?]

theorem IsSet.find?_self (h : IsSet p v ds ds') : find? ds' p = some v := by
  cases h with
  | changed first named =>
      rw [find?_append_of_forall first, find?_cons_of_sameFold named]
  | added fresh =>
      rw [find?_append_of_forall fresh, find?_cons_of_sameFold (sameFold_lower p)]

/-- Only the first entry of the name changes. -/
theorem IsSet.filter (h : IsSet p v ds ds') (hlower : ∀ d ∈ ds, Text.lower d.1 = d.1) :
    ds'.filter (fun d => Text.sameFold d.1 p)
      = (Text.lower p, v) :: (ds.filter fun d => Text.sameFold d.1 p).tail := by
  have hnone {before : List (String × String)} (hb : ∀ d ∈ before, Text.sameFold d.1 p = false) :
      before.filter (fun d => Text.sameFold d.1 p) = [] :=
    List.filter_eq_nil_iff.mpr fun d hd => by simp [hb d hd]
  cases h with
  | @changed before after name old first named =>
      have hname : name = Text.lower p :=
        (hlower (name, old) (by simp)).symm.trans (Text.sameFold_iff.mp named)
      simp [hnone first, ← hname, named]
  | added fresh => simp [hnone fresh, sameFold_lower p]

/-- What is found under other names does not depend on the entries of a name. -/
theorem find?_remove_of_ne (h : Text.sameFold p q = false) (ds : List (String × String)) :
    find? (remove p ds) q = find? ds q := by
  rw [find?, find?, remove, List.find?_filter]
  refine congrArg (Option.map Prod.snd ∘ (List.find? · ds)) (funext fun d => ?_)
  by_cases hd : Text.sameFold d.1 q
  · have hp : Text.sameFold d.1 p = false := by
      rw [sameFold_of_sameFold hd, Bool.eq_false_iff]
      intro hqp
      rw [Text.sameFold_iff] at hqp
      rw [Text.sameFold, hqp, beq_self_eq_true] at h
      cases h
    simp [hd, hp]
  · simp [hd]

theorem find?_set_of_ne (h : Text.sameFold p q = false) (v : String)
    (ds : List (String × String)) : find? (set p v ds) q = find? ds q := by
  rw [← find?_remove_of_ne h (set p v ds), remove, filter_set]
  exact find?_remove_of_ne h ds

theorem find?_remove_self (p : String) (ds : List (String × String)) :
    find? (remove p ds) p = none :=
  find?_eq_none_iff.mpr fun d hd => by simpa using (List.mem_filter.mp hd).2

/-! ## Changes that change nothing -/

theorem set_of_find? (h : find? ds p = some v) : set p v ds = ds := by
  have hset := isSet_set p v ds
  generalize set p v ds = ds' at hset
  cases hset with
  | changed first named =>
      rw [find?_append_of_forall first, find?_cons_of_sameFold named] at h
      rw [Option.some.inj h]
  | added fresh => cases (find?_eq_none_iff.mpr fresh).symm.trans h

theorem remove_of_find? (h : find? ds p = none) : remove p ds = ds :=
  List.filter_eq_self.mpr fun d hd => by simp [find?_eq_none_iff.mp h d hd]

end Style

namespace Attributes

variable {a : Attributes} {name other value : String}

theorem setEntry_eq_set (name value : String) (es : List (String × String)) :
    setEntry name value es = Style.set name value es := by
  induction es with
  | nil => rfl
  | cons e es ih => rw [setEntry, Style.set, ih]

theorem get?_set_of_ne (h : Text.sameFold name other = false) (a : Attributes) (value : String) :
    (a.set name value).get? other = a.get? other := by
  have hfind := Style.find?_set_of_ne h value a.entries
  rwa [← setEntry_eq_set] at hfind

theorem get?_remove_self (a : Attributes) (name : String) : (a.remove name).get? name = none :=
  Style.find?_remove_self name a.entries

theorem get?_remove_of_ne (h : Text.sameFold name other = false) (a : Attributes) :
    (a.remove name).get? other = a.get? other :=
  Style.find?_remove_of_ne h a.entries

theorem set_of_get? (h : a.get? name = some value) : a.set name value = a := by
  have hset : Style.set name value a.entries = a.entries := Style.set_of_find? h
  rw [set, setEntry_eq_set, hset]

theorem remove_of_get? (h : a.get? name = none) : a.remove name = a := by
  have hremove : Style.remove name a.entries = a.entries := Style.remove_of_find? h
  exact congrArg Attributes.mk hremove

/-- Setting an attribute does nothing to the others. -/
theorem remove_set (a : Attributes) (name value : String) :
    (a.set name value).remove name = a.remove name := by
  refine congrArg Attributes.mk ?_
  rw [set, setEntry_eq_set]
  exact Style.filter_set name value a.entries

theorem remove_remove (a : Attributes) (name : String) :
    (a.remove name).remove name = a.remove name :=
  remove_of_get? (a.get?_remove_self name)

end Attributes

end PageDirectives

import PageDirectives.Command.Run
import PageDirectives.Proofs.Config.Validity
import PageDirectives.Proofs.Text.Split
import PageDirectives.Proofs.Text.Trim

set_option autoImplicit false

/-! # Events from the command line

An event is written as a selector and a name, with an `@` between them that is the last one
(`Command.PageEvent.Writes`), and both are trimmed. What is not written like this is malformed
(`Command.PageEvent.IsMalformed`): reading answers nothing for such texts and only for them
(`Command.PageEvent.parse?_eq_none_iff`). Of many texts all are read, or the first malformed one is
the reason that none is (`Command.PageEvent.parseAll_of_forall₂`,
`Command.PageEvent.parseAll_of_isMalformed`).
-/

namespace PageDirectives.Command.PageEvent

/-- How an event is written. -/
inductive Writes : String → PageEvent → Prop where
  | intro {selector name : String} : '@' ∉ name.toList → ¬ Text.isBlank selector →
      ¬ Text.isBlank name →
      Writes (selector ++ "@" ++ name) ⟨Text.trim selector, Text.trim name⟩

/-- There is no `@` in a text, or nothing but white space before or behind the last one. -/
def IsMalformed (spec : String) : Prop :=
  '@' ∉ spec.toList ∨ ∃ before after, spec = before ++ "@" ++ after ∧ '@' ∉ after.toList ∧
    (Text.isBlank before ∨ Text.isBlank after)

/-! ## One text -/

theorem cutLast?_eq_some_iff {s before after : List Char} :
    cutLast? s = some (before, after) ↔ s = before ++ '@' :: after ∧ '@' ∉ after := by
  have hreverse : s = before ++ '@' :: after ↔ s.reverse = after.reverse ++ '@' :: before.reverse := by
    rw [← List.reverse_inj, List.reverse_append, List.reverse_cons, List.append_assoc,
      List.singleton_append]
  rw [cutLast?, Option.map_eq_some_iff, hreverse, ← List.mem_reverse,
    ← Chars.cut?_singleton_eq_some_iff]
  constructor
  · rintro ⟨p, hcut, heq⟩
    obtain ⟨rfl, rfl⟩ := Prod.mk.inj heq
    rw [List.reverse_reverse, List.reverse_reverse]
    exact hcut
  · intro hcut
    refine ⟨_, hcut, ?_⟩
    simp only [List.reverse_reverse]

theorem cutLast?_eq_none_iff {s : List Char} : cutLast? s = none ↔ '@' ∉ s := by
  rw [cutLast?, Option.map_eq_none_iff, Chars.cut?_singleton_eq_none_iff, List.mem_reverse]

theorem parse?_of_notMem {spec : String} (h : '@' ∉ spec.toList) : parse? spec = none := by
  rw [parse?, cutLast?_eq_none_iff.mpr h, Option.bind_none]

/-- **Reading** what is written with an `@`, behind which there is no other one. -/
theorem parse?_append (before : String) {after : String} (h : '@' ∉ after.toList) :
    parse? (before ++ "@" ++ after)
      = if Text.isBlank before ∨ Text.isBlank after then none
        else some ⟨Text.trim before, Text.trim after⟩ := by
  have hcut : cutLast? (before ++ "@" ++ after).toList = some (before.toList, after.toList) := by
    rw [cutLast?_eq_some_iff]
    exact ⟨by simp, h⟩
  have hblank (s : String) : Chars.trim s.toList = [] ↔ Text.isBlank s := by
    rw [← Text.toList_trim, String.toList_eq_nil_iff, Text.trim_eq_empty_iff]
  rw [parse?, hcut, Option.bind_some]
  simp only [hblank]
  rfl

/-- A text with an `@` in it has a last one. -/
theorem exists_append_of_mem {spec : String} (h : '@' ∈ spec.toList) :
    ∃ before after, spec = before ++ "@" ++ after ∧ '@' ∉ after.toList := by
  cases hcut : cutLast? spec.toList with
  | none => exact absurd h (cutLast?_eq_none_iff.mp hcut)
  | some p =>
      obtain ⟨heq, hafter⟩ := cutLast?_eq_some_iff.mp hcut
      refine ⟨.ofList p.1, .ofList p.2, ?_, by rwa [String.toList_ofList]⟩
      rw [← String.toList_inj, heq]
      simp

theorem Writes.parse?_eq {spec : String} {event : PageEvent} (h : Writes spec event) :
    parse? spec = some event := by
  cases h with
  | intro hat hbefore hafter =>
      rw [parse?_append _ hat, if_neg (not_or.mpr ⟨hbefore, hafter⟩)]

theorem IsMalformed.parse?_eq {spec : String} (h : IsMalformed spec) : parse? spec = none := by
  rcases h with hnone | ⟨before, after, rfl, hat, hblank⟩
  · exact parse?_of_notMem hnone
  · rw [parse?_append before hat, if_pos hblank]

/-- Every text is malformed or writes an event. -/
theorem isMalformed_or_exists_writes (spec : String) :
    IsMalformed spec ∨ ∃ event, Writes spec event := by
  by_cases hmem : '@' ∈ spec.toList
  · obtain ⟨before, after, rfl, hat⟩ := exists_append_of_mem hmem
    by_cases hblank : Text.isBlank before ∨ Text.isBlank after
    · exact Or.inl (Or.inr ⟨before, after, rfl, hat, hblank⟩)
    · obtain ⟨hbefore, hafter⟩ := not_or.mp hblank
      exact Or.inr ⟨_, .intro hat hbefore hafter⟩
  · exact Or.inl (Or.inl hmem)

theorem parse?_eq_none_iff {spec : String} : parse? spec = none ↔ IsMalformed spec := by
  refine ⟨fun h => (isMalformed_or_exists_writes spec).resolve_right ?_, IsMalformed.parse?_eq⟩
  rintro ⟨event, hevent⟩
  cases h.symm.trans hevent.parse?_eq

theorem parse?_eq_some_iff {spec : String} {event : PageEvent} :
    parse? spec = some event ↔ Writes spec event := by
  refine ⟨fun h => ?_, Writes.parse?_eq⟩
  rcases isMalformed_or_exists_writes spec with hmalformed | ⟨event', hevent⟩
  · cases h.symm.trans hmalformed.parse?_eq
  · rwa [Option.some.inj (h.symm.trans hevent.parse?_eq)]

/-- What is written in front of the last `@` and behind it is trimmed, whatever else stands in
front of it. -/
theorem writes_append_iff {before after : String} {event : PageEvent} (h : '@' ∉ after.toList) :
    Writes (before ++ "@" ++ after) event ↔
      ¬ Text.isBlank before ∧ ¬ Text.isBlank after ∧
        event = ⟨Text.trim before, Text.trim after⟩ := by
  rw [← parse?_eq_some_iff, parse?_append before h]
  split
  · next hblank =>
      refine iff_of_false (fun hnone => by cases hnone) ?_
      rintro ⟨hbefore, hafter, -⟩
      exact not_or.mpr ⟨hbefore, hafter⟩ hblank
  · next hblank =>
      obtain ⟨hbefore, hafter⟩ := not_or.mp hblank
      rw [Option.some.injEq, and_iff_right hbefore, and_iff_right hafter, eq_comm]

/-! ## Many texts -/

theorem parseAll_nil : parseAll [] = .ok [] := rfl

variable {spec : String} {specs : List String}

theorem parseAll_cons_of_writes {event : PageEvent} (h : Writes spec event) (specs : List String) :
    parseAll (spec :: specs) = (parseAll specs).map (event :: ·) := by
  rw [parseAll, List.mapM_cons, h.parse?_eq, ← parseAll]
  cases parseAll specs <;> rfl

theorem parseAll_cons_of_isMalformed (h : IsMalformed spec) (specs : List String) :
    parseAll (spec :: specs) = .error (.malformedEvent spec) := by
  rw [parseAll, List.mapM_cons, h.parse?_eq]
  rfl

/-- Texts that are not malformed write events. -/
theorem exists_forall₂_writes (h : ∀ spec ∈ specs, ¬ IsMalformed spec) :
    ∃ events, List.Forall₂ Writes specs events := by
  induction specs with
  | nil => exact ⟨[], .nil⟩
  | cons spec specs ih =>
      obtain ⟨hspec, hspecs⟩ := List.forall_mem_cons.mp h
      obtain ⟨event, hevent⟩ := (isMalformed_or_exists_writes spec).resolve_left hspec
      obtain ⟨events, hevents⟩ := ih hspecs
      exact ⟨event :: events, .cons hevent hevents⟩

/-- Of the malformed texts one is the first. -/
theorem exists_first_isMalformed (h : ∃ spec ∈ specs, IsMalformed spec) :
    ∃ before spec after, specs = before ++ spec :: after ∧ (∀ s ∈ before, ¬ IsMalformed s) ∧
      IsMalformed spec := by
  induction specs with
  | nil => simp at h
  | cons spec specs ih =>
      by_cases hspec : IsMalformed spec
      · exact ⟨[], spec, specs, rfl, List.forall_mem_nil _, hspec⟩
      · rw [List.exists_mem_cons_iff, or_iff_right hspec] at h
        obtain ⟨before, bad, after, rfl, hbefore, hbad⟩ := ih h
        exact ⟨spec :: before, bad, after, rfl, List.forall_mem_cons.mpr ⟨hspec, hbefore⟩, hbad⟩

/-- **All events are read** if every text writes one. -/
theorem parseAll_of_forall₂ {events : List PageEvent} (h : List.Forall₂ Writes specs events) :
    parseAll specs = .ok events := by
  induction h with
  | nil => exact parseAll_nil
  | cons hevent _ ih =>
      rw [parseAll_cons_of_writes hevent, ih]
      rfl

/-- **No event is read** if a text is malformed, for the reason that the first one is. -/
theorem parseAll_of_isMalformed {before : List String} (hbefore : ∀ s ∈ before, ¬ IsMalformed s)
    (hspec : IsMalformed spec) (after : List String) :
    parseAll (before ++ spec :: after) = .error (.malformedEvent spec) := by
  induction before with
  | nil => exact parseAll_cons_of_isMalformed hspec after
  | cons s before ih =>
      obtain ⟨hs, hbefore⟩ := List.forall_mem_cons.mp hbefore
      obtain ⟨event, hevent⟩ := (isMalformed_or_exists_writes s).resolve_left hs
      rw [List.cons_append, parseAll_cons_of_writes hevent, ih hbefore]
      rfl

end PageDirectives.Command.PageEvent

import PageDirectives.Proofs.Directive.WellFormed

set_option autoImplicit false

/-! # Phrases with white space at their ends

A line is trimmed before it is taken apart, so it neither begins nor ends with white space. If the
verb begins with white space, then it cannot be the first thing in a line, nor can only white space
stand in front of it; and if a phrase ends with white space, then something else follows wherever it
is found. Therefore the default phrases, and all that have white space at the same ends, leave some
ways to refuse a line without a use: no line lacks a selector or an interaction only
(`Clauses.ofLine_of_blankEnds`).

A line that stops right after the preposition has lost the white space with which the preposition
ends. This is what `Clauses.StopsAtPreposition` says, and it is read like any line that has no
preposition.
-/

namespace PageDirectives

namespace Text

/-- Whether the first character of a text is white space. -/
def beginsBlank (s : String) : Bool := s.toList.head?.any PageDirectives.isBlank

/-- Whether the last character of a text is white space. -/
def endsBlank (s : String) : Bool := s.toList.getLast?.any PageDirectives.isBlank

variable {s t : String}

theorem beginsBlank_append (hs : beginsBlank s) (t : String) : beginsBlank (s ++ t) := by
  obtain ⟨c, hfirst, hc⟩ := (Option.any_eq_true _ _).mp hs
  rw [beginsBlank, String.toList_append, List.head?_append, hfirst, Option.some_or]
  exact hc

theorem beginsBlank_append_of_isBlank (hs : isBlank s) (ht : beginsBlank t) :
    beginsBlank (s ++ t) := by
  rw [beginsBlank, String.toList_append, List.head?_append]
  cases hfirst : s.toList.head? with
  | none => exact ht
  | some c => exact List.all_eq_true.mp hs c (List.mem_of_head? hfirst)

theorem endsBlank_append (s : String) (ht : endsBlank t) : endsBlank (s ++ t) := by
  obtain ⟨c, hlast, hc⟩ := (Option.any_eq_true _ _).mp ht
  rw [endsBlank, String.toList_append, List.getLast?_append, hlast, Option.some_or]
  exact hc

theorem endsBlank_append_of_isBlank (hs : endsBlank s) (ht : isBlank t) : endsBlank (s ++ t) := by
  rw [endsBlank, String.toList_append, List.getLast?_append]
  cases hlast : t.toList.getLast? with
  | none => exact hs
  | some c => exact List.all_eq_true.mp ht c (List.mem_of_getLast? hlast)

end Text

namespace Chars

theorem head?_of_trimStart {s : List Char} (hs : trimStart s = s) : s.head?.any isBlank = false := by
  rw [Option.any_eq_false]
  intro c hc
  obtain ⟨rest, rfl⟩ := List.head?_eq_some_iff.mp hc
  exact Bool.eq_false_iff.mpr (List.dropWhile_eq_self_iff.mp hs (Nat.succ_pos _))

end Chars

namespace Text.IsTight

variable {s : String}

/-- A tight text does not begin with white space. -/
theorem beginsBlank_eq_false (hs : IsTight s) : beginsBlank s = false :=
  Chars.head?_of_trimStart (Chars.trimStart_of_trim hs.trim_toList)

/-- Nor does it end with white space. -/
theorem endsBlank_eq_false (hs : IsTight s) : endsBlank s = false := by
  have hback := Chars.trimEnd_of_trim hs.trim_toList
  rw [endsBlank, ← List.head?_reverse]
  exact Chars.head?_of_trimStart (List.reverse_eq_iff.mp hback)

/-- What stands in front of a phrase that begins with white space is not blank. -/
theorem trim_ne_empty_of_beginsBlank {pat before after : String} (hs : IsTight s)
    (heq : s = before ++ pat ++ after) (hpat : beginsBlank pat) : trim before ≠ "" := by
  intro hbefore
  have hbegins : beginsBlank s := by
    rw [heq, String.append_assoc]
    exact beginsBlank_append_of_isBlank (trim_eq_empty_iff.mp hbefore)
      (beginsBlank_append hpat after)
  rw [hs.beginsBlank_eq_false] at hbegins
  cases hbegins

/-- What stands behind a phrase that ends with white space is not blank. -/
theorem trim_ne_empty_of_endsBlank {pat before after : String} (hs : IsTight s)
    (heq : s = before ++ pat ++ after) (hpat : endsBlank pat) : trim after ≠ "" := by
  intro hafter
  have hends : endsBlank s := by
    rw [heq]
    exact endsBlank_append_of_isBlank (endsBlank_append before hpat) (trim_eq_empty_iff.mp hafter)
  rw [hs.endsBlank_eq_false] at hends
  cases hends

end Text.IsTight

/-- Only the lack of a selector is told as such, and so is that of an interaction. -/
theorem Reading.eq_of_ofRejection {line text : String} {r : Rejection} :
    (ofRejection line r = .problem (.emptySelector text) → r = .emptySelector) ∧
    (ofRejection line r = .problem (.emptyInteraction text) → r = .emptyInteraction) := by
  cases r <;> simp [ofRejection]

namespace Clauses

variable {g : Grammar} {line : String}

theorem refused_of_ofLine {r : Rejection} (h : ofLine g line = .error r) :
    Refused g (Text.trim line) r := by
  rcases fits_or_refused g (Text.trim line) with ⟨form, hfits⟩ | ⟨r', hrefused⟩
  · cases (ofLine_of_fits hfits).symm.trans h
  · obtain rfl := Except.error.inj ((ofLine_of_refused hrefused).symm.trans h)
    exact hrefused

/-! ## What a trimmed line does not lack -/

/-- If the verb begins with white space, then a selector stands in front of it. -/
theorem ne_emptySelector (hverb : Text.beginsBlank g.verb) {r : Rejection}
    (h : ofLine g line = .error r) : r ≠ .emptySelector := by
  rintro rfl
  cases refused_of_ofLine h with
  | emptySelector hne _ hcut _ hselector =>
      exact (Text.isTight_trim hne).trim_ne_empty_of_beginsBlank hcut.eq hverb hselector

/-- Something else than white space follows a phrase that ends with white space. -/
theorem trim_ne_empty_of_cutAt {pat selector rest front clause before after : String}
    (hpat : Text.endsBlank pat) (hne : Text.trim line ≠ "")
    (hverb : Text.CutAt g.verb (Text.trim line) selector rest) (hclause : rest = front ++ clause)
    (hcut : Text.CutAt pat clause before after) : Text.trim after ≠ "" := by
  have heq : Text.trim line = selector ++ g.verb ++ front ++ before ++ pat ++ after := by
    rw [hverb.eq, hclause, hcut.eq]
    simp only [String.append_assoc]
  exact (Text.isTight_trim hne).trim_ne_empty_of_endsBlank heq hpat

/-- If the preposition ends with white space, then an interaction follows it. -/
theorem ne_emptyInteraction (hprep : Text.endsBlank g.preposition) {r : Rejection}
    (h : ofLine g line = .error r) : r ≠ .emptyInteraction := by
  rintro rfl
  cases refused_of_ofLine h with
  | emptyInteraction hopens hcut hevent =>
      exact trim_ne_empty_of_cutAt hprep hopens.ne_empty hopens.cut (String.empty_append).symm hcut
        hevent

theorem Strips.exists_eq_append {rest clause : String} (h : Strips g rest clause) :
    ∃ front, rest = front ++ clause := by
  cases h with
  | auxiliary heq => exact ⟨_, heq⟩
  | none _ => exact ⟨"", String.empty_append.symm⟩

/-- If the options phrase ends with white space, then options are left out only where it does not
occur. -/
theorem exists_strips_of_predicate (hoptions : Text.endsBlank g.options) {selector action : String}
    {options : Option String} (h : ofLine g line = .ok ⟨selector, action, .predicate options⟩) :
    ∃ before rest clause, Text.CutAt g.verb (Text.trim line) before rest ∧ Strips g rest clause ∧
      (options = none ↔ ∀ n, ¬ Text.OccursAt g.options clause n) := by
  obtain ⟨form, hfits, hform⟩ := exists_fits_of_ofLine h
  cases hfits with
  | interaction _ _ _ _ => cases congrArg Clauses.cue hform
  | predicate hopens _ _ hstrips hdivides _ =>
      refine ⟨_, _, _, hopens.cut, hstrips, ?_⟩
      obtain rfl := Cue.predicate.inj (congrArg Clauses.cue hform)
      obtain ⟨front, hfront⟩ := hstrips.exists_eq_append
      cases hdivides with
      | none hno => exact iff_of_true rfl hno
      | options hcut =>
          have hafter := trim_ne_empty_of_cutAt hoptions hopens.ne_empty hopens.cut hfront hcut
          refine iff_of_false ?_ (not_forall_not.mpr hcut.occursAt)
          rw [Option.map_some, Option.filter_some, if_pos (by simpa using hafter)]
          exact Option.some_ne_none _

/-! ## Lines that stop right after the preposition -/

/-- What stands behind the verb of a line, if it has one, stops right after the first preposition:
with the white space put back that trimming has taken from its end, the preposition is found there
and nothing behind it. -/
def StopsAtPreposition (g : Grammar) (line : String) : Prop :=
  ∀ selector rest, Text.CutAt g.verb line selector rest →
    ∃ actions blanks, Text.isBlank blanks ∧ Text.CutAt g.preposition (rest ++ blanks) actions ""

/-- A phrase that is first found at the end of a longer text is not found without that end. -/
theorem not_occursAt_of_cutAt_append {pat s more before : String} (hmore : more ≠ "")
    (hcut : Text.CutAt pat (s ++ more) before "") (n : Nat) : ¬ Text.OccursAt pat s n := by
  intro hoccurs
  cases hfound : Text.cut? pat s with
  | none => exact Text.cut?_eq_none_iff.mp hfound n hoccurs
  | some p =>
      have hs := (Text.cut?_eq_some_iff.mp hfound).eq
      have hlength := congrArg String.length hcut.eq
      have hpos : 0 < more.length := Nat.pos_of_ne_zero fun h => hmore (String.length_eq_zero_iff.mp h)
      rw [hs] at hlength
      simp only [String.length_append, String.length_empty] at hlength
      refine hcut.first p.1.length (by omega) ⟨p.2.toList ++ more.toList, ?_⟩
      rw [hs]
      simp only [String.toList_append, List.append_assoc]
      exact (List.drop_left' String.length_toList).symm

theorem StopsAtPreposition.not_occursAt (hprep : Text.endsBlank g.preposition)
    (hne : Text.trim line ≠ "") (h : StopsAtPreposition g (Text.trim line)) {selector rest : String}
    (hcut : Text.CutAt g.verb (Text.trim line) selector rest) (n : Nat) :
    ¬ Text.OccursAt g.preposition rest n := by
  obtain ⟨actions, blanks, hblanks, hstop⟩ := h selector rest hcut
  refine not_occursAt_of_cutAt_append ?_ hstop n
  rintro rfl
  -- without white space to put back, the line would end with that of the preposition
  rw [String.append_empty] at hstop
  exact trim_ne_empty_of_cutAt hprep hne hcut String.empty_append.symm hstop rfl

/-- Such a line has no interaction. -/
theorem StopsAtPreposition.exists_of_ofLine (hprep : Text.endsBlank g.preposition)
    (h : StopsAtPreposition g (Text.trim line)) :
    (∃ selector action options, ofLine g line = .ok ⟨selector, action, .predicate options⟩) ∨
      ∃ r, ofLine g line = .error r := by
  cases hline : ofLine g line with
  | error r => exact Or.inr ⟨r, rfl⟩
  | ok c =>
      obtain ⟨form, hfits, rfl⟩ := exists_fits_of_ofLine hline
      cases hfits with
      | interaction hopens hcut _ _ =>
          obtain ⟨n, hn⟩ := hcut.occursAt
          exact absurd hn (h.not_occursAt hprep hopens.ne_empty hopens.cut n)
      | predicate _ _ _ _ _ _ => exact Or.inl ⟨_, _, _, rfl⟩

/-! ## The ways to refuse a line that are left -/

/-- **Phrases with white space at their ends.** If the verb begins with white space and the
preposition ends with it, then no line is refused for want of a selector or of an interaction, and
no diagnostic says so, whatever page the line is read on. If the options phrase ends with white space
too, then a directive without interaction has options if and only if this phrase occurs behind the
verb and the auxiliary. A line that stops right after the preposition is read as one without
interaction, or it is refused for another reason. -/
theorem ofLine_of_blankEnds (hverb : Text.beginsBlank g.verb)
    (hprep : Text.endsBlank g.preposition) :
    (∀ line r, ofLine g line = .error r → r ≠ .emptySelector ∧ r ≠ .emptyInteraction) ∧
    (∀ (H : Type) [Host H] (h : H) (line text : String),
      Reading.ofLine g h line ≠ .problem (.emptySelector text) ∧
      Reading.ofLine g h line ≠ .problem (.emptyInteraction text)) ∧
    (Text.endsBlank g.options → ∀ line selector action options,
      ofLine g line = .ok ⟨selector, action, .predicate options⟩ →
      ∃ before rest clause, Text.CutAt g.verb (Text.trim line) before rest ∧ Strips g rest clause ∧
        (options = none ↔ ∀ n, ¬ Text.OccursAt g.options clause n)) ∧
    ∀ line, StopsAtPreposition g (Text.trim line) →
      (∃ selector action options, ofLine g line = .ok ⟨selector, action, .predicate options⟩) ∨
      ∃ r, ofLine g line = .error r ∧ r ≠ .emptySelector ∧ r ≠ .emptyInteraction := by
  have herror (line : String) (r : Rejection) (h : ofLine g line = .error r) :
      r ≠ .emptySelector ∧ r ≠ .emptyInteraction :=
    ⟨ne_emptySelector hverb h, ne_emptyInteraction hprep h⟩
  refine ⟨herror, fun H _ h line text => ?_,
    fun hoptions line _ _ _ h => exists_strips_of_predicate hoptions h, fun line hstops => ?_⟩
  · rcases Reading.ofLine_cases g h line with ⟨r, hr, heq⟩ | ⟨c, -, -, heq⟩ | ⟨c, -, -, heq⟩
    · obtain ⟨hselector, hinteraction⟩ := herror _ r hr
      rw [heq]
      exact ⟨fun h => hselector (Reading.eq_of_ofRejection.1 h),
        fun h => hinteraction (Reading.eq_of_ofRejection.2 h)⟩
    · rw [heq]
      exact ⟨by simp, by simp⟩
    · rw [heq]
      exact ⟨by simp, by simp⟩
  · rcases hstops.exists_of_ofLine hprep with hpredicate | ⟨r, hr⟩
    · exact Or.inl hpredicate
    · exact Or.inr ⟨r, hr, herror line r hr⟩

/-- A line that stops right after its preposition, with the default phrases. -/
theorem ofLine_of_bareOn :
    Text.beginsBlank " should " ∧ Text.endsBlank " on " ∧
      StopsAtPreposition {} (Text.trim "#a should hide on") ∧
      ∃ selector action options,
        ofLine {} "#a should hide on" = .ok ⟨selector, action, .predicate options⟩ := by
  have hverb : Text.beginsBlank " should " := by decide
  have hprep : Text.endsBlank " on " := by decide
  have hstops : StopsAtPreposition {} (Text.trim "#a should hide on") := by
    intro selector rest hcut
    have hline : Text.CutAt " should " (Text.trim "#a should hide on") "#a" "hide on" :=
      Text.cut?_eq_some_iff.mp (by decide)
    obtain ⟨-, rfl⟩ := hcut.unique hline
    exact ⟨"hide", " ", by decide, Text.cut?_eq_some_iff.mp (by decide)⟩
  refine ⟨hverb, hprep, hstops, ?_⟩
  rcases (ofLine_of_blankEnds hverb hprep).2.2.2 _ hstops with hpredicate | ⟨r, hr, -⟩
  · exact hpredicate
  · exact absurd hr (by cases r <;> decide)

end Clauses

end PageDirectives

import Mathlib.Data.List.Basic
import PageDirectives.Action.Basic
import PageDirectives.Page

set_option autoImplicit false

/-! # Targets by position

What a target means depends on where it stands among the arguments (`Call.targetAt`): the filter of
a neighbour is the argument right behind it. An action looks the word up instead, and takes the
filter from behind the first argument that is the same word. So a target means what the first
argument that is the same means (`Call.target_eq_targetAt_firstPlace`), which is something else only
for a neighbour whose keyword stands further in front as well, say as the name of a class.
-/

namespace PageDirectives

/-! ## The first place of an argument -/

/-- The place of the first argument that is the same as the one at a position. -/
def firstPlace (args : List String) (position : Nat) : Nat :=
  args[position]?.elim position fun arg => args.idxOf arg

section FirstPlace

variable {args : List String} {position : Nat} {arg : String}

theorem firstPlace_of_getElem? (h : args[position]? = some arg) :
    firstPlace args position = args.idxOf arg := by
  rw [firstPlace, h, Option.elim_some]

theorem firstPlace_of_none (h : args[position]? = none) : firstPlace args position = position := by
  rw [firstPlace, h, Option.elim_none]

/-- At the first place stands the same argument. -/
theorem getElem?_firstPlace (args : List String) (position : Nat) :
    args[firstPlace args position]? = args[position]? := by
  cases harg : args[position]? with
  | none => rw [firstPlace_of_none harg, harg]
  | some arg =>
      have hlt : args.idxOf arg < args.length :=
        List.idxOf_lt_length_iff.mpr (List.mem_of_getElem? harg)
      rw [firstPlace_of_getElem? harg, List.getElem?_eq_getElem hlt, List.getElem_idxOf hlt]

/-- Nothing stands in front of the first place that is the same. -/
theorem getElem?_ne_of_lt_firstPlace (harg : args[position]? = some arg) {j : Nat}
    (hj : j < firstPlace args position) : args[j]? ≠ some arg := by
  rw [firstPlace_of_getElem? harg] at hj
  intro heq
  obtain ⟨hlt, rfl⟩ := List.getElem?_eq_some_iff.mp heq
  simpa using List.not_of_lt_findIdx hj

theorem firstPlace_le (args : List String) (position : Nat) :
    firstPlace args position ≤ position := by
  cases harg : args[position]? with
  | none => exact Nat.le_of_eq (firstPlace_of_none harg)
  | some arg => exact Nat.not_lt.mp fun hlt => getElem?_ne_of_lt_firstPlace harg hlt harg

theorem firstPlace_eq_self (harg : args[position]? = some arg)
    (hfirst : ∀ j < position, args[j]? ≠ some arg) : firstPlace args position = position := by
  refine Nat.le_antisymm (firstPlace_le args position) (Nat.not_lt.mp fun hlt => ?_)
  exact hfirst _ hlt ((getElem?_firstPlace args position).trans harg)

/-- The argument behind a word is the one behind its first place. -/
theorem argumentAfter?_eq (token : String) (args : List String) :
    argumentAfter? token args = args[args.idxOf token + 1]? := by
  induction args with
  | nil => rfl
  | cons arg args ih =>
      rw [argumentAfter?, List.getElem?_cons_succ]
      by_cases harg : arg = token
      · rw [if_pos harg, harg, List.idxOf_cons_self, List.head?_eq_getElem?]
      · rw [if_neg harg, List.idxOf_cons_ne _ harg, ih]

end FirstPlace

/-! ## Targets -/

namespace Call

variable {H : Type} [Host H]

/-- The elements that the argument at a position means. The argument right behind it filters a
neighbour. -/
def targetAt (call : Call) (h : H) (position : Nat) : List NodeId :=
  let passes (n : NodeId) : Bool := call.args[position + 1]?.all (Host.isMatch h n)
  match call.args[position]? with
  | none | some "self" | some "itself" => call.origin.head?.toList
  | some "next" => ((call.origin.head?.bind (Host.next? h)).filter passes).toList
  | some "previous" => ((call.origin.head?.bind (Host.previous? h)).filter passes).toList
  | some selector => Host.select h selector

variable {call : Call} {h : H} {position : Nat}

/-- **A target means what the first argument that is the same means.** -/
theorem target_eq_targetAt_firstPlace (call : Call) (h : H) (position : Nat) :
    call.target h position = call.targetAt h (firstPlace call.args position) := by
  have hbind (f : NodeId → Option NodeId) (p : NodeId → Bool) :
      (call.origin.head?.bind f).filter p = call.origin.head?.bind fun n => (f n).filter p := by
    cases call.origin.head? <;> rfl
  unfold target targetAt
  rw [getElem?_firstPlace]
  cases harg : call.args[position]? with
  | none => rfl
  | some token =>
      rw [firstPlace_of_getElem? harg, ← argumentAfter?_eq, Option.getD_some]
      unfold findTarget
      split
      · next hself => rcases hself with rfl | rfl <;> rfl
      next hself =>
      obtain ⟨hself, hitself⟩ := not_or.mp hself
      split
      · next hnext =>
          subst hnext
          exact congrArg Option.toList (hbind _ _).symm
      next hnext =>
      split
      · next hprevious =>
          subst hprevious
          exact congrArg Option.toList (hbind _ _).symm
      next hprevious =>
      split <;> simp_all

theorem target_eq_targetAt (hfirst : ∀ j < position, call.args[j]? ≠ call.args[position]?) :
    call.target h position = call.targetAt h position := by
  rw [target_eq_targetAt_firstPlace]
  cases harg : call.args[position]? with
  | none => rw [firstPlace_of_none harg]
  | some arg => rw [firstPlace_eq_self harg (harg ▸ hfirst)]

/-- Only the keywords of neighbours look at what stands behind them. -/
theorem targetAt_congr {position' : Nat} (harg : call.args[position']? = call.args[position]?)
    (hnext : call.args[position]? ≠ some "next")
    (hprevious : call.args[position]? ≠ some "previous") :
    call.targetAt h position' = call.targetAt h position := by
  unfold targetAt
  rw [harg]
  split
  case h_4 hkeyword => exact absurd hkeyword hnext
  case h_5 hkeyword => exact absurd hkeyword hprevious
  all_goals rfl

/-- **What a target means.** It means what the first argument that is the same means, so it means what
stands at its position if nothing in front of it is the same, if it is no neighbour, or if the same
filter stands behind both places. -/
theorem target_of_position (call : Call) (h : H) (position : Nat) :
    let first := firstPlace call.args position
    first ≤ position ∧ call.args[first]? = call.args[position]? ∧
    call.target h position = call.targetAt h first ∧
    ((∀ j < position, call.args[j]? ≠ call.args[position]?) →
      call.target h position = call.targetAt h position) ∧
    (call.args[position]? ≠ some "next" → call.args[position]? ≠ some "previous" →
      call.target h position = call.targetAt h position) ∧
    (call.args[first + 1]? = call.args[position + 1]? →
      call.target h position = call.targetAt h position) := by
  intro first
  have hsame : call.args[first]? = call.args[position]? := getElem?_firstPlace _ _
  have htarget : call.target h position = call.targetAt h first :=
    target_eq_targetAt_firstPlace call h position
  refine ⟨firstPlace_le _ _, hsame, htarget, target_eq_targetAt, fun hnext hprevious => ?_,
    fun hfilter => ?_⟩
  · rw [htarget, targetAt_congr hsame hnext hprevious]
  · rw [htarget, targetAt, targetAt, hsame, hfilter]

/-- A paragraph behind a heading gets the class `open` if it is told to the heading so. -/
theorem target_of_open :
    let page := Page.parse "<h3></h3><p></p>"
    let directive : Directive := ⟨"h3 should addclass open next p on load", "h3",
      "addclass open next p", .load, none, [4]⟩
    let call : Call := ⟨[4], directive, ["open", "next", "p"]⟩
    (∀ j < 1, call.args[j]? ≠ call.args[1]?) ∧ call.target page 1 = [5] := by
  intro page directive call
  have hfirst : ∀ j < 1, call.args[j]? ≠ call.args[1]? := by decide
  obtain ⟨-, -, -, htarget, -⟩ := target_of_position call page 1
  refine ⟨hfirst, (htarget hfirst).trans ?_⟩
  decide +kernel

/-- **A class that is named `next` is taken for the keyword**: the paragraph is not found, as it is
filtered by the word behind the class. -/
theorem target_of_nextClass :
    let page := Page.parse "<h3></h3><p></p>"
    let directive : Directive := ⟨"h3 should addclass next next p on load", "h3",
      "addclass next next p", .load, none, [4]⟩
    let call : Call := ⟨[4], directive, ["next", "next", "p"]⟩
    call.targetAt page 1 = [5] ∧ call.target page 1 = [] := by
  decide +kernel

end Call

end PageDirectives

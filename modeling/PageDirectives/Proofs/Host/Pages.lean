import PageDirectives.Page
import PageDirectives.Proofs.Document.Place
import PageDirectives.Proofs.Host.Lineage
import PageDirectives.Sketch.Basic

set_option autoImplicit false

/-! # The two kinds of pages are lawful

In a sketch parents stand before their children, so the number of an element is its rank. In a
page the rank of a node is the number of nodes above it.

Both are *faithful* as well: what a selection names matches the selector when it is asked about
alone, and only elements do.
-/

namespace PageDirectives

/-- A page whose selections name nothing but what matches. -/
class FaithfulHost (H : Type) [Host H] : Prop extends LawfulHost H where
  isMatch_of_mem_select : ∀ (h : H) (selector : String),
    ∀ n ∈ Host.select h selector, Host.isMatch h n selector

namespace Sketch

theorem parent?_lt {s : Sketch} {node parent : NodeId} (h : s.parent? node = some parent) :
    parent < node ∧ node < s.elements.length := by
  obtain ⟨e, he, hparent⟩ := Option.bind_eq_some_iff.mp h
  exact ⟨s.ordered node e he parent hparent, (List.getElem?_eq_some_iff.mp he).1⟩

/-- Elements rank by their numbers; a number that names none has no parent and ranks lowest. -/
instance : LawfulHost Sketch where
  exists_rank s := by
    refine ⟨fun n => if n < s.elements.length then n else 0, fun n => ?_, fun n p hp => ?_⟩
    · show (if n < s.elements.length then n else 0) ≤ s.elements.length
      split
      · next hn => exact Nat.le_of_lt hn
      · exact Nat.zero_le _
    · obtain ⟨hlt, hn⟩ := parent?_lt hp
      simp only [hn, Nat.lt_trans hlt hn, if_true]
      exact hlt
  nodup_select _ _ := List.nodup_range.filter _

instance : FaithfulHost Sketch where
  isMatch_of_mem_select _ _ _ hn := (List.mem_filter.mp hn).2

end Sketch

namespace Page

instance : LawfulHost Page where
  exists_rank p :=
    ⟨p.document.level, p.document.level_le_size, fun _ _ h =>
      Document.level_parentElement?_lt h⟩
  nodup_select p selector := by
    show (p.select selector).Nodup
    unfold select
    split
    · exact List.nodup_nil
    · exact p.document.nodup_selectBy _

instance : FaithfulHost Page where
  isMatch_of_mem_select p selector n hn := by
    change n ∈ p.select selector at hn
    change p.isMatch n selector
    unfold select at hn
    unfold isMatch
    split at hn
    · cases hn
    · next s hs =>
        obtain ⟨c, hc, rfl⟩ := List.mem_map.mp hn
        obtain ⟨hattached, hpass⟩ := List.mem_filter.mp hc
        obtain ⟨-, haccepts⟩ := Bool.and_eq_true_iff.mp hpass
        -- the place that was selected is the one that the number is looked up at
        have hplace := p.document.attached_sublist_places.subset hattached
        rw [hs, Option.any_some, Document.cursor?_eq_some_iff.mpr ⟨hplace, rfl⟩, Option.any_some]
        exact haccepts

end Page

/-- The journal takes no part in what matches. -/
instance {H L : Type} [Host H] [FaithfulHost H] : FaithfulHost (Journaled H L) where
  isMatch_of_mem_select j := FaithfulHost.isMatch_of_mem_select j.host

end PageDirectives

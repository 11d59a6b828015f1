import PageDirectives.Host
import PageDirectives.Host.Journal

set_option autoImplicit false

/-! # The way up

A page is *lawful* when the parents of its nodes run into no circle and its selections repeat no
node. On a lawful page every node has exactly one lineage (`Host.IsLineage`): the node itself,
its parent, the parent of that, up to a node without parent. `Host.lineage`, which takes a
bounded number of steps, computes it (`Host.isLineage_lineage`), and it repeats no node.
-/

namespace PageDirectives

/-- What the engine relies on in a page. -/
class LawfulHost (H : Type) [Host H] : Prop where
  /-- Nodes can be ranked, up to the depth of the page, so that parents rank below their
  children. -/
  exists_rank : ∀ h : H, ∃ rank : NodeId → Nat,
    (∀ n, rank n ≤ Host.depth h) ∧ ∀ n p, Host.parent? h n = some p → rank p < rank n
  /-- A selection names every node once. -/
  nodup_select : ∀ (h : H) (selector : String), (Host.select h selector).Nodup

namespace Host

variable {H : Type} [Host H]

/-- The nodes from `n` on, each followed by its parent, the last of them without one. -/
inductive IsLineage (h : H) : NodeId → List NodeId → Prop where
  | top {n : NodeId} : parent? h n = none → IsLineage h n [n]
  | step {n p : NodeId} {path : List NodeId} :
      parent? h n = some p → IsLineage h p path → IsLineage h n (n :: path)

/-- A node has at most one lineage. -/
theorem IsLineage.unique {h : H} {n : NodeId} {path path' : List NodeId}
    (hp : IsLineage h n path) (hp' : IsLineage h n path') : path = path' := by
  induction hp generalizing path' with
  | top hnone =>
      cases hp' with
      | top _ => rfl
      | step hsome _ => rw [hnone] at hsome; cases hsome
  | step hsome _ ih =>
      cases hp' with
      | top hnone => rw [hnone] at hsome; cases hsome
      | step hsome' hrest =>
          obtain rfl := Option.some.inj (hsome.symm.trans hsome')
          rw [ih hrest]

/-- The lineage of a node hangs on nothing but the parents. -/
theorem IsLineage.congr {H' : Type} [Host H'] {h : H} {h' : H'} {n : NodeId}
    {path : List NodeId} (hpar : ∀ m, parent? h' m = parent? h m) (hp : IsLineage h n path) :
    IsLineage h' n path := by
  induction hp with
  | top hnone => exact .top ((hpar _).trans hnone)
  | step hsome _ ih => exact .step ((hpar _).trans hsome) ih

/-- Ranks fall all along a lineage. -/
theorem IsLineage.rank_lt {h : H} {rank : NodeId → Nat}
    (hr : ∀ n p, parent? h n = some p → rank p < rank n) {n : NodeId} {path : List NodeId}
    (hp : IsLineage h n path) :
    path.Pairwise (fun a b => rank b < rank a) ∧ ∀ m ∈ path, rank m ≤ rank n := by
  induction hp with
  | top _ => simp
  | @step n p path hsome _ ih =>
      have hlt : rank p < rank n := hr n p hsome
      -- everything further up ranks at most as high as the parent
      refine ⟨List.pairwise_cons.mpr ⟨fun m hm => ?_, ih.1⟩, fun m hm => ?_⟩
      · exact Nat.lt_of_le_of_lt (ih.2 m hm) hlt
      · rcases List.mem_cons.mp hm with rfl | hm'
        · exact Nat.le_refl _
        · exact Nat.le_trans (ih.2 m hm') (Nat.le_of_lt hlt)

/-- Climbing at least as far as the rank of a node leads to the end of its lineage. -/
theorem isLineage_climb {h : H} {rank : NodeId → Nat}
    (hr : ∀ n p, parent? h n = some p → rank p < rank n) :
    ∀ (fuel : Nat) (n : NodeId), rank n ≤ fuel → IsLineage h n (n :: climb h fuel n) := by
  intro fuel
  induction fuel with
  | zero =>
      intro n hn
      -- nothing ranks below zero, so the node has no parent
      refine .top ?_
      cases hp : parent? h n with
      | none => rfl
      | some p =>
          have := hr n p hp
          omega
  | succ fuel ih =>
      intro n hn
      rw [climb]
      cases hp : parent? h n with
      | none => exact .top hp
      | some p =>
          have hlt := hr n p hp
          exact .step hp (ih p (by omega))

variable [LawfulHost H]

/-- **The bounded climb is never cut short**: on a lawful page it lists the whole lineage. -/
theorem isLineage_lineage (h : H) (n : NodeId) : IsLineage h n (lineage h n) := by
  obtain ⟨rank, hle, hr⟩ := LawfulHost.exists_rank h
  exact isLineage_climb hr (depth h) n (hle n)

theorem isLineage_iff {h : H} {n : NodeId} {path : List NodeId} :
    IsLineage h n path ↔ path = lineage h n :=
  ⟨fun hp => hp.unique (isLineage_lineage h n), fun hp => hp ▸ isLineage_lineage h n⟩

theorem nodup_lineage (h : H) (n : NodeId) : (lineage h n).Nodup := by
  obtain ⟨rank, -, hr⟩ := LawfulHost.exists_rank h
  -- equal nodes have equal ranks, and ranks fall on the way
  refine ((isLineage_lineage h n).rank_lt hr).1.imp fun hlt heq => ?_
  rw [heq] at hlt
  exact Nat.lt_irrefl _ hlt

/-- Two pages with the same parents have the same lineages. -/
theorem lineage_congr {H' : Type} [Host H'] [LawfulHost H'] {h : H} {h' : H'}
    (hpar : ∀ m, parent? h' m = parent? h m) (n : NodeId) : lineage h' n = lineage h n :=
  (isLineage_iff.mp ((isLineage_lineage h n).congr hpar)).symm

end Host

/-- The journal takes no part in the laws of a page. -/
instance {H L : Type} [Host H] [LawfulHost H] : LawfulHost (Journaled H L) where
  exists_rank j := LawfulHost.exists_rank j.host
  nodup_select j := LawfulHost.nodup_select j.host

end PageDirectives

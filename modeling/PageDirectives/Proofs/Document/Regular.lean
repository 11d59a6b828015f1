import PageDirectives.Proofs.Attributes.Declarations
import PageDirectives.Proofs.Markup.Elements

set_option autoImplicit false

/-! # Elements whose attributes are in order

The attributes of every element of a page are in the order of their names, and the names of those
that belong to a vocabulary are in small letters (`Element.IsRegular`, `Document.isRegular_of_run`).

Attributes are found by name in any case of letters, and the first one counts, so it matters that
giving an element new attributes puts them in order. The attributes of a regular element are
orderly (`Attributes.IsOrderly`): of two that are the same name in different letters, the one that
comes first in the order of names stands first. Edits keep them so, and then putting them in order
leaves what is found under each name (`Attributes.IsOrderly.get?_withAttributes`).
-/

namespace PageDirectives

/-- Sorting does nothing to a part of a list that is sorted already. -/
theorem filter_mergeSort {α : Type} {le : α → α → Bool} {xs : List α} {p : α → Bool}
    (htrans : ∀ a b c, le a b → le b c → le a c) (htotal : ∀ a b, le a b || le b a)
    (hsorted : (xs.filter p).Pairwise (le · ·)) : (xs.mergeSort le).filter p = xs.filter p := by
  have hsub : (xs.filter p).Sublist (xs.mergeSort le) :=
    List.sublist_mergeSort htrans htotal hsorted List.filter_sublist
  have hkept : (xs.filter p).Sublist ((xs.mergeSort le).filter p) := by
    simpa [List.filter_filter] using hsub.filter p
  exact (hkept.eq_of_length ((List.mergeSort_perm xs le).filter p).length_eq.symm).symm

namespace Text

theorem not_toLower_lt (c : Char) : ¬ c.toLower < c := by
  by_cases hc : c.isUpper
  · simp only [Char.isUpper, decide_eq_true_eq] at hc
    have hrange : 65 ≤ c.val.toNat ∧ c.val.toNat ≤ 90 := by
      simpa [UInt32.le_iff_toNat_le] using hc
    have hlower : c.toLower.val.toNat = (c.val.toNat + 32) % 2 ^ 32 := by
      rw [Char.toLower, dif_pos hc]
      exact UInt32.toNat_add _ _
    rw [Char.lt_def, UInt32.lt_iff_toNat_lt, hlower]
    omega
  · rw [Char.toLower_eq_of_not_isUpper hc]
    exact lt_irrefl c

/-- Capitals come before small letters. -/
theorem le_lower (s : String) : s ≤ lower s := by
  rw [← String.not_lt, String.lt_iff_toList_lt, toList_lower]
  induction s.toList with
  | nil => exact List.not_lt_nil _
  | cons c cs ih =>
      rw [Chars.lower, List.map_cons, List.cons_lt_cons_iff]
      rintro (hlt | ⟨-, hlt⟩)
      · exact not_toLower_lt c hlt
      · exact ih hlt

end Text

/-! ## The order of names -/

namespace AttrName

theorem le_iff {m n : AttrName} :
    m.le n ↔ m.rank < n.rank ∨ m.rank = n.rank ∧ m.name ≤ n.name := by
  rw [le, Bool.or_eq_true, Bool.and_eq_true, decide_eq_true_eq, beq_iff_eq, Bool.not_eq_true',
    decide_eq_false_iff_not, String.not_lt]

theorem le_trans (m n k : AttrName) (hmn : m.le n) (hnk : n.le k) : m.le k := by
  rw [le_iff] at *
  rcases hmn with hmn | ⟨hmn, hname⟩
  · rcases hnk with hnk | ⟨hnk, -⟩
    · exact Or.inl (Nat.lt_trans hmn hnk)
    · exact Or.inl (hnk ▸ hmn)
  · rcases hnk with hnk | ⟨hnk, hname'⟩
    · exact Or.inl (hmn ▸ hnk)
    · exact Or.inr ⟨hmn.trans hnk, String.le_trans hname hname'⟩

theorem le_total (m n : AttrName) : m.le n || n.le m := by
  rw [Bool.or_eq_true, le_iff, le_iff]
  rcases Nat.lt_trichotomy m.rank n.rank with h | h | h
  · exact Or.inl (Or.inl h)
  · rcases String.le_total m.name n.name with hname | hname
    · exact Or.inl (Or.inr ⟨h, hname⟩)
    · exact Or.inr (Or.inr ⟨h.symm, hname⟩)
  · exact Or.inr (Or.inl h)

/-- The plain names stand in front. -/
theorem rank_eq_zero_iff {n : AttrName} : n.rank = 0 ↔ n.space = .plain := by
  obtain ⟨space, name⟩ := n
  cases space <;> simp [rank]
  split <;> simp

end AttrName

/-- A plain attribute. -/
def Attr.plain (entry : String × String) : Attr := ⟨{ name := entry.1 }, entry.2⟩

namespace Element

theorem withAttributes_eq (e : Element) (a : Attributes) :
    e.withAttributes a = .ofAttrs e.tag (a.entries.map Attr.plain) := rfl

/-- The attributes are in the order of their names, and those of other vocabularies have names in
small letters. -/
structure IsRegular (e : Element) : Prop where
  sorted : e.attrs.Pairwise fun a b => a.name.le b.name
  small : ∀ a ∈ e.attrs, a.name.space ≠ .plain → Text.lower a.name.name = a.name.name

theorem isRegular_ofAttrs (tag : Tag) {attrs : List Attr}
    (hsmall : ∀ a ∈ attrs, a.name.space ≠ .plain → Text.lower a.name.name = a.name.name) :
    (ofAttrs tag attrs).IsRegular where
  sorted := List.pairwise_mergeSort (fun a b c => AttrName.le_trans a.name b.name c.name)
    (fun a b => AttrName.le_total a.name b.name) attrs
  small a ha := hsmall a ((List.mergeSort_perm _ _).mem_iff.mp ha)

theorem isRegular_withAttributes (e : Element) (a : Attributes) :
    (e.withAttributes a).IsRegular := by
  rw [withAttributes_eq]
  refine isRegular_ofAttrs e.tag fun b hb hspace => ?_
  obtain ⟨entry, -, rfl⟩ := List.mem_map.mp hb
  exact absurd rfl hspace

theorem mem_addMissing {e : Element} {attrs : List Attr} {a : Attr}
    (ha : a ∈ (e.addMissing attrs).attrs) : a ∈ e.attrs ∨ a ∈ attrs := by
  have hmem := (List.mergeSort_perm _ _).mem_iff.mp ha
  generalize e.attrs = known at hmem ⊢
  clear ha
  induction attrs generalizing known with
  | nil => exact Or.inl hmem
  | cons b attrs ih =>
      rcases ih _ hmem with hknown | hnew
      · simp only at hknown
        split at hknown
        · exact Or.inl hknown
        · rcases List.mem_append.mp hknown with hknown | hb
          · exact Or.inl hknown
          · exact Or.inr (List.mem_cons.mpr (Or.inl (List.mem_singleton.mp hb)))
      · exact Or.inr (List.mem_cons_of_mem b hnew)

end Element

namespace Markup

theorem space_of_mem_plainAttrs {t : StartTag} {a : Attr} (ha : a ∈ Builder.plainAttrs t) :
    a.name.space = .plain := by
  obtain ⟨entry, -, rfl⟩ := List.mem_map.mp ha
  rfl

theorem lower_of_foreignAttribute? {name : String} {n : AttrName}
    (h : foreignAttribute? name = some n) : Text.lower n.name = n.name := by
  unfold foreignAttribute? at h
  split at h
  · obtain rfl := Option.some.inj h
    decide
  · obtain rfl := Option.some.inj h
    decide
  · next k _ =>
      obtain ⟨hk, heq⟩ := Option.ite_none_right_eq_some.mp h
      obtain rfl := Option.some.inj heq
      simp only [Bool.or_eq_true, beq_iff_eq] at hk
      rcases hk with rfl | rfl <;> decide
  · next k _ =>
      obtain ⟨hk, heq⟩ := Option.ite_none_right_eq_some.mp h
      obtain rfl := Option.some.inj heq
      have hall : ∀ k ∈ ["actuate", "arcrole", "href", "role", "show", "title", "type"],
          Text.lower k = k := by decide
      exact hall k (List.contains_iff_mem.mp hk)
  · cases h

instance : HoldsOfMade Element.IsRegular where
  plain tag t _ := Element.isRegular_ofAttrs tag fun _ ha hspace =>
    absurd (space_of_mem_plainAttrs ha) hspace
  foreign tag space t _ _ := by
    refine Element.isRegular_ofAttrs tag fun a ha hspace => ?_
    obtain ⟨⟨name, value⟩, -, rfl⟩ := List.mem_map.mp ha
    cases hforeign : foreignAttribute? name with
    | none =>
        simp only [hforeign] at hspace
        exact absurd rfl hspace
    | some n =>
        simp only [hforeign]
        exact lower_of_foreignAttribute? hforeign
  addMissing e t he _ := by
    refine Element.isRegular_ofAttrs e.tag fun a ha hspace => ?_
    have hmem : a ∈ (e.addMissing (Builder.plainAttrs t)).attrs :=
      (List.mergeSort_perm _ _).mem_iff.mpr ha
    rcases Element.mem_addMissing hmem with hknown | hnew
    · exact he.small a hknown hspace
    · exact absurd (space_of_mem_plainAttrs hnew) hspace

end Markup

/-! ## What is found -/

/-- Of two attributes that are the same name in different letters, the one that comes first in the
order of names stands first. -/
def Attributes.IsOrderly (a : Attributes) : Prop :=
  (a.entries.map Prod.fst).Pairwise fun m n => Text.sameFold m n → m ≤ n

/-- Plain names stand in front of the others, which are in small letters. -/
theorem Element.IsRegular.isOrderly {e : Element} (he : e.IsRegular) : e.attributes.IsOrderly := by
  rw [Attributes.IsOrderly, Element.attributes, List.map_map, List.pairwise_map]
  refine he.sorted.imp_of_mem fun {a b} ha hb hle hsame => ?_
  have hlower : Text.lower a.name.name = Text.lower b.name.name := Text.sameFold_iff.mp hsame
  by_cases hb' : b.name.space = .plain
  · rcases AttrName.le_iff.mp hle with hlt | ⟨-, hname⟩
    · rw [AttrName.rank_eq_zero_iff.mpr hb'] at hlt
      exact absurd hlt (Nat.not_lt_zero _)
    · exact hname
  · calc a.name.name ≤ Text.lower a.name.name := Text.le_lower _
      _ = b.name.name := hlower.trans (he.small b hb hb')

namespace Attributes.IsOrderly

variable {a : Attributes}

theorem remove (h : a.IsOrderly) (name : String) : (a.remove name).IsOrderly :=
  h.sublist (List.filter_sublist.map _)

theorem set (h : a.IsOrderly) (name value : String) : (a.set name value).IsOrderly := by
  have hset := Style.isSet_set name value a.entries
  rw [IsOrderly, Attributes.set, setEntry_eq_set]
  rw [IsOrderly] at h
  generalize Style.set name value a.entries = es' at hset ⊢
  generalize a.entries = es at h hset
  cases hset with
  | changed first named => simpa using h
  | added fresh =>
      rw [List.map_append]
      refine List.pairwise_append.mpr ⟨h, List.pairwise_singleton _ _, fun m hm n hn hsame => ?_⟩
      -- there is no attribute of the name that is added
      obtain ⟨x, hx, rfl⟩ := List.mem_map.mp hm
      obtain rfl := List.mem_singleton.mp hn
      have hother := fresh x hx
      rw [Text.sameFold_iff, Text.lower_lower] at hsame
      rw [Text.sameFold, hsame, beq_self_eq_true] at hother
      cases hother

theorem writeStyles (h : a.IsOrderly) (ds : List (String × String)) :
    (a.writeStyles ds).IsOrderly := by
  rw [Attributes.writeStyles]
  split
  · exact h.remove _
  · exact h.set _ _

/-- **Putting attributes in order leaves what is found under each name.** -/
theorem get?_withAttributes (h : a.IsOrderly) (e : Element) (name : String) :
    (e.withAttributes a).attributes.get? name = a.get? name := by
  let hasName (b : Attr) : Bool := Text.sameFold b.name.name name
  -- the attributes of the name are in order among themselves, so sorting all does not move them
  have hsorted : ((a.entries.map Attr.plain).filter hasName).Pairwise
      fun b c => b.name.le c.name := by
    rw [List.filter_map]
    refine List.pairwise_map.mpr (((List.pairwise_map.mp h).filter _).imp_of_mem ?_)
    intro x y hx hy hle
    have hx : Text.sameFold x.1 name := (List.mem_filter.mp hx).2
    have hy : Text.sameFold y.1 name := (List.mem_filter.mp hy).2
    have hsame : Text.sameFold x.1 y.1 :=
      Text.sameFold_iff.mpr ((Text.sameFold_iff.mp hx).trans (Text.sameFold_iff.mp hy).symm)
    exact AttrName.le_iff.mpr (Or.inr ⟨rfl, hle hsame⟩)
  have hkept := filter_mergeSort (fun b c d => AttrName.le_trans b.name c.name d.name)
    (fun b c => AttrName.le_total b.name c.name) hsorted
  have hfind : (e.withAttributes a).attrs.find? hasName
      = (a.entries.map Attr.plain).find? hasName := by
    rw [← List.head?_filter, ← List.head?_filter]
    exact congrArg List.head? hkept
  rw [get?, get?, Element.attributes, List.find?_map, Option.map_map]
  calc ((e.withAttributes a).attrs.find? hasName).map Attr.value
      = ((a.entries.map Attr.plain).find? hasName).map Attr.value := by rw [hfind]
    _ = (a.entries.find? fun x => Text.sameFold x.1 name).map Prod.snd := by
        rw [List.find?_map, Option.map_map]
        rfl

end Attributes.IsOrderly

/-- Giving an element the attributes that it was given leaves it as it is. -/
theorem Element.withAttributes_attributes (e : Element) (a : Attributes) :
    (e.withAttributes a).withAttributes (e.withAttributes a).attributes = e.withAttributes a := by
  have hplain : (e.withAttributes a).attributes.entries.map Attr.plain
      = (e.withAttributes a).attrs := by
    rw [Element.attributes, List.map_map]
    refine (List.map_congr_left fun b hb => ?_).trans (List.map_id _)
    rw [withAttributes_eq] at hb
    obtain ⟨entry, -, rfl⟩ := List.mem_map.mp ((List.mergeSort_perm _ _).mem_iff.mp hb)
    rfl
  have hsorted := (Element.isRegular_withAttributes e a).sorted
  calc (e.withAttributes a).withAttributes (e.withAttributes a).attributes
      = ofAttrs e.tag (e.withAttributes a).attrs := by rw [withAttributes_eq, hplain]; rfl
    _ = e.withAttributes a := by rw [ofAttrs, List.mergeSort_of_pairwise hsorted]; rfl

/-- **The attributes of every element of a page are in order**, whatever is done to it. -/
theorem Document.isRegular_of_run (markup : String) (ops : List Document.Op) :
    ((Document.parse markup).run ops).AllElements Element.IsRegular :=
  allElements_run_parse Element.isRegular_withAttributes markup ops

end PageDirectives

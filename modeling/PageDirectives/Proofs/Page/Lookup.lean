import PageDirectives.Proofs.Page.Arising
import PageDirectives.Proofs.Page.Untouched

set_option autoImplicit false

/-! # Two ways to look up an attribute

An attribute of an element can be asked for in two ways. The copy of its attributes forgets their
vocabularies and finds the first one of a name, in any case of letters (`Attributes.get?`). The
element itself is asked for the plain attribute of the name in small letters, and the last one of
several is meant (`Element.attr?`).

Both see the same attribute if the name is *spelled plainly* on the element, that is if there is none
of the name or the first one is plain, in small letters and the only such one
(`Element.SpellsPlainly.attr?_eq`). On elements of the vocabulary of pages every name is, as long as
attributes are changed in the ways there are for it (`Document.isTidyHtml_of_run`). A foreign element
may have an attribute with capitals or one of another vocabulary, and only the copy sees that one
(`Element.attr?_eq_none`).
-/

namespace PageDirectives

/-- The first entry of a name is the one that is set. -/
theorem Style.set_append {p v name old : String} {before after : List (String × String)}
    (first : ∀ d ∈ before, Text.sameFold d.1 p = false) (named : Text.sameFold name p) :
    set p v (before ++ (name, old) :: after) = before ++ (name, v) :: after := by
  induction before with
  | nil => rw [List.nil_append, List.nil_append, set, if_pos named]
  | cons d before ih =>
      obtain ⟨hd, first⟩ := List.forall_mem_cons.mp first
      rw [List.cons_append, List.cons_append, set, if_neg (by simp [hd]), ih first]

theorem Style.set_of_forall {p v : String} {ds : List (String × String)}
    (fresh : ∀ d ∈ ds, Text.sameFold d.1 p = false) : set p v ds = ds ++ [(Text.lower p, v)] := by
  induction ds with
  | nil => rfl
  | cons d ds ih =>
      obtain ⟨hd, fresh⟩ := List.forall_mem_cons.mp fresh
      rw [List.cons_append, set, if_neg (by simp [hd]), ih fresh]

namespace Attributes

variable {a : Attributes} {name : String}

/-- The last entry of a name in small letters. -/
def last? (a : Attributes) (name : String) : Option String :=
  ((a.entries.filter (·.1 == Text.lower name)).getLast?).map Prod.snd

/-- The names that are a name in some case of letters. -/
def spellings (a : Attributes) (name : String) : List String :=
  a.names.filter (Text.sameFold · name)

theorem last?_eq_none_iff : a.last? name = none ↔ Text.lower name ∉ a.names := by
  rw [last?, Option.map_eq_none_iff, List.getLast?_eq_none_iff, List.filter_eq_nil_iff, names,
    List.mem_map]
  refine ⟨fun h ⟨x, hx, hname⟩ => h x hx (by simpa using hname), fun h x hx hname => ?_⟩
  exact h ⟨x, hx, by simpa using hname⟩

theorem filter_eq_nil_of_forall {es : List (String × String)}
    (h : ∀ d ∈ es, Text.sameFold d.1 name = false) : es.filter (·.1 == Text.lower name) = [] := by
  refine List.filter_eq_nil_iff.mpr fun d hd heq => ?_
  have hother := h d hd
  rw [eq_of_beq heq, Style.sameFold_lower] at hother
  cases hother

/-- Behind entries of other names, the last one is behind the first of the name or is this one. -/
theorem last?_append {before after : List (String × String)} {key v : String}
    (first : ∀ d ∈ before, Text.sameFold d.1 name = false) :
    last? ⟨before ++ (key, v) :: after⟩ name
      = (last? ⟨after⟩ name).or (if key = Text.lower name then some v else none) := by
  have hcons : ((key, v) :: after).filter (·.1 == Text.lower name)
      = (if key = Text.lower name then [(key, v)] else []) ++
          after.filter (·.1 == Text.lower name) := by
    by_cases hkey : key = Text.lower name <;> simp [hkey]
  rw [last?, last?, List.filter_append, filter_eq_nil_of_forall first, List.nil_append, hcons,
    List.getLast?_append]
  by_cases hkey : key = Text.lower name <;>
    cases (after.filter (·.1 == Text.lower name)).getLast? <;> simp [hkey]

/-- A name that stands behind its spelling in small letters is in small letters. -/
theorem eq_lower_of_le {m : String} (hm : Text.sameFold m name) (hle : Text.lower name ≤ m) :
    m = Text.lower name := by
  have hlower : m ≤ Text.lower name := Text.sameFold_iff.mp hm ▸ Text.le_lower m
  exact String.le_antisymm hlower hle

/-- Every value is found behind others only if there are no others. -/
theorem forall_or_ite_eq_some_iff {found : Option String} {p : Prop} [Decidable p] :
    (∀ v : String, found.or (if p then some v else none) = some v) ↔ found = none ∧ p := by
  constructor
  · intro h
    cases found with
    | none =>
        by_contra hp
        rw [not_and] at hp
        have hempty := h ""
        rw [if_neg (hp rfl)] at hempty
        cases hempty
    | some w =>
        simp only [Option.some_or, Option.some.injEq] at h
        exact absurd ((h "").symm.trans (h "x")) (by decide)
  · rintro ⟨rfl, hp⟩ v
    rw [if_pos hp, Option.none_or]

/-- Of entries in order, the first of a name is the only one of it and in small letters if there is
none in small letters behind. -/
theorem spellings_eq_singleton_iff {after : List (String × String)} {key old : String}
    (ha : IsOrderly ⟨(key, old) :: after⟩) (named : Text.sameFold key name) :
    key :: spellings ⟨after⟩ name = [Text.lower name] ↔
      last? ⟨after⟩ name = none ∧ key = Text.lower name := by
  rw [last?_eq_none_iff, List.cons.injEq, and_comm]
  refine and_congr_left fun hkey => ?_
  rw [spellings, List.filter_eq_nil_iff]
  constructor
  · intro hafter hmem
    exact hafter _ hmem (Style.sameFold_lower name)
  · intro hno m hm hsame
    -- behind small letters there is nothing but small letters
    have hle : Text.lower name ≤ m := by
      rw [IsOrderly, List.map_cons, List.pairwise_cons] at ha
      rw [← hkey]
      refine ha.1 m hm ?_
      rw [Text.sameFold_iff, Text.sameFold_iff.mp named, Text.sameFold_iff.mp hsame]
    exact hno (eq_lower_of_le hsame hle ▸ hm)

/-- **What is set can be found as the last entry** of the name in small letters, whatever it is, if
and only if there was no entry of the name or one in small letters. -/
theorem last?_set_iff (ha : a.IsOrderly) :
    (∀ v, (a.set name v).last? name = some v) ↔
      a.spellings name = [] ∨ a.spellings name = [Text.lower name] := by
  have hentries (v : String) : a.set name v = ⟨Style.set name v a.entries⟩ :=
    congrArg Attributes.mk (setEntry_eq_set name v a.entries)
  simp only [hentries, spellings, names]
  rw [IsOrderly] at ha
  have hset := Style.isSet_set name "" a.entries
  generalize Style.set name "" a.entries = es' at hset
  generalize a.entries = es at ha hset ⊢
  have hnone {ds : List (String × String)} (h : ∀ d ∈ ds, Text.sameFold d.1 name = false) :
      (ds.map Prod.fst).filter (Text.sameFold · name) = [] := by
    simpa [List.filter_eq_nil_iff] using h
  cases hset with
  | added fresh =>
      refine iff_of_true (fun v => ?_) (Or.inl (hnone fresh))
      rw [Style.set_of_forall fresh, last?_append fresh, if_pos rfl]
      rfl
  | @changed before after key old first named =>
      have hspellings : ((before ++ (key, old) :: after).map Prod.fst).filter
            (Text.sameFold · name) = key :: spellings ⟨after⟩ name := by
        rw [List.map_append, List.filter_append, hnone first, List.map_cons, List.nil_append]
        exact List.filter_cons_of_pos named
      have hafter : IsOrderly ⟨(key, old) :: after⟩ := by
        rw [List.map_append, List.pairwise_append] at ha
        exact ha.2.1
      simp only [Style.set_append first named, last?_append first, hspellings]
      rw [or_iff_right (List.cons_ne_nil _ _), spellings_eq_singleton_iff hafter named,
        forall_or_ite_eq_some_iff]

end Attributes

namespace Element

variable {e : Element} {name value : String}

/-- The plain name in small letters. -/
def plainName (name : String) : AttrName := { name := Text.lower name }

/-- The attributes of a name, in any case of letters and whatever the vocabularies. -/
def named (e : Element) (name : String) : List Attr :=
  e.attrs.filter fun a => Text.sameFold a.name.name name

/-- There is no attribute of the name, or the first one is plain, in small letters and the only such
one. -/
def SpellsPlainly (e : Element) (name : String) : Prop :=
  e.named name = [] ∨ ∃ a rest, e.named name = a :: rest ∧ a.name = plainName name ∧
    ∀ b ∈ rest, b.name ≠ plainName name

/-! ## What the two ways find -/

/-- The copy finds the first attribute of the name. -/
theorem get?_attributes (e : Element) (name : String) :
    e.attributes.get? name = (e.named name).head?.map Attr.value := by
  rw [Attributes.get?, attributes, List.find?_map, Option.map_map, named, List.head?_filter]
  rfl

/-- The element finds the last one of those of the name that are plain and in small letters. -/
theorem attr?_eq (e : Element) (name : String) :
    e.attr? name = (((e.named name).filter (·.name == plainName name)).getLast?).map Attr.value := by
  have hfilter : e.attrs.filter (·.name == plainName name)
      = (e.named name).filter (·.name == plainName name) := by
    rw [named, List.filter_filter]
    refine List.filter_congr fun a _ => ?_
    by_cases ha : a.name = plainName name
    · have hsame : Text.sameFold (plainName name).name name := Style.sameFold_lower name
      simp [ha, hsame]
    · simp [ha]
  rw [attr?, ← hfilter]
  rfl

/-- **Where a name is spelled plainly**, both ways find the same. -/
theorem SpellsPlainly.attr?_eq (h : e.SpellsPlainly name) :
    e.attr? name = e.attributes.get? name := by
  rw [Element.attr?_eq, get?_attributes]
  rcases h with hnone | ⟨a, rest, hnamed, ha, hrest⟩
  · rw [hnone]
    rfl
  · have hno : rest.filter (·.name == plainName name) = [] :=
      List.filter_eq_nil_iff.mpr fun b hb => by simpa using hrest b hb
    rw [hnamed, List.filter_cons_of_pos (by simpa using ha), hno]
    rfl

/-- **Only the copy sees** attributes none of which is plain and in small letters. -/
theorem attr?_eq_none (hsome : ∃ a ∈ e.attrs, Text.sameFold a.name.name name)
    (hnone : ∀ a ∈ e.attrs, a.name ≠ plainName name) :
    e.attr? name = none ∧ (e.attributes.get? name).isSome := by
  constructor
  · have hno : (e.named name).filter (·.name == plainName name) = [] :=
      List.filter_eq_nil_iff.mpr fun a ha => by simpa using hnone a (List.mem_filter.mp ha).1
    rw [Element.attr?_eq, hno]
    rfl
  · obtain ⟨a, ha, hsame⟩ := hsome
    have hmem : a ∈ e.named name := List.mem_filter.mpr ⟨ha, hsame⟩
    rw [get?_attributes, Option.isSome_map, List.isSome_head?]
    exact List.ne_nil_of_mem hmem

/-! ## After an attribute was set -/

/-- Of attributes that an element is given, it finds the last one of the name in small letters. -/
theorem attr?_withAttributes (e : Element) (a : Attributes) (name : String) :
    (e.withAttributes a).attr? name = a.last? name := by
  have hsorted : ((a.entries.map Attr.plain).filter (·.name == plainName name)).Pairwise
      fun x y => x.name.le y.name := by
    refine List.pairwise_of_forall_mem_list fun x hx y hy => ?_
    have hx : x.name = plainName name := by simpa using (List.mem_filter.mp hx).2
    have hy : y.name = plainName name := by simpa using (List.mem_filter.mp hy).2
    exact AttrName.le_iff.mpr (Or.inr ⟨by rw [hx, hy], by rw [hx, hy]⟩)
  have hkept := filter_mergeSort (fun x y z => AttrName.le_trans x.name y.name z.name)
    (fun x y => AttrName.le_total x.name y.name) hsorted
  have hplain : (a.entries.map Attr.plain).filter (·.name == plainName name)
      = (a.entries.filter (·.1 == Text.lower name)).map Attr.plain := by
    rw [List.filter_map]
    refine congrArg (List.map Attr.plain) (List.filter_congr fun x _ => ?_)
    simp [Attr.plain, plainName]
  calc (e.withAttributes a).attr? name
      = (((a.entries.map Attr.plain).filter (·.name == plainName name)).getLast?).map Attr.value := by
        rw [← hkept]
        rfl
    _ = a.last? name := by
        rw [hplain, List.getLast?_map, Option.map_map]
        rfl

/-- The copy finds what was set. -/
theorem get?_withAttributes_set (he : e.IsRegular) (name value : String) :
    (e.withAttributes (e.attributes.set name value)).attributes.get? name = some value := by
  rw [(he.isOrderly.set name value).get?_withAttributes, Attributes.get?_set_self]

end Element

/-! ## The vocabulary of pages -/

namespace Markup.AreRead

variable {known known' : List (String × String)}

theorem of_names (h : AreRead known) (hnames : known'.map Prod.fst = known.map Prod.fst) :
    AreRead known' where
  lower_eq x hx := by
    have hname : x.1 ∈ known.map Prod.fst := hnames ▸ List.mem_map_of_mem hx
    obtain ⟨y, hy, hxy⟩ := List.mem_map.mp hname
    rw [← hxy]
    exact h.lower_eq y hy
  nodup := hnames ▸ h.nodup

theorem perm (h : AreRead known) (hperm : known'.Perm known) : AreRead known' where
  lower_eq x hx := h.lower_eq x (hperm.mem_iff.mp hx)
  nodup := (hperm.map Prod.fst).nodup_iff.mpr h.nodup

/-- The attributes whose names are not known yet are added, one by one. -/
theorem addAll (h : AreRead known) {more : List (String × String)}
    (hmore : ∀ a ∈ more, Text.lower a.1 = a.1) :
    AreRead (more.foldl
      (fun known a => if known.any (·.1 == a.1) then known else known ++ [a]) known) := by
  induction more generalizing known with
  | nil => exact h
  | cons a more ih =>
      obtain ⟨ha, hmore⟩ := List.forall_mem_cons.mp hmore
      exact ih (h.add ha) hmore

end Markup.AreRead

namespace Attributes

open Markup (AreRead)

variable {a : Attributes}

/-- Names in small letters, each of them once, stay so. -/
theorem areRead_put (h : AreRead a.entries) (key : String) (value : Option String) :
    AreRead (a.put key value).entries := by
  cases value with
  | none =>
      have hsub : (a.put key none).entries.Sublist a.entries := List.filter_sublist
      exact ⟨fun x hx => h.lower_eq x (hsub.subset hx), h.nodup.sublist (hsub.map _)⟩
  | some value =>
      show AreRead (setEntry key value a.entries)
      rw [setEntry_eq_set]
      have hset := Style.isSet_set key value a.entries
      generalize Style.set key value a.entries = es' at hset
      generalize a.entries = es at h hset
      cases hset with
      | changed first named => exact h.of_names (by simp)
      | added fresh =>
          have hnew : ¬ es.any (·.1 == Text.lower key) := by
            rw [List.any_eq_true]
            rintro ⟨x, hx, heq⟩
            have hother := fresh x hx
            rw [eq_of_beq heq, Style.sameFold_lower] at hother
            cases hother
          have hadd := h.add (a := (Text.lower key, value)) (Text.lower_lower key)
          rwa [if_neg hnew] at hadd

theorem areRead_run (h : AreRead a.entries) (ops : List Op) : AreRead (a.run ops).entries := by
  induction ops generalizing a with
  | nil => exact h
  | cons op ops ih =>
      refine ih ?_
      rw [perform_eq]
      exact areRead_put h _ _

end Attributes

namespace Element

open Markup (AreRead)

variable {e : Element}

/-- An element of the vocabulary of pages has plain attributes only, whose names are in small letters
and all different. -/
def IsTidyHtml (e : Element) : Prop :=
  e.tag.space = .html → e.IsPlain ∧ AreRead e.attributes.entries

theorem isTidyHtml_withAttributes {a : Attributes} (h : e.tag.space = .html → AreRead a.entries) :
    (e.withAttributes a).IsTidyHtml :=
  fun hhtml => ⟨e.isPlain_withAttributes a, (h hhtml).perm (entries_withAttributes e a)⟩

/-- Plain attributes whose names are not there yet are added to plain ones. -/
theorem addMissing_eq (h : e.IsPlain) (more : List (String × String)) :
    e.addMissing (more.map Attr.plain) = e.withAttributes ⟨more.foldl
      (fun known a => if known.any (·.1 == a.1) then known else known ++ [a])
      e.attributes.entries⟩ := by
  rw [addMissing, withAttributes_eq]
  refine congrArg (ofAttrs e.tag) ?_
  conv_lhs => rw [← h.map_plain]
  generalize e.attributes.entries = known
  induction more generalizing known with
  | nil => rfl
  | cons a more ih =>
      have hknown : (known.map Attr.plain).any (·.name == (Attr.plain a).name)
          = known.any (·.1 == a.1) := by
        rw [List.any_map]
        refine congrArg (List.any known) (funext fun x => ?_)
        rw [Bool.eq_iff_iff]
        simp [Attr.plain]
      rw [List.map_cons, List.foldl_cons, List.foldl_cons, hknown, ← ih]
      by_cases hany : known.any (·.1 == a.1) <;> simp [hany]

/-- **A name in small letters that is there once is spelled plainly.** -/
theorem IsTidyHtml.spellsPlainly (h : e.IsTidyHtml) (hhtml : e.tag.space = .html) (name : String) :
    e.SpellsPlainly name := by
  obtain ⟨hplain, hread⟩ := h hhtml
  have hname {a : Attr} (ha : a ∈ e.attrs) (hsame : Text.sameFold a.name.name name) :
      a.name = plainName name := by
    have hentry : (a.name.name, a.value) ∈ e.attributes.entries := List.mem_map_of_mem ha
    have hlower : a.name.name = Text.lower name := by
      rw [← Text.sameFold_iff.mp hsame]
      exact (hread.lower_eq _ hentry).symm
    obtain ⟨⟨space, local'⟩, value⟩ := a
    obtain rfl : space = .plain := hplain _ ha
    obtain rfl : local' = Text.lower name := hlower
    rfl
  cases hnamed : e.named name with
  | nil => exact Or.inl hnamed
  | cons a rest =>
      have hsub : (a :: rest).Sublist e.attrs := hnamed ▸ List.filter_sublist
      have ha : a ∈ e.attrs ∧ Text.sameFold a.name.name name :=
        List.mem_filter.mp (hnamed ▸ List.mem_cons_self : a ∈ e.named name)
      refine Or.inr ⟨a, rest, hnamed, hname ha.1 ha.2, fun b hb hsame => ?_⟩
      -- no two names are the same without their vocabularies
      have hnodup : (e.attrs.map fun x => x.name.name).Nodup := by
        have hnames := hread.nodup
        rwa [attributes, List.map_map] at hnames
      have hdistinct := hnodup.sublist (hsub.map fun x => x.name.name)
      rw [List.map_cons, List.nodup_cons] at hdistinct
      refine hdistinct.1 (List.mem_map.mpr ⟨b, hb, ?_⟩)
      rw [hsame, hname ha.1 ha.2]

end Element

namespace Markup

instance : HoldsOfMade Element.IsTidyHtml where
  plain tag t ht := Element.isTidyHtml_withAttributes (e := ⟨tag, []⟩) (a := ⟨t.attrs⟩) fun _ => ht
  foreign _ _ _ hspace _ hhtml := absurd hhtml hspace
  addMissing e t he ht := by
    show (e.addMissing (t.attrs.map Attr.plain)).IsTidyHtml
    intro hhtml
    obtain ⟨hplain, hread⟩ := he hhtml
    rw [Element.addMissing_eq hplain]
    exact ⟨e.isPlain_withAttributes _,
      (hread.addAll ht.lower_eq).perm (Element.entries_withAttributes e _)⟩

end Markup

namespace Document

variable {op : Op}

theorem Op.IsOrdinary.keeps_isTidyHtml (h : op.IsOrdinary) : op.Keeps Element.IsTidyHtml := by
  cases op with
  | update n f =>
      intro e he
      obtain ⟨edits, hedits⟩ := h e.attributes
      rw [hedits]
      exact Element.isTidyHtml_withAttributes fun hhtml => Attributes.areRead_run (he hhtml).2 edits
  | appendElement n name a =>
      obtain ⟨edits, rfl⟩ := h
      exact Element.isTidyHtml_withAttributes fun _ =>
        Attributes.areRead_run Markup.areRead_nil edits
  | _ => trivial

/-- **Elements of the vocabulary of pages are tidy**, if attributes are changed in the ways that there
are for it. -/
theorem isTidyHtml_of_run (markup : String) {ops : List Op} (hops : ∀ op ∈ ops, op.IsOrdinary) :
    ((parse markup).run ops).AllElements Element.IsTidyHtml :=
  allElements_run_of_keeps markup fun op hop => (hops op hop).keeps_isTidyHtml

/-- What the copy of the attributes of a node finds under a name. -/
def copied? (d : Document) (n : NodeId) (name : String) : Option String :=
  (d.attributes? n).bind (·.get? name)

/-- **The two ways to look up an attribute**, on any element of a page, whatever is done to it. If
the name is spelled plainly on the element, both find the same. If there are attributes of the name,
but none that is plain and in small letters, only the copy finds one. What is set under the name, the
copy finds again, and the element finds it, whatever it is, if and only if it had no attribute of the
name or one in small letters.

As long as attributes are changed only in the ways that there are for it, both find the same under
every name on elements of the vocabulary of pages, and what was set after it was set. -/
theorem attr?_of_run (markup : String) (ops : List Op) (n : NodeId) {e : Element}
    (he : ((parse markup).run ops).element? n = some e) (name : String) :
    let d := (parse markup).run ops
    let changed (v : String) := d.update n (·.set name v)
    (e.SpellsPlainly name → d.attr? n name = d.copied? n name) ∧
    ((∃ a ∈ e.attrs, Text.sameFold a.name.name name) →
      (∀ a ∈ e.attrs, a.name ≠ Element.plainName name) →
        d.attr? n name = none ∧ (d.copied? n name).isSome) ∧
    (∀ v, (changed v).copied? n name = some v) ∧
    ((∀ v, (changed v).attr? n name = some v) ↔
      e.attributes.spellings name = [] ∨ e.attributes.spellings name = [Text.lower name]) ∧
    ((∀ op ∈ ops, op.IsOrdinary) → e.tag.space = .html →
      d.attr? n name = d.copied? n name ∧
        ∀ v, (changed v).attr? n name = some v ∧ (changed v).copied? n name = some v) := by
  intro d changed
  have hregular : e.IsRegular := isRegular_of_run markup ops n e he
  have hchanged (v : String) :
      (changed v).element? n = some (e.withAttributes (e.attributes.set name v)) := by
    rw [element?_update, if_pos rfl, he]
    rfl
  have hattr : d.attr? n name = e.attr? name := by rw [attr?, he, Option.bind_some]
  have hcopied : d.copied? n name = e.attributes.get? name := by
    rw [copied?, attributes?, he, Option.map_some, Option.bind_some]
  have hattr' (v : String) : (changed v).attr? n name = (e.attributes.set name v).last? name := by
    rw [attr?, hchanged, Option.bind_some, Element.attr?_withAttributes]
  have hcopied' (v : String) : (changed v).copied? n name = some v := by
    rw [copied?, attributes?, hchanged, Option.map_some, Option.bind_some,
      Element.get?_withAttributes_set hregular]
  refine ⟨fun h => ?_, fun hsome hnone => ?_, hcopied', ?_, fun hops hhtml => ?_⟩
  · rw [hattr, hcopied, h.attr?_eq]
  · rw [hattr, hcopied]
    exact Element.attr?_eq_none hsome hnone
  · simp only [hattr']
    exact Attributes.last?_set_iff hregular.isOrderly
  · have htidy : e.IsTidyHtml := isTidyHtml_of_run markup hops n e he
    refine ⟨by rw [hattr, hcopied, (htidy.spellsPlainly hhtml name).attr?_eq], fun v => ?_⟩
    -- to set a name is one of the ways, so the element is still tidy afterwards
    have htidy' : (e.withAttributes (e.attributes.set name v)).IsTidyHtml :=
      Element.isTidyHtml_withAttributes fun _ =>
        Attributes.areRead_run (htidy hhtml).2 [.set name v]
    refine ⟨?_, hcopied' v⟩
    rw [attr?, hchanged, Option.bind_some, (htidy'.spellsPlainly hhtml name).attr?_eq,
      Element.get?_withAttributes_set hregular]

/-- A paragraph, whose identifier both ways find in any case of letters. -/
theorem attr?_of_paragraph :
    let d := (parse "<p id='x'></p>").run []
    d.attr? 4 "ID" = some "x" ∧ d.copied? 4 "ID" = some "x" ∧
      (d.update 4 (·.set "ID" "y")).attr? 4 "ID" = some "y" := by
  have he : ((parse "<p id='x'></p>").run []).element? 4
      = some ⟨{ name := "p" }, [⟨{ name := "id" }, "x"⟩]⟩ := by decide +kernel
  obtain ⟨-, -, -, -, hhtml⟩ := attr?_of_run "<p id='x'></p>" [] 4 he "ID"
  obtain ⟨hsame, hset⟩ := hhtml (List.forall_mem_nil _) rfl
  have hattr : ((parse "<p id='x'></p>").run []).attr? 4 "ID" = some "x" := by decide +kernel
  exact ⟨hattr, hsame.symm.trans hattr, (hset "y").1⟩

/-- A drawing, whose attribute with a capital only the copy finds, also when it has been set. -/
theorem attr?_of_drawing :
    let d := (parse "<svg viewBox='0 0 1 1'></svg>").run []
    let changed := d.update 4 (·.set "viewBox" "0 0 2 2")
    d.attr? 4 "viewBox" ≠ d.copied? 4 "viewBox" ∧ d.copied? 4 "viewBox" = some "0 0 1 1" ∧
      changed.attr? 4 "viewBox" = none ∧ changed.copied? 4 "viewBox" = some "0 0 2 2" := by
  decide +kernel

end Document

end PageDirectives

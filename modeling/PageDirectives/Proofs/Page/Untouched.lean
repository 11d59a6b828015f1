import PageDirectives.Proofs.Attributes.Run
import PageDirectives.Proofs.Page.Style

set_option autoImplicit false

/-! # What an edit leaves alone

To edit the attributes of an element means to take all of them out by name, without their
vocabularies, and to put them back as plain ones, in order. Nothing else of the page is touched. Of
the attributes that the edit is not about, all are what they were if they were plain, and only then
(`Element.without_withAttributes_iff`, `Page.Edited.without_iff`). The names of the others are
written without what stood in front of the colon (`Element.written_withAttributes_iff`).

The elements of the vocabulary of pages have plain attributes only (`Document.isPlainHtml_of_run`), so
edits of these elements lose nothing. Drawings and formulas can have others
(`Document.update_of_formulaLink`).
-/

namespace PageDirectives

namespace Attributes

/-- The attributes but those of some names. -/
def without (named : String → Bool) (a : Attributes) : Attributes :=
  ⟨a.entries.filter fun x => !named x.1⟩

/-- None of the ways to change attributes is about other names than its own. -/
theorem without_perform (a : Attributes) (op : Op) :
    (a.perform op).without (Text.sameFold · op.key) = a.without (Text.sameFold · op.key) :=
  a.remove_perform op

end Attributes

namespace AttrName

/-- There may be something in front of the name when it is written. -/
theorem exists_written_eq (n : AttrName) : ∃ front, n.written = front ++ n.name := by
  obtain ⟨space, name⟩ := n
  cases space with
  | plain => exact ⟨"", by simp [written]⟩
  | xlink => exact ⟨"xlink:", rfl⟩
  | xml => exact ⟨"xml:", rfl⟩
  | xmlns =>
      by_cases hname : name = "xmlns"
      · exact ⟨"", by simp [written, hname]⟩
      · exact ⟨"xmlns:", by simp [written, hname]⟩

theorem length_name_le_written (n : AttrName) : n.name.length ≤ n.written.length := by
  obtain ⟨front, hfront⟩ := n.exists_written_eq
  rw [hfront, String.length_append]
  exact Nat.le_add_left _ _

theorem written_eq_name_of_length {n : AttrName} (h : n.written.length = n.name.length) :
    n.written = n.name := by
  obtain ⟨front, hfront⟩ := n.exists_written_eq
  rw [hfront, String.length_append] at h
  have hempty : front = "" := String.length_eq_zero_iff.mp (by omega)
  rw [hfront, hempty, String.empty_append]

end AttrName

namespace Element

variable {e : Element} {a : Attributes} {named : String → Bool}

/-- All attributes are plain. -/
def IsPlain (e : Element) : Prop := ∀ x ∈ e.attrs, x.name.space = .plain

/-- The element but for the attributes of some names. -/
def without (named : String → Bool) (e : Element) : Element :=
  { e with attrs := e.attrs.filter fun x => !named x.name.name }

/-- The attributes as they are written in markup. -/
def written (e : Element) : List (String × String) := e.attrs.map fun x => (x.name.written, x.value)

theorem attributes_without : (e.without named).attributes = e.attributes.without named := by
  rw [Attributes.without, attributes, attributes, List.filter_map]
  rfl

theorem without_without : (e.without named).without named = e.without named := by
  rw [without, without, List.filter_filter]
  simp

theorem isPlain_ofAttrs (tag : Tag) {attrs : List Attr} (h : ∀ x ∈ attrs, x.name.space = .plain) :
    (ofAttrs tag attrs).IsPlain :=
  fun x hx => h x ((List.mergeSort_perm _ _).mem_iff.mp hx)

theorem isPlain_withAttributes (e : Element) (a : Attributes) : (e.withAttributes a).IsPlain := by
  refine isPlain_ofAttrs e.tag fun x hx => ?_
  obtain ⟨entry, -, rfl⟩ := List.mem_map.mp hx
  rfl

theorem IsPlain.without (h : e.IsPlain) (named : String → Bool) : (e.without named).IsPlain :=
  fun x hx => h x (List.mem_filter.mp hx).1

/-- Plain attributes are all there is to them without their vocabularies. -/
theorem IsPlain.map_plain (h : e.IsPlain) : e.attributes.entries.map Attr.plain = e.attrs := by
  rw [attributes, List.map_map]
  refine (List.map_congr_left fun x hx => ?_).trans (List.map_id _)
  obtain ⟨⟨space, name⟩, value⟩ := x
  obtain rfl : space = .plain := h _ hx
  rfl

/-- What the edit is not about is put back as plain. -/
theorem filter_plain (h : a.without named = e.attributes.without named) :
    (a.entries.map Attr.plain).filter (fun x => !named x.name.name)
      = (e.without named).attributes.entries.map Attr.plain := by
  rw [attributes_without, ← h, List.filter_map]
  rfl

/-- **What an edit is not about is as it was if and only if it is plain.** -/
theorem without_withAttributes_iff (he : e.IsRegular)
    (h : a.without named = e.attributes.without named) :
    (e.withAttributes a).without named = e.without named ↔ (e.without named).IsPlain := by
  constructor
  · intro heq
    rw [← heq]
    exact (isPlain_withAttributes e a).without named
  · intro hplain
    have hkept : (a.entries.map Attr.plain).filter (fun x => !named x.name.name)
        = e.attrs.filter fun x => !named x.name.name :=
      (filter_plain h).trans hplain.map_plain
    -- what is left alone is in order already, so that putting all in order does not move it
    have hsorted : ((a.entries.map Attr.plain).filter fun x => !named x.name.name).Pairwise
        fun x y => x.name.le y.name := by
      rw [hkept]
      exact he.sorted.filter _
    have hsort := filter_mergeSort (fun x y z => AttrName.le_trans x.name y.name z.name)
      (fun x y => AttrName.le_total x.name y.name) hsorted
    exact congrArg (Element.mk e.tag) (hsort.trans hkept)

/-- **What an edit is not about is written as it was if and only if nothing stands in front of the
names.** -/
theorem written_withAttributes_iff (h : a.without named = e.attributes.without named) :
    ((e.withAttributes a).without named).written.Perm (e.without named).written
      ↔ ∀ x ∈ (e.without named).attrs, x.name.written = x.name.name := by
  let xs := (e.without named).attrs
  have hnames : ((e.withAttributes a).without named).written.Perm
      (xs.map fun x => (x.name.name, x.value)) := by
    have hperm := ((List.mergeSort_perm (a.entries.map Attr.plain)
      (fun x y => x.name.le y.name)).filter fun x => !named x.name.name).map
        fun x => (x.name.written, x.value)
    rw [filter_plain h] at hperm
    refine hperm.trans (List.Perm.of_eq ?_)
    rw [attributes, List.map_map, List.map_map]
    rfl
  constructor
  · intro hperm x hx
    have hsame : ((xs.map fun x => x.name.name.length)).sum
        = (xs.map fun x => x.name.written.length).sum := by
      have hlengths := ((hnames.symm.trans hperm).map fun w => w.1.length).sum_eq
      simpa only [written, List.map_map, Function.comp_def] using hlengths
    -- no name is longer than it is written, so if one were shorter the sums would differ
    by_contra hne
    have hlt : x.name.name.length < x.name.written.length :=
      lt_of_le_of_ne x.name.length_name_le_written fun heq =>
        hne (AttrName.written_eq_name_of_length heq.symm)
    have hsum := List.sum_lt_sum (fun x : Attr => x.name.name.length)
      (fun x => x.name.written.length) (fun y _ => y.name.length_name_le_written) ⟨x, hx, hlt⟩
    exact absurd hsame (Nat.ne_of_lt hsum)
  · intro hsame
    refine hnames.trans (List.Perm.of_eq (List.map_congr_left fun x hx => ?_))
    rw [hsame x hx]

/-- What has become of the attributes of an element that an edit is not about. -/
structure Kept (named : String → Bool) (e e' : Element) : Prop where
  tag : e'.tag = e.tag
  /-- Names and values are the same, as far as they are told without vocabularies. -/
  entries : (e'.attributes.without named).entries.Perm (e.attributes.without named).entries
  /-- They are written as they were if and only if nothing stands in front of the names. -/
  written : (e'.without named).written.Perm (e.without named).written ↔
    ∀ x ∈ (e.without named).attrs, x.name.written = x.name.name
  /-- They are what they were, in their order, if and only if they are plain. -/
  without : e'.without named = e.without named ↔ (e.without named).IsPlain

theorem kept_withAttributes (he : e.IsRegular) (h : a.without named = e.attributes.without named) :
    e.Kept named (e.withAttributes a) where
  tag := rfl
  entries := by
    rw [← h]
    exact (entries_withAttributes e a).filter _
  written := written_withAttributes_iff h
  without := without_withAttributes_iff he h

/-- An edit that does nothing leaves the element as it is if and only if all is plain. -/
theorem withAttributes_attributes_iff (he : e.IsRegular) :
    e.withAttributes e.attributes = e ↔ e.IsPlain := by
  have hall (x : Element) : x.without (fun _ => false) = x := by
    simp [without]
  have hiff : (e.withAttributes e.attributes).without (fun _ => false) = e.without (fun _ => false)
      ↔ (e.without fun _ => false).IsPlain := without_withAttributes_iff he rfl
  rwa [hall, hall] at hiff

end Element

/-! ## The vocabulary of pages -/

/-- An element of the vocabulary of pages has plain attributes only. -/
def Element.IsPlainHtml (e : Element) : Prop := e.tag.space = .html → e.IsPlain

instance : Markup.HoldsOfMade Element.IsPlainHtml where
  plain tag t _ _ := Element.isPlain_ofAttrs tag fun _ => Markup.space_of_mem_plainAttrs
  foreign _ _ _ hspace _ hhtml := absurd hhtml hspace
  addMissing e t he _ hhtml := by
    intro x hx
    rcases Element.mem_addMissing hx with hknown | hnew
    · exact he hhtml x hknown
    · exact Markup.space_of_mem_plainAttrs hnew

namespace Document

variable {d d' : Document} {nodes : List NodeId} {named : String → Bool}

theorem isPlainHtml_of_run (markup : String) (ops : List Op) :
    ((parse markup).run ops).AllElements Element.IsPlainHtml :=
  allElements_run_parse (fun e a _ => e.isPlain_withAttributes a) markup ops

/-! ## Documents without some attributes -/

/-- The document but for the attributes of some names at some nodes. -/
def without (d : Document) (nodes : List NodeId) (named : String → Bool) : Document :=
  nodes.foldl (fun d n => d.edit n (Content.onElement (Element.without named))) d

theorem element?_without (d : Document) (nodes : List NodeId) (named : String → Bool) (m : NodeId) :
    (d.without nodes named).element? m
      = if m ∈ nodes then (d.element? m).map (Element.without named) else d.element? m := by
  induction nodes generalizing d with
  | nil => rfl
  | cons n nodes ih =>
      rw [without, List.foldl_cons, ← without, ih, element?_onElement]
      by_cases hn : m = n
      · subst hn
        have htwice (e : Element) : (e.without named).without named = e.without named :=
          Element.without_without
        cases d.element? m <;> simp [htwice]
      · simp [hn]

theorem outline_without (d : Document) (nodes : List NodeId) (named : String → Bool) :
    (d.without nodes named).outline = d.outline := by
  induction nodes generalizing d with
  | nil => rfl
  | cons n nodes ih =>
      rw [without, List.foldl_cons, ← without, ih]
      exact d.outline_onElement n fun _ => rfl

/-- Gives a node the element that a document has there. -/
def fill (d : Document) (n : Node) : Node :=
  match d.element? n.id with
  | some e => { n with content := .element e }
  | none => n

theorem map_fill_outline (d : Document) : d.outline.map d.fill = d.trees := by
  rw [outline, Forest.map_map]
  refine Forest.map_eq_self fun n hn => ?_
  have hcontent : d.content? n.id = some n.content := content?_eq_some_iff.mpr hn
  have helement : d.element? n.id = n.content.element? := by
    rw [element?, hcontent]
    rfl
  obtain ⟨id, content⟩ := n
  rw [Function.comp_apply, fill, helement]
  cases content <;> rfl

/-- **A document is its outline with the elements in it.** -/
theorem eq_of_outline (houtline : d.outline = d'.outline)
    (helements : ∀ n, d.element? n = d'.element? n) : d = d' := by
  have htrees : d.trees = d'.trees := by
    have hfill : d.fill = d'.fill := by
      funext n
      rw [fill, helements, fill]
    rw [← d.map_fill_outline, houtline, hfill, d'.map_fill_outline]
  have hsize : d.size = d'.size := by
    have hd := d.numbered.length_eq
    have hd' := d'.numbered.length_eq
    rw [List.length_range] at hd hd'
    rw [← hd, ← hd', htrees]
  obtain ⟨trees, size, numbered, rooted⟩ := d
  rw [Document.mk.injEq]
  exact ⟨htrees, hsize⟩

end Document

/-! ## Pages -/

namespace Page

variable {p p' : Page} {f : Attributes → Attributes} {nodes : List NodeId} {named : String → Bool}

/-- **All but what an edit is about is as it was if and only if it is plain.** -/
theorem Edited.without_iff (h : p.Edited p' f nodes)
    (hp : p.document.AllElements Element.IsRegular)
    (hf : ∀ n ∈ nodes, ∀ e ∈ p.document.element? n,
      (f e.attributes).without named = e.attributes.without named) :
    p'.document.without nodes named = p.document.without nodes named
      ↔ ∀ n ∈ nodes, ∀ e ∈ p.document.element? n, (e.without named).IsPlain := by
  have hone {n : NodeId} (hn : n ∈ nodes) {e : Element} (he : p.document.element? n = some e) :
      (e.withAttributes (f e.attributes)).without named = e.without named
        ↔ (e.without named).IsPlain :=
    Element.without_withAttributes_iff (hp n e he) (hf n hn e he)
  have hafter {n : NodeId} (hn : n ∈ nodes) : (p'.document.without nodes named).element? n
      = (p.document.element? n).map fun e =>
          (e.withAttributes (f e.attributes)).without named := by
    rw [Document.element?_without, if_pos hn, h.elements, if_pos hn, Option.map_map]
    rfl
  constructor
  · intro heq n hn e he
    have helement := congrArg (Document.element? · n) heq
    rw [hafter hn, Document.element?_without, if_pos hn, Option.mem_def.mp he] at helement
    exact (hone hn he).mp (Option.some.inj helement)
  · intro hplain
    refine Document.eq_of_outline ?_ fun n => ?_
    · rw [Document.outline_without, Document.outline_without, h.outline]
    · by_cases hn : n ∈ nodes
      · rw [hafter hn, Document.element?_without, if_pos hn]
        exact Option.map_congr fun e he => (hone hn he).mpr (hplain n hn e he)
      · rw [Document.element?_without, Document.element?_without, if_neg hn, if_neg hn,
          h.elements, if_neg hn]

end Page

namespace Document

/-- The same for one element. -/
theorem without_update_iff {d : Document} (hd : d.AllElements Element.IsRegular) {n : NodeId}
    {f : Attributes → Attributes} {named : String → Bool}
    (hf : ∀ e ∈ d.element? n, (f e.attributes).without named = e.attributes.without named) :
    (d.update n f).without [n] named = d.without [n] named
      ↔ ∀ e ∈ d.element? n, (e.without named).IsPlain := by
  let page : Page := { document := d }
  have hedited : page.Edited (page.update n f) f [n] := Page.edited_update fun _ _ => rfl
  rw [← List.forall_mem_singleton (p := fun m => ∀ e ∈ d.element? m, (e.without named).IsPlain)]
  refine hedited.without_iff hd fun m hm => ?_
  obtain rfl := List.mem_singleton.mp hm
  exact hf

/-- **An edit that does nothing leaves the document as it is if and only if the attributes of the
element are plain.** -/
theorem update_id_iff {d : Document} (hd : d.AllElements Element.IsRegular) (n : NodeId) :
    d.update n id = d ↔ ∀ e ∈ d.element? n, e.IsPlain := by
  constructor
  · intro heq e he
    have helement := d.element?_update n id n
    rw [heq, if_pos rfl, Option.mem_def.mp he] at helement
    exact (Element.withAttributes_attributes_iff (hd n e he)).mp (Option.some.inj helement).symm
  · intro hplain
    refine edit_eq_self fun c hc => ?_
    cases c with
    | element e =>
        have he : d.element? n = some e := Option.bind_eq_some_iff.mpr ⟨_, hc, rfl⟩
        exact congrArg Content.element
          ((Element.withAttributes_attributes_iff (hd n e he)).mpr (hplain e he))
    | _ => rfl

/-- **What an edit of attributes leaves alone**, whatever has been done to the page, and whatever
the edit is. What stands where, all texts and all tags are as they were, and so is every node but the
element. Of its attributes, those that the edit is not about keep their names and values, as far as
they are told without vocabularies. They are written as they were, in some order, if and only if
nothing stands in front of their names; and all of the page but what the edit is about is exactly as
it was if and only if they are plain.

So an edit that does nothing changes nothing if and only if all attributes of the element are plain,
as they are for every element of the vocabulary of pages. To set an attribute, to remove one, or to
change classes or styles is about the one attribute only, and binding a directive is about the styles
of its elements. -/
theorem update_of_run (markup : String) (ops : List Op) (n : NodeId) :
    let d := (parse markup).run ops
    (∀ f, (d.update n f).outline = d.outline ∧
      ∀ m, m ≠ n → (d.update n f).content? m = d.content? m) ∧
    (∀ f named e, d.element? n = some e →
      (f e.attributes).without named = e.attributes.without named →
      ∃ e', (d.update n f).element? n = some e' ∧ e.Kept named e' ∧
        ((d.update n f).without [n] named = d.without [n] named ↔ (e.without named).IsPlain)) ∧
    (d.update n id = d ↔ ∀ e ∈ d.element? n, e.IsPlain) ∧
    (∀ e ∈ d.element? n, e.tag.space = .html → e.IsPlain) ∧
    (∀ op : Attributes.Op, let named := (Text.sameFold · op.key)
      (d.update n (·.perform op)).without [n] named = d.without [n] named ↔
        ∀ e ∈ d.element? n, (e.without named).IsPlain) ∧
    ∀ (e : Engine Page) (index : Nat) (directive : Directive) (event : String),
      e.host.document = d → directive.trigger = .event event → directive.bound.Nodup →
      let named := (Text.sameFold · "style")
      ((e.observe index directive).host.document.without directive.bound named
          = d.without directive.bound named ↔
        ∀ m ∈ directive.bound, ∀ x ∈ d.element? m, (x.without named).IsPlain) := by
  intro d
  have hd : d.AllElements Element.IsRegular := isRegular_of_run markup ops
  refine ⟨fun f => ⟨d.outline_update n f, fun m hm => ?_⟩, fun f named e he hf => ?_,
    update_id_iff hd n, isPlainHtml_of_run markup ops n, fun op => ?_, ?_⟩
  · rw [update, content?_edit, if_neg hm]
  · have hafter := d.element?_update n f n
    rw [if_pos rfl, he] at hafter
    refine ⟨_, hafter, Element.kept_withAttributes (hd n e he) hf, ?_⟩
    have hsame : ∀ x ∈ d.element? n, x = e := fun x hx => Option.some.inj (hx.symm.trans he)
    have hiff : (d.update n f).without [n] named = d.without [n] named
        ↔ ∀ x ∈ d.element? n, (x.without named).IsPlain :=
      without_update_iff hd fun x hx => hsame x hx ▸ hf
    rw [hiff]
    exact ⟨fun h => h e he, fun h x hx => hsame x hx ▸ h⟩
  · exact without_update_iff hd fun e _ => e.attributes.without_perform op
  · intro e index directive event hdocument hevent hnodup named
    have hedited := Page.edited_observe e index hevent hnodup
    rw [← hdocument] at hd ⊢
    exact hedited.without_iff hd fun m _ x _ =>
      x.attributes.without_perform (.setStyle "cursor" "pointer")

/-- A paragraph with a style is given a class, and a directive is bound to it and to another one. -/
theorem update_of_styledParagraph :
    let markup := "<p style='color: red'></p><p></p>"
    let d := (parse markup).run []
    let ofClass := (Text.sameFold · "class")
    let ofStyle := (Text.sameFold · "style")
    let addNews (a : Attributes) := a.perform (.addClass "news")
    let engine := Engine.new (Page.parse markup)
    let hide : Directive := ⟨"p should hide on click", "p", "hide", .event "click", none, [4, 5]⟩
    let bound := engine.observe 0 hide
    (∃ e, d.element? 4 = some e ∧ e.tag.space = .html ∧
      (addNews e.attributes).without ofClass = e.attributes.without ofClass ∧
      (d.update 4 addNews).without [4] ofClass = d.without [4] ofClass ∧ d.update 4 id = d) ∧
    Reading.ofLine engine.grammar engine.host hide.raw = .directive hide ∧ hide.bound.Nodup ∧
      bound.host.toHtml = "<html><head></head><body>" ++
        "<p style=\"color: red; cursor: pointer;\"></p><p style=\"cursor: pointer;\"></p>" ++
        "</body></html>" ∧
      bound.host.document.without [4, 5] ofStyle = d.without [4, 5] ofStyle := by
  intro markup d ofClass ofStyle addNews engine hide bound
  obtain ⟨-, hedit, hid, hhtml, -, hbind⟩ := update_of_run markup [] 4
  obtain ⟨-, -, -, hhtml', -⟩ := update_of_run markup [] 5
  obtain ⟨hsome, hspace, hspace'⟩ : (d.element? 4).isSome ∧
      (∀ e ∈ d.element? 4, e.tag.space = .html) ∧ ∀ e ∈ d.element? 5, e.tag.space = .html := by
    decide +kernel
  have hplain : ∀ e ∈ d.element? 4, e.IsPlain := fun e he => hhtml e he (hspace e he)
  have hplain' : ∀ e ∈ d.element? 5, e.IsPlain := fun e he => hhtml' e he (hspace' e he)
  have hnodup : hide.bound.Nodup := by decide
  have hread : Reading.ofLine engine.grammar engine.host hide.raw = .directive hide := by
    decide +kernel
  refine ⟨?_, hread, hnodup, by decide +kernel, ?_⟩
  · obtain ⟨e, he⟩ := Option.isSome_iff_exists.mp hsome
    have htouched : (addNews e.attributes).without ofClass = e.attributes.without ofClass :=
      e.attributes.without_perform (.addClass "news")
    obtain ⟨e', -, -, hiff⟩ := hedit addNews ofClass e he htouched
    exact ⟨e, he, hspace e he, htouched, hiff.mpr ((hplain e he).without ofClass),
      hid.mpr hplain⟩
  · refine (hbind engine 0 hide "click" rfl rfl hnodup).mpr fun m hm e he => ?_
    rcases List.mem_pair.mp hm with rfl | rfl
    · exact (hplain e he).without ofStyle
    · exact (hplain' e he).without ofStyle

/-- **An address loses its vocabulary** when the link in a formula is edited, though the edit does
nothing, and when a directive shows the link, which is shown already. -/
theorem update_of_formulaLink :
    let page := Page.parse "<math><mi xlink:href='#x'>t</mi></math>"
    let shown := ((Engine.new page).readSource "mi should show on load").1.host
    let written := "<html><head></head><body><math><mi href=\"#x\">t</mi></math></body></html>"
    page.toHtml
        = "<html><head></head><body><math><mi xlink:href=\"#x\">t</mi></math></body></html>" ∧
      (page.document.update 5 id).toHtml = written ∧ shown.toHtml = written := by
  decide +kernel

end Document

end PageDirectives

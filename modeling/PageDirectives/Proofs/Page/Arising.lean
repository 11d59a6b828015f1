import PageDirectives.Proofs.Attributes.Run
import PageDirectives.Proofs.Page.Editing

set_option autoImplicit false

/-! # Pages that arise

Attributes offer six ways to change them (`Attributes.Op`). A page *arises* from a markup if it was
read from it and the attributes of its elements have been changed in these ways only
(`Page.Arises`). All that is asked of a page comes to that.

On such a page the attribute `class` is written in small letters (`Element.SpellsClass`,
`Page.Arises.spellsClass`): this is so of tags that are read, also in foreign vocabularies, and a
name that is set for the first time is set in small letters. So it does not matter there whether the
attribute is looked up with regard to the case of letters.
-/

namespace PageDirectives

namespace Attributes

variable {a : Attributes} {name key : String}

/-- Only one name can be new, and it is in small letters. -/
theorem mem_names_put {value : Option String} (h : name ∈ (a.put key value).names) :
    name ∈ a.names ∨ name = Text.lower key := by
  cases value with
  | none =>
      have hsub : (a.remove key).names.Sublist a.names := List.filter_sublist.map Prod.fst
      exact Or.inl (hsub.subset h)
  | some value =>
      change name ∈ (setEntry key value a.entries).map Prod.fst at h
      rw [names]
      rw [setEntry_eq_set] at h
      have hset := Style.isSet_set key value a.entries
      generalize Style.set key value a.entries = es' at h hset
      generalize a.entries = es at hset ⊢
      cases hset with
      | changed first named => exact Or.inl (by simpa using h)
      | added fresh => simpa [or_comm, eq_comm] using h

/-- A name that is `class` in some case of letters is so in small letters. -/
def SpellsClass (a : Attributes) : Prop :=
  ∀ name ∈ a.names, Text.sameFold name "class" → name = "class"

theorem spelled_of_lower (hlower : Text.lower name = name) (h : Text.sameFold name "class") :
    name = "class" := by
  calc name = Text.lower name := hlower.symm
    _ = Text.lower "class" := Text.sameFold_iff.mp h
    _ = "class" := by decide

theorem SpellsClass.perform (h : a.SpellsClass) (op : Op) : (a.perform op).SpellsClass := by
  intro name hname hsame
  rw [perform_eq] at hname
  rcases mem_names_put hname with hold | rfl
  · exact h name hold hsame
  · exact spelled_of_lower (Text.lower_lower _) hsame

theorem SpellsClass.run (h : a.SpellsClass) (ops : List Op) : (a.run ops).SpellsClass := by
  induction ops generalizing a with
  | nil => exact h
  | cons op ops ih => exact ih (h.perform op)

end Attributes

namespace Element

/-- The attribute `class` is spelled in small letters, if there is one. -/
def SpellsClass (e : Element) : Prop := e.attributes.SpellsClass

theorem spellsClass_ofAttrs (tag : Tag) {attrs : List Attr}
    (h : ∀ a ∈ attrs, Text.sameFold a.name.name "class" → a.name.name = "class") :
    (ofAttrs tag attrs).SpellsClass := by
  intro name hname hsame
  rw [Attributes.names, Element.attributes, List.map_map] at hname
  obtain ⟨a, ha, rfl⟩ := List.mem_map.mp hname
  exact h a ((List.mergeSort_perm _ _).mem_iff.mp ha) hsame

theorem spellsClass_withAttributes {a : Attributes} (h : a.SpellsClass) (e : Element) :
    (e.withAttributes a).SpellsClass := by
  refine spellsClass_ofAttrs e.tag fun b hb hsame => ?_
  obtain ⟨entry, hentry, rfl⟩ := List.mem_map.mp hb
  exact h entry.1 (List.mem_map_of_mem hentry) hsame

end Element

namespace Markup

/-- The names that get their capitals back are other ones. -/
theorem recase_of_sameFold {name : String} (hname : Text.lower name = name)
    (h : Text.sameFold (recase drawingAttributes name) "class") :
    recase drawingAttributes name = "class" := by
  unfold recase at h ⊢
  cases hfind : drawingAttributes.find? (fun n => Text.lower n == name) with
  | none =>
      rw [hfind] at h
      exact Attributes.spelled_of_lower hname h
  | some n =>
      rw [hfind] at h
      have hother : ∀ n ∈ drawingAttributes, Chars.lower n.toList ≠ "class".toList := by
        decide +kernel
      have hsame : Text.lower n = "class" :=
        (Text.sameFold_iff.mp h).trans (by decide)
      refine absurd ?_ (hother n (List.mem_of_find?_eq_some hfind))
      rw [← Text.toList_lower, hsame]

instance : HoldsOfMade Element.SpellsClass where
  plain tag t ht := by
    refine Element.spellsClass_ofAttrs tag fun a ha hsame => ?_
    obtain ⟨entry, hentry, rfl⟩ := List.mem_map.mp ha
    exact Attributes.spelled_of_lower (ht.lower_eq entry hentry) hsame
  foreign tag space t _ ht := by
    refine Element.spellsClass_ofAttrs tag fun a ha hsame => ?_
    obtain ⟨⟨name, value⟩, hentry, rfl⟩ := List.mem_map.mp ha
    have hname : Text.lower name = name := ht.lower_eq (name, value) hentry
    cases hforeign : foreignAttribute? name with
    | some n =>
        simp only [hforeign, Option.getD_some] at hsame ⊢
        exact Attributes.spelled_of_lower (lower_of_foreignAttribute? hforeign) hsame
    | none =>
        simp only [hforeign, Option.getD_none] at hsame ⊢
        cases space with
        | svg => exact recase_of_sameFold hname hsame
        | html => exact Attributes.spelled_of_lower hname hsame
        | mathml =>
            simp only at hsame ⊢
            split at hsame
            · exact absurd hsame (by decide)
            · next hother =>
                rw [if_neg hother]
                exact Attributes.spelled_of_lower hname hsame
  addMissing e t he ht := by
    refine Element.spellsClass_ofAttrs e.tag fun a ha hsame => ?_
    have hmem : a ∈ (e.addMissing (Builder.plainAttrs t)).attrs :=
      (List.mergeSort_perm _ _).mem_iff.mpr ha
    rcases Element.mem_addMissing hmem with hold | hnew
    · refine he a.name.name ?_ hsame
      rw [Attributes.names, Element.attributes, List.map_map]
      exact List.mem_map_of_mem hold
    · obtain ⟨entry, hentry, rfl⟩ := List.mem_map.mp hnew
      exact Attributes.spelled_of_lower (ht.lower_eq entry hentry) hsame

end Markup

namespace Document

/-- Attributes are changed in the six ways only, any number of times. -/
def Op.IsOrdinary : Op → Prop
  | .update _ f => ∀ a, ∃ edits, f a = a.run edits
  | .appendElement _ _ a => ∃ edits, a = ({} : Attributes).run edits
  | _ => True

theorem Op.IsOrdinary.keeps {op : Op} (h : op.IsOrdinary) : op.Keeps Element.SpellsClass := by
  cases op with
  | update n f =>
      intro e he
      obtain ⟨edits, hedits⟩ := h e.attributes
      rw [hedits]
      exact Element.spellsClass_withAttributes (he.run edits) e
  | appendElement n name a =>
      obtain ⟨edits, rfl⟩ := h
      have hnone : ({} : Attributes).SpellsClass := List.forall_mem_nil _
      exact Element.spellsClass_withAttributes (hnone.run edits) _
  | _ => trivial

end Document

namespace Page

open Document (Op)

/-- The page was read from the markup, and attributes have been changed in the six ways only. -/
def Arises (markup : String) (p : Page) : Prop :=
  ∃ ops, (∀ op ∈ ops, Op.IsOrdinary op) ∧ p.document = (Document.parse markup).run ops

variable {markup : String} {p p' : Page}

theorem arises_parse (markup : String) : (parse markup).Arises markup :=
  ⟨[], List.forall_mem_nil _, rfl⟩

theorem Arises.perform (h : p.Arises markup) (op : Op) (hop : op.IsOrdinary)
    (hp' : p'.document = p.document.perform op) : p'.Arises markup := by
  obtain ⟨ops, hops, hdocument⟩ := h
  refine ⟨ops ++ [op], List.forall_mem_append.mpr ⟨hops, List.forall_mem_singleton.mpr hop⟩, ?_⟩
  rw [hp', hdocument, Document.run, Document.run, List.foldl_append]
  rfl

/-! ## What is asked of a page -/

section Host

variable (h : p.Arises markup) (n : NodeId)
include h

theorem Arises.addClass (c : String) : (Host.addClass p n c).Arises markup :=
  h.perform (.update n (·.addClass c)) (fun _ => ⟨[.addClass c], rfl⟩) rfl

theorem Arises.removeClass (c : String) : (Host.removeClass p n c).Arises markup :=
  h.perform (.update n (·.removeClass c)) (fun _ => ⟨[.removeClass c], rfl⟩) rfl

theorem Arises.setStyle (property value : String) :
    (Host.setStyle p n property value).Arises markup :=
  h.perform (.update n (·.setStyle property value)) (fun _ => ⟨[.setStyle property value], rfl⟩) rfl

theorem Arises.setVisible (visible : Bool) : (Host.setVisible p n visible).Arises markup := by
  refine h.perform (.update n (withVisible visible)) (fun a => ?_) rfl
  cases visible with
  | true => exact ⟨[.removeStyle "display", .remove "hidden"], rfl⟩
  | false => exact ⟨[.setStyle "display" "none"], rfl⟩

theorem Arises.setInnerHtml {text : String} (hset : Host.setInnerHtml p n text = .ok p') :
    p'.Arises markup := by
  change p.setInnerHtml n text = .ok p' at hset
  unfold Page.setInnerHtml at hset
  split at hset
  · cases hset
  · obtain rfl := Except.ok.inj hset
    exact h.perform (.replaceChildren n text) trivial rfl

omit n

theorem Arises.injectScript (url : String) : (Host.injectScript p url).Arises markup :=
  h.perform (.appendElement _ "script" _) ⟨[.set "src" url], rfl⟩ rfl

theorem Arises.injectStylesheet (url : String) : (Host.injectStylesheet p url).Arises markup :=
  h.perform (.appendElement _ "link" _) ⟨[.set "rel" "stylesheet", .set "href" url], rfl⟩ rfl

end Host

/-! ## What is known of elements -/

theorem Arises.becomes (h : p.Arises markup) : (parse markup).Becomes p := by
  obtain ⟨ops, -, hops⟩ := h
  exact ⟨ops, hops⟩

/-- **The attribute `class` is spelled in small letters on a page that has arisen.** -/
theorem Arises.spellsClass (h : p.Arises markup) :
    p.document.AllElements Element.SpellsClass := by
  obtain ⟨ops, hops, hdocument⟩ := h
  rw [hdocument]
  exact Document.allElements_run_of_keeps markup fun op hop => (hops op hop).keeps

end Page

end PageDirectives

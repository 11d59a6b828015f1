import PageDirectives.Proofs.Sketch.Compound
import PageDirectives.Proofs.Text.Words
import PageDirectives.Sketch.Basic

set_option autoImplicit false

/-! # Selecting in sketches

A selector is a list of compounds with commas in between. A compound selects the elements that have
its tag, its id and its classes (`Sketch.mem_select_iff_of_isWord`), so the element that it describes
is one of them (`Sketch.mem_select_push`). The list selects what one of its compounds does, and a part
that has white space inside or is blank selects nothing (`Sketch.mem_select_join_iff`).
-/

namespace PageDirectives

namespace Compound

/-- Whether an element has what a compound asks for. -/
theorem accepts_iff {c : Compound} {e : SketchElement} :
    c.accepts e ↔ (∀ t ∈ c.tag, e.tag = t) ∧ (∀ i ∈ c.id, e.id = some i) ∧
      ∀ k ∈ c.classes, k ∈ e.classes := by
  simp only [accepts, Bool.and_eq_true, Option.all_eq_true, List.all_eq_true, beq_iff_eq,
    List.contains_iff_mem, and_assoc]
  rfl

/-- An element has what it is made from. -/
theorem accepts_element (c : Compound) (parent : Option NodeId) : c.accepts (c.element parent) := by
  refine accepts_iff.mpr ⟨fun t ht => ?_, fun i hi => hi, fun k hk => hk⟩
  rw [element, ht, Option.getD_some]

end Compound

namespace Sketch

open Text (IsWord)

variable {s : Sketch} {e : SketchElement} {n : NodeId}

/-! ## Elements by their numbers -/

theorem mem_numbers_iff {p : SketchElement → Bool} :
    n ∈ s.numbers p ↔ ∃ e, s.elements[n]? = some e ∧ p e := by
  rw [numbers, List.mem_filter, List.mem_range, Option.any_eq_true]
  refine and_iff_right_of_imp ?_
  rintro ⟨e, he, -⟩
  exact (List.getElem?_eq_some_iff.mp he).1

theorem pairwise_numbers (s : Sketch) (p : SketchElement → Bool) :
    (s.numbers p).Pairwise (· < ·) :=
  List.pairwise_lt_range.filter _

/-! ## Selectors -/

theorem toList_comma : ",".toList = [','] := rfl

theorem accepts_iff {selector : String} :
    accepts selector e ↔ ∃ part ∈ Text.split "," selector,
      IsWord (Text.trim part) ∧ (Compound.ofText (Text.trim part)).accepts e := by
  have hword (part : String) :
      (part != "" && !part.toList.any isBlank) = true ↔ IsWord part := by
    rw [Bool.and_eq_true, bne_iff_ne, Bool.not_eq_true', Text.isWord_iff]
  simp only [accepts, compounds, List.any_map, List.any_filter, List.any_eq_true, Function.comp_apply,
    Bool.and_eq_true, hword]

/-- A single compound is a selector. -/
theorem accepts_of_isWord {part : String} (hpart : IsWord part) (hcomma : ',' ∉ part.toList) :
    accepts part e ↔ (Compound.ofText part).accepts e := by
  have hsplit : Text.split "," part = [part] := by
    rw [Text.split_of_singleton toList_comma, List.splitOn_eq_singleton hcomma, List.map_singleton,
      String.ofList_toList]
  rw [accepts_iff, hsplit]
  simp only [List.mem_singleton, exists_eq_left, hpart.isTight.trim_eq, hpart, true_and]

theorem accepts_join_iff {parts : List String} (hparts : ∀ p ∈ parts, ',' ∉ p.toList) :
    accepts (Text.join "," parts) e ↔
      ∃ p ∈ parts, IsWord (Text.trim p) ∧ accepts (Text.trim p) e := by
  have hcomma (p : String) (hp : p ∈ parts) : ',' ∉ (Text.trim p).toList := fun hmem => by
    rw [Text.toList_trim] at hmem
    exact hparts p hp ((Chars.trim_sublist p.toList).subset hmem)
  by_cases hnil : parts = []
  -- the empty selector has a part, which is blank
  · subst hnil
    have hsplit : Text.split "," (Text.join "," []) = [""] := by
      rw [Text.split_of_singleton toList_comma]
      rfl
    have hblank : ¬ IsWord (Text.trim "") := fun h => h.ne_empty rfl
    simp [accepts_iff, hsplit, hblank]
  · rw [accepts_iff, Text.split_join toList_comma hnil hparts]
    refine exists_congr fun p => and_congr_right fun hp => and_congr_right fun hword => ?_
    rw [accepts_of_isWord hword (hcomma p hp)]

/-! ## Selections -/

theorem mem_select_iff {selector : String} :
    n ∈ s.select selector ↔ ∃ e, s.elements[n]? = some e ∧ accepts selector e :=
  mem_numbers_iff

/-- **A compound selects** the elements that have its tag, its id and its classes. -/
theorem mem_select_iff_of_isWord {spec : String} (hspec : IsWord spec)
    (hcomma : ',' ∉ spec.toList) :
    n ∈ s.select spec ↔ ∃ e, s.elements[n]? = some e ∧ (Compound.ofText spec).accepts e := by
  simp only [mem_select_iff, accepts_of_isWord hspec hcomma]

/-- The element that a compound describes is selected by it. -/
theorem mem_select_push {spec : String} (hspec : IsWord spec) (hcomma : ',' ∉ spec.toList)
    {parent : Option NodeId} (hparent : ∀ p ∈ parent, p < s.elements.length) :
    s.elements.length ∈ (s.push ((Compound.ofText spec).element parent) hparent).select spec := by
  exact (mem_select_iff_of_isWord hspec hcomma).mpr
    ⟨_, List.getElem?_concat_length, Compound.accepts_element _ parent⟩

/-- **A list of compounds selects** what one of them does. -/
theorem mem_select_join_iff {parts : List String} (hparts : ∀ p ∈ parts, ',' ∉ p.toList) :
    n ∈ s.select (Text.join "," parts) ↔
      ∃ p ∈ parts, IsWord (Text.trim p) ∧ n ∈ s.select (Text.trim p) := by
  simp only [mem_select_iff, accepts_join_iff hparts]
  constructor
  · rintro ⟨e, he, p, hp, hword, haccepts⟩
    exact ⟨p, hp, hword, e, he, haccepts⟩
  · rintro ⟨p, hp, hword, e, he, haccepts⟩
    exact ⟨e, he, p, hp, hword, haccepts⟩

theorem exists_of_addChild? {t : Sketch} {parentId spec : String}
    (h : s.addChild? parentId spec = some t) :
    ∃ parent hparent, t = s.push ((Compound.ofText spec).element parent) hparent := by
  rw [addChild?] at h
  split at h
  · cases h
  · exact ⟨_, _, (Option.some.inj h).symm⟩

/-- **Sketches select by what compounds say.** Every text is read as a compound, with cuts that are
all in order, and what has been written is read: the tag, unless it is left open, the last id and the
classes. A compound without commas and white space selects the elements that it accepts, and among
them the one that has been added for it, at the top or under another one. What a list of compounds
selects, in the order of the numbers, is selected by one of its parts that have no white space inside;
and every selector is such a list. -/
theorem select_of_compounds (s : Sketch) :
    (∀ spec, Compound.read? spec = some (Compound.ofText spec)) ∧
    (∀ tag ps, Compound.IsPlain tag → (∀ p ∈ ps, Compound.IsPlain p.name) →
      Compound.ofText (Compound.written tag ps) =
        { tag := if tag = "" ∨ tag = "*" then none else some tag
          id := (ps.filterMap Compound.Part.id?).getLast?
          classes := ps.filterMap Compound.Part.class? }) ∧
    (∀ spec, IsWord spec → ',' ∉ spec.toList →
      (∀ n, n ∈ s.select spec ↔
        ∃ e, s.elements[n]? = some e ∧ (Compound.ofText spec).accepts e) ∧
      (∃ e, (s.add spec).elements = s.elements ++ [e]) ∧
      s.elements.length ∈ (s.add spec).select spec ∧
      ∀ parentId t, s.addChild? parentId spec = some t → s.elements.length ∈ t.select spec) ∧
    (∀ selector, (s.select selector).Pairwise (· < ·) ∧
      ∃ parts : List String, (∀ p ∈ parts, ',' ∉ p.toList) ∧ Text.join "," parts = selector) ∧
    ∀ parts : List String, (∀ p ∈ parts, ',' ∉ p.toList) → ∀ n,
      n ∈ s.select (Text.join "," parts) ↔
        ∃ p ∈ parts, IsWord (Text.trim p) ∧ n ∈ s.select (Text.trim p) := by
  refine ⟨Compound.read?_eq, fun tag ps => Compound.ofText_written, fun spec hspec hcomma => ?_,
    fun selector => ⟨s.pairwise_numbers _, Text.exists_join toList_comma selector⟩,
    fun parts hparts n => mem_select_join_iff hparts⟩
  refine ⟨fun n => mem_select_iff_of_isWord hspec hcomma, ⟨_, rfl⟩,
    mem_select_push hspec hcomma _, fun parentId t ht => ?_⟩
  obtain ⟨parent, hparent, rfl⟩ := exists_of_addChild? ht
  exact mem_select_push hspec hcomma hparent

/-- A compound with two ids, an item of a menu, and a list with a part that selects nothing. -/
theorem select_of_item :
    let s := Sketch.empty.add "ul#menu"
    let ps : List Compound.Part := [.ofId "old", .ofClass "wide", .ofId "new"]
    let parts := ["ul li", " #menu "]
    (Compound.IsPlain "*" ∧ (∀ p ∈ ps, Compound.IsPlain p.name) ∧
      Compound.ofText (Compound.written "*" ps) = ⟨none, some "new", ["wide"]⟩) ∧
    (IsWord "li.item" ∧ ',' ∉ "li.item".toList ∧ 1 ∈ (s.add "li.item").select "li.item" ∧
      ∃ t, s.addChild? "menu" "li.item" = some t ∧ 1 ∈ t.select "li.item") ∧
    (∀ p ∈ parts, ',' ∉ p.toList) ∧ 0 ∈ s.select (Text.join "," parts) := by
  intro s ps parts
  obtain ⟨-, hread, hcompound, -, hlist⟩ := select_of_compounds s
  have hnames : ∀ p ∈ ps, Compound.IsPlain p.name := by decide
  have hitem : IsWord "li.item" ∧ ',' ∉ "li.item".toList := by decide
  have hmenu : IsWord "#menu" ∧ ',' ∉ "#menu".toList := by decide
  have hparts : ∀ p ∈ parts, ',' ∉ p.toList := by decide
  obtain ⟨-, -, hadd, hchild⟩ := hcompound "li.item" hitem.1 hitem.2
  obtain ⟨hselect, -⟩ := hcompound "#menu" hmenu.1 hmenu.2
  refine ⟨⟨by decide, hnames, ?_⟩, ⟨hitem.1, hitem.2, hadd, _, rfl, hchild "menu" _ rfl⟩, hparts, ?_⟩
  · exact (hread "*" ps (by decide) hnames).trans rfl
  · exact (hlist parts hparts 0).mpr
      ⟨" #menu ", by decide, hmenu.1, (hselect 0).mpr ⟨_, rfl, by decide⟩⟩

end Sketch

end PageDirectives

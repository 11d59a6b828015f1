import PageDirectives.Proofs.Text.Bytes
import PageDirectives.Sketch.Compound

set_option autoImplicit false

/-! # Reading and writing compounds

A compound is written as a tag with marked parts behind it, which are ids and classes in any order
(`Compound.written`). Every text is written so (`Compound.exists_written`), and what is written is
read: the tag, unless it is left open, the last of the ids and all of the classes
(`Compound.ofText_written`).

A text can be read with cuts alone, each at a number of bytes: in front of the first mark, behind it,
in front of the next one, and so on (`Compound.read?`). Of every text there is an end to this, and no
cut is made beyond the end of the text or inside a character (`Compound.read?_eq`).
-/

namespace PageDirectives

namespace Compound

/-! ## Writing -/

/-- A part of a compound that begins with a mark. -/
inductive Part where
  | ofId (name : String)
  | ofClass (name : String)

namespace Part

def mark : Part → Char
  | ofId _ => '#'
  | ofClass _ => '.'

def name : Part → String
  | ofId name => name
  | ofClass name => name

/-- The part that begins with a mark; all marks but one are those of classes. -/
def ofMark (mark : Char) (name : String) : Part := if mark = '#' then ofId name else ofClass name

def id? : Part → Option String
  | ofId name => some name
  | ofClass _ => none

def class? : Part → Option String
  | ofId _ => none
  | ofClass name => some name

theorem id?_eq (p : Part) : p.id? = if p.mark = '#' then some p.name else none := by
  cases p <;> rfl

theorem class?_eq (p : Part) : p.class? = if p.mark = '.' then some p.name else none := by
  cases p <;> rfl

theorem isMark_mark (p : Part) : isMark p.mark := by cases p <;> rfl

theorem utf8Size_mark (p : Part) : p.mark.utf8Size = 1 := by cases p <;> rfl

theorem ofMark_mark_name (p : Part) : ofMark p.mark p.name = p := by cases p <;> rfl

theorem exists_mark_name {c : Char} (hc : isMark c) (name : String) :
    ∃ p : Part, p.mark = c ∧ p.name = name := by
  simp only [isMark, Bool.or_eq_true, beq_iff_eq] at hc
  rcases hc with rfl | rfl
  · exact ⟨ofId name, rfl, rfl⟩
  · exact ⟨ofClass name, rfl, rfl⟩

end Part

/-- A text without marks. -/
def IsPlain (s : String) : Prop := ∀ c ∈ s.toList, isMark c = false

instance (s : String) : Decidable (IsPlain s) :=
  decidable_of_iff (s.toList.all (!isMark ·)) (by simp [IsPlain])

/-- The marked parts of a compound, one after the other. -/
def marked : List Part → String
  | [] => ""
  | p :: ps => String.singleton p.mark ++ p.name ++ marked ps

/-- A compound as a text. -/
def written (tag : String) (ps : List Part) : String := tag ++ marked ps

theorem toList_marked_cons (p : Part) (ps : List Part) :
    (marked (p :: ps)).toList = p.mark :: (p.name.toList ++ (marked ps).toList) := by
  simp [marked]

/-- **Every text is a compound**: a tag up to the first mark, and the parts from each mark to the
next. -/
theorem exists_written (spec : String) :
    ∃ tag ps, IsPlain tag ∧ (∀ p ∈ ps, IsPlain p.name) ∧ spec = written tag ps := by
  have hchars (cs : List Char) :
      ∃ tag ps, IsPlain tag ∧ (∀ p ∈ ps, IsPlain p.name) ∧ cs = (written tag ps).toList := by
    induction cs with
    | nil => exact ⟨"", [], nofun, List.forall_mem_nil _, rfl⟩
    | cons c cs ih =>
        obtain ⟨tag, ps, htag, hps, rfl⟩ := ih
        by_cases hc : isMark c
        -- what has been the tag turns out to be the name behind a mark
        · obtain ⟨p, rfl, rfl⟩ := Part.exists_mark_name hc tag
          refine ⟨"", p :: ps, nofun, List.forall_mem_cons.mpr ⟨htag, hps⟩, ?_⟩
          simp [written, marked]
        · refine ⟨String.singleton c ++ tag, ps, ?_, hps, by simp [written]⟩
          intro d hd
          rw [String.toList_append, String.toList_singleton, List.singleton_append] at hd
          rcases List.mem_cons.mp hd with rfl | hd
          · exact Bool.eq_false_iff.mpr hc
          · exact htag d hd
  obtain ⟨tag, ps, htag, hps, heq⟩ := hchars spec.toList
  exact ⟨tag, ps, htag, hps, String.toList_inj.mp heq⟩

/-! ## Reading -/

variable {ps : List Part}

theorem parts_cons_of_isMark {c : Char} (hc : isMark c) (s : List Char) :
    parts (c :: s) = ([], (c, (parts s).1) :: (parts s).2) := by
  simp [parts, hc]

/-- What stands in front of the first mark. -/
theorem parts_append {front : List Char} (hfront : ∀ c ∈ front, isMark c = false) (s : List Char) :
    parts (front ++ s) = (front ++ (parts s).1, (parts s).2) := by
  induction front with
  | nil => rfl
  | cons c front ih =>
      obtain ⟨hc, hfront⟩ := List.forall_mem_cons.mp hfront
      rw [List.cons_append, parts, ih hfront]
      simp [hc]

theorem parts_marked (hps : ∀ p ∈ ps, IsPlain p.name) :
    parts (marked ps).toList = ([], ps.map fun p => (p.mark, p.name.toList)) := by
  induction ps with
  | nil => rfl
  | cons p ps ih =>
      obtain ⟨hp, hps⟩ := List.forall_mem_cons.mp hps
      rw [toList_marked_cons, parts_cons_of_isMark p.isMark_mark, parts_append hp, ih hps,
        List.append_nil, List.map_cons]

/-- The names behind a mark. -/
theorem map_filter_mark {mark : Char} {name? : Part → Option String}
    (hname : ∀ p, name? p = if p.mark = mark then some p.name else none) (ps : List Part) :
    ((ps.map fun p => (p.mark, p.name.toList)).filter (·.1 == mark)).map (fun p => .ofList p.2)
      = ps.filterMap name? := by
  induction ps with
  | nil => rfl
  | cons p ps ih => by_cases hp : p.mark = mark <;> simp [hname, hp, ih]

/-- **What is written is read**: the tag, unless it is left open, the last id and the classes. -/
theorem ofText_written {tag : String} (htag : IsPlain tag) (hps : ∀ p ∈ ps, IsPlain p.name) :
    ofText (written tag ps) =
      { tag := if tag = "" ∨ tag = "*" then none else some tag
        id := (ps.filterMap Part.id?).getLast?
        classes := ps.filterMap Part.class? } := by
  have hparts : parts (written tag ps).toList
      = (tag.toList, ps.map fun p => (p.mark, p.name.toList)) := by
    rw [written, String.toList_append, parts_append htag, parts_marked hps, List.append_nil]
  have hopen : tag.toList = [] ∨ tag.toList = ['*'] ↔ tag = "" ∨ tag = "*" := by
    rw [String.toList_eq_nil_iff, show ['*'] = "*".toList from rfl, String.toList_inj]
  rw [ofText, ofChars, hparts]
  simp only [hopen, String.ofList_toList, ← List.getLast?_map, map_filter_mark Part.id?_eq,
    map_filter_mark Part.class?_eq]

/-! ## Reading with cuts -/

/-- A compound with another part. An id takes the place of the one before. -/
def add (c : Compound) : Part → Compound
  | .ofId name => { c with id := some name }
  | .ofClass name => { c with classes := c.classes ++ [name] }

/-- The number of bytes in front of the first mark, or of all if there is none. -/
def markAt (s : String) : Nat := (String.ofList (s.toList.takeWhile (!isMark ·))).utf8ByteSize

/-- Reads a text that begins with a mark, part by part. -/
def readMarked (c : Compound) (rest : String) : Option Compound :=
  match rest.toList.head? with
  | none => some c
  | some mark =>
    match _hmark : Text.cutBytes? 1 rest with
    | none => none
    | some (_, body) =>
      match _hname : Text.cutBytes? (markAt body) body with
      | none => none
      | some (name, more) => readMarked (c.add (.ofMark mark name)) more
termination_by rest.utf8ByteSize
decreasing_by
  obtain ⟨rfl, hone⟩ := Text.cutBytes?_eq_some_iff.mp _hmark
  obtain ⟨rfl, -⟩ := Text.cutBytes?_eq_some_iff.mp _hname
  simp only [String.utf8ByteSize_append]
  omega

/-- Reads a compound with cuts at numbers of bytes. There is no answer if one of the cuts is beyond
the end of the text or inside a character. -/
def read? (spec : String) : Option Compound :=
  match Text.cutBytes? (markAt spec) spec with
  | none => none
  | some (tag, rest) =>
    readMarked ⟨if tag = "" ∨ tag = "*" then none else some tag, none, []⟩ rest

/-- The first mark is where the marked parts begin. -/
theorem cutBytes?_markAt {front : String} (hfront : IsPlain front) (ps : List Part) :
    Text.cutBytes? (markAt (front ++ marked ps)) (front ++ marked ps)
      = some (front, marked ps) := by
  have hplain : ∀ c ∈ front.toList, (!isMark c) = true := fun c hc => by simp [hfront c hc]
  have hstop : (marked ps).toList.takeWhile (!isMark ·) = [] := by
    cases ps with
    | nil => rfl
    | cons p ps =>
        rw [toList_marked_cons]
        exact List.takeWhile_cons_of_neg (by simp [p.isMark_mark])
  refine Text.cutBytes?_eq_some_iff.mpr ⟨rfl, ?_⟩
  rw [markAt, String.toList_append, List.takeWhile_append_of_pos hplain, hstop, List.append_nil,
    String.ofList_toList]

/-- One part is read with two cuts. -/
theorem readMarked_of_cuts {c : Compound} {rest first body name more : String} {mark : Char}
    (hhead : rest.toList.head? = some mark) (hmark : Text.cutBytes? 1 rest = some (first, body))
    (hname : Text.cutBytes? (markAt body) body = some (name, more)) :
    readMarked c rest = readMarked (c.add (.ofMark mark name)) more := by
  rw [readMarked, hhead]
  split
  · next hhead' => cases hhead'
  · next mark' hhead' =>
      obtain rfl := Option.some.inj hhead'
      split
      · next hnone => cases hmark.symm.trans hnone
      · next _ body' hmark' =>
          obtain ⟨-, rfl⟩ := Prod.mk.inj (Option.some.inj (hmark.symm.trans hmark'))
          split
          · next hnone => cases hname.symm.trans hnone
          · next name' more' hname' =>
              obtain ⟨rfl, rfl⟩ := Prod.mk.inj (Option.some.inj (hname.symm.trans hname'))
              rfl

theorem readMarked_marked (c : Compound) (hps : ∀ p ∈ ps, IsPlain p.name) :
    readMarked c (marked ps) = some (ps.foldl add c) := by
  induction ps generalizing c with
  | nil =>
      rw [readMarked]
      rfl
  | cons p ps ih =>
      obtain ⟨hp, hps⟩ := List.forall_mem_cons.mp hps
      have hhead : (marked (p :: ps)).toList.head? = some p.mark := by
        rw [toList_marked_cons, List.head?_cons]
      have hmark : Text.cutBytes? 1 (marked (p :: ps))
          = some (String.singleton p.mark, p.name ++ marked ps) := by
        refine Text.cutBytes?_eq_some_iff.mpr ⟨by rw [marked, String.append_assoc], ?_⟩
        rw [String.utf8ByteSize_singleton, p.utf8Size_mark]
      rw [readMarked_of_cuts hhead hmark (cutBytes?_markAt hp ps), p.ofMark_mark_name]
      exact ih (c.add p) hps

/-- Of several ids the last one stays. -/
theorem foldl_add (ps : List Part) (c : Compound) :
    ps.foldl add c =
      { c with
        id := (ps.filterMap Part.id?).getLast?.or c.id
        classes := c.classes ++ ps.filterMap Part.class? } := by
  induction ps generalizing c with
  | nil => simp
  | cons p ps ih =>
      rw [List.foldl_cons, ih]
      cases p with
      | ofId name => simp [add, List.filterMap_cons, Part.id?, Part.class?, List.getLast?_cons]
      | ofClass name => simp [add, List.filterMap_cons, Part.id?, Part.class?]

/-- **All cuts are in order**: reading with cuts comes to an end, with the compound that is read
without them. -/
theorem read?_eq (spec : String) : read? spec = some (ofText spec) := by
  obtain ⟨tag, ps, htag, hps, rfl⟩ := exists_written spec
  rw [ofText_written htag hps, read?, written, cutBytes?_markAt htag ps]
  simp only [readMarked_marked _ hps, foldl_add, Option.or_none, List.nil_append]

end Compound

end PageDirectives

import PageDirectives.Attributes.Basic
import PageDirectives.Proofs.Text.Fold
import PageDirectives.Proofs.Text.Split

set_option autoImplicit false

/-! # What a style text says

A style text makes a statement in each of the parts between its semicolons that is not blank
(`Style.statements`). Some statements are declarations, and only those are read
(`Style.decode_eq_filterMap`). Declarations that are *neat* are all that the text says that is
written for them (`Style.statements_encode`), and whatever is read is neat (`Style.isNeat_of_mem_decode`).

So setting a property leaves a text that says the declarations of the old one, in order, with the
first of the property changed or a new one behind them (`Attributes.statements_setStyle`). Statements
that are no declarations are not in it any more.
-/

namespace PageDirectives

namespace Style

/-- What is said in a part of a style text: what stands before the first colon, in small letters,
and what stands behind it, if there is a colon. White space around either does not count. -/
structure Statement where
  name : List Char
  value : Option (List Char)
  deriving DecidableEq

namespace Statement

def ofPart (s : List Char) : Statement :=
  match Chars.cut? [':'] s with
  | none => ⟨Chars.trim s, none⟩
  | some (name, value) => ⟨Chars.lower (Chars.trim name), some (Chars.trim value)⟩

def ofDeclaration (d : String × String) : Statement := ⟨d.1.toList, some d.2.toList⟩

/-- Whether a property is given a value. -/
def isDeclaration (st : Statement) : Bool := st.value.isSome && st.name != []

/-- Whether a certain property is given a value. -/
def isAbout (property : String) (st : Statement) : Bool :=
  st.value.isSome && Chars.lower st.name == Chars.lower property.toList

/-- The declaration that a statement makes. -/
def declaration? (st : Statement) : Option (String × String) :=
  st.value.bind fun value =>
    if st.name = [] then none else some (.ofList st.name, .ofList value)

theorem ofPart_of_notMem {s : List Char} (hs : ':' ∉ s) : ofPart s = ⟨Chars.trim s, none⟩ := by
  rw [ofPart, Chars.cut?_singleton_eq_none_iff.mpr hs]

theorem ofPart_append {name : List Char} (hname : ':' ∉ name) (value : List Char) :
    ofPart (name ++ ':' :: value) = ⟨Chars.lower (Chars.trim name), some (Chars.trim value)⟩ := by
  rw [ofPart, Chars.cut?_singleton_eq_some_iff.mpr ⟨rfl, hname⟩]

/-- A part has no colon, or it has a first one. -/
theorem exists_part (s : List Char) :
    ':' ∉ s ∨ ∃ name value, s = name ++ ':' :: value ∧ ':' ∉ name := by
  cases hcut : Chars.cut? [':'] s with
  | none => exact Or.inl (Chars.cut?_singleton_eq_none_iff.mp hcut)
  | some p => exact Or.inr ⟨p.1, p.2, Chars.cut?_singleton_eq_some_iff.mp hcut⟩

theorem ofPart_cons_of_isBlank {c : Char} (hc : isBlank c) (s : List Char) :
    ofPart (c :: s) = ofPart s := by
  have hcolon : ':' ≠ c := by
    rintro rfl
    exact absurd hc (by decide)
  rcases exists_part s with hs | ⟨name, value, rfl, hname⟩
  · rw [ofPart_of_notMem hs, ofPart_of_notMem (List.not_mem_cons_of_ne_of_not_mem hcolon hs),
      Chars.trim_cons_of_isBlank hc]
  · rw [ofPart_append hname, ← List.cons_append,
      ofPart_append (List.not_mem_cons_of_ne_of_not_mem hcolon hname), Chars.trim_cons_of_isBlank hc]

theorem declaration?_ofPart (s : List Char) : (ofPart s).declaration? = Style.declaration? s := by
  rcases exists_part s with hs | ⟨name, value, rfl, hname⟩
  · rw [ofPart_of_notMem hs, Style.declaration?, Chars.cut?_singleton_eq_none_iff.mpr hs]
    rfl
  · rw [ofPart_append hname, Style.declaration?,
      Chars.cut?_singleton_eq_some_iff.mpr ⟨rfl, hname⟩]
    simp [declaration?, Chars.lower]

end Statement

/-! ## Statements -/

def statementsIn (s : List Char) : List Statement :=
  ((s.splitOn ';').filter (Chars.trim · ≠ [])).map Statement.ofPart

/-- What a style text says, part by part. Blank parts say nothing. -/
def statements (style : String) : List Statement := statementsIn style.toList

theorem statementsIn_of_notMem {s : List Char} (hs : ';' ∉ s) (hblank : Chars.trim s ≠ []) :
    statementsIn s = [.ofPart s] := by
  rw [statementsIn, List.splitOn_eq_singleton hs]
  simp [hblank]

theorem statementsIn_append (s t : List Char) :
    statementsIn (s ++ ';' :: t) = statementsIn s ++ statementsIn t := by
  simp only [statementsIn, List.splitOn_append_cons_self, List.filter_append, List.map_append]

/-- White space at the front says nothing. -/
theorem statementsIn_cons_of_isBlank {c : Char} (hc : isBlank c) (s : List Char) :
    statementsIn (c :: s) = statementsIn s := by
  have hne : (c == ';') = false := by
    rw [beq_eq_false_iff_ne]
    rintro rfl
    exact absurd hc (by decide)
  obtain ⟨part, parts, hsplit⟩ := List.exists_cons_of_ne_nil (List.splitOn_ne_nil ';' s)
  have hsplit' : (c :: s).splitOn ';' = (c :: part) :: parts := by
    rw [List.splitOn_cons_eq_if_modifyHead, hne, if_neg Bool.false_ne_true, hsplit,
      List.modifyHead_cons]
  have htrim := Chars.trim_cons_of_isBlank hc part
  have hsame := Statement.ofPart_cons_of_isBlank hc part
  rw [statementsIn, statementsIn, hsplit, hsplit']
  by_cases hblank : Chars.trim part = [] <;> simp [htrim, hblank, hsame]

/-- **Only declarations are read.** -/
theorem decode_eq_filterMap (style : String) :
    decode style = (statements style).filterMap Statement.declaration? := by
  rw [decode, statements, statementsIn, List.filterMap_map, List.filterMap_filter]
  refine List.filterMap_congr fun part _ => ?_
  rw [Function.comp_apply, Statement.declaration?_ofPart]
  split
  · rfl
  · next hblank =>
      -- there is no colon in white space
      have hcolon : ':' ∉ part := fun hmem => by
        have hall := Chars.trim_eq_nil_iff.mp (by simpa using hblank) ':' hmem
        exact absurd hall (by decide)
      rw [declaration?, Chars.cut?_singleton_eq_none_iff.mpr hcolon]
      rfl

/-! ## Neat declarations -/

/-- What can be the name of a property. -/
structure IsProperty (p : String) : Prop where
  tight : Text.IsTight p
  colon : ':' ∉ p.toList
  semicolon : ';' ∉ p.toList

/-- What can be a value. -/
structure IsValue (v : String) : Prop where
  trim_eq : Text.trim v = v
  semicolon : ';' ∉ v.toList

/-- A declaration as it is read. -/
structure IsNeat (d : String × String) : Prop where
  property : IsProperty d.1
  value : IsValue d.2
  lower_eq : Text.lower d.1 = d.1

theorem IsProperty.isNeat {p v : String} (hp : IsProperty p) (hv : IsValue v) :
    IsNeat (Text.lower p, v) where
  property := by
    refine ⟨hp.tight.lower, ?_, ?_⟩
    · rw [Text.toList_lower, Chars.mem_lower_iff (by decide)]
      exact hp.colon
    · rw [Text.toList_lower, Chars.mem_lower_iff (by decide)]
      exact hp.semicolon
  value := hv
  lower_eq := Text.lower_lower p

/-- **What is read is neat.** -/
theorem isNeat_of_mem_decode {style : String} {d : String × String} (hd : d ∈ decode style) :
    IsNeat d := by
  obtain ⟨part, hpart, hread⟩ := List.mem_filterMap.mp hd
  have hsemicolon : ';' ∉ part := Chars.notMem_of_mem_splitOn part hpart
  obtain ⟨⟨name, value⟩, hcut, hneat⟩ := Option.bind_eq_some_iff.mp hread
  obtain ⟨rfl, hcolon⟩ := Chars.cut?_singleton_eq_some_iff.mp hcut
  rw [List.mem_append, List.mem_cons, not_or, not_or] at hsemicolon
  obtain ⟨hname, -, hvalue⟩ := hsemicolon
  simp only [Option.ite_none_left_eq_some, Option.some.injEq] at hneat
  obtain ⟨hne, rfl⟩ := hneat
  -- a name is trimmed and put into small letters, a value is trimmed
  have hproperty : IsProperty (.ofList (Chars.trim name)) := by
    refine ⟨⟨?_, ?_⟩, ?_, ?_⟩
    · rwa [ne_eq, String.ofList_eq_empty_iff]
    · rw [← String.toList_inj, Text.toList_trim, String.toList_ofList, Chars.trim_trim]
    · rw [String.toList_ofList]
      exact fun h => hcolon ((Chars.trim_sublist name).subset h)
    · rw [String.toList_ofList]
      exact fun h => hname ((Chars.trim_sublist name).subset h)
  have hval : IsValue (.ofList (Chars.trim value)) := by
    refine ⟨?_, ?_⟩
    · rw [← String.toList_inj, Text.toList_trim, String.toList_ofList, Chars.trim_trim]
    · rw [String.toList_ofList]
      exact fun h => hvalue ((Chars.trim_sublist value).subset h)
  have hneat := hproperty.isNeat hval
  rwa [Text.lower, String.toList_ofList] at hneat

/-! ## Writing declarations -/

theorem ofPart_declaration {d : String × String} (hd : IsNeat d) :
    Statement.ofPart (d.1.toList ++ ':' :: ' ' :: d.2.toList) = .ofDeclaration d := by
  have hlower : Chars.lower d.1.toList = d.1.toList := by rw [← Text.toList_lower, hd.lower_eq]
  have hvalue : Chars.trim d.2.toList = d.2.toList := by
    rw [← Text.toList_trim, hd.value.trim_eq]
  rw [Statement.ofPart_append hd.property.colon, hd.property.tight.trim_toList, hlower,
    Chars.trim_cons_of_isBlank (by decide), hvalue, Statement.ofDeclaration]

theorem statementsIn_writeDeclaration {d : String × String} (hd : IsNeat d) (rest : List Char) :
    statementsIn ((writeDeclaration d).toList ++ rest) = .ofDeclaration d :: statementsIn rest := by
  have hwritten : (writeDeclaration d).toList ++ rest
      = (d.1.toList ++ ':' :: ' ' :: d.2.toList) ++ ';' :: rest := by
    simp [writeDeclaration]
  have hsemicolon : ';' ∉ d.1.toList ++ ':' :: ' ' :: d.2.toList := by
    simp [hd.property.semicolon, hd.value.semicolon]
  have hblank : Chars.trim (d.1.toList ++ ':' :: ' ' :: d.2.toList) ≠ [] := by
    rw [ne_eq, Chars.trim_eq_nil_iff]
    intro hall
    exact absurd (hall ':' (by simp)) (by decide)
  rw [hwritten, statementsIn_append, statementsIn_of_notMem hsemicolon hblank,
    ofPart_declaration hd, List.singleton_append]

/-- **What is written says the declarations**, and nothing else. -/
theorem statements_encode {ds : List (String × String)} (hds : ∀ d ∈ ds, IsNeat d) :
    statements (encode ds) = ds.map Statement.ofDeclaration := by
  have hempty : statementsIn [] = [] := by simp [statementsIn, Chars.trim, Chars.trimStart, Chars.trimEnd]
  induction ds with
  | nil => exact hempty
  | cons d ds ih =>
      obtain ⟨hd, hds⟩ := List.forall_mem_cons.mp hds
      have hwritten : ∃ rest, (encode (d :: ds)).toList = (writeDeclaration d).toList ++ rest ∧
          statementsIn rest = statements (encode ds) := by
        cases ds with
        | nil => exact ⟨[], by simp [encode, Text.join], rfl⟩
        | cons e ds =>
            refine ⟨' ' :: (encode (e :: ds)).toList, ?_, statementsIn_cons_of_isBlank (by decide) _⟩
            simp [encode, Text.join]
      obtain ⟨rest, hrest, hspoken⟩ := hwritten
      rw [statements, hrest, statementsIn_writeDeclaration hd, hspoken, ih hds, List.map_cons]

/-- **What is written is read back.** -/
theorem decode_encode {ds : List (String × String)} (hds : ∀ d ∈ ds, IsNeat d) :
    decode (encode ds) = ds := by
  rw [decode_eq_filterMap, statements_encode hds, List.filterMap_map]
  refine (List.filterMap_congr fun d hd => ?_).trans List.filterMap_some
  have hne : d.1 ≠ "" := (hds d hd).property.tight.ne_empty
  simp [Statement.declaration?, Statement.ofDeclaration, hne]

/-! ## Setting a property -/

section Set

variable {p v : String} {ds : List (String × String)}

theorem isNeat_of_mem_set (hp : IsProperty p) (hv : IsValue v) (hds : ∀ d ∈ ds, IsNeat d) :
    ∀ d ∈ set p v ds, IsNeat d := by
  induction ds with
  | nil => exact List.forall_mem_singleton.mpr (hp.isNeat hv)
  | cons d ds ih =>
      obtain ⟨hd, hds⟩ := List.forall_mem_cons.mp hds
      rw [set]
      split
      · exact List.forall_mem_cons.mpr ⟨⟨hd.property, hv, hd.lower_eq⟩, hds⟩
      · exact List.forall_mem_cons.mpr ⟨hd, ih hds⟩

/-- The declarations of the other properties stay. -/
theorem filter_set (p v : String) (ds : List (String × String)) :
    (set p v ds).filter (fun d => !Text.sameFold d.1 p)
      = ds.filter fun d => !Text.sameFold d.1 p := by
  induction ds with
  | nil =>
      have hsame : Text.sameFold (Text.lower p) p := Text.sameFold_iff.mpr (Text.lower_lower p)
      simp [set, hsame]
  | cons d ds ih =>
      rw [set]
      split
      · next hsame => simp [hsame]
      · next hother => simp [hother, ih]

theorem set_ne_nil (p v : String) (ds : List (String × String)) : set p v ds ≠ [] := by
  cases ds with
  | nil => exact List.cons_ne_nil _ _
  | cons d ds =>
      rw [set]
      split <;> exact List.cons_ne_nil _ _

end Set

/-! ## What is kept -/

namespace Statement

theorem isDeclaration_ofDeclaration {d : String × String} (hd : IsNeat d) :
    (ofDeclaration d).isDeclaration := by
  simpa [ofDeclaration, isDeclaration] using hd.property.tight.ne_empty

theorem isAbout_ofDeclaration (p : String) (d : String × String) :
    (ofDeclaration d).isAbout p = Text.sameFold d.1 p := by
  rw [Bool.eq_iff_iff, Text.sameFold_iff, ← String.toList_inj, Text.toList_lower, Text.toList_lower]
  simp [ofDeclaration, isAbout]

/-- A statement that is no declaration is none of any property. -/
theorem isAbout_of_not_isDeclaration {p : String} (hp : p ≠ "") {st : Statement}
    (hst : st.isDeclaration = false) : st.isAbout p = false := by
  have hlower : Chars.lower p.toList ≠ [] := fun h =>
    hp (String.toList_eq_nil_iff.mp (List.map_eq_nil_iff.mp h))
  obtain ⟨name, value⟩ := st
  cases value with
  | none => rfl
  | some value =>
      obtain rfl : name = [] := by simpa [isDeclaration] using hst
      simpa [isAbout, Chars.lower] using hlower.symm

theorem filter_isDeclaration (ss : List Statement) :
    ss.filter isDeclaration = (ss.filterMap declaration?).map ofDeclaration := by
  induction ss with
  | nil => rfl
  | cons st ss ih =>
      obtain ⟨name, value⟩ := st
      cases value with
      | none => simpa [isDeclaration, declaration?] using ih
      | some value =>
          by_cases hname : name = []
          · simpa [isDeclaration, declaration?, hname] using ih
          · simpa [isDeclaration, declaration?, hname, ofDeclaration] using ih

end Statement

/-- The declarations of all properties but one, in order. -/
def others (property style : String) : List Statement :=
  (statements style).filter fun st => st.isDeclaration && !st.isAbout property

theorem others_eq (p style : String) :
    others p style
      = ((decode style).filter fun d => !Text.sameFold d.1 p).map Statement.ofDeclaration := by
  have hcomp : (fun st : Statement => !st.isAbout p) ∘ Statement.ofDeclaration
      = fun d => !Text.sameFold d.1 p :=
    funext fun d => congrArg (!·) (Statement.isAbout_ofDeclaration p d)
  rw [others, ← List.filter_filter, List.filter_comm, Statement.filter_isDeclaration,
    ← decode_eq_filterMap, List.filter_map, hcomp]

section Kept

variable {p v old new : String}

theorem isNeat_of_mem_set_decode (hp : IsProperty p) (hv : IsValue v) :
    ∀ d ∈ set p v (decode old), IsNeat d :=
  isNeat_of_mem_set hp hv fun _ => isNeat_of_mem_decode

theorem others_encode_set (hp : IsProperty p) (hv : IsValue v) :
    others p (encode (set p v (decode old))) = others p old := by
  rw [others_eq, others_eq, decode_encode (isNeat_of_mem_set_decode hp hv), filter_set]

/-- **Only what is no declaration is lost.** -/
theorem sublist_statements_iff (hp : IsProperty p) (hothers : others p new = others p old)
    (hall : ∀ st ∈ statements new, st.isDeclaration) :
    ((statements old).filter fun st => !st.isAbout p).Sublist (statements new) ↔
      ∀ st ∈ statements old, st.isDeclaration := by
  constructor
  · intro hsub st hst
    by_contra hnot
    -- it is about no property, so it is in the new text, which is made of declarations
    have habout := Statement.isAbout_of_not_isDeclaration hp.tight.ne_empty (by simpa using hnot)
    exact hnot (hall st (hsub.subset (List.mem_filter.mpr ⟨hst, by simp [habout]⟩)))
  · intro hdecl
    have hold : (statements old).filter (fun st => !st.isAbout p) = others p old :=
      List.filter_congr fun st hst => by simp [hdecl st hst]
    rw [hold, ← hothers]
    exact List.filter_sublist

end Kept

end Style

namespace Attributes

theorem get?_set_self (a : Attributes) (name value : String) :
    (a.set name value).get? name = some value := by
  obtain ⟨entries⟩ := a
  rw [get?, set]
  induction entries with
  | nil =>
      have hsame : Text.sameFold (Text.lower name) name :=
        Text.sameFold_iff.mpr (Text.lower_lower name)
      simp [setEntry, hsame]
  | cons e es ih =>
      rw [setEntry]
      split
      · next hsame => simp [hsame]
      · next hother => simpa [hother] using ih

theorem get?_setStyle (a : Attributes) (p v : String) :
    (a.setStyle p v).get? "style" = some (Style.encode (Style.set p v a.styles)) := by
  rw [setStyle, writeStyles, if_neg (Style.set_ne_nil p v _), get?_set_self]

/-- **What the text says once a property is set**: the declarations that were read, with this
property set, and nothing else. So the declarations of other properties stay, and all that stands in
the text about other things stays if and only if every part of the text is a declaration. -/
theorem statements_setStyle (a : Attributes) {p v : String} (hp : Style.IsProperty p)
    (hv : Style.IsValue v) :
    let old := (a.get? "style").getD ""
    ∃ new, (a.setStyle p v).get? "style" = some new ∧
      Style.statements new
        = (Style.set p v (Style.decode old)).map Style.Statement.ofDeclaration ∧
      Style.others p new = Style.others p old ∧
      (((Style.statements old).filter fun st => !st.isAbout p).Sublist (Style.statements new) ↔
        ∀ st ∈ Style.statements old, st.isDeclaration) := by
  intro old
  have hneat : ∀ d ∈ Style.set p v a.styles, Style.IsNeat d := Style.isNeat_of_mem_set_decode hp hv
  have hspoken := Style.statements_encode hneat
  have hothers : Style.others p (Style.encode (Style.set p v a.styles)) = Style.others p old :=
    Style.others_encode_set hp hv
  have hall : ∀ st ∈ Style.statements (Style.encode (Style.set p v a.styles)), st.isDeclaration := by
    rw [hspoken]
    exact List.forall_mem_map.mpr fun d hd =>
      Style.Statement.isDeclaration_ofDeclaration (hneat d hd)
  exact ⟨_, a.get?_setStyle p v, hspoken, hothers, Style.sublist_statements_iff hp hothers hall⟩

end Attributes

end PageDirectives

import Mathlib.Data.List.Perm.Basic
import PageDirectives.Engine.Basic
import PageDirectives.Page

set_option autoImplicit false

/-! # The scripts of a page

An engine reads the scripts of a page type by type: first all scripts of the first type it looks
for, in document order, then those of the second, and so on. A script whose type is listed twice
is read twice. The lines are those of `Page.directiveLines`, which goes through the page in
document order and takes every script once, as long as only one of the listed types is found on
the page; if several are, they can be in another order.
-/

namespace PageDirectives

/-! ## Grouping -/

section Grouping

variable {K X Y : Type}

theorem flatMap_filter (q : X → Bool) (f : X → List Y) (xs : List X) :
    (xs.filter q).flatMap f = xs.flatMap fun x => if q x then f x else [] := by
  induction xs with
  | nil => rfl
  | cons x xs ih => by_cases hx : q x <;> simp [hx, ih]

variable (p : K → X → Bool) (f : X → List Y)

/-- What the groups of some keys hold, key after key, is what the members hold, each of them as
often as it belongs to one of the keys. -/
theorem flatMap_groups_perm (keys : List K) (xs : List X) :
    (keys.flatMap fun k => (xs.filter (p k)).flatMap f).Perm
      (xs.flatMap fun x => (List.replicate (keys.countP (p · x)) (f x)).flatten) := by
  induction keys with
  | nil => simp
  | cons k keys ih =>
      rw [List.flatMap_cons, flatMap_filter]
      refine ((ih.append_left _).trans (List.flatMap_append_perm xs _ _)).trans ?_
      refine List.Perm.flatMap_left xs fun x _ => List.Perm.of_eq ?_
      by_cases hk : p k x
      · simp [hk, List.replicate_succ]
      · simp [hk]

/-- Members that belong to one key at most are held once by the groups. -/
theorem flatMap_groups_perm_of_le_one {keys : List K} {xs : List X}
    (hone : ∀ x ∈ xs, keys.countP (p · x) ≤ 1) :
    (keys.flatMap fun k => (xs.filter (p k)).flatMap f).Perm
      ((xs.filter fun x => keys.any (p · x)).flatMap f) := by
  refine (flatMap_groups_perm p f keys xs).trans ?_
  rw [flatMap_filter]
  refine List.Perm.flatMap_left xs fun x hx => List.Perm.of_eq ?_
  cases hany : keys.any (p · x) with
  | false =>
      have hzero : keys.countP (p · x) = 0 := by
        rw [List.countP_eq_zero]
        exact List.any_eq_false.mp hany
      simp [hzero]
  | true =>
      have hpos : 0 < keys.countP (p · x) := by
        rw [List.countP_pos_iff]
        exact List.any_eq_true.mp hany
      have hcount : keys.countP (p · x) = 1 := Nat.le_antisymm (hone x hx) hpos
      simp [hcount]

/-- If a single key has members, there is a single group, in the order of the members. -/
theorem flatMap_groups_of_filter_eq {keys : List K} {xs : List X} {key : K}
    (hkey : keys.filter (fun k => xs.any (p k)) = [key]) :
    (keys.flatMap fun k => (xs.filter (p k)).flatMap f)
      = (xs.filter fun x => keys.any (p · x)).flatMap f := by
  have hmem {k : K} : k ∈ keys ∧ xs.any (p k) ↔ k = key := by
    have h : k ∈ keys.filter (fun k => xs.any (p k)) ↔ k = key := by
      rw [hkey, List.mem_singleton]
    rwa [List.mem_filter] at h
  have hsingle : (keys.flatMap fun k => (xs.filter (p k)).flatMap f)
      = (keys.filter fun k => xs.any (p k)).flatMap fun k => (xs.filter (p k)).flatMap f := by
    rw [flatMap_filter]
    refine congrArg (keys.flatMap ·) (funext fun k => ?_)
    cases hany : xs.any (p k) with
    | true => rfl
    | false =>
        have hnone : xs.filter (p k) = [] := by
          rw [List.filter_eq_nil_iff]
          exact List.any_eq_false.mp hany
        rw [hnone]
        rfl
  have hsame : xs.filter (p key) = xs.filter fun x => keys.any (p · x) := by
    refine List.filter_congr fun x hx => Bool.eq_iff_iff.mpr ⟨fun hp => ?_, fun hany => ?_⟩
    · exact List.any_eq_true.mpr ⟨key, (hmem.mpr rfl).1, hp⟩
    · obtain ⟨k, hk, hp⟩ := List.any_eq_true.mp hany
      obtain rfl := hmem.mp ⟨hk, List.any_eq_true.mpr ⟨x, hx, hp⟩⟩
      exact hp
  rw [hsingle, hkey, List.flatMap_singleton, hsame]

end Grouping

namespace Page

/-- Whether a script has a type, whatever the case of the letters. -/
def hasType (p : Page) (type : String) (script : NodeId) : Bool :=
  (p.document.attr? script "type").any fun t => Text.sameFold (Text.trim t) type

/-- The lines of a script. -/
def scriptLines (p : Page) (script : NodeId) : List String :=
  sourceLines [p.document.textContent script]

/-- The lines of the scripts that have one of the types, in document order. -/
def directiveLines (p : Page) (types : List String) : List String :=
  ((p.select "script").filter fun script => types.any (p.hasType · script)).flatMap p.scriptLines

theorem sourceLines_scriptBlocks (p : Page) (type : String) :
    sourceLines (p.scriptBlocks type)
      = ((p.select "script").filter (p.hasType type)).flatMap p.scriptLines := by
  simp only [sourceLines, scriptBlocks, List.flatMap_map]
  refine congrArg (List.flatMap · _) (funext fun script => ?_)
  simp [scriptLines, sourceLines]

end Page

namespace Engine

/-- The lines that an engine reads on a page: those of the scripts of each type it looks for,
type after type. -/
theorem sourceLines_flatMap_scriptBlocks (p : Page) (types : List String) :
    sourceLines (types.flatMap (Host.scriptBlocks p))
      = types.flatMap fun type => ((p.select "script").filter (p.hasType type)).flatMap
          p.scriptLines := by
  induction types with
  | nil => rfl
  | cons type types ih =>
      rw [List.flatMap_cons, List.flatMap_cons, sourceLines_append, ih]
      exact congrArg (· ++ _) (p.sourceLines_scriptBlocks type)

/-- **What is read of the scripts of a page**: type after type, the lines of all scripts of this
type, in document order. Every script is read as often as its type is listed. If no script has two
of the listed types the lines are those of the scripts in document order, in some order, and
if scripts of one of the listed types only are on the page they are in document order. -/
theorem readScripts_of_types (e : Engine Page) :
    let p := e.host
    let scripts := p.select "script"
    let lines := e.scriptTypes.flatMap fun type =>
      (scripts.filter (p.hasType type)).flatMap p.scriptLines
    e.readScripts = e.readLines lines ∧
    lines.Perm (scripts.flatMap fun s =>
      (List.replicate (e.scriptTypes.countP (p.hasType · s)) (p.scriptLines s)).flatten) ∧
    ((∀ s ∈ scripts, e.scriptTypes.countP (p.hasType · s) ≤ 1) →
      lines.Perm (p.directiveLines e.scriptTypes)) ∧
    ∀ type, e.scriptTypes.filter (fun t => scripts.any (p.hasType t)) = [type] →
      lines = p.directiveLines e.scriptTypes := by
  intro p scripts lines
  refine ⟨?_, ?_, fun hone => ?_, fun type htype => ?_⟩
  · rw [readScripts, sourceLines_flatMap_scriptBlocks]
  · exact flatMap_groups_perm p.hasType p.scriptLines e.scriptTypes scripts
  · exact flatMap_groups_perm_of_le_one p.hasType p.scriptLines hone
  · exact flatMap_groups_of_filter_eq p.hasType p.scriptLines htype

/-- A page with two scripts of the second type, and one between them that holds no directives. -/
theorem readScripts_of_script :
    let p := Page.parse ("<script type=text/ProtoScript>p should hide\np should show</script>" ++
      "<script type=text/javascript>p should goto</script>" ++
      "<script type=' text/protoscript '>p should toggle</script>")
    let e := new p
    let lines := ["p should hide", "p should show", "p should toggle"]
    e.scriptTypes.filter (fun t => (p.select "script").any (p.hasType t)) = ["text/ProtoScript"] ∧
      (p.select "script").map p.scriptLines
        = [["p should hide", "p should show"], ["p should goto"], ["p should toggle"]] ∧
      p.directiveLines e.scriptTypes = lines ∧
      sourceLines (e.scriptTypes.flatMap (Host.scriptBlocks e.host)) = lines := by
  intro p e lines
  obtain ⟨htype, hscripts, hlines⟩ :
      e.scriptTypes.filter (fun t => (p.select "script").any (p.hasType t))
          = ["text/ProtoScript"] ∧
        (p.select "script").map p.scriptLines
          = [["p should hide", "p should show"], ["p should goto"], ["p should toggle"]] ∧
        p.directiveLines e.scriptTypes = lines := by
    decide +kernel
  obtain ⟨-, -, -, hsingle⟩ := readScripts_of_types e
  refine ⟨htype, hscripts, hlines, ?_⟩
  rw [sourceLines_flatMap_scriptBlocks]
  exact (hsingle _ htype).trans hlines

/-- **Scripts of several types can be read out of order**: of the two scripts of this page the
second is read first, so that its directive comes first and runs first on a click. -/
theorem readScripts_of_mixedTypes :
    let p := Page.parse ("<script type=text/ProtoScript>p should hide on click</script>" ++
      "<script type=text/ShortHand>p should show on click</script><p>")
    let e := new p
    p.directiveLines e.scriptTypes = ["p should hide on click", "p should show on click"] ∧
      sourceLines (e.scriptTypes.flatMap (Host.scriptBlocks e.host))
        = ["p should show on click", "p should hide on click"] ∧
      e.readScripts.1.directives.map Directive.raw
        = ["p should show on click", "p should hide on click"] := by
  decide +kernel

end Engine

end PageDirectives

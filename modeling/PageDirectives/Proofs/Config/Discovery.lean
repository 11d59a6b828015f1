import PageDirectives.Config.Load
import PageDirectives.Proofs.File.Directories

set_option autoImplicit false

/-! # Discovery

Settings that are not asked for by name are searched from the working directory upwards
(`Config.Searches`): a directory in which the settings file exists ends the search, and so does the
root. From every directory the search comes to an end, and `Config.discover?` answers what it ends
with (`Config.searches_iff`, `Config.discover?_eq`).

What it ends with is told without going along (`Config.IsNearest`): the directory that has the
settings file, if it and none between it and the working directory does. There is no such directory
if none on the way to the root has the file (`Config.fileAbove?_cases`).
-/

namespace PageDirectives

namespace Config

/-- The name of settings files, as a name in a directory. -/
theorem isName_fileName : Path.IsName fileName ∧ '/' ∉ fileName.toList := by decide

/-- Where the settings file of a directory is. -/
def fileIn (d : Directory) : String := (d.child fileName isName_fileName).path

/-- The search for a settings file from a path upwards, and what it ends with. -/
inductive Searches (hasPath : String → Bool) : String → Option String → Prop where
  | found {path : String} : hasPath (Path.join path fileName) →
      Searches hasPath path (some (Path.join path fileName))
  | up {path above : String} {result : Option String} :
      hasPath (Path.join path fileName) = false → Path.parent? path = some above →
      Searches hasPath above result → Searches hasPath path result
  | top {path : String} : hasPath (Path.join path fileName) = false →
      Path.parent? path = none → Searches hasPath path none

/-- The settings file of `up` exists, and of the directories from `d` upwards `up` is the nearest one
of which this is true: all others are above it. -/
structure IsNearest (hasPath : String → Bool) (d up : Directory) : Prop where
  le : up ≤ d
  hasFile : hasPath (fileIn up)
  nearest : ∀ other ≤ d, hasPath (fileIn other) → other ≤ up

theorem IsNearest.unique {hasPath : String → Bool} {d up up' : Directory}
    (h : IsNearest hasPath d up) (h' : IsNearest hasPath d up') : up = up' :=
  le_antisymm (h'.nearest up h.le h.hasFile) (h.nearest up' h'.le h'.hasFile)

/-! ## The way upwards -/

theorem join_fileName (d : Directory) : Path.join d.path fileName = fileIn d :=
  d.join_path isName_fileName

/-- The settings file that is found first in a directory and those above it. -/
def fileAbove? (hasPath : String → Bool) (d : Directory) : Option String :=
  ((Path.ancestors d.path).map (Path.join · fileName)).find? hasPath

variable {hasPath : String → Bool}

theorem fileAbove?_root :
    fileAbove? hasPath .root = if hasPath (fileIn .root) then some (fileIn .root) else none := by
  rw [fileAbove?, Directory.ancestors_path, ← join_fileName]
  cases h : hasPath (Path.join Directory.root.path fileName) with
  | true => exact List.find?_cons_of_pos h
  | false => exact List.find?_cons_of_neg (Bool.eq_false_iff.mp h)

theorem fileAbove?_child (d : Directory) {s : String} (hs : Path.IsName s ∧ '/' ∉ s.toList) :
    fileAbove? hasPath (d.child s hs)
      = if hasPath (fileIn (d.child s hs)) then some (fileIn (d.child s hs))
        else fileAbove? hasPath d := by
  rw [fileAbove?, Directory.ancestors_path_child, List.map_cons, join_fileName]
  cases h : hasPath (fileIn (d.child s hs)) with
  | true => exact List.find?_cons_of_pos h
  | false => exact List.find?_cons_of_neg (Bool.eq_false_iff.mp h)

/-- **The search ends** from every directory. -/
theorem searches_fileAbove? (hasPath : String → Bool) (d : Directory) :
    Searches hasPath d.path (fileAbove? hasPath d) := by
  induction d using Directory.induction with
  | root =>
      rw [fileAbove?_root, ← join_fileName]
      split
      · next h => exact .found h
      · next h => exact .top (Bool.eq_false_iff.mpr h) Directory.parent?_path_root
  | child d s hs ih =>
      rw [fileAbove?_child, ← join_fileName]
      split
      · next h => exact .found h
      · next h => exact .up (Bool.eq_false_iff.mpr h) (d.parent?_path_child hs) ih

/-- A search ends in one way only. -/
theorem Searches.unique {path : String} {result result' : Option String}
    (h : Searches hasPath path result) (h' : Searches hasPath path result') : result = result' := by
  induction h with
  | found hhas =>
      cases h' with
      | found _ => rfl
      | up hno _ _ => exact absurd hhas (Bool.eq_false_iff.mp hno)
      | top hno _ => exact absurd hhas (Bool.eq_false_iff.mp hno)
  | up hno hparent _ ih =>
      cases h' with
      | found hhas => exact absurd hhas (Bool.eq_false_iff.mp hno)
      | up _ hparent' h' =>
          obtain rfl := Option.some.inj (hparent.symm.trans hparent')
          exact ih h'
      | top _ hnone => cases hparent.symm.trans hnone
  | top hno hnone =>
      cases h' with
      | found hhas => exact absurd hhas (Bool.eq_false_iff.mp hno)
      | up _ hparent _ => cases hparent.symm.trans hnone
      | top _ _ => rfl

theorem searches_iff {d : Directory} {result : Option String} :
    Searches hasPath d.path result ↔ fileAbove? hasPath d = result := by
  constructor
  · exact fun h => (searches_fileAbove? hasPath d).unique h
  · rintro rfl
    exact searches_fileAbove? hasPath d

/-- **What is found** is the file of the nearest directory that has one, if there is one. -/
theorem fileAbove?_cases (hasPath : String → Bool) (d : Directory) :
    (∃ up, IsNearest hasPath d up ∧ fileAbove? hasPath d = some (fileIn up)) ∨
      (∀ up ≤ d, hasPath (fileIn up) = false) ∧ fileAbove? hasPath d = none := by
  induction d using Directory.induction with
  | root =>
      rw [fileAbove?_root]
      split
      · next h => exact Or.inl ⟨.root, ⟨le_refl _, h, fun _ hle _ => hle⟩, rfl⟩
      · next h =>
          refine Or.inr ⟨fun up hup => ?_, rfl⟩
          rw [Directory.le_root_iff.mp hup]
          exact Bool.eq_false_iff.mpr h
  | child d s hs ih =>
      rw [fileAbove?_child]
      split
      · next h => exact Or.inl ⟨_, ⟨le_refl _, h, fun _ hle _ => hle⟩, rfl⟩
      · next h =>
          rcases ih with ⟨up, hup, hfound⟩ | ⟨hnone, hfound⟩
          · refine Or.inl ⟨up, ⟨Directory.le_child_iff.mpr (Or.inr hup.le), hup.hasFile,
              fun other hother hhas => ?_⟩, hfound⟩
            rcases Directory.le_child_iff.mp hother with rfl | hother
            · exact absurd hhas h
            · exact hup.nearest other hother hhas
          · refine Or.inr ⟨fun up hup => ?_, hfound⟩
            rcases Directory.le_child_iff.mp hup with rfl | hup
            · exact Bool.eq_false_iff.mpr h
            · exact hnone up hup

/-- Settings are searched from the working directory upwards. -/
theorem discover?_eq {s : Surroundings} {d : Directory} (hcwd : s.cwd = some d.path) :
    discover? s = fileAbove? s.hasPath d := by
  rw [discover?, hcwd]
  rfl

end Config

end PageDirectives

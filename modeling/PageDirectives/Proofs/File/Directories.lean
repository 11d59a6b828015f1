import Mathlib.Order.Basic
import PageDirectives.Proofs.File.Components

set_option autoImplicit false

/-! # Directories

A directory is named by the names on the way from it up to the root, and so is everything in it. The
directories above it are named by the ends of this row of names, which makes them an order
(`Directory.le_def`): the one that is left out of the other is above.

The path of a directory is absolute and has no steps but these names. Going up from it and putting a
name behind it do what they should (`Directory.parent?_path_child`, `Directory.join_path`), and the paths
above it are those of the directories above it (`Directory.ancestors_path`).
-/

namespace PageDirectives

/-- A directory, by the names on the way up to the root, its own name first. -/
structure Directory where
  names : List String
  areNames : ∀ s ∈ names, Path.IsName s ∧ '/' ∉ s.toList := by simp
  deriving DecidableEq

namespace Directory

@[ext] theorem ext {d d' : Directory} (h : d.names = d'.names) : d = d' := by
  cases d
  cases d'
  subst h
  rfl

/-- The absolute path. -/
def path (d : Directory) : String := "/" ++ Text.join "/" d.names.reverse

/-- The directory that is above all others. -/
def root : Directory where
  names := []

/-- What has a name in a directory. -/
def child (d : Directory) (s : String) (hs : Path.IsName s ∧ '/' ∉ s.toList) : Directory where
  names := s :: d.names
  areNames := List.forall_mem_cons.mpr ⟨hs, d.areNames⟩

/-- Every directory but the root is in another one. -/
theorem eq_root_or_child (d : Directory) : d = root ∨ ∃ up s hs, d = child up s hs := by
  obtain ⟨names, h⟩ := d
  cases names with
  | nil => exact Or.inl rfl
  | cons s names =>
      obtain ⟨hs, hnames⟩ := List.forall_mem_cons.mp h
      exact Or.inr ⟨⟨names, hnames⟩, s, hs, rfl⟩

/-- What holds of the root and, with a directory, of all that is in it, holds everywhere. -/
@[elab_as_elim]
theorem induction {motive : Directory → Prop} (root : motive root)
    (child : ∀ d s hs, motive d → motive (child d s hs)) (d : Directory) : motive d := by
  obtain ⟨names, h⟩ := d
  induction names with
  | nil => exact root
  | cons s names ih =>
      obtain ⟨hs, hnames⟩ := List.forall_mem_cons.mp h
      exact child ⟨names, hnames⟩ s hs (ih hnames)

/-! ## Above and below -/

/-- A directory that is the other one or above it. -/
instance : LE Directory := ⟨fun up d => up.names <:+ d.names⟩

theorem le_def {up d : Directory} : up ≤ d ↔ up.names <:+ d.names := Iff.rfl

instance : PartialOrder Directory where
  le_refl d := List.suffix_refl d.names
  le_trans _ _ _ h h' := List.IsSuffix.trans h h'
  le_antisymm _ _ h h' := ext (h.eq_of_length (Nat.le_antisymm h.length_le h'.length_le))

theorem le_root_iff {up : Directory} : up ≤ root ↔ up = root := by
  constructor
  · intro h
    exact ext (List.suffix_nil.mp h)
  · rintro rfl
    exact le_refl _

theorem le_child_iff {up d : Directory} {s : String} {hs : Path.IsName s ∧ '/' ∉ s.toList} :
    up ≤ d.child s hs ↔ up = d.child s hs ∨ up ≤ d := by
  rw [le_def, child, List.suffix_cons_iff, ← le_def]
  refine or_congr_left ⟨fun h => ext h, fun h => ?_⟩
  rw [h]

/-! ## Paths -/

theorem path_root : root.path = "/" := rfl

theorem isAbsolute_path (d : Directory) : Path.isAbsolute d.path := by
  rw [Path.isAbsolute, Text.startsWith, List.isPrefixOf_iff_prefix, path, String.toList_append]
  exact List.prefix_append _ _

variable {s : String}

theorem path_child (d : Directory) (hs : Path.IsName s ∧ '/' ∉ s.toList) :
    (d.child s hs).path = (if d = root then "/" else d.path ++ "/") ++ s := by
  rw [path, child, List.reverse_cons, Text.join]
  rcases d.eq_root_or_child with rfl | ⟨up, t, ht, rfl⟩
  · rfl
  · have hne : up.child t ht ≠ root := fun h => List.cons_ne_nil _ _ (congrArg names h)
    rw [if_neg hne, String.intercalate_append_of_ne_nil (by simp [child]) (List.cons_ne_nil _ _),
      String.intercalate_singleton, path, Text.join, String.append_assoc, String.append_assoc,
      String.append_assoc]

/-- Only the path of the root ends with a slash. -/
theorem getLast?_path (d : Directory) : d.path.toList.getLast? = some '/' ↔ d = root := by
  rcases d.eq_root_or_child with rfl | ⟨up, t, ht, rfl⟩
  · exact iff_of_true rfl rfl
  · have hne : up.child t ht ≠ root := fun h => List.cons_ne_nil _ _ (congrArg names h)
    refine iff_of_false (fun hlast => ?_) hne
    rw [path_child, String.toList_append,
      List.getLast?_append_of_ne_nil _ (mt String.toList_eq_nil_iff.mp ht.1.1)] at hlast
    exact ht.2 (List.mem_of_getLast? hlast)

/-- **Putting a name behind the path of a directory** names what is there. -/
theorem join_path (d : Directory) (hs : Path.IsName s ∧ '/' ∉ s.toList) :
    Path.join d.path s = (d.child s hs).path := by
  have hrelative : Path.isAbsolute s = false := by
    rw [Bool.eq_false_iff, ne_eq, Path.isAbsolute_iff, Path.steps_of_notMem hs.2]
    exact fun h => hs.1.1 (Option.some.inj h.1)
  have hne : d.path ≠ "" := by simp [path, ← String.toList_inj]
  rw [Path.join, hrelative, path_child]
  simp only [Bool.false_eq_true, if_false, hne, false_or, getLast?_path]
  split
  · next hroot => rw [hroot, path_root]
  · rfl

/-- The steps of the path are the names, behind an empty step for the root. -/
theorem steps_path_child (d : Directory) (hs : Path.IsName s ∧ '/' ∉ s.toList) :
    Path.steps (d.child s hs).path = ("" :: d.names.reverse) ++ [s] := by
  have hslash : ∀ t ∈ (s :: d.names).reverse, '/' ∉ t.toList := fun t ht =>
    ((d.child s hs).areNames t (List.mem_reverse.mp ht)).2
  have hpath : (d.child s hs).path = "" ++ "/" ++ Text.join "/" (s :: d.names).reverse := by
    rw [String.empty_append, path]
    rfl
  rw [hpath, Path.steps_append_slash, Path.steps_join (by simp) hslash, List.reverse_cons]
  rfl

/-- Names are not dropped from the end of a path. -/
theorem dropEmpty_of_isName (hs : Path.IsName s) (above : List String) :
    Path.dropEmpty (s :: (above ++ [""])) = s :: (above ++ [""]) := by
  cases above <;> simp [Path.dropEmpty, Path.counts, hs.1, hs.2.1]

/-- **Going up** from what has a name in a directory leads to the directory. -/
theorem parent?_path_child (d : Directory) (hs : Path.IsName s ∧ '/' ∉ s.toList) :
    Path.parent? (d.child s hs).path = some d.path := by
  have hsteps : (Path.steps (d.child s hs).path).reverse = s :: (d.names ++ [""]) := by
    rw [steps_path_child]
    simp
  rw [Path.parent?, hsteps, dropEmpty_of_isName hs.1]
  rcases d.eq_root_or_child with rfl | ⟨up, t, ht, rfl⟩
  · simp only [show Path.dropEmpty (root.names ++ [""]) = [] from rfl, isAbsolute_path, if_true]
    rfl
  · have hjoin : Text.join "/" (t :: (up.names ++ [""])).reverse = (up.child t ht).path := by
      have hrow : (t :: (up.names ++ [""])).reverse = [""] ++ (t :: up.names).reverse := by simp
      rw [hrow, Text.join, String.intercalate_append_of_ne_nil (List.cons_ne_nil _ _) (by simp)]
      rfl
    simp only [show (up.child t ht).names = t :: up.names from rfl, List.cons_append,
      dropEmpty_of_isName ht.1, hjoin]

theorem parent?_path_root : Path.parent? root.path = none := by decide

/-- **The paths above** the path of a directory, and the path itself, are told by its names. -/
theorem ancestors_path (d : Directory) : Path.ancestors d.path = Path.above d.names := by
  rcases d.eq_root_or_child with rfl | ⟨up, t, ht, rfl⟩
  · decide
  · have hnames : ∀ u ∈ (t :: up.names).reverse, (u != "") = true := fun u hu =>
      bne_iff_ne.mpr ((up.child t ht).areNames u (List.mem_reverse.mp hu)).1.1
    have hfilter : (Path.steps (up.child t ht).path).filter (· != "") = (t :: up.names).reverse := by
      rw [steps_path_child, List.cons_append, ← List.reverse_cons,
        List.filter_cons_of_neg (by decide), List.filter_eq_self.mpr hnames]
    rw [Path.ancestors, hfilter, List.reverse_reverse]
    rfl

theorem ancestors_path_child (d : Directory) (hs : Path.IsName s ∧ '/' ∉ s.toList) :
    Path.ancestors (d.child s hs).path = (d.child s hs).path :: Path.ancestors d.path := by
  rw [ancestors_path, ancestors_path]
  rfl

end Directory

end PageDirectives

import PageDirectives.File.Path
import PageDirectives.Proofs.Text.Split

set_option autoImplicit false

/-! # The components of a path

What a path says, apart from the way it is written (`Path.components`): the root it starts from, the
names on the way, and the steps back up. Empty steps say nothing, and so does a `.` other than the
very first step.

Putting a name behind a path adds the name as a component (`Path.components_join`), and going up from
a path that ends with a name takes the name away (`Path.exists_parent?`).
-/

namespace PageDirectives

namespace Path

inductive Component where
  | root
  /-- A `.` in front of all other steps. -/
  | current
  /-- A step back up. -/
  | up
  | name (s : String)
  deriving DecidableEq, Repr

/-- Whether a step is the name of something. -/
def IsName (s : String) : Prop := s ≠ "" ∧ s ≠ "." ∧ s ≠ ".."

instance (s : String) : Decidable (IsName s) := inferInstanceAs (Decidable (_ ∧ _ ∧ _))

/-- What a step says behind other steps. -/
def Component.ofStep? (s : String) : Option Component :=
  if s = "" ∨ s = "." then none else if s = ".." then some .up else some (.name s)

/-- What the steps of a path say. -/
def componentsOf (isRooted : Bool) (steps : List String) : List Component :=
  (if isRooted then [.root] else []) ++ (if steps.head? = some "." then [.current] else [])
    ++ steps.filterMap Component.ofStep?

def components (path : String) : List Component := componentsOf (isAbsolute path) (steps path)

theorem Component.ofStep?_of_isName {s : String} (h : IsName s) : ofStep? s = some (.name s) := by
  rw [ofStep?, if_neg (not_or.mpr ⟨h.1, h.2.1⟩), if_neg h.2.2]

theorem Component.ofStep?_eq_none_iff {s : String} : ofStep? s = none ↔ s = "" ∨ s = "." := by
  rw [ofStep?]
  split
  · simp [*]
  · split <;> simp [*]

/-! ## The steps of a path -/

theorem steps_ne_nil (path : String) : steps path ≠ [] := by
  rw [steps, ne_eq, List.map_eq_nil_iff]
  exact List.splitOn_ne_nil _ _

theorem steps_of_notMem {s : String} (hs : '/' ∉ s.toList) : steps s = [s] := by
  rw [steps, List.splitOn_eq_singleton hs]
  simp

theorem steps_append_slash (path next : String) :
    steps (path ++ "/" ++ next) = steps path ++ steps next := by
  simp only [steps, String.toList_append]
  rw [show "/".toList = ['/'] from rfl, List.append_assoc, List.singleton_append,
    List.splitOn_append_cons_self, List.map_append]

theorem slash_notMem_of_mem_steps {path s : String} (hs : s ∈ steps path) : '/' ∉ s.toList := by
  obtain ⟨l, hl, rfl⟩ := List.mem_map.mp hs
  rw [String.toList_ofList]
  exact Chars.notMem_of_mem_splitOn l hl

/-- The steps of a path that is put together from steps. -/
theorem steps_join {ss : List String} (hne : ss ≠ []) (hss : ∀ s ∈ ss, '/' ∉ s.toList) :
    steps (Text.join "/" ss) = ss := by
  rw [steps, Text.join, String.toList_intercalate, show "/".toList = ['/'] from rfl,
    List.splitOn_intercalate _ (by simpa using hss) (by simpa using hne)]
  simp

/-- A path is absolute if its first step is empty and there are others. -/
theorem isAbsolute_iff {path : String} :
    isAbsolute path ↔ (steps path).head? = some "" ∧ steps path ≠ [""] := by
  rw [isAbsolute, Text.startsWith, List.isPrefixOf_iff_prefix, show "/".toList = ['/'] from rfl,
    steps]
  cases path.toList with
  | nil => simp
  | cons c cs =>
      rw [List.splitOn_cons_eq_if_modifyHead]
      by_cases hc : c = '/'
      · simp [hc, List.splitOn_ne_nil]
      · have hne : ¬ '/' = c := fun h => hc h.symm
        cases hsplit : cs.splitOn '/' with
        | nil => exact absurd hsplit (List.splitOn_ne_nil _ _)
        | cons l ls => simp [hc, hne, List.cons_prefix_cons]

/-! ## Down and up -/

theorem isAbsolute_append {path : String} (hne : path ≠ "") (more : String) :
    isAbsolute (path ++ more) = isAbsolute path := by
  rw [isAbsolute, isAbsolute, Text.startsWith, Text.startsWith, String.toList_append]
  cases hs : path.toList with
  | nil => exact absurd (String.toList_eq_nil_iff.mp hs) hne
  | cons c cs => rfl

/-- Behind other steps, every step says what it says by itself. -/
theorem componentsOf_append {isRooted : Bool} {ss : List String} (hne : ss ≠ [])
    (more : List String) :
    componentsOf isRooted (ss ++ more)
      = componentsOf isRooted ss ++ more.filterMap Component.ofStep? := by
  have hhead : (ss ++ more).head? = ss.head? := by
    cases ss with
    | nil => exact absurd rfl hne
    | cons s ss => rfl
  rw [componentsOf, componentsOf, List.filterMap_append, hhead, List.append_assoc _ _ (_ ++ _),
    List.append_assoc, List.append_assoc]

/-- **Putting a name behind a path** adds it to the components. -/
theorem components_join {path s : String} (hs : IsName s) (hslash : '/' ∉ s.toList) :
    components (join path s) = components path ++ [.name s] := by
  have hname : [s].filterMap Component.ofStep? = [.name s] := by
    simp [Component.ofStep?_of_isName hs]
  have hrelative : isAbsolute s = false := by
    rw [Bool.eq_false_iff, ne_eq, isAbsolute_iff, steps_of_notMem hslash]
    exact fun h => hs.1 (Option.some.inj h.1)
  have hsteps (front : String) : steps (front ++ "/" ++ s) = steps front ++ [s] := by
    rw [steps_append_slash, steps_of_notMem hslash]
  rw [join, if_neg (by simp [hrelative])]
  split
  · next hend =>
      rcases hend with rfl | hend
      · have hempty : components "" = [] := by decide
        rw [String.empty_append, hempty, components, hrelative, steps_of_notMem hslash, componentsOf,
          hname]
        simp [hs.2.1]
      -- the path ends with a slash, and with an empty step behind that
      · obtain ⟨front, hfront⟩ := List.getLast?_eq_some_iff.mp hend
        obtain rfl : path = .ofList front ++ "/" := by
          rw [← String.toList_inj, hfront]
          simp
        have hne : String.ofList front ++ "/" ≠ "" := by simp [← String.toList_inj]
        have hend : steps (.ofList front ++ "/") = steps (.ofList front) ++ [""] := by
          have hnil : steps "" = [""] := steps_of_notMem (by simp)
          rw [← hnil, ← steps_append_slash, String.append_empty]
        rw [components, components, isAbsolute_append hne, hsteps, hend,
          componentsOf_append (steps_ne_nil _), componentsOf_append (steps_ne_nil _), hname]
        simp [Component.ofStep?]
  · next hend =>
      have hne : path ≠ "" := fun h => hend (Or.inl h)
      have hrooted : isAbsolute (path ++ "/" ++ s) = isAbsolute path := by
        rw [String.append_assoc, isAbsolute_append hne]
      rw [components, components, hsteps, hrooted, componentsOf_append (steps_ne_nil path), hname]

/-! ## Up -/

theorem dropEmpty_suffix (ss : List String) : dropEmpty ss <:+ ss := by
  fun_induction dropEmpty ss with
  | case1 => exact List.suffix_refl _
  | case2 => exact List.suffix_refl _
  | case3 => exact List.nil_suffix
  | case4 => exact List.suffix_refl _
  | case5 s above _ _ ih => exact ih.trans (List.suffix_cons s above)

theorem counts_of_dropEmpty {ss : List String} {s : String} {above : List String}
    (h : dropEmpty ss = s :: above) : counts above.isEmpty s := by
  fun_induction dropEmpty ss with
  | case1 => exact absurd h (by simp)
  | case2 t ht =>
      obtain ⟨rfl, rfl⟩ := List.cons.inj h
      exact ht
  | case3 t ht => exact absurd h (by simp)
  | case4 t up hne ht =>
      obtain ⟨rfl, rfl⟩ := List.cons.inj h
      rwa [List.isEmpty_eq_false_iff.mpr hne]
  | case5 t up hne ht ih => exact ih h

/-- The steps that are dropped say nothing. -/
theorem componentsOf_dropEmpty (isRooted : Bool) (ss : List String) :
    componentsOf isRooted (dropEmpty ss).reverse = componentsOf isRooted ss.reverse := by
  fun_induction dropEmpty ss with
  | case1 => rfl
  | case2 => rfl
  | case3 s hs =>
      obtain rfl : s = "" := by simpa [counts] using hs
      rfl
  | case4 => rfl
  | case5 s above hne hs ih =>
      have hnone : Component.ofStep? s = none :=
        Component.ofStep?_eq_none_iff.mpr
          (Decidable.or_iff_not_imp_left.mpr (by simpa [counts] using hs))
      rw [ih, List.reverse_cons, componentsOf_append (by simpa using hne)]
      simp [hnone]

/-- A step that counts says one thing. -/
theorem exists_componentsOf_cons (isRooted : Bool) {s : String} {above : List String}
    (hs : counts above.isEmpty s) :
    ∃ c, componentsOf isRooted (s :: above).reverse
      = componentsOf isRooted above.reverse ++ [c] := by
  cases above with
  | nil =>
      have hs : s ≠ "" := by simpa [counts] using hs
      by_cases hdot : s = "."
      · exact ⟨.current, by simp [componentsOf, hdot, Component.ofStep?]⟩
      · by_cases hup : s = ".."
        · exact ⟨.up, by simp [componentsOf, hup, Component.ofStep?]⟩
        · exact ⟨.name s, by simp [componentsOf, hdot, Component.ofStep?_of_isName ⟨hs, hdot, hup⟩]⟩
  | cons t above =>
      have hsome : Component.ofStep? s ≠ none := by
        simpa [counts, Component.ofStep?_eq_none_iff] using hs
      obtain ⟨c, hc⟩ := Option.ne_none_iff_exists'.mp hsome
      refine ⟨c, ?_⟩
      rw [List.reverse_cons, componentsOf_append (by simp)]
      simp [hc]

theorem isAbsolute_congr {p q : String} (hhead : (steps p).head? = (steps q).head?)
    (hp : steps p ≠ [""]) (hq : steps q ≠ [""]) : isAbsolute p = isAbsolute q := by
  rw [Bool.eq_iff_iff, isAbsolute_iff, isAbsolute_iff, hhead, and_iff_left hp, and_iff_left hq]

/-- The first steps of a path, put together, say what they say in the path. -/
theorem components_join_of_front {path : String} {front : List String}
    (hfront : front <+: steps path) (hne : front ≠ []) (hblank : front ≠ [""]) :
    components (Text.join "/" front) = componentsOf (isAbsolute path) front := by
  have hsteps : steps (Text.join "/" front) = front :=
    steps_join hne fun s hs => slash_notMem_of_mem_steps (hfront.subset hs)
  have hpath : steps path ≠ [""] := by
    intro hpath
    rw [hpath] at hfront
    rcases List.prefix_cons_iff.mp hfront with rfl | ⟨more, rfl, hmore⟩
    · exact hne rfl
    · exact hblank (by rw [List.prefix_nil.mp hmore])
  have hrooted : isAbsolute (Text.join "/" front) = isAbsolute path := by
    refine isAbsolute_congr ?_ (by rwa [hsteps]) hpath
    obtain ⟨more, hmore⟩ := hfront
    obtain ⟨s, rest, rfl⟩ := List.exists_cons_of_ne_nil hne
    rw [hsteps, ← hmore]
    rfl
  rw [components, hrooted, hsteps]

/-- **Going up from a path that ends with a name** takes the name away. -/
theorem exists_parent? {path s : String} {cs : List Component}
    (h : components path = cs ++ [.name s]) :
    ∃ q, parent? path = some q ∧ components q = cs := by
  rw [components, ← List.reverse_reverse (steps path), ← componentsOf_dropEmpty] at h
  rw [parent?]
  cases hdrop : dropEmpty (steps path).reverse with
  | nil =>
      rw [hdrop] at h
      have hname : Component.name s ∈ componentsOf (isAbsolute path) [] := by
        rw [List.reverse_nil] at h
        simp [h]
      cases hroot : isAbsolute path <;> simp [hroot, componentsOf] at hname
  | cons t above =>
      rw [hdrop] at h
      obtain ⟨c, hc⟩ := exists_componentsOf_cons (isAbsolute path) (counts_of_dropEmpty hdrop)
      obtain ⟨habove, -⟩ := List.append_inj' (hc.symm.trans h) rfl
      rw [← componentsOf_dropEmpty] at habove
      cases hfront : dropEmpty above with
      | nil =>
          refine ⟨if isAbsolute path then "/" else "", by simp only [hfront], ?_⟩
          rw [← habove, hfront]
          cases isAbsolute path <;> decide
      | cons u front =>
          have hsteps : (u :: front).reverse <+: steps path := by
            have h := (hfront ▸ dropEmpty_suffix above).trans
              ((List.suffix_cons t above).trans (hdrop ▸ dropEmpty_suffix _))
            rwa [← List.reverse_prefix, List.reverse_reverse] at h
          have hblank : (u :: front).reverse ≠ [""] := by
            rw [ne_eq, List.reverse_eq_iff]
            intro h
            obtain ⟨rfl, rfl⟩ : u = "" ∧ front = [] := by simpa using h
            exact absurd (counts_of_dropEmpty hfront) (by simp [counts])
          refine ⟨Text.join "/" (u :: front).reverse, by simp only [hfront], ?_⟩
          rw [components_join_of_front hsteps (by simp) hblank, ← hfront, habove]

end Path

end PageDirectives

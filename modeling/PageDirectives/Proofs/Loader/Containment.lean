import PageDirectives.Loader
import PageDirectives.Proofs.File.Components
import PageDirectives.Proofs.Text.Occurrence

set_option autoImplicit false

/-! # Files stay below the base directory

What the steps of an address come to is a stack of names (`Url.names?`). The way that a loader
takes from its base directory keeps no such stack; it counts how deep it is and edits a path. At
every step the path says the components of the base directory and behind them the names on the
stack, and the count is their number (`Loader.Descent.Follows`). So the way goes wrong where the
stack runs empty, and it never touches a component of the base directory.
-/

namespace PageDirectives

namespace Url

/-- One step of a way: the names that it keeps. -/
def keep? (names : List String) (s : String) : Option (List String) :=
  if Path.IsName s then some (names ++ [s])
  else if s = ".." then if names = [] then none else some names.dropLast
  else some names

/-- The names that are left of the steps of a way, none if a step goes up with no name left. -/
def names? (steps : List String) : Option (List String) := steps.foldlM keep? []

/-- The path in an address of a file, and what stands around it. -/
structure Spells (url scheme slashes path rest : String) : Prop where
  eq : url = scheme ++ slashes ++ path ++ rest
  scheme : scheme = "file://" ∨ scheme = "" ∧ ¬ Text.OccursAt "file://" url 0
  slashes : ∀ c ∈ slashes.toList, c = '/'
  relative : path.toList.head? ≠ some '/'
  plain : ∀ c ∈ path.toList, c ≠ '?' ∧ c ≠ '#'
  rest : ∀ c ∈ rest.toList.head?, c = '?' ∨ c = '#'

/-! ## What an address spells -/

theorem exists_scheme (url : String) :
    ∃ scheme, (scheme = "file://" ∨ scheme = "" ∧ ¬ Text.OccursAt "file://" url 0) ∧
      url.toList = scheme.toList
        ++ (Chars.dropFront? "file://".toList url.toList).getD url.toList := by
  cases hdrop : Chars.dropFront? "file://".toList url.toList with
  | none =>
      refine ⟨"", Or.inr ⟨rfl, ?_⟩, rfl⟩
      rw [← Text.dropFront?_eq_none_iff, Text.dropFront?, hdrop]
      rfl
  | some tail => exact ⟨"file://", Or.inl rfl, Chars.dropFront?_eq_some_iff.mp hdrop⟩

/-- The steps of an address are those of the path in it. -/
theorem exists_spells (url : String) :
    ∃ scheme slashes path rest, Spells url scheme slashes path rest ∧
      steps url = Path.steps path := by
  obtain ⟨scheme, hscheme, hurl⟩ := exists_scheme url
  rw [steps, filePath]
  generalize (Chars.dropFront? "file://".toList url.toList).getD url.toList = tail at hurl ⊢
  let isPlain : Char → Bool := fun c => c != '?' && c != '#'
  let front := tail.takeWhile isPlain
  refine ⟨scheme, .ofList (front.takeWhile (· == '/')), .ofList (front.dropWhile (· == '/')),
    .ofList (tail.dropWhile isPlain), ?_, rfl⟩
  refine { eq := ?_, scheme := hscheme, slashes := ?_, relative := ?_, plain := ?_, rest := ?_ }
  · rw [← String.toList_inj, hurl]
    simp only [String.toList_append, String.toList_ofList]
    rw [List.append_assoc scheme.toList, List.takeWhile_append_dropWhile, List.append_assoc,
      List.takeWhile_append_dropWhile]
  · intro c hc
    rw [String.toList_ofList] at hc
    simpa using List.mem_takeWhile_imp hc
  · rw [String.toList_ofList]
    intro hhead
    have h := List.head?_dropWhile_not (· == '/') front
    rw [hhead] at h
    simp at h
  · intro c hc
    rw [String.toList_ofList] at hc
    have hplain : isPlain c := List.mem_takeWhile_imp ((List.dropWhile_suffix _).subset hc)
    simpa [isPlain] using hplain
  · intro c hc
    rw [String.toList_ofList, Option.mem_def] at hc
    have h := List.head?_dropWhile_not isPlain tail
    rw [hc] at h
    simpa [isPlain, ← or_iff_not_imp_left] using h

/-! ## The stack of names -/

theorem keep?_of_isName {names : List String} {s : String} (hs : Path.IsName s) :
    keep? names s = some (names ++ [s]) := if_pos hs

theorem keep?_up {names : List String} :
    keep? names ".." = if names = [] then none else some names.dropLast := rfl

theorem keep?_of_ne {names : List String} {s : String} (hs : ¬ Path.IsName s) (hup : s ≠ "..") :
    keep? names s = some names := by
  rw [keep?, if_neg hs, if_neg hup]

theorem exists_prefix_cons_iff {p : List String → Prop} (hnil : ¬ p []) {s : String}
    {steps : List String} :
    (∃ front, front <+: s :: steps ∧ p front) ↔ ∃ front, front <+: steps ∧ p (s :: front) := by
  constructor
  · rintro ⟨front, hpre, hp⟩
    rcases List.prefix_cons_iff.mp hpre with rfl | ⟨more, rfl, hmore⟩
    · exact absurd hp hnil
    · exact ⟨more, hmore, hp⟩
  · rintro ⟨front, hpre, hp⟩
    exact ⟨s :: front, List.cons_prefix_cons.mpr ⟨rfl, hpre⟩, hp⟩

/-- The stack runs empty where the steps have gone up more often than down. -/
theorem foldlM_keep?_eq_none_iff {steps names : List String} :
    steps.foldlM keep? names = none ↔ ∃ front, front <+: steps ∧
      names.length + front.countP (Path.IsName ·) < front.count ".." := by
  induction steps generalizing names with
  | nil => simp
  | cons s steps ih =>
      rw [List.foldlM_cons, exists_prefix_cons_iff (Nat.not_lt_zero _)]
      by_cases hname : Path.IsName s
      · have hup : s ≠ ".." := hname.2.2
        rw [keep?_of_isName hname, Option.bind_eq_bind, Option.bind_some, ih]
        simp only [List.length_append, List.length_singleton, List.countP_cons, List.count_cons,
          hname, hup, decide_true, if_true, beq_iff_eq, if_false, Nat.add_zero]
        simp only [Nat.add_assoc, Nat.add_comm 1]
      · by_cases hup : s = ".."
        · subst hup
          by_cases hnil : names = []
          · subst hnil
            exact iff_of_true rfl ⟨[], List.nil_prefix, by decide⟩
          · have hpos := List.length_pos_iff.mpr hnil
            rw [keep?_up, if_neg hnil, Option.bind_eq_bind, Option.bind_some, ih]
            refine exists_congr fun front => and_congr_right fun _ => ?_
            simp only [List.length_dropLast, List.countP_cons, List.count_cons, hname, decide_false,
              Bool.false_eq_true, if_false, BEq.rfl, if_true]
            omega
        · rw [keep?_of_ne hname hup, Option.bind_eq_bind, Option.bind_some, ih]
          simp only [List.countP_cons, List.count_cons, hname, hup, decide_false, Bool.false_eq_true,
            beq_iff_eq, if_false, Nat.add_zero]

end Url

namespace Loader

namespace Descent

/-- A way that has come to some names below a base directory. -/
structure Follows (base : String) (d : Descent) (names : List String) : Prop where
  depth_eq : d.depth = names.length
  components_eq : Path.components d.path = Path.components base ++ names.map .name
  isName : ∀ s ∈ names, Path.IsName s

theorem follows_base (base : String) : Follows base { path := base } [] where
  depth_eq := rfl
  components_eq := (List.append_nil _).symm
  isName := by simp

variable {base : String} {d : Descent} {names : List String}

theorem step?_of_isName {s : String} (hs : Path.IsName s) :
    d.step? s = some ⟨Path.join d.path s, d.depth + 1⟩ := by
  rw [Descent.step?, if_neg (not_or.mpr ⟨hs.1, hs.2.1⟩), if_neg hs.2.2]

theorem step?_up : d.step? ".." =
    if d.depth = 0 then none else some ⟨(Path.parent? d.path).getD d.path, d.depth - 1⟩ := rfl

theorem step?_of_ne {s : String} (hs : ¬ Path.IsName s) (hup : s ≠ "..") : d.step? s = some d := by
  rw [Descent.step?, if_pos (by_contra fun h => hs ⟨(not_or.mp h).1, (not_or.mp h).2, hup⟩)]

/-- **One step** of the way does to the path and the count what it does to the stack. -/
theorem Follows.step (h : Follows base d names) {s : String} (hs : '/' ∉ s.toList) :
    (Url.keep? names s = none ∧ d.step? s = none) ∨
      ∃ names' d', Url.keep? names s = some names' ∧ d.step? s = some d' ∧ Follows base d' names' := by
  by_cases hname : Path.IsName s
  · refine Or.inr ⟨_, _, Url.keep?_of_isName hname, step?_of_isName hname, ?_, ?_, ?_⟩
    · rw [List.length_append, h.depth_eq]
      rfl
    · rw [Path.components_join hname hs, h.components_eq, List.map_append, List.append_assoc]
      rfl
    · exact List.forall_mem_append.mpr ⟨h.isName, List.forall_mem_singleton.mpr hname⟩
  · by_cases hup : s = ".."
    · subst hup
      rcases List.eq_nil_or_concat names with rfl | ⟨front, last, rfl⟩
      · exact Or.inl ⟨rfl, step?_up.trans (if_pos h.depth_eq)⟩
      -- the last component of the path is a name, so that the way up takes just that away
      · rw [List.concat_eq_append] at h ⊢
        have hcomponents : Path.components d.path
            = (Path.components base ++ front.map .name) ++ [.name last] := by
          rw [h.components_eq, List.map_append, List.append_assoc]
          rfl
        obtain ⟨above, habove, hfront⟩ := Path.exists_parent? hcomponents
        have hdepth : d.depth = front.length + 1 := by simpa using h.depth_eq
        refine Or.inr ⟨front, ⟨above, front.length⟩, ?_, ?_, rfl, hfront, ?_⟩
        · rw [Url.keep?_up, if_neg (by simp), List.dropLast_concat]
        · rw [step?_up, if_neg (by omega), habove, hdepth]
          rfl
        · exact fun s hs => h.isName s (List.mem_append_left _ hs)
    · exact Or.inr ⟨_, _, Url.keep?_of_ne hname hup, step?_of_ne hname hup, h⟩

/-- **A whole way** does to the path and the count what it does to the stack. -/
theorem Follows.run (h : Follows base d names) {steps : List String}
    (hsteps : ∀ s ∈ steps, '/' ∉ s.toList) :
    (steps.foldlM Url.keep? names = none ∧ steps.foldlM step? d = none) ∨
      ∃ names' d', steps.foldlM Url.keep? names = some names' ∧ steps.foldlM step? d = some d' ∧
        Follows base d' names' := by
  induction steps generalizing d names with
  | nil => exact Or.inr ⟨names, d, rfl, rfl, h⟩
  | cons s steps ih =>
      obtain ⟨hs, hsteps⟩ := List.forall_mem_cons.mp hsteps
      simp only [List.foldlM_cons]
      rcases h.step hs with ⟨hkeep, hstep⟩ | ⟨names', d', hkeep, hstep, h'⟩
      · rw [hkeep, hstep]
        exact Or.inl ⟨rfl, rfl⟩
      · rw [hkeep, hstep]
        exact ih h' hsteps

end Descent

/-- The way that an address names runs into nothing, or it comes to a file below the base
directory. -/
theorem path?_cases (base url : String) :
    (Url.names? (Url.steps url) = none ∧ path? base url = none) ∨
      ∃ names path, Url.names? (Url.steps url) = some names ∧ path? base url = some path ∧
        (∀ s ∈ names, Path.IsName s) ∧
        Path.components path = Path.components base ++ names.map .name := by
  have hsteps : ∀ s ∈ Url.steps url, '/' ∉ s.toList := fun s hs => Path.slash_notMem_of_mem_steps hs
  rcases (Descent.follows_base base).run hsteps with ⟨hnames, hway⟩ | ⟨names, d, hnames, hway, hd⟩
  · exact Or.inl ⟨hnames, by rw [path?, hway]; rfl⟩
  · exact Or.inr ⟨names, d.path, hnames, by rw [path?, hway]; rfl, hd.isName, hd.components_eq⟩

theorem path?_eq_none_iff {base url : String} :
    path? base url = none ↔ ∃ front, front <+: Url.steps url ∧
      front.countP (Path.IsName ·) < front.count ".." := by
  have hnames : path? base url = none ↔ Url.names? (Url.steps url) = none := by
    rcases path?_cases base url with ⟨hnames, hpath⟩ | ⟨names, path, hnames, hpath, -⟩
    · exact iff_of_true hpath hnames
    · rw [hnames, hpath]
      simp
  rw [hnames, Url.names?, Url.foldlM_keep?_eq_none_iff]
  simp only [List.length_nil, Nat.zero_add]

/-- Any part of the way leads to somewhere below the base directory. -/
theorem components_prefix_of_prefix {base url : String} {front : List String} {d : Descent}
    (hfront : front <+: Url.steps url)
    (hd : front.foldlM Descent.step? { path := base } = some d) :
    Path.components base <+: Path.components d.path := by
  have hsteps : ∀ s ∈ front, '/' ∉ s.toList :=
    fun s hs => Path.slash_notMem_of_mem_steps (hfront.subset hs)
  rcases (Descent.follows_base base).run hsteps with ⟨-, hway⟩ | ⟨names, d', -, hway, hd'⟩
  · rw [hway] at hd
    cases hd
  · obtain rfl : d' = d := Option.some.inj (hway.symm.trans hd)
    exact ⟨_, hd'.components_eq.symm⟩

theorem files_eq_forbidden_iff {read : FileReader} {base url : String} :
    files read base url = .error (.forbidden url) ↔ path? base url = none := by
  rw [files]
  cases path? base url with
  | none => simp
  | some path =>
      refine iff_of_false ?_ (Option.some_ne_none path)
      simp only
      split <;> simp

theorem files_congr {read read' : FileReader} {base url path : String}
    (hpath : path? base url = some path) (hread : read path = read' path) :
    files read base url = files read' base url := by
  simp only [files, hpath, hread]

/-- **Files stay below the base directory.** The steps of an address are those of the path in it. If
the way comes to a file, then the path of the file is the base directory, component for component,
and behind it the names that the steps leave on a stack; nothing but that file is read. It comes to
none, whatever files there are, where the steps have gone up more often than down; and no part of
the way takes a component of the base directory away. -/
theorem files_below_base (base url : String) :
    (∃ scheme slashes path rest, Url.Spells url scheme slashes path rest ∧
      Url.steps url = Path.steps path) ∧
    (∀ path, path? base url = some path →
      (∃ names, Url.names? (Url.steps url) = some names ∧ (∀ s ∈ names, Path.IsName s) ∧
        Path.components path = Path.components base ++ names.map .name) ∧
      ∀ read read', read path = read' path → files read base url = files read' base url) ∧
    (path? base url = none ↔ ∃ front, front <+: Url.steps url ∧
      front.countP (Path.IsName ·) < front.count "..") ∧
    (∀ read, files read base url = .error (.forbidden url) ↔ path? base url = none) ∧
    (∀ front d, front <+: Url.steps url → front.foldlM Descent.step? { path := base } = some d →
      Path.components base <+: Path.components d.path) := by
  refine ⟨Url.exists_spells url, fun path hpath => ⟨?_, fun read read' => files_congr hpath⟩,
    path?_eq_none_iff, fun read => files_eq_forbidden_iff,
    fun front d => components_prefix_of_prefix⟩
  rcases path?_cases base url with ⟨-, hnone⟩ | ⟨names, path', hnames, hpath', hname, hcomponents⟩
  · rw [hnone] at hpath
    cases hpath
  · obtain rfl : path' = path := Option.some.inj (hpath'.symm.trans hpath)
    exact ⟨names, hnames, hname, hcomponents⟩

example : path? "site/partials" "/sub/../panel.html?v=2" = some "site/partials/panel.html" := by
  decide +kernel

example : path? "site/partials" "sub/../../partials/panel.html" = none := by decide +kernel

end Loader

end PageDirectives

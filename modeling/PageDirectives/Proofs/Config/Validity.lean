import PageDirectives.Config.Load

set_option autoImplicit false

/-! # Valid settings

What valid settings are is said here without going through them in order (`Config.IsValid`), and
`Config.validate` is tied to it by an equivalence. The settings of a file are told by what is written
in it (`Config.ofFile_eq_ok_iff`). Settings that are loaded are valid, wherever they come from
(`Config.isValid_of_loadBy`): those of a file have been validated, the defaults are valid as they are,
and the command line changes nothing that validity hangs on.
-/

namespace PageDirectives

/-! ## Checks one after the other -/

section Checks

variable {E A B : Type}

theorem bind_eq_ok_iff {x : Except E A} {f : A → Except E B} {b : B} :
    x >>= f = .ok b ↔ ∃ a, x = .ok a ∧ f a = .ok b := by
  cases x with
  | error e => simp [bind, Except.bind]
  | ok a => simp [bind, Except.bind]

theorem bind_eq_error_iff {x : Except E A} {f : A → Except E B} {e : E} :
    x >>= f = .error e ↔ x = .error e ∨ ∃ a, x = .ok a ∧ f a = .error e := by
  cases x with
  | error e' => simp [bind, Except.bind]
  | ok a => simp [bind, Except.bind]

theorem mapError_eq_ok_iff {E' : Type} {x : Except E A} {f : E → E'} {a : A} :
    x.mapError f = .ok a ↔ x = .ok a := by
  cases x with
  | error e => exact iff_of_false (fun h => by cases h) (fun h => by cases h)
  | ok a' =>
      constructor
      · intro h
        exact congrArg Except.ok (Except.ok.inj h)
      · intro h
        exact congrArg Except.ok (Except.ok.inj h)

theorem mapError_eq_error_iff {E' : Type} {x : Except E A} {f : E → E'} {e : E'} :
    x.mapError f = .error e ↔ ∃ e', x = .error e' ∧ f e' = e := by
  cases x with
  | error e' =>
      constructor
      · intro h
        exact ⟨e', rfl, Except.error.inj h⟩
      · rintro ⟨_, h, rfl⟩
        rw [← Except.error.inj h]
        rfl
  | ok a =>
      refine iff_of_false (fun h => by cases h) ?_
      rintro ⟨_, h, -⟩
      cases h

theorem toOption_eq_some_iff {x : Except E A} {a : A} : x.toOption = some a ↔ x = .ok a := by
  cases x with
  | error e => simp [Except.toOption]
  | ok a' => simp [Except.toOption]

/-- One check after the other comes out well if each of them does. -/
theorem andThen_eq_ok_iff {x : Except E Unit} {y : Except E A} {a : A} :
    (x >>= fun _ => y) = .ok a ↔ x = .ok () ∧ y = .ok a := by
  rw [bind_eq_ok_iff]
  constructor
  · rintro ⟨⟨⟩, hx, hy⟩
    exact ⟨hx, hy⟩
  · rintro ⟨hx, hy⟩
    exact ⟨(), hx, hy⟩

theorem forM_eq_ok_iff {xs : List A} {check : A → Except E Unit} :
    xs.forM check = .ok () ↔ ∀ x ∈ xs, check x = .ok () := by
  induction xs with
  | nil => exact iff_of_true rfl (List.forall_mem_nil _)
  | cons x xs ih =>
      rw [List.forall_mem_cons, ← ih]
      exact andThen_eq_ok_iff

theorem require_eq_ok_iff {p : Prop} [Decidable p] {e : E} :
    (if p then .ok () else .error e : Except E Unit) = .ok () ↔ p := by
  by_cases hp : p <;> simp [hp]

/-- Behind a refusal only those go on that are not refused. -/
theorem refuse_eq_ok_iff {p : Prop} [Decidable p] {e : E} {x : Except E A} {a : A} :
    (if p then throw e >>= fun _ : Unit => x else x) = .ok a ↔ ¬ p ∧ x = .ok a := by
  by_cases hp : p
  · rw [if_pos hp]
    exact iff_of_false (fun h => by cases h) (fun h => h.1 hp)
  · rw [if_neg hp]
    exact (and_iff_right hp).symm

end Checks

namespace Config

/-! ## Validity -/

/-- There is something else than white space in a text. -/
def HasText (s : String) : Prop := ∃ c ∈ s.toList, isBlank c = false

/-- What valid settings are. -/
structure IsValid (c : Config) : Prop where
  phrases : ∀ p ∈ c.grammar.phrases, HasText p.2
  some_type : c.scriptTypes ≠ []
  types : ∀ t ∈ c.scriptTypes, HasText t
  timeout : 0 < c.timeoutSecs
  enabled : ∀ name ∈ c.enabled, name ∈ Extension.available

theorem requireText_eq_ok_iff {fault : ConfigFault} {s : String} :
    requireText fault s = .ok () ↔ HasText s := by
  unfold requireText Text.isBlank HasText
  by_cases hblank : s.toList.all isBlank
  · rw [if_pos hblank]
    simpa using hblank
  · rw [if_neg hblank]
    simpa using hblank

/-- **Settings pass if and only if they are valid.** -/
theorem validate_eq_ok_iff {c : Config} : c.validate = .ok () ↔ c.IsValid := by
  unfold validate
  simp only [andThen_eq_ok_iff, refuse_eq_ok_iff, forM_eq_ok_iff, requireText_eq_ok_iff,
    require_eq_ok_iff]
  constructor
  · rintro ⟨hphrases, hsome, htypes, htimeout, henabled⟩
    exact ⟨hphrases, hsome, htypes, Nat.pos_of_ne_zero htimeout, henabled⟩
  · rintro ⟨hphrases, hsome, htypes, htimeout, henabled⟩
    exact ⟨hphrases, hsome, htypes, Nat.pos_iff_ne_zero.mp htimeout, henabled⟩

/-! ## The settings of a file -/

variable {decode : Decoder} {s : Surroundings} {c : Config} {path : String}

/-- What the settings file `path` comes to with these contents and this base directory. -/
def ofContents (path : String) (f : ConfigFile) (base : String) : Config where
  grammar := f.grammar
  scriptTypes := f.scriptTypes.getD defaultScriptTypes
  baseDir := Path.join ((Path.parent? path).getD ".") base
  allowHttp := f.allowHttp
  timeoutSecs := f.timeoutSecs
  enabled := f.enabled
  path := some path

/-- The directory of the file is the base directory of one that does not name any. -/
theorem expand_dot (env : Environment) : Expansion.expand env "." = .ok "." := by
  simp [Expansion.expand, Expansion.substitute, Except.map]

theorem resolveBase_eq_ok_iff {env : Environment} {written : Option String} {dir : String} :
    resolveBase env path written = .ok dir ↔
      ∃ base, Expansion.expand env (written.getD ".") = .ok base ∧
        dir = Path.join ((Path.parent? path).getD ".") base := by
  unfold resolveBase
  cases written with
  | none =>
      rw [Option.getD_none, expand_dot]
      constructor
      · intro h
        exact ⟨".", rfl, (Except.ok.inj h).symm⟩
      · rintro ⟨base, hbase, rfl⟩
        rw [← Except.ok.inj hbase]
        rfl
  | some dir' =>
      simp only [bind_eq_ok_iff, mapError_eq_ok_iff, Option.getD_some]
      refine exists_congr fun base => and_congr_right fun _ => ?_
      exact ⟨fun h => (Except.ok.inj h).symm, fun h => congrArg Except.ok h.symm⟩

/-- **The settings of a file** are those that are written in it. -/
theorem ofFile_eq_ok_iff :
    ofFile decode s path = .ok c ↔
      ∃ text f base, s.read path = .ok text ∧ decode text = some f ∧
        Expansion.expand s.environment (f.baseDir.getD ".") = .ok base ∧
        c = ofContents path f base ∧ c.IsValid := by
  unfold ofFile
  simp only [bind_eq_ok_iff, mapError_eq_ok_iff]
  refine exists_congr fun text => ?_
  cases hdecode : decode text with
  | none =>
      refine iff_of_false ?_ ?_
      · rintro ⟨-, h⟩
        cases h
      · rintro ⟨f, -, -, hf, -⟩
        cases hf
  | some f =>
      simp only [bind_eq_ok_iff, mapError_eq_ok_iff, resolveBase_eq_ok_iff]
      constructor
      · rintro ⟨htext, dir, ⟨base, hbase, rfl⟩, ⟨⟩, hvalid, hc⟩
        obtain rfl := Except.ok.inj hc
        exact ⟨f, base, htext, rfl, hbase, rfl, validate_eq_ok_iff.mp hvalid⟩
      · rintro ⟨f', base, htext, hf, hbase, rfl, hvalid⟩
        obtain rfl := Option.some.inj hf
        exact ⟨htext, _, ⟨base, hbase, rfl⟩, (), validate_eq_ok_iff.mpr hvalid, rfl⟩

/-- **The settings of a file are valid**, whatever is read in it. -/
theorem isValid_of_ofFile (h : ofFile decode s path = .ok c) : c.IsValid := by
  obtain ⟨-, -, -, -, -, -, -, hvalid⟩ := ofFile_eq_ok_iff.mp h
  exact hvalid

/-! ## Settings that are loaded -/

/-- What the command line says does not make settings invalid. -/
theorem IsValid.withOverrides {c : Config} (hc : c.IsValid) (o : Overrides) :
    (c.withOverrides o).IsValid :=
  ⟨hc.phrases, hc.some_type, hc.types, hc.timeout, hc.enabled⟩

/-- The defaults are valid, with any base directory. -/
theorem isValid_default (baseDir : String) : ({ baseDir } : Config).IsValid := by
  have hdefault : ({ } : Config).IsValid := validate_eq_ok_iff.mp rfl
  exact hdefault.withOverrides { baseDir := some baseDir }

theorem isValid_of_find {path : Option String} (h : find decode s path = .ok c) : c.IsValid := by
  cases path with
  | some path =>
      rw [find] at h
      split at h
      · exact isValid_of_ofFile h
      · cases h
  | none =>
      rw [find] at h
      split at h
      · exact isValid_of_ofFile h
      · obtain rfl := Except.ok.inj h
        exact isValid_default _

/-- **Settings that are loaded are valid.** -/
theorem isValid_of_loadBy {path : Option String} {o : Overrides}
    (h : loadBy decode s path o = .ok c) : c.IsValid := by
  unfold loadBy at h
  cases hfind : find decode s path with
  | error cause =>
      rw [hfind] at h
      cases h
  | ok c' =>
      rw [hfind] at h
      obtain rfl := Except.ok.inj h
      exact (isValid_of_find hfind).withOverrides o

end Config

end PageDirectives

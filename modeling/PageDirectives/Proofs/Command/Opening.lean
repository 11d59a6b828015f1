import PageDirectives.Command.Outcome
import PageDirectives.Proofs.Config.Validity
import PageDirectives.Proofs.Engine.Step

set_option autoImplicit false

/-! # Opening pages

A page is opened if its file can be read and all the extensions are known that the settings enable
(`Command.openPage_eq_ok_iff`). The engine is then a new one, on which nothing but a few operations
have been performed. Of settings that are loaded, the extensions are known, so that nothing can go
wrong but the reading of the file (`Command.openPage_of_loadBy`).
-/

namespace PageDirectives.Command

open Engine (Op)

/-- The page that markup stands for, with the resources that settings allow. -/
def pageOf (read : FileReader) (network : Network) (c : Config) (markup : String) : Page :=
  { Page.parse markup with
    loader := Loader.site read c.baseDir (if c.allowHttp then some network else none) }

/-- The operations that make an engine work as settings say. -/
def setup (c : Config) (extensions : List (Extension Page)) : List (Op Page) :=
  .useGrammar c.grammar :: .useScriptTypes c.scriptTypes :: extensions.map .enable

theorem foldlM_enableNamed_eq_ok_iff {names : List String} {e e' : Engine Page} :
    names.foldlM enableNamed e = .ok e' ↔
      ∃ xs : List (Extension Page), names.map Extension.ofName? = xs.map some ∧
        e' = e.run (xs.map .enable) := by
  induction names generalizing e with
  | nil =>
      constructor
      · intro h
        exact ⟨[], rfl, (Except.ok.inj h).symm⟩
      · rintro ⟨xs, hxs, rfl⟩
        obtain rfl := List.map_eq_nil_iff.mp hxs.symm
        rfl
  | cons name names ih =>
      rw [List.foldlM_cons, bind_eq_ok_iff, enableNamed]
      cases hname : (Extension.ofName? name : Option (Extension Page)) with
      | none =>
          constructor
          · rintro ⟨_, h, -⟩
            cases h
          · rintro ⟨xs, hxs, -⟩
            rw [List.map_cons, hname] at hxs
            cases xs <;> cases hxs
      | some x =>
          constructor
          · rintro ⟨_, h, hrest⟩
            obtain rfl := Except.ok.inj h
            obtain ⟨xs, hxs, rfl⟩ := ih.mp hrest
            exact ⟨x :: xs, by rw [List.map_cons, hname, hxs, List.map_cons], rfl⟩
          · rintro ⟨xs, hxs, rfl⟩
            rw [List.map_cons, hname] at hxs
            cases xs with
            | nil => cases hxs
            | cons y xs =>
                obtain ⟨hy, hrest⟩ := List.cons.inj hxs
                obtain rfl := Option.some.inj hy
                exact ⟨_, rfl, ih.mpr ⟨xs, hrest, rfl⟩⟩

variable {read : FileReader} {network : Network} {c : Config} {path : String}

/-- **When a page is opened**, and the engine it is opened in. -/
theorem openPage_eq_ok_iff {e : Engine Page} :
    openPage read network c path = .ok e ↔
      ∃ markup, read path = .ok markup ∧
        ∃ xs : List (Extension Page), c.enabled.map Extension.ofName? = xs.map some ∧
          e = (Engine.new (pageOf read network c markup)).run (setup c xs) := by
  unfold openPage
  rw [bind_eq_ok_iff]
  simp only [mapError_eq_ok_iff, foldlM_enableNamed_eq_ok_iff]
  rfl

/-- The extensions of available names are known. -/
theorem exists_extensions {names : List String} (h : ∀ name ∈ names, name ∈ Extension.available) :
    ∃ xs : List (Extension Page), names.map Extension.ofName? = xs.map some := by
  induction names with
  | nil => exact ⟨[], rfl⟩
  | cons name names ih =>
      obtain ⟨hname, hnames⟩ := List.forall_mem_cons.mp h
      obtain ⟨x, hx⟩ : ∃ x : Extension Page, Extension.ofName? name = some x :=
        Option.isSome_iff_exists.mp ((Extension.isSome_ofName?_iff name).mpr hname)
      obtain ⟨xs, hxs⟩ := ih hnames
      exact ⟨x :: xs, by rw [List.map_cons, hx, hxs, List.map_cons]⟩

theorem openPage_of_error {fault : FileError} (h : read path = .error fault) :
    openPage read network c path = .error (.file fault) := by
  unfold openPage
  rw [h]
  rfl

/-- **Opening a page with settings that were loaded.** The settings are valid, whatever the decoder
makes of the file they come from and whatever the command line says: every phrase and every script
type has something else than white space in it, there is a script type, the time for requests is not
zero, and all extensions are known. So a page is opened if and only if it can be read, and otherwise
the reason is the one for which it cannot. -/
theorem openPage_of_loadBy {decode : Decoder} {s : Surroundings} {file : Option String}
    {o : Config.Overrides} (h : Config.loadBy decode s file o = .ok c) :
    c.validate = .ok () ∧ c.IsValid ∧
    ∀ read network path,
      ((∃ e, openPage read network c path = .ok e) ↔ ∃ markup, read path = .ok markup) ∧
      ∀ cause, openPage read network c path = .error cause ↔
        ∃ fault, read path = .error fault ∧ cause = .file fault := by
  have hvalid : c.IsValid := Config.isValid_of_loadBy h
  refine ⟨Config.validate_eq_ok_iff.mpr hvalid, hvalid, fun read network path => ?_⟩
  cases hread : read path with
  | error fault =>
      rw [openPage_of_error hread]
      refine ⟨iff_of_false ?_ ?_, fun cause => ?_⟩
      · rintro ⟨e, he⟩
        cases he
      · rintro ⟨markup, hmarkup⟩
        cases hmarkup
      · constructor
        · intro hcause
          exact ⟨fault, rfl, (Except.error.inj hcause).symm⟩
        · rintro ⟨fault', hfault, rfl⟩
          rw [Except.error.inj hfault]
  | ok markup =>
      obtain ⟨xs, hxs⟩ := exists_extensions hvalid.enabled
      have hopen : openPage read network c path = .ok _ :=
        openPage_eq_ok_iff.mpr ⟨markup, hread, xs, hxs, rfl⟩
      rw [hopen]
      refine ⟨iff_of_true ⟨_, rfl⟩ ⟨markup, rfl⟩, fun cause => iff_of_false ?_ ?_⟩
      · intro hcause
        cases hcause
      · rintro ⟨fault, hfault, -⟩
        cases hfault

/-- Settings that are found above the working directory, and a page that is not there. -/
theorem openPage_of_site :
    let read : FileReader := fun path =>
      if path = "/site/shorthand.toml" then .ok "[modules]\nenabled = [\"animate\"]"
      else .error .notFound
    let s : Surroundings := { read, environment := fun _ => none, cwd := some "/site/pages" }
    let c : Config := {
      baseDir := "/site/."
      allowHttp := false
      enabled := ["animate"]
      path := some "/site/shorthand.toml" }
    Config.loadBy ConfigFile.parse? s none { allowHttp := some false } = .ok c ∧ c.IsValid ∧
      openPage read Network.offline c "index.html" = .error (.file .notFound) := by
  intro read s c
  have hload : Config.loadBy ConfigFile.parse? s none { allowHttp := some false } = .ok c :=
    toOption_eq_some_iff.mp (by decide +kernel)
  obtain ⟨-, hvalid, hopen⟩ := openPage_of_loadBy hload
  obtain ⟨-, hfails⟩ := hopen read Network.offline "index.html"
  exact ⟨hload, hvalid, (hfails _).mpr ⟨_, rfl, rfl⟩⟩

end PageDirectives.Command

import PageDirectives.Proofs.Config.Discovery
import PageDirectives.Proofs.Config.Validity

set_option autoImplicit false

/-! # Where settings come from

Settings are those of the file that is asked for, or else of the nearest one from the working
directory upwards, as if it had been asked for (`Config.find_none_of_isNearest`), or else the defaults
(`Config.find_none_of_forall`). What a file says about the base directory and the network is what
stands under their keys (`ConfigFile.baseDirValue?_of_ofTable?`,
`ConfigFile.allowHttpValue?_of_ofTable?`). These two are the only settings that the command line has
a say in, and it has the last word (`Config.loadBy_map_withoutOverridden`).
-/

namespace PageDirectives

/-! ## What is written in a settings file -/

namespace ConfigFile

open Toml (Table Value)

/-- The value under a key of one of the tables of a document. -/
def valueAt? (document : Table) (table : String) (keys : List String) (key : String) :
    Option Value :=
  (table? document table keys).bind (·.lookup key)

/-- What a document says about the base directory. -/
def baseDirValue? (document : Table) : Option Value :=
  valueAt? document "page" ["script_types", "base_dir"] "base_dir"

/-- What a document says about the network. -/
def allowHttpValue? (document : Table) : Option Value :=
  valueAt? document "loader" ["allow_http", "timeout_secs"] "allow_http"

theorem string?_eq_some_iff {v : Value} {s : String} : string? v = some s ↔ v = .string s := by
  cases v <;> simp [string?]

theorem boolean?_eq_some_iff {v : Value} {b : Bool} : boolean? v = some b ↔ v = .boolean b := by
  cases v <;> simp [boolean?]

variable {α : Type} {t : Table} {key : String} {read : Value → Option α} {a default : α}

/-- A key gives the value that is read under it, or if it is not there the default. -/
theorem field?_eq_some_iff :
    field? t key read default = some a ↔
      (∃ v, t.lookup key = some v ∧ read v = some a) ∨ t.lookup key = none ∧ default = a := by
  unfold field?
  cases t.lookup key with
  | none => simp
  | some v => simp

variable {document : Table} {f : ConfigFile}

/-- The tables that two of the settings are read in. -/
theorem exists_tables_of_ofTable? (h : ofTable? document = some f) :
    ∃ page loader, table? document "page" ["script_types", "base_dir"] = some page ∧
      table? document "loader" ["allow_http", "timeout_secs"] = some loader ∧
      field? page "base_dir" (fun v => (string? v).map some) none = some f.baseDir ∧
      field? loader "allow_http" boolean? true = some f.allowHttp := by
  simp only [ofTable?, Option.bind_eq_bind, Option.bind_eq_some_iff, Option.pure_def,
    Option.some.injEq] at h
  obtain ⟨-, -, page, hpage, loader, hloader, -, -, -, -, -, -, baseDir, hbaseDir, allowHttp,
    hallowHttp, -, -, -, -, rfl⟩ := h
  exact ⟨page, loader, hpage, hloader, hbaseDir, hallowHttp⟩

/-- The base directory of a settings file is the one that is written there, if there is one. -/
theorem baseDirValue?_of_ofTable? (h : ofTable? document = some f) :
    baseDirValue? document = f.baseDir.map .string := by
  obtain ⟨page, -, hpage, -, hread, -⟩ := exists_tables_of_ofTable? h
  rw [baseDirValue?, valueAt?, hpage, Option.bind_some]
  rcases field?_eq_some_iff.mp hread with ⟨v, hv, hread⟩ | ⟨hnone, hbaseDir⟩
  · obtain ⟨dir, hdir, hbaseDir⟩ := Option.map_eq_some_iff.mp hread
    rw [hv, ← hbaseDir, string?_eq_some_iff.mp hdir, Option.map_some]
  · rw [hnone, ← hbaseDir, Option.map_none]

/-- The network may be used if the settings file says so or says nothing about it. -/
theorem allowHttpValue?_of_ofTable? (h : ofTable? document = some f) :
    ∃ allow : Option Bool, allowHttpValue? document = allow.map .boolean ∧
      f.allowHttp = allow.getD true := by
  obtain ⟨-, loader, -, hloader, -, hread⟩ := exists_tables_of_ofTable? h
  rw [allowHttpValue?, valueAt?, hloader, Option.bind_some]
  rcases field?_eq_some_iff.mp hread with ⟨v, hv, hread⟩ | ⟨hnone, hallow⟩
  · exact ⟨some f.allowHttp, by rw [hv, boolean?_eq_some_iff.mp hread, Option.map_some], rfl⟩
  · exact ⟨none, hnone, hallow.symm⟩

end ConfigFile

namespace Config

variable {decode : Decoder} {s : Surroundings} {c : Config} {o : Overrides} {path : String}

/-! ## What goes wrong with a settings file -/

theorem resolveBase_ne_notFound {env : Environment} {written : Option String} (missing : String) :
    resolveBase env path written ≠ .error (.notFound missing) := by
  unfold resolveBase
  cases written with
  | none =>
      intro h
      cases h
  | some dir =>
      rw [ne_eq, bind_eq_error_iff, mapError_eq_error_iff]
      rintro (⟨name, -, ⟨⟩⟩ | ⟨base, -, ⟨⟩⟩)

/-- What goes wrong with a settings file is not that there is none. -/
theorem ofFile_ne_notFound (missing : String) :
    ofFile decode s path ≠ .error (.notFound missing) := by
  unfold ofFile
  rw [ne_eq, bind_eq_error_iff, mapError_eq_error_iff]
  rintro (⟨fault, -, ⟨⟩⟩ | ⟨text, -, h⟩)
  cases hdecode : decode text with
  | none =>
      rw [hdecode] at h
      cases h
  | some f =>
      rw [hdecode] at h
      simp only [bind_eq_error_iff, mapError_eq_error_iff] at h
      rcases h with hbase | ⟨dir, -, ⟨fault, -, ⟨⟩⟩ | ⟨-, -, ⟨⟩⟩⟩
      exact resolveBase_ne_notFound missing hbase

/-- Nothing is looked at for the settings of a file but the file and the environment. -/
theorem ofFile_congr {s' : Surroundings} (hread : s'.read path = s.read path)
    (henv : s'.environment = s.environment) : ofFile decode s' path = ofFile decode s path := by
  unfold ofFile
  rw [hread, henv]

/-! ## Where settings are found -/

theorem find_some :
    find decode s (some path)
      = if s.hasPath path then ofFile decode s path else .error (.notFound path) := rfl

theorem find_some_congr {s' : Surroundings} (hhas : s'.hasPath path = s.hasPath path)
    (hread : s'.read path = s.read path) (henv : s'.environment = s.environment) :
    find decode s' (some path) = find decode s (some path) := by
  rw [find_some, find_some, hhas, ofFile_congr hread henv]

theorem find_some_eq_notFound_iff {missing : String} :
    find decode s (some path) = .error (.notFound missing) ↔
      s.hasPath path = false ∧ missing = path := by
  rw [find_some]
  cases s.hasPath path with
  | false =>
      constructor
      · intro h
        exact ⟨rfl, (ConfigError.notFound.inj (Except.error.inj h)).symm⟩
      · rintro ⟨-, rfl⟩
        rfl
  | true =>
      refine iff_of_false (ofFile_ne_notFound missing) ?_
      rintro ⟨h, -⟩
      cases h

theorem ofFile_of_find_some (h : find decode s (some path) = .ok c) :
    ofFile decode s path = .ok c := by
  rw [find_some] at h
  split at h
  · exact h
  · cases h

/-- Settings that are not asked for by name are those of the nearest file, as if it had been asked
for. -/
theorem find_none_of_isNearest {d up : Directory} (hcwd : s.cwd = some d.path)
    (hup : IsNearest s.hasPath d up) : find decode s none = find decode s (some (fileIn up)) := by
  rcases fileAbove?_cases s.hasPath d with ⟨up', hup', hfound⟩ | ⟨hnone, -⟩
  · obtain rfl := hup.unique hup'
    simp only [find, discover?_eq hcwd, hfound, hup.hasFile, if_true]
  · exact absurd hup.hasFile (Bool.eq_false_iff.mp (hnone up hup.le))

/-- Without any file, they are the defaults. -/
theorem find_none_of_forall {d : Directory} (hcwd : s.cwd = some d.path)
    (hnone : ∀ up ≤ d, s.hasPath (fileIn up) = false) :
    find decode s none = .ok { baseDir := d.path } := by
  rcases fileAbove?_cases s.hasPath d with ⟨up, hup, -⟩ | ⟨-, hfound⟩
  · exact absurd hup.hasFile (Bool.eq_false_iff.mp (hnone up hup.le))
  · simp only [find, discover?_eq hcwd, hfound, hcwd, Option.getD_some]

/-! ## The command line -/

theorem loadBy_eq_ok_iff {asked : Option String} :
    loadBy decode s asked o = .ok c ↔
      ∃ found, find decode s asked = .ok found ∧ c = found.withOverrides o := by
  unfold loadBy
  cases find decode s asked with
  | error cause => simp [Except.map]
  | ok found => simp [Except.map, eq_comm]

theorem loadBy_eq_error_iff {asked : Option String} {cause : ConfigError} :
    loadBy decode s asked o = .error cause ↔ find decode s asked = .error cause := by
  unfold loadBy
  cases find decode s asked <;> simp [Except.map]

/-- The settings of a file that is asked for are those in it, but for the command line. -/
theorem contents_of_loadBy_some (h : loadBy decode s (some path) o = .ok c) :
    ∃ text f base, s.read path = .ok text ∧ decode text = some f ∧
      Expansion.expand s.environment (f.baseDir.getD ".") = .ok base ∧
      c = (ofContents path f base).withOverrides o := by
  obtain ⟨found, hfound, rfl⟩ := loadBy_eq_ok_iff.mp h
  obtain ⟨text, f, base, htext, hf, hbase, rfl, -⟩ :=
    ofFile_eq_ok_iff.mp (ofFile_of_find_some hfound)
  exact ⟨text, f, base, htext, hf, hbase, rfl⟩

/-- Settings with defaults in place of those that the command line has a say in. -/
def withoutOverridden (c : Config) : Config := { c with baseDir := ".", allowHttp := true }

/-- **No other setting** hangs on the command line. -/
theorem loadBy_map_withoutOverridden (asked : Option String) :
    (loadBy decode s asked o).map withoutOverridden
      = (find decode s asked).map withoutOverridden := by
  unfold loadBy
  cases find decode s asked <;> rfl

/-! ## All of it -/

/-- **Settings are loaded** from wherever the working directory is, whatever files can be read and
whatever paths there are; `toml` is what documents are read with.

The search for a settings file comes to an end, and it ends with what `discover?` answers. If the
file is in the working directory or one above it, that of the nearest of these directories is used
as if it had been asked for. The defaults, based at the working directory, are used if and only if
it is in none of them. A file that is asked for is the only one that is looked at, and the reason for
a failure is that there is no file if and only if it does not exist.

Of the settings of a file, the base directory is the one on the command line, or else the expanded
one of the file or `.`, seen from where the file is; an absolute one stands for itself. The network
may be used if the command line says so, or else if the file says so or nothing. Everything else is
the same with any command line. -/
theorem loadBy_of_directory (toml : String → Option Toml.Table) (read : FileReader)
    (hasPath : String → Bool) (environment : Environment) (network : Network) (d : Directory)
    (o : Overrides) :
    let s : Surroundings := { read, hasPath, environment, cwd := some d.path, network }
    let decode : Decoder := fun text => (toml text).bind ConfigFile.ofTable?
    (∀ result, Searches hasPath d.path result ↔ discover? s = result) ∧
    ((∃ up ≤ d, hasPath (fileIn up)) →
      ∃ up, IsNearest hasPath d up ∧ Path.parent? (fileIn up) = some up.path ∧
        loadBy decode s none o = loadBy decode s (some (fileIn up)) o) ∧
    (loadBy decode s none o
        = .ok { baseDir := o.baseDir.getD d.path, allowHttp := o.allowHttp.getD true } ↔
      ∀ up ≤ d, hasPath (fileIn up) = false) ∧
    (∀ path missing, loadBy decode s (some path) o = .error (.notFound missing) ↔
      hasPath path = false ∧ missing = path) ∧
    (∀ path (s' : Surroundings), s'.hasPath path = hasPath path → s'.read path = read path →
      s'.environment = environment →
        loadBy decode s' (some path) o = loadBy decode s (some path) o) ∧
    (∀ path c, loadBy decode s (some path) o = .ok c →
      c.path = some path ∧
      ∃ (text : String) (document : Toml.Table) (written : Option String) (allow : Option Bool)
        (base : String),
        read path = .ok text ∧ toml text = some document ∧
        ConfigFile.baseDirValue? document = written.map .string ∧
        ConfigFile.allowHttpValue? document = allow.map .boolean ∧
        Expansion.expand environment (written.getD ".") = .ok base ∧
        (Path.isAbsolute base → Path.join ((Path.parent? path).getD ".") base = base) ∧
        c.baseDir = o.baseDir.getD (Path.join ((Path.parent? path).getD ".") base) ∧
        c.allowHttp = o.allowHttp.getD (allow.getD true)) ∧
    ∀ asked o', (loadBy decode s asked o).map withoutOverridden
      = (loadBy decode s asked o').map withoutOverridden := by
  intro s decode
  have hcwd : s.cwd = some d.path := rfl
  have hnearest {up : Directory} (hup : IsNearest hasPath d up) :
      loadBy decode s none o = loadBy decode s (some (fileIn up)) o := by
    rw [loadBy, loadBy, find_none_of_isNearest hcwd hup]
  refine ⟨fun result => ?_, ?_, ⟨fun hdefault up hle => ?_, fun hnone => ?_⟩, fun path missing => ?_,
    fun path s' hhas hread henv => ?_, fun path c hload => ?_, fun asked o' => ?_⟩
  · rw [discover?_eq hcwd]
    exact searches_iff
  · rintro ⟨up, hle, hhas⟩
    rcases fileAbove?_cases hasPath d with ⟨up', hup', -⟩ | ⟨hnone, -⟩
    · exact ⟨up', hup', up'.parent?_path_child isName_fileName, hnearest hup'⟩
    · exact absurd hhas (Bool.eq_false_iff.mp (hnone up hle))
  · -- settings of a file name it, unlike the defaults
    rcases fileAbove?_cases hasPath d with ⟨up', hup', -⟩ | ⟨hnone, -⟩
    · rw [hnearest hup'] at hdefault
      obtain ⟨-, f, base, -, -, -, hc⟩ := contents_of_loadBy_some hdefault
      cases congrArg Config.path hc
    · exact hnone up hle
  · rw [loadBy, find_none_of_forall hcwd hnone]
    rfl
  · rw [loadBy_eq_error_iff]
    exact find_some_eq_notFound_iff
  · have hfind : find decode s' (some path) = find decode s (some path) :=
      find_some_congr hhas hread henv
    rw [loadBy, loadBy, hfind]
  · obtain ⟨text, f, base, htext, hdecode, hbase, rfl⟩ := contents_of_loadBy_some hload
    obtain ⟨document, hdocument, hf⟩ := Option.bind_eq_some_iff.mp hdecode
    obtain ⟨allow, hvalue, hallow⟩ := ConfigFile.allowHttpValue?_of_ofTable? hf
    exact ⟨rfl, text, document, f.baseDir, allow, base, htext, hdocument,
      ConfigFile.baseDirValue?_of_ofTable? hf, hvalue, hbase, fun habs => if_pos habs, rfl,
      congrArg o.allowHttp.getD hallow⟩
  · rw [loadBy_map_withoutOverridden, loadBy_map_withoutOverridden]

/-- The program reads documents with `Toml.parse?`. -/
example : load = loadBy fun text => (Toml.parse? text).bind ConfigFile.ofTable? := rfl

end Config

end PageDirectives

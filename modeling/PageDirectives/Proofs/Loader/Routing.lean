import PageDirectives.Command.Check
import PageDirectives.Command.Run
import PageDirectives.Proofs.Loader.Containment
import PageDirectives.Proofs.Text.Bytes

set_option autoImplicit false

/-! # Where addresses lead

An address leads to the network if, written in small letters, it begins with one of the two schemes
of the network (`Url.HasScheme`). Its first eight bytes tell, whatever is behind them
(`Url.isRemote_iff`). Every other address leads to files, and so below the base directory.

With the network closed, no answer hangs on it: not that of an address (`Loader.site_congr`), and not
what becomes of a page and of the directives on it (`Command.openPage_congr`).
-/

namespace PageDirectives

namespace Url

/-- Whether an address begins with a scheme of the network, in any case of letters. -/
def HasScheme (url : String) : Prop :=
  Text.startsWith "http://" (Text.lower url) ∨ Text.startsWith "https://" (Text.lower url)

instance (url : String) : Decidable (HasScheme url) := inferInstanceAs (Decidable (_ ∨ _))

/-- **The first bytes of an address tell whether it is one of the network.** -/
theorem isRemote_iff (url : String) : isRemote url ↔ HasScheme url := by
  have hseven : "http://".utf8ByteSize ≤ 8 := by decide
  have height : "https://".utf8ByteSize ≤ 8 := by decide
  rw [isRemote, Bool.or_eq_true, Text.startsWith_lower_takeBytes? hseven,
    Text.startsWith_lower_takeBytes? height, HasScheme]

end Url

namespace Loader

variable {read read' : FileReader} {base url : String} {network : Option Network}

theorem site_of_hasScheme (h : Url.HasScheme url) :
    site read base network url = network.elim (.error (.forbidden url)) (remote · url) := by
  simp only [site, if_pos ((Url.isRemote_iff url).mpr h)]
  cases network <;> rfl

theorem site_of_not_hasScheme (h : ¬ Url.HasScheme url) :
    site read base network url = files read base url := by
  simp only [site, if_neg (mt (Url.isRemote_iff url).mp h)]

/-- Files are answered from what is at their own paths only. -/
theorem files_congr_of_path? (h : ∀ path ∈ path? base url, read path = read' path) :
    files read base url = files read' base url := by
  cases hpath : path? base url with
  | none => rw [files_eq_forbidden_iff.mpr hpath, files_eq_forbidden_iff.mpr hpath]
  | some path => exact files_congr hpath (h path hpath)

/-- **With the network closed**, all that an answer hangs on is the one file that the address names,
if it has no scheme of the network. -/
theorem site_congr
    (h : ¬ Url.HasScheme url → ∀ path ∈ path? base url, read path = read' path) :
    site read base none url = site read' base none url := by
  by_cases hscheme : Url.HasScheme url
  · rw [site_of_hasScheme hscheme, site_of_hasScheme hscheme]
  · rw [site_of_not_hasScheme hscheme, site_of_not_hasScheme hscheme,
      files_congr_of_path? (h hscheme)]

end Loader

namespace Command

variable {read : FileReader} {c : Config}

/-- A page is opened without regard to a network that the settings do not allow. -/
theorem openPage_congr (hc : c.allowHttp = false) (network network' : Network) (path : String) :
    openPage read network c path = openPage read network' c path := by
  simp only [openPage, hc, Bool.false_eq_true, if_false]

end Command

namespace Loader

/-- **Where addresses lead.** The first bytes of an address tell what the whole of it says: that it
begins with a scheme of the network, in any case of letters. Such an address is asked of the network
if that is open, whatever files there are, and refused if it is closed. Every other address is read
as one of a file, with the network open or closed. The file is below the base directory, component
for component. So with the network closed an address is refused if it has a scheme of the network or
leads out of the base directory, and an answer hangs on nothing but the one file that the address
names; and with settings that close the network no run and no check of a page hangs on what the
network would have answered. -/
theorem site_of_scheme (read : FileReader) (base url : String) :
    (Url.isRemote url ↔ Url.HasScheme url) ∧
    (Url.HasScheme url → site read base none url = .error (.forbidden url) ∧
      ∀ network, site read base (some network) url = remote network url) ∧
    (¬ Url.HasScheme url → ∀ network, site read base network url = files read base url) ∧
    (site read base none url = .error (.forbidden url) ↔
      Url.HasScheme url ∨ path? base url = none) ∧
    (∀ path, path? base url = some path → ∃ names : List String, (∀ s ∈ names, Path.IsName s) ∧
      Path.components path = Path.components base ++ names.map .name) ∧
    (∀ read', (¬ Url.HasScheme url → ∀ path ∈ path? base url, read path = read' path) →
      site read base none url = site read' base none url) ∧
    ∀ (c : Config) (network network' : Network) (page : String), c.allowHttp = false →
      (∀ specs output, Command.run read network c page specs output
        = Command.run read network' c page specs output) ∧
      ∀ inline strict, Command.check read network c page inline strict
        = Command.check read network' c page inline strict := by
  refine ⟨Url.isRemote_iff url, fun h => ⟨site_of_hasScheme h, fun _ => site_of_hasScheme h⟩,
    fun h _ => site_of_not_hasScheme h, ?_, fun path hpath => ?_, fun read' => site_congr, ?_⟩
  · by_cases hscheme : Url.HasScheme url
    · exact iff_of_true (site_of_hasScheme hscheme) (Or.inl hscheme)
    · rw [site_of_not_hasScheme hscheme, files_eq_forbidden_iff, or_iff_right hscheme]
  · rcases path?_cases base url with ⟨-, hnone⟩ | ⟨names, path', -, hpath', hnames, hcomponents⟩
    · cases hnone.symm.trans hpath
    · obtain rfl := Option.some.inj (hpath'.symm.trans hpath)
      exact ⟨names, hnames, hcomponents⟩
  · intro c network network' page hc
    have hopen : Command.openPage read network c page = Command.openPage read network' c page :=
      Command.openPage_congr hc network network' page
    refine ⟨fun specs output => ?_, fun inline strict => ?_⟩
    · rw [Command.run, Command.run, hopen]
    · rw [Command.check, Command.check, hopen]

/-- An address with a scheme in capitals and one in which the eighth byte is inside of a character. -/
theorem site_of_capitals :
    let read : FileReader := fun path =>
      if path = "site/https:/é" then .ok "panel" else .error .notFound
    Url.HasScheme "HTTPS://é/panel.html" ∧
      site read "site" none "HTTPS://é/panel.html" = .error (.forbidden "HTTPS://é/panel.html") ∧
      Text.takeBytes? 8 "https:/é" = none ∧ ¬ Url.HasScheme "https:/é" ∧
      site read "site" none "https:/é" = .ok "panel" := by
  intro read
  obtain ⟨-, hclosed, -⟩ := site_of_scheme read "site" "HTTPS://é/panel.html"
  obtain ⟨-, -, hfile, -⟩ := site_of_scheme read "site" "https:/é"
  have hscheme : Url.HasScheme "HTTPS://é/panel.html" := by decide
  have hnone : ¬ Url.HasScheme "https:/é" := by decide
  exact ⟨hscheme, (hclosed hscheme).1, by decide, hnone, (hfile hnone none).trans (by decide +kernel)⟩

end Loader

end PageDirectives

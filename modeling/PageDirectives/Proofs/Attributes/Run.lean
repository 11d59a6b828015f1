import PageDirectives.Proofs.Attributes.Declarations
import PageDirectives.Proofs.Attributes.OrderedMap

set_option autoImplicit false

/-! # Attributes as a map

Attributes can be changed in six ways (`Attributes.Op`). Each of them is about one name only, and
comes to giving it another text, which depends on the text that it has, or to taking it away
(`Attributes.perform_eq`).

Attributes that are made like this from none have names in small letters, each of them once, so they
list a finite map in the order of insertion (`Attributes.Lists`). Whatever is done to them is done to
the map (`Attributes.Lists.perform`), so at the end of a run they list what has become of it
(`Attributes.map_of_run`).
-/

namespace PageDirectives

namespace Attributes

/-- The names of attributes, in order. -/
def names (a : Attributes) : List String := a.entries.map Prod.fst

/-! ## Operations -/

/-- The ways to change attributes. -/
inductive Op where
  | set (name value : String)
  | remove (name : String)
  | addClass (c : String)
  | removeClass (c : String)
  | setStyle (property value : String)
  | removeStyle (property : String)

def perform (a : Attributes) : Op → Attributes
  | .set name value => a.set name value
  | .remove name => a.remove name
  | .addClass c => a.addClass c
  | .removeClass c => a.removeClass c
  | .setStyle property value => a.setStyle property value
  | .removeStyle property => a.removeStyle property

def run (a : Attributes) (ops : List Op) : Attributes := ops.foldl perform a

namespace Op

/-- The name that an operation is about, in small letters. -/
def key : Op → String
  | set name _ | remove name => Text.lower name
  | addClass _ | removeClass _ => "class"
  | setStyle _ _ | removeStyle _ => "style"

/-- What an operation makes of the text that stands under its name; `none` is no attribute. -/
def change : Op → Option String → Option String
  | set _ value, _ => some value
  | remove _, _ => none
  | addClass c, text =>
    let classes := Text.words (text.getD "")
    if c ∈ classes then text else some (Text.join " " (classes ++ [c]))
  | removeClass c, text =>
    let classes := Text.words (text.getD "")
    if c ∈ classes then some (Text.join " " (classes.filter (· != c))) else text
  | setStyle property value, text =>
    some (Style.encode (Style.set property value (Style.decode (text.getD ""))))
  | removeStyle property, text => styleText? (Style.remove property (Style.decode (text.getD "")))

theorem lower_key (op : Op) : Text.lower op.key = op.key := by
  cases op with
  | set name _ | remove name => exact Text.lower_lower name
  | addClass _ | removeClass _ =>
      show Text.lower "class" = "class"
      decide
  | setStyle _ _ | removeStyle _ =>
      show Text.lower "style" = "style"
      decide

end Op

/-- Gives a name a text, or takes it away. -/
def put (a : Attributes) (name : String) : Option String → Attributes
  | none => a.remove name
  | some value => a.set name value

variable {a : Attributes}

/-- To put what is there changes nothing. -/
theorem put_get? (a : Attributes) (name : String) : a.put name (a.get? name) = a := by
  cases h : a.get? name with
  | none => exact remove_of_get? h
  | some value => exact set_of_get? h

/-! ## The case of letters -/

theorem sameFold_lower_right (s name : String) :
    Text.sameFold s (Text.lower name) = Text.sameFold s name := by
  rw [Text.sameFold, Text.sameFold, Text.lower_lower]

theorem remove_lower (a : Attributes) (name : String) : a.remove (Text.lower name) = a.remove name := by
  unfold remove
  simp only [sameFold_lower_right]

theorem set_lower (a : Attributes) (name value : String) :
    a.set (Text.lower name) value = a.set name value := by
  have hentries (es : List (String × String)) :
      setEntry (Text.lower name) value es = setEntry name value es := by
    induction es with
    | nil => simp [setEntry]
    | cons e es ih => rw [setEntry, setEntry, sameFold_lower_right, ih]
  exact congrArg Attributes.mk (hentries a.entries)

/-- **Every operation gives its name a text, or takes it away**; to leave all as it is means to give
the name the text that it has. -/
theorem perform_eq (a : Attributes) (op : Op) :
    a.perform op = a.put op.key (op.change (a.get? op.key)) := by
  cases op with
  | set name value => exact (a.set_lower name value).symm
  | remove name => exact (a.remove_lower name).symm
  | addClass c =>
      show a.addClass c = a.put "class" (if c ∈ a.classes then a.get? "class" else _)
      rw [addClass, hasClass]
      by_cases hmem : c ∈ a.classes
      · rw [if_pos hmem, if_pos (List.contains_iff_mem.mpr hmem), put_get?]
      · rw [if_neg hmem, if_neg (mt List.contains_iff_mem.mp hmem)]
        rfl
  | removeClass c =>
      show a.removeClass c = a.put "class" (if c ∈ a.classes then _ else a.get? "class")
      rw [removeClass, hasClass]
      by_cases hmem : c ∈ a.classes
      · rw [if_pos hmem, if_pos (List.contains_iff_mem.mpr hmem)]
        rfl
      · rw [if_neg hmem, if_neg (mt List.contains_iff_mem.mp hmem), put_get?]
  | setStyle p v =>
      show a.setStyle p v = a.set "style" _
      rw [setStyle, writeStyles, if_neg (Style.set_ne_nil p v a.styles)]
      rfl
  | removeStyle p =>
      show a.removeStyle p = a.put "style" (styleText? (Style.remove p a.styles))
      rw [removeStyle, writeStyles, styleText?]
      split <;> rfl

/-- The other attributes stay, in order. -/
theorem remove_perform (a : Attributes) (op : Op) :
    (a.perform op).remove op.key = a.remove op.key := by
  rw [perform_eq]
  cases op.change (a.get? op.key) with
  | none => exact a.remove_remove op.key
  | some value => exact a.remove_set op.key value

/-! ## Attributes and maps -/

/-- The attributes are the entries of a map, whose keys are in small letters. -/
structure Lists (a : Attributes) (m : OrderedMap) : Prop where
  entries_eq : a.entries = m.entries
  lower_eq : ∀ key ∈ m.keys, Text.lower key = key

theorem lists_empty : Lists {} OrderedMap.empty := ⟨rfl, List.forall_mem_nil _⟩

variable {m : OrderedMap}

theorem Lists.names_eq (h : a.Lists m) : a.names = m.keys := by
  rw [names, h.entries_eq, OrderedMap.entries, List.map_map]
  exact List.map_id' _

/-- **Looking up a name in any case of letters is looking up the key in small letters.** -/
theorem Lists.get?_eq (h : a.Lists m) (name : String) : a.get? name = m.value? (Text.lower name) := by
  rw [get?, h.entries_eq, OrderedMap.entries, List.find?_map, Option.map_map]
  simp only [Function.comp_def]
  cases hfind : m.keys.find? (Text.sameFold · name) with
  | none =>
      have hnot : Text.lower name ∉ m.keys := fun hmem =>
        List.find?_eq_none.mp hfind _ hmem (Style.sameFold_lower name)
      have hvalue : m.value? (Text.lower name) = none := by
        simpa [m.mem_keys_iff] using hnot
      rw [hvalue]
      rfl
  | some key =>
      have hmem : key ∈ m.keys := List.mem_of_find?_eq_some hfind
      have hfold : Text.sameFold key name := by simpa using List.find?_some hfind
      have hkey : key = Text.lower name := by
        calc key = Text.lower key := (h.lower_eq key hmem).symm
          _ = Text.lower name := Text.sameFold_iff.mp hfold
      obtain ⟨value, hvalue⟩ := Option.isSome_iff_exists.mp ((m.mem_keys_iff key).mp hmem)
      rw [← hkey, hvalue]
      simp [hvalue]

/-- Names in small letters are the same only if they are equal. -/
theorem sameFold_of_lower_eq {s t : String} (hs : Text.lower s = s) (ht : Text.lower t = t) :
    Text.sameFold s t = decide (s = t) := by
  rw [Bool.eq_iff_iff, Text.sameFold_iff, hs, ht, decide_eq_true_eq]

theorem setEntry_map {keys : List String} {key : String} (hkey : Text.lower key = key)
    (hkeys : ∀ k ∈ keys, Text.lower k = k) (hnodup : keys.Nodup) (f : String → String)
    (value : String) :
    setEntry key value (keys.map fun k => (k, f k))
      = (if key ∈ keys then keys else keys ++ [key]).map
          fun k => (k, if k = key then value else f k) := by
  induction keys with
  | nil => simp [setEntry, hkey]
  | cons k keys ih =>
      obtain ⟨hk, hkeys⟩ := List.forall_mem_cons.mp hkeys
      obtain ⟨hnew, hnodup⟩ := List.nodup_cons.mp hnodup
      rw [List.map_cons, setEntry, sameFold_of_lower_eq hk hkey]
      by_cases hsame : k = key
      · -- the key is not among those behind
        subst hsame
        have hrest : (keys.map fun k' => (k', f k'))
            = keys.map fun k' => (k', if k' = k then value else f k') := by
          refine List.map_congr_left fun k' hk' => ?_
          rw [if_neg (ne_of_mem_of_not_mem hk' hnew)]
        simp [hrest]
      · have hne : key ≠ k := Ne.symm hsame
        rw [ih hkeys hnodup]
        by_cases hmem : key ∈ keys <;> simp [hmem, hsame, hne]

theorem Lists.set (h : a.Lists m) {key : String} (hkey : Text.lower key = key) (value : String) :
    (a.set key value).Lists (m.insert key value) where
  entries_eq := by
    have hvalue (k : String) : ((m.insert key value).value? k).getD ""
        = if k = key then value else (m.value? k).getD "" := by
      have hput := m.value?_put key (some value) k
      rw [show (m.insert key value).value? k = _ from hput]
      split <;> rfl
    show setEntry key value a.entries = (m.insert key value).entries
    rw [h.entries_eq, OrderedMap.entries, setEntry_map hkey h.lower_eq m.nodup, OrderedMap.entries]
    simp only [hvalue]
    rfl
  lower_eq k hk := by
    have hcases : k ∈ m.keys ∨ k = key := by
      change k ∈ (if key ∈ m.keys then m.keys else m.keys ++ [key]) at hk
      split at hk
      · exact Or.inl hk
      · simpa using hk
    rcases hcases with hold | rfl
    · exact h.lower_eq k hold
    · exact hkey

theorem Lists.remove (h : a.Lists m) {key : String} (hkey : Text.lower key = key) :
    (a.remove key).Lists (m.erase key) where
  entries_eq := by
    show a.entries.filter (fun e => !Text.sameFold e.1 key) = (m.erase key).entries
    have hkept : m.keys.filter (fun k => !Text.sameFold k key) = m.keys.filter (· ≠ key) := by
      refine List.filter_congr fun k hk => ?_
      rw [sameFold_of_lower_eq (h.lower_eq k hk) hkey, decide_not]
    rw [h.entries_eq, OrderedMap.entries, List.filter_map, OrderedMap.entries]
    simp only [Function.comp_def]
    rw [hkept]
    refine List.map_congr_left fun k hk => ?_
    have hne : k ≠ key := by simpa using (List.mem_filter.mp hk).2
    have hput := m.value?_put key none k
    rw [if_neg hne] at hput
    rw [show (m.erase key).value? k = _ from hput]
  lower_eq k hk := h.lower_eq k (List.mem_filter.mp hk).1

theorem Lists.put (h : a.Lists m) {key : String} (hkey : Text.lower key = key)
    (value : Option String) : (a.put key value).Lists (m.put key value) := by
  cases value with
  | none => exact h.remove hkey
  | some value => exact h.set hkey value

/-! ## Runs -/

/-- What an operation does to a map. -/
def Op.apply (m : OrderedMap) (op : Op) : OrderedMap := m.put op.key (op.change (m.value? op.key))

/-- **What is done to attributes is done to the map that they list.** -/
theorem Lists.perform (h : a.Lists m) (op : Op) : (a.perform op).Lists (op.apply m) := by
  have hfound : a.get? op.key = m.value? op.key := by
    rw [h.get?_eq, op.lower_key]
  rw [perform_eq, hfound]
  exact h.put op.lower_key _

theorem Lists.run (h : a.Lists m) (ops : List Op) : (a.run ops).Lists (ops.foldl Op.apply m) := by
  induction ops generalizing a m with
  | nil => exact h
  | cons op ops ih => exact ih (h.perform op)

/-- What is found after a name has been given a text or taken away. -/
theorem get?_put (a : Attributes) (name : String) (value : Option String) (other : String) :
    (a.put name value).get? other = if Text.sameFold name other then value else a.get? other := by
  by_cases hsame : Text.sameFold name other
  · -- the name in question is found like the one that was put
    have hfind (b : Attributes) : b.get? other = b.get? name := by
      have hlower := Text.sameFold_iff.mp hsame
      simp only [get?, Text.sameFold, hlower]
    rw [if_pos hsame, hfind]
    cases value with
    | none => exact a.get?_remove_self name
    | some value => exact a.get?_set_self name value
  · have hother : Text.sameFold name other = false := by simpa using hsame
    rw [if_neg hsame]
    cases value with
    | none => exact get?_remove_of_ne hother a
    | some value => exact get?_set_of_ne hother a value

/-- **What attributes are that were made from none.** Their names are in small letters and all
different, and they are the entries of the map to which the same has been done, in the order of
insertion. A name is looked up without regard to the case of letters. Setting one gives it the new
text, in its place if it is there and at the end if it is not; removing one takes it away and leaves
the others in order. Nothing else is found otherwise than before. What is done to classes and to
styles leaves all other attributes as they are, in order. -/
theorem map_of_run (ops : List Op) :
    let a := ({} : Attributes).run ops
    let m := ops.foldl Op.apply OrderedMap.empty
    (∀ name ∈ a.names, Text.lower name = name) ∧ a.names.Nodup ∧ a.entries = m.entries ∧
    (∀ name, a.get? name = m.value? (Text.lower name)) ∧
    (∀ name value, let b := a.set name value
      b.names = (if Text.lower name ∈ a.names then a.names else a.names ++ [Text.lower name]) ∧
        ∀ other, b.get? other = if Text.sameFold name other then some value else a.get? other) ∧
    (∀ name, let b := a.remove name
      b.names = a.names.filter (· ≠ Text.lower name) ∧
        ∀ other, b.get? other = if Text.sameFold name other then none else a.get? other) ∧
    (∀ c, (a.addClass c).remove "class" = a.remove "class" ∧
      (a.removeClass c).remove "class" = a.remove "class") ∧
    ∀ p, (∀ v, (a.setStyle p v).remove "style" = a.remove "style") ∧
      (a.removeStyle p).remove "style" = a.remove "style" := by
  intro a m
  have h : a.Lists m := lists_empty.run ops
  have hnames : a.names = m.keys := h.names_eq
  refine ⟨?_, ?_, h.entries_eq, h.get?_eq, fun name value => ⟨?_, ?_⟩, fun name => ⟨?_, ?_⟩, ?_, ?_⟩
  · rw [hnames]
    exact h.lower_eq
  · rw [hnames]
    exact m.nodup
  · have hset := h.set (Text.lower_lower name) value
    rw [set_lower] at hset
    rw [hset.names_eq, hnames]
    rfl
  · exact a.get?_put name (some value)
  · have hremove := h.remove (Text.lower_lower name)
    rw [remove_lower] at hremove
    rw [hremove.names_eq, hnames]
    rfl
  · exact a.get?_put name none
  · exact fun c => ⟨a.remove_perform (.addClass c), a.remove_perform (.removeClass c)⟩
  · exact fun p => ⟨fun v => a.remove_perform (.setStyle p v), a.remove_perform (.removeStyle p)⟩

end Attributes

end PageDirectives

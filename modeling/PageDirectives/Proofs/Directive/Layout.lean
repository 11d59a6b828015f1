import Mathlib.Data.List.Forall2
import PageDirectives.Directive.Source
import PageDirectives.Proofs.Text.Trim

set_option autoImplicit false

/-! # The layout of a source

The lines of a source are laid out in blocks of text, one line after the other and each in a row of
its own. Around a line there can be any white space, blank rows included (`Source.IsLayout`).

Reading a source undoes this: the lines that are read of some blocks are those that are laid out in
them (`Source.sourceLines_eq_iff`). So it makes no difference how a source is cut into blocks, as long
as no row is, nor how its lines are indented.
-/

namespace PageDirectives

namespace Source

/-- A text that can be a line of a source. -/
structure IsLine (s : String) : Prop extends Text.IsTight s where
  single : '\n' ∉ s.toList

/-- How lines are laid out in a block of text. White space can hold new lines, and there is one at
least between two lines. -/
inductive IsLayout : List String → String → Prop where
  | blank {space : String} : Text.isBlank space → IsLayout [] space
  | last {before line after : String} : Text.isBlank before → IsLine line → Text.isBlank after →
      IsLayout [line] (before ++ line ++ after)
  | next {before line after block : String} {lines : List String} : Text.isBlank before →
      IsLine line → Text.isBlank after → IsLayout lines block →
      IsLayout (line :: lines) (before ++ line ++ after ++ "\n" ++ block)

/-- A text is a single row, or there are more behind its first row. -/
theorem rowInduction {P : String → Prop} (single : ∀ row : String, '\n' ∉ row.toList → P row)
    (next : ∀ row rest : String, '\n' ∉ row.toList → P rest → P (row ++ "\n" ++ rest))
    (block : String) : P block := by
  induction hlength : block.toList.length using Nat.strong_induction_on generalizing block with
  | _ n ih =>
      by_cases hmem : '\n' ∈ block.toList
      · obtain ⟨row, rest, heq, hrow⟩ := List.eq_append_cons_of_mem hmem
        have hblock : block = .ofList row ++ "\n" ++ .ofList rest := by
          rw [← String.toList_inj, heq]
          simp
        have hlt : (String.ofList rest).toList.length < n := by
          rw [← hlength, heq, String.toList_ofList, List.length_append, List.length_cons]
          omega
        rw [hblock]
        exact next _ _ (by rwa [String.toList_ofList]) (ih _ hlt _ rfl)
      · exact single block hmem

variable {s : String} {line block : String} {lines blocks : List String}

/-! ## Reading -/

theorem sourceLines_cons (block : String) (blocks : List String) :
    sourceLines (block :: blocks) = sourceLines [block] ++ sourceLines blocks :=
  sourceLines_append [block] blocks

/-- **Rows do not hang on each other**: of two texts with a new line between them the lines of the one
are read and then those of the other. -/
theorem sourceLines_append_newline (s t : String) :
    sourceLines [s ++ "\n" ++ t] = sourceLines [s] ++ sourceLines [t] := by
  have hlines : Text.lines (s ++ "\n" ++ t) = Text.lines s ++ Text.lines t := by
    have hrow : (s ++ "\n" ++ t).toList = s.toList ++ '\n' :: t.toList := by simp
    rw [Text.lines, hrow, Chars.lines, List.splitOn_append_cons_self, List.map_append]
    rfl
  simp only [sourceLines, List.flatMap_singleton, hlines, List.map_append, List.filter_append]

/-- What stands in front of a row is in the same row. -/
theorem sourceLines_append_row (s row rest : String) :
    sourceLines [s ++ (row ++ "\n" ++ rest)] = sourceLines [s ++ row] ++ sourceLines [rest] := by
  rw [← sourceLines_append_newline]
  simp only [String.append_assoc]

/-- A single row is trimmed, and left out if nothing remains. -/
theorem sourceLines_of_single (hs : '\n' ∉ s.toList) :
    sourceLines [s] = if Text.isBlank s then [] else [Text.trim s] := by
  have hlines : Text.lines s = [s] := by
    rw [Text.lines, Chars.lines, List.splitOn_eq_singleton hs, List.map_singleton,
      String.ofList_toList]
  rw [sourceLines, List.flatMap_singleton, hlines, List.map_singleton]
  by_cases hblank : Text.isBlank s
  · have hempty : Text.trim s = "" := Text.trim_eq_empty_iff.mpr hblank
    rw [if_pos hblank, List.filter_cons_of_neg (by simpa using hempty), List.filter_nil]
  · have hne : Text.trim s ≠ "" := mt Text.trim_eq_empty_iff.mp hblank
    rw [if_neg hblank, List.filter_cons_of_pos (by simpa using hne), List.filter_nil]

/-- White space has no lines. -/
theorem sourceLines_of_isBlank (hs : Text.isBlank s) : sourceLines [s] = [] := by
  induction s using rowInduction with
  | single row hrow => rw [sourceLines_of_single hrow, if_pos hs]
  | next row rest hrow ih =>
      obtain ⟨hfront, hrest⟩ := Text.isBlank_append_iff.mp hs
      obtain ⟨hfirst, -⟩ := Text.isBlank_append_iff.mp hfront
      rw [sourceLines_append_newline, sourceLines_of_single hrow, if_pos hfirst, ih hrest]
      rfl

/-- White space in front of a text makes no difference. -/
theorem sourceLines_isBlank_append (hs : Text.isBlank s) (block : String) :
    sourceLines [s ++ block] = sourceLines [block] := by
  induction s using rowInduction with
  | single space hspace =>
      -- without a new line the white space is in the first row, where it is trimmed away
      have hfirst {row : String} (hrow : '\n' ∉ row.toList) :
          sourceLines [space ++ row] = sourceLines [row] := by
        have hmem : '\n' ∉ (space ++ row).toList := by
          rw [String.toList_append, List.mem_append]
          exact not_or.mpr ⟨hspace, hrow⟩
        have hiff : Text.isBlank (space ++ row) ↔ Text.isBlank row := by
          rw [Text.isBlank_append_iff, and_iff_right hs]
        simp only [sourceLines_of_single hmem, sourceLines_of_single hrow, hiff,
          Text.trim_append_of_isBlank hs]
      induction block using rowInduction with
      | single row hrow => exact hfirst hrow
      | next row rest hrow _ =>
          rw [sourceLines_append_row, sourceLines_append_newline, hfirst hrow]
  | next row rest _ ih =>
      obtain ⟨hfront, hrest⟩ := Text.isBlank_append_iff.mp hs
      obtain ⟨hrow, -⟩ := Text.isBlank_append_iff.mp hfront
      have hassoc : row ++ "\n" ++ rest ++ block = row ++ "\n" ++ (rest ++ block) := by
        simp only [String.append_assoc]
      rw [hassoc, sourceLines_append_newline, sourceLines_of_isBlank hrow, ih hrest,
        List.nil_append]

/-- A line with white space behind it. -/
theorem sourceLines_line_append (hline : IsLine line) (hs : Text.isBlank s) :
    sourceLines [line ++ s] = [line] := by
  have hsingle {space : String} (hspace : '\n' ∉ space.toList) (hblank : Text.isBlank space) :
      sourceLines [line ++ space] = [line] := by
    have hmem : '\n' ∉ (line ++ space).toList := by
      rw [String.toList_append, List.mem_append]
      exact not_or.mpr ⟨hline.single, hspace⟩
    have hnot : ¬ Text.isBlank (line ++ space) := fun h =>
      hline.not_isBlank (Text.isBlank_append_iff.mp h).1
    have htrim : Text.trim ("" ++ line ++ space) = line :=
      hline.trim_append_append (show Text.isBlank "" from rfl) hblank
    rw [String.empty_append] at htrim
    rw [sourceLines_of_single hmem, if_neg hnot, htrim]
  -- the line is in the first row, and the rows behind are blank
  induction s using rowInduction with
  | single space hspace => exact hsingle hspace hs
  | next row rest hrow _ =>
      obtain ⟨hfront, hrest⟩ := Text.isBlank_append_iff.mp hs
      obtain ⟨hblank, -⟩ := Text.isBlank_append_iff.mp hfront
      rw [sourceLines_append_row, hsingle hrow hblank, sourceLines_of_isBlank hrest,
        List.append_nil]

/-- A line with white space around it. -/
theorem sourceLines_append_line_append {before after : String} (hbefore : Text.isBlank before)
    (hline : IsLine line) (hafter : Text.isBlank after) :
    sourceLines [before ++ line ++ after] = [line] := by
  rw [String.append_assoc, sourceLines_isBlank_append hbefore,
    sourceLines_line_append hline hafter]

theorem IsLayout.sourceLines_eq (h : IsLayout lines block) : sourceLines [block] = lines := by
  induction h with
  | blank hspace => exact sourceLines_of_isBlank hspace
  | last hbefore hline hafter => exact sourceLines_append_line_append hbefore hline hafter
  | next hbefore hline hafter _ ih =>
      rw [sourceLines_append_newline, sourceLines_append_line_append hbefore hline hafter, ih]
      rfl

/-! ## What is read is laid out -/

/-- There can be more white space in front of a block. -/
theorem IsLayout.isBlank_append (hs : Text.isBlank s) (h : IsLayout lines block) :
    IsLayout lines (s ++ block) := by
  cases h with
  | blank hspace => exact .blank (Text.isBlank_append_iff.mpr ⟨hs, hspace⟩)
  | last hbefore hline hafter =>
      simp only [← String.append_assoc]
      exact .last (Text.isBlank_append_iff.mpr ⟨hs, hbefore⟩) hline hafter
  | next hbefore hline hafter hblock =>
      simp only [← String.append_assoc]
      exact .next (Text.isBlank_append_iff.mpr ⟨hs, hbefore⟩) hline hafter hblock

/-- A row that is not blank is a line with white space around it. -/
theorem exists_isLine {row : String} (hrow : '\n' ∉ row.toList) (hblank : ¬ Text.isBlank row) :
    IsLine (Text.trim row) ∧ ∃ before after, Text.isBlank before ∧ Text.isBlank after ∧
      row = before ++ Text.trim row ++ after := by
  refine ⟨⟨Text.isTight_trim (mt Text.trim_eq_empty_iff.mp hblank), fun hmem => hrow ?_⟩,
    Text.exists_append_trim_append row⟩
  rw [Text.toList_trim] at hmem
  exact (Chars.trim_sublist row.toList).subset hmem

/-- **Every block is a layout** of the lines that are read of it. -/
theorem isLayout_sourceLines (block : String) : IsLayout (sourceLines [block]) block := by
  induction block using rowInduction with
  | single row hrow =>
      rw [sourceLines_of_single hrow]
      split
      · next hblank => exact .blank hblank
      · next hblank =>
          obtain ⟨hline, before, after, hbefore, hafter, heq⟩ := exists_isLine hrow hblank
          have hlayout := IsLayout.last hbefore hline hafter
          rwa [← heq] at hlayout
  | next row rest hrow ih =>
      rw [sourceLines_append_newline, sourceLines_of_single hrow]
      split
      · next hblank =>
          refine ih.isBlank_append (Text.isBlank_append_iff.mpr ⟨hblank, ?_⟩)
          decide
      · next hblank =>
          obtain ⟨hline, before, after, hbefore, hafter, heq⟩ := exists_isLine hrow hblank
          have hlayout := IsLayout.next hbefore hline hafter ih
          rwa [← heq] at hlayout

/-- **The lines of a source** are those that are laid out in its blocks. -/
theorem sourceLines_eq_iff :
    sourceLines blocks = lines ↔
      ∃ groups : List (List String),
        groups.flatten = lines ∧ List.Forall₂ IsLayout groups blocks := by
  induction blocks generalizing lines with
  | nil => simp [sourceLines, eq_comm]
  | cons block blocks ih =>
      rw [sourceLines_cons]
      constructor
      · rintro rfl
        obtain ⟨groups, hflat, hlayouts⟩ := ih.mp rfl
        exact ⟨sourceLines [block] :: groups, by rw [List.flatten_cons, hflat],
          .cons (isLayout_sourceLines block) hlayouts⟩
      · rintro ⟨_, rfl, hlayouts⟩
        cases hlayouts with
        | cons hlayout hlayouts =>
            rw [hlayout.sourceLines_eq, ih.mpr ⟨_, rfl, hlayouts⟩, List.flatten_cons]

theorem IsLayout.isLine (h : IsLayout lines block) : ∀ l ∈ lines, IsLine l := by
  induction h with
  | blank _ => exact List.forall_mem_nil _
  | last _ hline _ => exact List.forall_mem_singleton.mpr hline
  | next _ hline _ _ ih => exact List.forall_mem_cons.mpr ⟨hline, ih⟩

theorem isLine_of_mem_sourceLines : ∀ l ∈ sourceLines blocks, IsLine l := by
  intro l hl
  obtain ⟨block, -, hmem⟩ := List.mem_flatMap.mp hl
  refine (isLayout_sourceLines block).isLine l ?_
  rwa [sourceLines, List.flatMap_singleton]

/-! ## Joined lines -/

/-- Lines with a new line between every two are laid out. -/
theorem isLayout_join (hlines : ∀ l ∈ lines, IsLine l) : IsLayout lines (Text.join "\n" lines) := by
  have hempty : Text.isBlank "" := rfl
  induction lines with
  | nil => exact .blank hempty
  | cons line lines ih =>
      obtain ⟨hline, hlines⟩ := List.forall_mem_cons.mp hlines
      cases lines with
      | nil =>
          have hjoin : Text.join "\n" [line] = "" ++ line ++ "" := by simp [Text.join]
          rw [hjoin]
          exact .last hempty hline hempty
      | cons l lines =>
          have hjoin : Text.join "\n" (line :: l :: lines)
              = "" ++ line ++ "" ++ "\n" ++ Text.join "\n" (l :: lines) := by
            simp [Text.join]
          rw [hjoin]
          exact .next hempty hline hempty (ih hlines)

/-- Lines that are joined block by block are read back. -/
theorem sourceLines_map_join {groups : List (List String)}
    (hlines : ∀ l ∈ groups.flatten, IsLine l) :
    sourceLines (groups.map (Text.join "\n")) = groups.flatten := by
  refine sourceLines_eq_iff.mpr ⟨groups, rfl, ?_⟩
  rw [List.forall₂_map_right_iff, List.forall₂_same]
  intro group hgroup
  exact isLayout_join fun l hl => hlines l (List.mem_flatten_of_mem hgroup hl)

/-- Lines are read as they are. -/
theorem sourceLines_eq_self (hlines : ∀ l ∈ lines, IsLine l) : sourceLines lines = lines := by
  induction lines with
  | nil => rfl
  | cons line lines ih =>
      obtain ⟨hline, hlines⟩ := List.forall_mem_cons.mp hlines
      have hself : sourceLines [line ++ ""] = [line] := sourceLines_line_append hline rfl
      rw [String.append_empty] at hself
      rw [sourceLines_cons, hself, ih hlines, List.singleton_append]

/-- **Reading a source undoes laying it out.** What is read are lines, and they are those that are
laid out in the blocks, however they are cut into blocks and whatever white space is around them. So
lines that are joined block by block are read back, and reading what has been read changes nothing.
Blocks do not hang on each other, and neither do texts with a new line between them. -/
theorem sourceLines_of_blocks (blocks : List String) :
    (∀ line ∈ sourceLines blocks, IsLine line) ∧
    (∀ lines, sourceLines blocks = lines ↔
      ∃ groups : List (List String),
        groups.flatten = lines ∧ List.Forall₂ IsLayout groups blocks) ∧
    (∀ groups : List (List String), (∀ line ∈ groups.flatten, IsLine line) →
      sourceLines (groups.map (Text.join "\n")) = groups.flatten) ∧
    (∀ more, sourceLines (blocks ++ more) = sourceLines blocks ++ sourceLines more) ∧
    (∀ s t, sourceLines [s ++ "\n" ++ t] = sourceLines [s] ++ sourceLines [t]) ∧
    sourceLines (sourceLines blocks) = sourceLines blocks := by
  have hlines : ∀ line ∈ sourceLines blocks, IsLine line := isLine_of_mem_sourceLines
  refine ⟨hlines, fun lines => sourceLines_eq_iff, fun groups hgroups => ?_,
    sourceLines_append blocks, sourceLines_append_newline, sourceLines_eq_self hlines⟩
  exact sourceLines_map_join hgroups

/-- Two indented lines with a blank row in between, and a block without lines; the same two lines
joined. -/
theorem sourceLines_of_indented :
    let hide := "p should hide"
    let toggle := "p should toggle on click"
    let block := "\n  p should hide \r\n\n\tp should toggle on click\n"
    IsLayout [hide, toggle] block ∧ IsLayout [] " \n" ∧
      sourceLines [block, " \n"] = [hide, toggle] ∧ (IsLine hide ∧ IsLine toggle) ∧
      sourceLines ["p should hide\np should toggle on click", ""] = [hide, toggle] := by
  intro hide toggle block
  obtain ⟨-, hread, hjoin, -⟩ := sourceLines_of_blocks [block, " \n"]
  have hhide : IsLine hide := ⟨⟨by decide, by decide⟩, by decide⟩
  have htoggle : IsLine toggle := ⟨⟨by decide, by decide⟩, by decide⟩
  have hlast : IsLayout [toggle] ("\n\t" ++ toggle ++ "\n") :=
    .last (by decide) htoggle (by decide)
  have hnext : IsLayout [hide, toggle]
      ("\n  " ++ hide ++ " \r" ++ "\n" ++ ("\n\t" ++ toggle ++ "\n")) :=
    .next (by decide) hhide (by decide) hlast
  have hlayout : IsLayout [hide, toggle] block := hnext
  have hblank : IsLayout [] " \n" := .blank (by decide)
  refine ⟨hlayout, hblank, ?_, ⟨hhide, htoggle⟩, ?_⟩
  · exact (hread _).mpr ⟨[[hide, toggle], []], rfl, .cons hlayout (.cons hblank .nil)⟩
  · refine hjoin [[hide, toggle], []] fun line hline => ?_
    obtain rfl | rfl : line = hide ∨ line = toggle := by simpa using hline
    · exact hhide
    · exact htoggle

end Source

end PageDirectives

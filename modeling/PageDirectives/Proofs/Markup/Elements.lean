import PageDirectives.Markup.Parser
import PageDirectives.Proofs.Document.Contents
import PageDirectives.Proofs.Markup.Tags

set_option autoImplicit false

/-! # The elements of a page

Every element that a builder makes, it makes of the attributes of one tag that has been read, put in
order, or of the attributes of one element and of one such tag. So what holds of elements that are
made like this (`Markup.HoldsOfMade`) holds of all elements of a page that is read
(`Document.allElements_parse`) and of a fragment (`Document.allElements_parseFragment`), in their
places or cut out. If operations keep it, it holds of all elements after them
(`Document.allElements_run_of_keeps`), and if it holds of whatever is given attributes, then this is
so for all operations (`Document.allElements_run_parse`).

The tags need not be the last ones that were read: formatting elements are made again of tags that
the builder has kept. So a builder is sound (`Builder.IsSound`) if its elements are such and its
list of formatting elements holds only tags that were read. Each rule keeps that, whatever the
other parts of the builder are; the lemmas follow the rules, one for each.
-/

namespace PageDirectives

namespace Markup

open Builder (plainAttrs)

/-- What holds of every element that is made of tags. -/
class HoldsOfMade (P : Element → Prop) : Prop where
  plain : ∀ (tag : Tag) (t : StartTag), t.IsRead → P (.ofAttrs tag (plainAttrs t))
  foreign : ∀ (tag : Tag) (space : Space) (t : StartTag), tag.space ≠ .html → t.IsRead →
    P (.ofAttrs tag (foreignAttrs space t))
  addMissing : ∀ (e : Element) (t : StartTag), P e → t.IsRead → P (e.addMissing (plainAttrs t))

/-- A document whose elements are such, and a list of formatting elements whose tags have been
read. -/
structure Sound (P : Element → Prop) (d : Document) (formatting : List (Option Formatting)) :
    Prop where
  elements : d.AllElements P
  tags : ∀ f, some f ∈ formatting → f.tag.IsRead

namespace Builder

/-- What a builder has made, and what it has kept, is sound. -/
def IsSound (P : Element → Prop) (b : Builder) : Prop := Sound P b.document b.formatting

theorem isRead_of_name (name : String) : StartTag.IsRead { name } := areRead_nil

namespace IsSound

variable {P : Element → Prop} {b b' : Builder} {t : Token} {tag : StartTag}

theorem ite {c : Prop} [Decidable c] (h : b.IsSound P) (h' : b'.IsSound P) :
    (if c then b else b').IsSound P := by
  split
  · exact h
  · exact h'

theorem noFrameset (h : b.IsSound P) : b.noFrameset.IsSound P := h

theorem dropOpen (h : b.IsSound P) (id : NodeId) : (b.dropOpen id).IsSound P := h

theorem openInside (h : b.IsSound P) (outer : NodeId) (o : Open) :
    (b.openInside outer o).IsSound P := h

theorem closeParagraph (h : b.IsSound P) : b.closeParagraph.IsSound P := .ite h h

theorem put (h : b.IsSound P) (p : Place) (id : NodeId) : (b.put p id).IsSound P := by
  refine ⟨?_, h.tags⟩
  cases p with
  | under target => exact h.elements.move id target
  | before table fallback =>
      simp only [Builder.put]
      split
      · exact h.elements.moveBefore id table
      · exact h.elements.move id fallback

theorem putText (h : b.IsSound P) (p : Place) (s : String) : (b.putText p s).IsSound P := by
  refine ⟨?_, h.tags⟩
  cases p with
  | under target => exact h.elements.appendText target s
  | before table fallback =>
      simp only [Builder.putText]
      split
      · exact h.elements.insertText table s
      · exact h.elements.appendText fallback s

theorem insertText (h : b.IsSound P) (s : List Char) : (b.insertText s).IsSound P := h.putText _ _

theorem insertComment (h : b.IsSound P) (s : String) : (b.insertComment s).IsSound P := by
  have hmade : (b.create (.comment s)).1.IsSound P := ⟨h.elements.create nofun, h.tags⟩
  exact hmade.put _ _

theorem commentUnder (h : b.IsSound P) (target : NodeId) (s : String) :
    (b.commentUnder target s).IsSound P :=
  ⟨h.elements.createUnder target (c := .comment s) nofun, h.tags⟩

theorem makeElement (h : b.IsSound P) (tag : Tag) {attrs : List Attr}
    (he : P (.ofAttrs tag attrs)) : (b.makeElement tag attrs).1.IsSound P := by
  have hmade := h.elements.create (c := .element (.ofAttrs tag attrs)) fun x hx => by
    obtain rfl := Option.some.inj hx
    exact he
  simp only [Builder.makeElement]
  split
  · exact ⟨hmade.createUnder _ (c := .fragment) nofun, h.tags⟩
  · exact ⟨hmade, h.tags⟩

theorem insertElement (h : b.IsSound P) (tag : Tag) {attrs : List Attr}
    (he : P (.ofAttrs tag attrs)) : (b.insertElement tag attrs).1.IsSound P :=
  (h.makeElement tag he).put _ _

/-! ## The list of formatting elements -/

theorem dropFormatting (h : b.IsSound P) (id : NodeId) : (b.dropFormatting id).IsSound P :=
  ⟨h.elements, fun f hf => h.tags f (List.mem_filter.mp hf).1⟩

theorem clearToMarker (h : b.IsSound P) : b.clearToMarker.IsSound P :=
  ⟨h.elements, fun f hf => h.tags f
    ((List.dropWhile_sublist _).subset ((List.drop_sublist 1 _).subset hf))⟩

theorem addMarker (h : b.IsSound P) : b.addMarker.IsSound P :=
  ⟨h.elements, fun f hf => h.tags f ((List.mem_cons.mp hf).resolve_left nofun)⟩

theorem addFormatting (h : b.IsSound P) (id : NodeId) (ht : tag.IsRead) :
    IsSound P { b with formatting := some ⟨id, tag⟩ :: b.formatting } := by
  refine ⟨h.elements, fun g hg => ?_⟩
  rcases List.mem_cons.mp hg with heq | hg
  · obtain rfl := Option.some.inj heq
    exact ht
  · exact h.tags g hg

theorem replaceFormatting (h : b.IsSound P) (old id : NodeId) (ht : tag.IsRead) :
    (b.replaceFormatting old ⟨id, tag⟩).IsSound P := by
  refine ⟨h.elements, fun g hg => ?_⟩
  obtain ⟨entry, hentry, heq⟩ := List.mem_map.mp hg
  split at heq
  · obtain rfl := Option.some.inj heq
    exact ht
  · exact h.tags g (heq ▸ hentry)

theorem isRead_of_mem_formattingNow (h : b.IsSound P) {f : Formatting}
    (hf : f ∈ b.formattingNow) : f.tag.IsRead := by
  obtain ⟨entry, hentry, rfl⟩ := List.mem_filterMap.mp hf
  exact h.tags f ((List.takeWhile_sublist _).subset hentry)

theorem enterFormatting (h : b.IsSound P) (old : NodeId) (bookmark : Option NodeId) (id : NodeId)
    (ht : tag.IsRead) : (b.enterFormatting old bookmark ⟨id, tag⟩).IsSound P := by
  cases bookmark with
  | none => exact h.replaceFormatting old id ht
  | some mark =>
      refine ⟨h.elements, fun g hg => ?_⟩
      obtain ⟨entry, hentry, hmem⟩ := List.mem_flatMap.mp (List.mem_filter.mp hg).1
      split at hmem
      · rcases List.mem_cons.mp hmem with heq | hmem
        · obtain rfl := Option.some.inj heq
          exact ht
        · exact h.tags g (List.mem_singleton.mp hmem ▸ hentry)
      · exact h.tags g (List.mem_singleton.mp hmem ▸ hentry)

theorem closeOrdinary (h : b.IsSound P) (name : String) : (b.closeOrdinary name).IsSound P := by
  unfold Builder.closeOrdinary
  split
  · exact .ite h h
  · exact h

/-! ## Rules that make no elements -/

theorem foldl {α : Type} {f : Builder → α → Builder}
    (hf : ∀ (b : Builder) (a : α), b.IsSound P → (f b a).IsSound P) (as : List α)
    (h : b.IsSound P) : (as.foldl f b).IsSound P := by
  induction as generalizing b with
  | nil => exact h
  | cons a as ih => exact ih (hf b a h)

theorem initial (h : b.IsSound P) : (b.initial t).IsSound P := by
  cases t with
  | comment s => exact h.commentUnder 0 s
  | text s => exact .ite h h
  | _ => exact h

theorem leaveTemplate (h : b.IsSound P) : b.leaveTemplate.IsSound P :=
  clearToMarker (b := b.popUntilNamed "template") h

theorem endTemplate (h : b.IsSound P) : b.endTemplate.IsSound P :=
  .ite (leaveTemplate (b := b.closeImplied impliedEndsOfTemplate) h) h

theorem endOfTemplate (h : b.IsSound P) : b.endOfTemplate.IsSound P := .ite h.leaveTemplate h

theorem foreignEnd (h : b.IsSound P) (rules : Builder → Builder) (hrules : (rules b).IsSound P)
    (name : String) (innermost : Bool) (os : List Open) :
    (b.foreignEnd rules name innermost os).IsSound P := by
  fun_induction b.foreignEnd rules name innermost os with
  | case1 | case2 => exact h
  | case3 => exact hrules
  | case4 => exact h
  | case5 _ _ _ _ _ _ ih => exact ih

theorem endForm (h : b.IsSound P) : b.endForm.IsSound P := by
  unfold Builder.endForm
  split
  · exact .ite h h
  · split
    · exact h
    · exact .ite h h

theorem endBlock (h : b.IsSound P) (name : String) : (b.endBlock name).IsSound P := .ite h h

theorem endOpenSelect (h : b.IsSound P) : b.endOpenSelect.IsSound P := .ite h h

theorem inText (h : b.IsSound P) : (b.inText t).IsSound P := by
  cases t with
  | text s => exact h.insertText s
  | _ => exact h

theorem endTable (h : b.IsSound P) : b.endTable.IsSound P := .ite h h

theorem closeCell (h : b.IsSound P) : b.closeCell.IsSound P :=
  clearToMarker (b := (b.closeImplied impliedEnds).popUntil (·.isOneOf ["td", "th"])) h

theorem handleDoctype (h : b.IsSound P) (d : Doctype) : (b.handleDoctype d).IsSound P :=
  .ite ⟨h.elements.createUnder 0 (c := .doctype (d.name.getD "")) nofun, h.tags⟩ h

/-! ## New elements -/

variable [HoldsOfMade P]

theorem insertTag (h : b.IsSound P) (ht : tag.IsRead) : (b.insertTag tag).1.IsSound P :=
  h.insertElement _ (HoldsOfMade.plain _ tag ht)

theorem openTag (h : b.IsSound P) (ht : tag.IsRead) : (b.openTag tag).IsSound P := h.insertTag ht

theorem openNamed (h : b.IsSound P) (name : String) : (b.openNamed name).IsSound P :=
  h.openTag (isRead_of_name name)

theorem insertVoid (h : b.IsSound P) (ht : tag.IsRead) : (b.insertVoid tag).IsSound P :=
  h.openTag ht

theorem openText (h : b.IsSound P) (ht : tag.IsRead) (lexing : Lexing) :
    (b.openText tag lexing).IsSound P := h.openTag ht

theorem addMissing (h : b.IsSound P) (id : NodeId) (ht : tag.IsRead) :
    (b.addMissing id tag).IsSound P :=
  ⟨h.elements.onElement id fun e he => HoldsOfMade.addMissing e tag he ht, h.tags⟩

/-! ## Formatting elements -/

theorem openFormatting (h : b.IsSound P) (ht : tag.IsRead) : (b.openFormatting tag).IsSound P := by
  simp only [Builder.openFormatting]
  refine addFormatting (insertTag ?_ ht) _ ht
  split
  · exact .ite (h.dropFormatting _) h
  · exact h

theorem reopen (h : b.IsSound P) {fs : List Formatting} (hfs : ∀ f ∈ fs, f.tag.IsRead) :
    (b.reopen fs).IsSound P := by
  induction fs generalizing b with
  | nil => exact h
  | cons f fs ih =>
      obtain ⟨hf, hfs⟩ := List.forall_mem_cons.mp hfs
      exact ih ((h.insertTag hf).replaceFormatting f.id _ hf) hfs

theorem reconstruct (h : b.IsSound P) : b.reconstruct.IsSound P :=
  h.reopen fun _ hf => h.isRead_of_mem_formattingNow
    ((List.takeWhile_sublist _).subset (List.mem_reverse.mp hf))

theorem climb {c : Chain} (h : c.builder.IsSound P) (block : NodeId) (step : Nat) (o : Open) :
    (c.climb block step o).builder.IsSound P := by
  unfold Chain.climb
  simp only
  split
  · exact h
  · next f hf =>
      have ht : f.tag.IsRead := by
        obtain ⟨entry, hentry, hfound⟩ := List.exists_of_findSome?_eq_some hf
        obtain ⟨rfl, -⟩ := Option.filter_eq_some_iff.mp hfound
        exact h.tags f hentry
      split
      · exact h.dropFormatting o.id
      · have hcopy := h.makeElement { name := f.tag.name } (HoldsOfMade.plain _ f.tag ht)
        have hlist := hcopy.replaceFormatting o.id
          (c.builder.makeElement { name := f.tag.name } (plainAttrs f.tag)).2.id ht
        exact ⟨hlist.elements.move _ _, hlist.tags⟩

theorem climbAll {c : Chain} (h : c.builder.IsSound P) (block : NodeId) (step : Nat)
    (os : List Open) : (c.climbAll block step os).builder.IsSound P := by
  induction os generalizing c step with
  | nil => exact h
  | cons o os ih => exact ih (h.climb block step o) _

theorem takeApart (h : b.IsSound P) {f : Formatting} (hf : f.tag.IsRead) (block : Open)
    (between : List Open) (outer : Open) : (b.takeApart f block between outer).IsSound P := by
  have hclimb := climbAll (c := { builder := b, last := block.id }) h block.id 1 between
  unfold Builder.takeApart
  generalize ({ builder := b, last := block.id : Chain }).climbAll block.id 1 between = c at hclimb
  have hput := hclimb.put (c.builder.placeIn outer) c.last
  have hcopy := hput.makeElement { name := f.tag.name } (HoldsOfMade.plain _ f.tag hf)
  refine openInside (dropOpen (enterFormatting ?_ f.id c.bookmark _ hf) f.id) block.id _
  exact ⟨(hcopy.elements.moveAll _ _).move _ _, hcopy.tags⟩

theorem endFormattingOnce (h : b.IsSound P) (name : String) :
    (b.endFormattingOnce name).1.IsSound P := by
  unfold Builder.endFormattingOnce
  split
  · exact h.closeOrdinary name
  · next f hf =>
      have ht : f.tag.IsRead := h.isRead_of_mem_formattingNow (List.mem_of_find?_eq_some hf)
      split
      · exact h.dropFormatting f.id
      split
      · exact h
      simp only
      split
      · exact h.takeApart ht _ _ _
      · exact dropFormatting (b := b.popUntil (·.id == f.id)) h f.id

theorem endFormattingRounds (h : b.IsSound P) (name : String) (n : Nat) :
    (b.endFormattingRounds name n).IsSound P := by
  induction n generalizing b with
  | zero => exact h
  | succ n ih =>
      have honce := h.endFormattingOnce name
      unfold Builder.endFormattingRounds
      split
      · next heq => exact ih (by rwa [heq] at honce)
      · next heq => rwa [heq] at honce

theorem endFormatting (h : b.IsSound P) (name : String) : (b.endFormatting name).IsSound P := by
  unfold Builder.endFormatting
  split
  · exact .ite h (h.endFormattingRounds name 8)
  · exact h

theorem endOpenLink (h : b.IsSound P) : b.endOpenLink.IsSound P := by
  unfold Builder.endOpenLink
  split
  · exact h
  · exact (h.endFormatting "a").dropFormatting _

/-! ## Before the body -/

theorem beforeHtml (h : b.IsSound P) (ht : t.IsRead) : (b.beforeHtml t).IsSound P := by
  have hother := h.openNamed "html"
  cases t with
  | comment s => exact h.commentUnder 0 s
  | text s => exact .ite h hother
  | startTag tag => exact .ite (h.openTag ht) hother
  | endTag name => exact .ite hother h
  | _ => exact hother

theorem htmlTag (h : b.IsSound P) (ht : tag.IsRead) : (b.htmlTag tag).IsSound P := by
  unfold Builder.htmlTag
  split
  · exact .ite h (h.addMissing _ ht)
  · exact h

theorem openHead (h : b.IsSound P) (ht : tag.IsRead) : (b.openHead tag).IsSound P := h.insertTag ht

theorem beforeHead (h : b.IsSound P) (ht : t.IsRead) : (b.beforeHead t).IsSound P := by
  have hother := h.openHead (isRead_of_name "head")
  cases t with
  | comment s => exact h.insertComment s
  | text s => exact .ite h hother
  | startTag tag => exact .ite (h.htmlTag ht) (.ite (h.openHead ht) hother)
  | endTag name => exact .ite hother h
  | _ => exact hother

theorem openTemplate (h : b.IsSound P) (ht : tag.IsRead) : (b.openTemplate tag).IsSound P :=
  openTag (b := b.addMarker.noFrameset) h.addMarker ht

theorem headTag (h : b.IsSound P) (ht : tag.IsRead) : (b.headTag tag).IsSound P :=
  .ite (h.insertVoid ht) <| .ite (h.openText ht _) <| .ite (h.openText ht _) <|
    .ite (h.openTemplate ht) (h.openText ht _)

theorem inHead (h : b.IsSound P) (ht : t.IsRead) : (b.inHead t).IsSound P := by
  cases t with
  | comment s => exact h.insertComment s
  | text s => exact .ite (h.insertText s) h
  | startTag tag => exact .ite (h.htmlTag ht) (.ite (h.headTag ht) (.ite h h))
  | endTag name => exact .ite h (.ite h.endTemplate (.ite h h))
  | _ => exact h

theorem lateHeadTag (h : b.IsSound P) (ht : tag.IsRead) : (b.lateHeadTag tag).IsSound P := by
  unfold Builder.lateHeadTag
  split
  · exact h
  · next head _ => exact headTag (b := { b with stack := head :: b.stack }) h ht

theorem afterHead (h : b.IsSound P) (ht : t.IsRead) : (b.afterHead t).IsSound P := by
  have hother := h.openNamed "body"
  cases t with
  | comment s => exact h.insertComment s
  | text s => exact .ite (h.insertText s) hother
  | startTag tag =>
      exact .ite (h.htmlTag ht) <| .ite (h.openTag ht) <| .ite (h.openTag ht) <|
        .ite (h.lateHeadTag ht) <| .ite h hother
  | endTag name => exact .ite h.endTemplate (.ite hother h)
  | _ => exact hother

/-! ## Foreign vocabularies -/

theorem openForeign (h : b.IsSound P) {space : Space} (hspace : space ≠ .html) (ht : tag.IsRead) :
    (b.openForeign space tag).IsSound P := by
  have hnew (name : String) :=
    h.insertElement ⟨space, name⟩ (HoldsOfMade.foreign _ space tag hspace ht)
  exact .ite (hnew _) (hnew _)

/-- The rules for foreign vocabularies are for the inside of their elements. -/
theorem space_of_isForeign (h : b.isForeign t) :
    (b.stack.head?.map (·.tag.space)).getD .html ≠ .html := by
  unfold Builder.isForeign at h
  cases hstack : b.stack with
  | nil => simp [hstack] at h
  | cons o os =>
      rw [hstack] at h
      intro hhtml
      have hspace : o.tag.space = .html := hhtml
      simp [hspace] at h

theorem foreign (h : b.IsSound P) (hforeign : b.isForeign t) {rules : Builder → Token → Builder}
    (hrules : ∀ b : Builder, b.IsSound P → (rules b t).IsSound P) (ht : t.IsRead) :
    (b.foreign rules t).IsSound P := by
  cases t with
  | text s =>
      exact .ite (h.insertText _) <| .ite (h.insertText s) (insertText (b := b.noFrameset) h s)
  | comment s => exact h.insertComment s
  | startTag tag => exact .ite (hrules b.leaveForeign h) (h.openForeign (space_of_isForeign hforeign) ht)
  | endTag name =>
      exact .ite (hrules b.leaveForeign h) (h.foreignEnd (rules · (.endTag name)) (hrules b h) ..)
  | _ => exact h

/-! ## The body -/

theorem bodyTag (h : b.IsSound P) (ht : tag.IsRead) : (b.bodyTag tag).IsSound P := by
  unfold Builder.bodyTag
  split
  · exact .ite h (addMissing (b := b.noFrameset) h _ ht)
  · exact h

theorem lateFrameset (h : b.IsSound P) (ht : tag.IsRead) : (b.lateFrameset tag).IsSound P := by
  unfold Builder.lateFrameset
  split
  · next body _ =>
      have hcut : IsSound P { b with
          document := b.document.detach body.id
          stack := b.stack.drop (b.stack.length - 1) } := ⟨h.elements.detach _, h.tags⟩
      exact .ite (hcut.openTag ht) h
  · exact h

theorem listItem (h : b.IsSound P) (names : List String) (ht : tag.IsRead) :
    (b.listItem names tag).IsSound P := by
  simp only [Builder.listItem]
  refine openTag (closeParagraph ?_) ht
  split
  · exact .ite h h
  · exact h

theorem formTag (h : b.IsSound P) (ht : tag.IsRead) : (b.formTag tag).IsSound P := by
  have hnew := h.closeParagraph.insertTag ht
  exact .ite h (.ite hnew hnew)

theorem openInline (h : b.IsSound P) (ht : tag.IsRead) : (b.openInline tag).IsSound P :=
  h.reconstruct.openTag ht

theorem selectTag (h : b.IsSound P) (ht : tag.IsRead) : (b.selectTag tag).IsSound P :=
  .ite h (h.openInline ht)

theorem optionTag (h : b.IsSound P) (ht : tag.IsRead) : (b.optionTag tag).IsSound P :=
  openInline (.ite (.ite h h) (.ite h h)) ht

theorem bodyStart (h : b.IsSound P) (ht : tag.IsRead) : (b.bodyStart tag).IsSound P := by
  have himage : StartTag.IsRead { tag with name := "img" } := ht
  simp only [Builder.bodyStart]
  refine .ite (h.htmlTag ht) <| .ite (h.headTag ht) <| .ite (h.bodyTag ht) <|
    .ite (h.lateFrameset ht) ?_
  -- blocks, headings, preformatted text, forms, items, plain text
  refine .ite (h.closeParagraph.openTag ht) <|
    .ite (openTag (.ite h.closeParagraph h.closeParagraph) ht) <|
    .ite (h.closeParagraph.openTag ht) <| .ite (h.formTag ht) <| .ite (h.listItem _ ht) <|
    .ite (h.listItem _ ht) <| .ite (h.closeParagraph.openTag ht) ?_
  -- buttons, links and other formatting, islands
  refine .ite (openInline (.ite h h) ht) <|
    .ite (h.endOpenLink.reconstruct.openFormatting ht) <|
    .ite (h.reconstruct.openFormatting ht) <|
    .ite (openFormatting (.ite (h.reconstruct.endFormatting _).reconstruct h.reconstruct) ht) <|
    .ite (h.openInline ht).addMarker ?_
  -- tables, elements without content
  refine .ite (openTag (.ite h h.closeParagraph) ht) <|
    .ite (h.reconstruct.insertVoid ht).noFrameset <|
    .ite (h.reconstruct.insertVoid himage).noFrameset <|
    .ite (.ite (h.endOpenSelect.reconstruct.insertVoid ht)
      (h.endOpenSelect.reconstruct.insertVoid ht)) <|
    .ite (h.insertVoid ht) <| .ite (insertVoid (.ite h.closeParagraph h.closeParagraph) ht) ?_
  -- elements whose content is text
  refine .ite (openText (b := b.noFrameset) h ht (.escapable tag.name)) <|
    .ite (openText (b := b.closeParagraph.reconstruct.noFrameset) h.closeParagraph.reconstruct
      ht _) <|
    .ite (openText (b := b.noFrameset) h ht _) <| .ite (h.openText ht _) ?_
  -- choices, ruby, other vocabularies, and all the rest
  exact .ite (h.selectTag ht) <| .ite (h.optionTag ht) <| .ite (openTag (.ite h h) ht) <|
    .ite (openTag (.ite h h) ht) <| .ite (h.reconstruct.openForeign (by decide) ht) <|
    .ite (h.reconstruct.openForeign (by decide) ht) <| .ite h (h.openInline ht)

theorem bodyEnd (h : b.IsSound P) (name : String) : (b.bodyEnd name).IsSound P :=
  .ite h.endTemplate <| .ite (.ite h h) <| .ite (.ite h h) <| .ite (h.endBlock name) <|
    .ite h.endForm <| .ite (.ite h (h.openNamed "p")) <| .ite (.ite h h) <| .ite (.ite h h) <|
    .ite (.ite h h) <| .ite (h.endFormatting name) <|
    .ite (.ite (h.endBlock name).clearToMarker h) <|
    .ite (h.bodyStart (isRead_of_name name)) (h.closeOrdinary name)

theorem inBody (h : b.IsSound P) (ht : t.IsRead) : (b.inBody t).IsSound P := by
  have htext (s : List Char) := h.reconstruct.insertText s
  cases t with
  | text s => exact .ite h (.ite (htext s) (htext s))
  | comment s => exact h.insertComment s
  | startTag tag => exact h.bodyStart ht
  | endTag name => exact h.bodyEnd name
  | endOfInput => exact .ite h h.endOfTemplate
  | doctype d => exact h

theorem afterBody (h : b.IsSound P) (ht : t.IsRead) : (b.afterBody t).IsSound P := by
  cases t with
  | comment s =>
      simp only [Builder.afterBody]
      split
      · exact h.commentUnder _ s
      · exact h
  | text s => exact .ite (h.inBody trivial) h
  | startTag tag => exact .ite (h.htmlTag ht) h
  | endTag name => exact .ite (.ite h h) h
  | _ => exact h

theorem afterAfterBody (h : b.IsSound P) (ht : t.IsRead) : (b.afterAfterBody t).IsSound P := by
  cases t with
  | comment s => exact h.commentUnder 0 s
  | text s => exact .ite (h.inBody trivial) h
  | startTag tag => exact .ite (h.htmlTag ht) h
  | _ => exact h

/-! ## Tables -/

theorem foster (h : b.IsSound P) (ht : t.IsRead) : (b.foster t).IsSound P :=
  inBody (b := { b with fostering := true }) h ht

theorem openPart (h : b.IsSound P) (within : List String) (ht : tag.IsRead) :
    (b.openPart within tag).IsSound P :=
  openTag (b := b.popDownTo (within ++ ["template", "html"])) h ht

theorem inTable (h : b.IsSound P) (ht : t.IsRead) : (b.inTable t).IsSound P := by
  have hpart (name : String) := h.openPart ["table"] (isRead_of_name name)
  cases t with
  | text s => exact .ite h (h.foster trivial)
  | comment s => exact h.insertComment s
  | startTag tag =>
      have hcaption := openTag (b := (b.popDownTo ["table", "template", "html"]).addMarker)
        h.addMarker ht
      exact .ite hcaption <| .ite (h.openPart _ ht) <| .ite (hpart "colgroup") <|
        .ite (h.openPart _ ht) <|
        .ite (hpart "tbody") <| .ite (.ite h.endTable h) <| .ite (h.headTag ht) <|
        .ite (h.insertVoid ht) <| .ite (.ite h (h.insertTag ht)) (h.foster ht)
  | endTag name => exact .ite h.endTable (.ite h.endTemplate (.ite h (h.foster trivial)))
  | endOfInput => exact h.inBody trivial
  | doctype d => exact h

theorem inTableText (h : b.IsSound P) : (b.inTableText t).IsSound P := by
  have hempty : IsSound P { b with tableText := [] } := h
  have hother := IsSound.ite (c := b.tableText.all isBlankRun = true)
    (foldl (fun _ s hb => hb.insertText s) b.tableText hempty)
    (foldl (f := fun b s => b.foster (.text s)) (fun _ _ hb => hb.foster trivial) b.tableText
      hempty)
  cases t with
  | text s => exact .ite h h
  | _ => exact hother

theorem inCaption (h : b.IsSound P) (ht : t.IsRead) : (b.inCaption t).IsSound P := by
  have hleave : ((b.closeImplied impliedEnds).popUntilNamed "caption").clearToMarker.IsSound P :=
    clearToMarker (b := (b.closeImplied impliedEnds).popUntilNamed "caption") h
  cases t with
  | startTag tag => exact .ite (.ite hleave h) (h.inBody ht)
  | endTag name =>
      exact .ite (.ite hleave h) <| .ite (.ite hleave h) <| .ite h (h.inBody trivial)
  | _ => exact h.inBody trivial

theorem inColumnGroup (h : b.IsSound P) (ht : t.IsRead) : (b.inColumnGroup t).IsSound P := by
  have hother : IsSound P (if b.currentIs ["colgroup"] then b.pop.retry .inTable else b) := .ite h h
  cases t with
  | comment s => exact h.insertComment s
  | text s => exact .ite (h.insertText s) hother
  | startTag tag =>
      exact .ite (h.htmlTag ht) <| .ite (h.insertVoid ht) <| .ite (h.headTag ht) hother
  | endTag name => exact .ite (.ite h h) <| .ite h <| .ite h.endTemplate hother
  | endOfInput => exact h.inBody trivial
  | doctype d => exact h

theorem inTableBody (h : b.IsSound P) (ht : t.IsRead) : (b.inTableBody t).IsSound P := by
  cases t with
  | startTag tag =>
      exact .ite (h.openPart _ ht) <| .ite (h.openPart _ (isRead_of_name "tr")) <|
        .ite (.ite h h) (h.inTable ht)
  | endTag name =>
      exact .ite (.ite h h) <| .ite (.ite h h) <| .ite h (h.inTable trivial)
  | _ => exact h.inTable trivial

theorem inRow (h : b.IsSound P) (ht : t.IsRead) : (b.inRow t).IsSound P := by
  cases t with
  | startTag tag =>
      exact .ite (addMarker (b := (b.openPart ["tr"] tag).setMode .inCell) (h.openPart _ ht)) <|
        .ite (.ite h h) (h.inTable ht)
  | endTag name =>
      exact .ite (.ite h h) <| .ite (.ite h h) <| .ite (.ite (.ite h h) h) <|
        .ite h (h.inTable trivial)
  | _ => exact h.inTable trivial

theorem inCell (h : b.IsSound P) (ht : t.IsRead) : (b.inCell t).IsSound P := by
  cases t with
  | startTag tag => exact .ite (.ite h.closeCell h) (h.inBody ht)
  | endTag name =>
      have hend := clearToMarker (b := (b.closeImplied impliedEnds).popUntilNamed name) h
      exact .ite (.ite hend h) <| .ite h <| .ite (.ite h.closeCell h) (h.inBody trivial)
  | _ => exact h.inBody trivial

/-! ## Templates and frames -/

theorem inTemplate (h : b.IsSound P) (ht : t.IsRead) : (b.inTemplate t).IsSound P := by
  cases t with
  | text s => exact h.inBody trivial
  | comment s => exact h.inBody trivial
  | startTag tag =>
      exact .ite (h.headTag ht) <| .ite h <| .ite h <| .ite h <| .ite h h
  | endTag name => exact .ite h.endTemplate h
  | endOfInput => exact h.endOfTemplate
  | doctype d => exact h

theorem inFrameset (h : b.IsSound P) (ht : t.IsRead) : (b.inFrameset t).IsSound P := by
  cases t with
  | comment s => exact h.insertComment s
  | text s => exact .ite (h.insertText s) h
  | startTag tag =>
      exact .ite (h.htmlTag ht) <| .ite (h.openTag ht) <| .ite (h.insertVoid ht) <|
        .ite (h.headTag ht) h
  | endTag name => exact .ite (.ite h h) h
  | _ => exact h

theorem afterFrameset (h : b.IsSound P) (ht : t.IsRead) : (b.afterFrameset t).IsSound P := by
  cases t with
  | comment s => exact h.insertComment s
  | text s => exact .ite (h.insertText s) h
  | startTag tag => exact .ite (h.htmlTag ht) (.ite (h.headTag ht) h)
  | endTag name => exact .ite h h
  | _ => exact h

theorem afterAfterFrameset (h : b.IsSound P) (ht : t.IsRead) :
    (b.afterAfterFrameset t).IsSound P := by
  cases t with
  | comment s => exact h.commentUnder 0 s
  | text s => exact .ite (h.inBody trivial) h
  | startTag tag => exact .ite (h.htmlTag ht) (.ite (h.headTag ht) h)
  | _ => exact h

/-! ## Tokens -/

theorem rules (h : b.IsSound P) (ht : t.IsRead) : (b.rules t).IsSound P := by
  unfold Builder.rules
  split
  · exact h.initial
  · exact h.beforeHtml ht
  · exact h.beforeHead ht
  · exact h.inHead ht
  · exact h.afterHead ht
  · exact h.inBody ht
  · exact h.inText
  · exact h.inTable ht
  · exact h.inTableText
  · exact h.inCaption ht
  · exact h.inColumnGroup ht
  · exact h.inTableBody ht
  · exact h.inRow ht
  · exact h.inCell ht
  · exact h.inTemplate ht
  · exact h.afterBody ht
  · exact h.inFrameset ht
  · exact h.afterFrameset ht
  · exact h.afterAfterBody ht
  · exact h.afterAfterFrameset ht

theorem settle (h : b.IsSound P) (ht : t.IsRead) (fuel : Nat) : (b.settle t fuel).IsSound P := by
  induction fuel generalizing b with
  | zero => exact h
  | succ fuel ih =>
      have hfresh : IsSound P { b with again := false } := h
      have hround : IsSound P (if Builder.isForeign { b with again := false } t
          then Builder.foreign { b with again := false } Builder.rules t
          else Builder.rules { b with again := false } t) := by
        split
        · next hforeign => exact hfresh.foreign hforeign (fun _ hb => hb.rules ht) ht
        · exact hfresh.rules ht
      exact .ite (ih hround) hround

theorem handle (h : b.IsSound P) (ht : t.IsRead) : (b.handle t).IsSound P := h.settle ht _

theorem take (h : b.IsSound P) (ht : t.IsRead) : (b.take t).IsSound P := by
  have hnext : IsSound P { b with skipLineFeed := false } := h
  unfold Builder.take
  split
  · exact h
  · exact foldl (f := fun b run => b.handle (.text run)) (fun _ _ hb => hb.handle trivial) _ hnext
  · exact hnext.handleDoctype _
  · exact hnext.handle ht

/-- **Reading on keeps what holds of all elements.** -/
theorem readAll (h : b.IsSound P) (s : List Char) : (b.readAll s).IsSound P := by
  fun_induction b.readAll s with
  | case1 => exact h.take trivial
  | case2 b s t rest _ hread _ ih =>
      have ht := isRead_read b.inForeign b.lexing s
      rw [hread] at ht
      exact ih (h.take ht)
  | case3 b s t rest _ hread =>
      have ht := isRead_read b.inForeign b.lexing s
      rw [hread] at ht
      exact h.take ht

end IsSound

end Builder

end Markup

namespace Document

open Markup

variable {P : Element → Prop} [HoldsOfMade P]

/-- **What holds of all elements that are made of tags holds of all elements of a page.** -/
theorem allElements_parse (markup : String) : (parse markup).AllElements P := by
  have hstart : Builder.IsSound P { document := ofRoot .document, mode := .initial } :=
    ⟨allElements_ofRoot nofun, nofun⟩
  exact (hstart.readAll _).elements

/-- And so it does of all elements of a fragment. -/
theorem allElements_parseFragment (markup : String) : (parseFragment markup).AllElements P := by
  have hbody : P (.ofAttrs { name := "body" } []) :=
    HoldsOfMade.plain _ _ (Builder.isRead_of_name "body")
  have hmade := (allElements_ofRoot (P := P) (c := .fragment) nofun).create
    (c := .element (.ofAttrs { name := "body" } [])) fun x hx => by
      obtain rfl := Option.some.inj hx
      exact hbody
  have hstart : Builder.IsSound P
      { document := ((ofRoot .fragment).create (.element (.ofAttrs { name := "body" } []))).1
        mode := .inBody, isFragment := true } := ⟨hmade, nofun⟩
  exact ((hstart.openNamed "html").readAll _).elements

/-! ## Operations -/

theorem AllElements.appendHtml {d : Document} (hd : d.AllElements P) (n : NodeId)
    (markup : String) : (d.appendHtml n markup).AllElements P := by
  rw [appendHtml_eq]
  split
  · exact (hd.absorb (allElements_parseFragment markup)).moveAll _ _
  · exact hd

/-- An operation gives elements no attributes that would make others of them. -/
def Op.Keeps (P : Element → Prop) : Op → Prop
  | .update _ f => ∀ e, P e → P (e.withAttributes (f e.attributes))
  | .appendElement _ name a => P (Element.withAttributes ⟨{ name }, []⟩ a)
  | _ => True

theorem AllElements.perform {d : Document} {op : Op} (hop : op.Keeps P) (hd : d.AllElements P) :
    (d.perform op).AllElements P := by
  cases op with
  | update n f => exact hd.onElement n hop
  | replaceChildren n markup =>
      rw [Document.perform, replaceChildren_eq]
      split
      · exact (hd.of_content? (d.content?_detachAll _)).appendHtml n markup
      · exact hd
  | appendHtml n markup => exact hd.appendHtml n markup
  | appendElement n name a =>
      rw [Document.perform, appendElement_eq]
      split
      · refine (hd.create fun e he => ?_).move _ _
        obtain rfl := Option.some.inj he
        exact hop
      · exact hd

/-- **What holds of all elements that are made of tags, and is kept by operations, holds of all
elements of a page** after them. -/
theorem allElements_run_of_keeps (markup : String) {ops : List Op}
    (hops : ∀ op ∈ ops, op.Keeps P) : ((parse markup).run ops).AllElements P := by
  have hparse : (parse markup).AllElements P := allElements_parse markup
  generalize parse markup = d at hparse
  induction ops generalizing d with
  | nil => exact hparse
  | cons op ops ih =>
      obtain ⟨hop, hops⟩ := List.forall_mem_cons.mp hops
      exact ih hops (d.perform op) (hparse.perform hop)

/-- **What holds of all elements that are made of tags and of all that are given attributes holds of
all elements of a page, whatever is done to it.** -/
theorem allElements_run_parse
    (hP : ∀ (e : Element) (a : Attributes), P (e.withAttributes a)) (markup : String)
    (ops : List Op) : ((parse markup).run ops).AllElements P := by
  refine allElements_run_of_keeps markup fun op _ => ?_
  cases op with
  | update n f => exact fun e _ => hP e _
  | appendElement n name a => exact hP _ a
  | _ => trivial

end Document

end PageDirectives

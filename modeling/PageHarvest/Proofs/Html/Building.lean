import PageHarvest.Html.Parse
import PageHarvest.Proofs.Html.Edit

namespace PageHarvest.Html

namespace Document

variable {d : Document} {id x : NodeId}

theorem Built.size_ne_root (h : d.Built) : d.nodes.size ≠ root :=
  Nat.ne_of_gt (h.linked.lt_size .top)

theorem size_create (d : Document) (c : Content) : (d.create c).nodes.size = d.nodes.size + 1 :=
  Array.size_push _

@[simp] theorem size_append (d : Document) (p id : NodeId) :
    (d.append p id).nodes.size = d.nodes.size := by
  simp [append]

theorem Built.createElement (h : d.Built) (e : Element) : (d.createElement e).Built := by
  unfold Document.createElement
  dsimp only
  split
  · refine .append _ (.create _ (.create _ h)) (Nat.succ_ne_zero _) ?_
    rw [size_create, size_create]
    exact Nat.lt_succ_self _
  · exact .create _ h

theorem lt_size_createElement (d : Document) (e : Element) :
    d.nodes.size < (d.createElement e).nodes.size := by
  unfold createElement
  dsimp only
  split
  · rw [size_append, size_create, size_create]
    omega
  · rw [size_create]
    exact Nat.lt_succ_self _

theorem Built.append_created (h : d.Built) (c : Content) (p : NodeId) :
    ((d.create c).append p d.nodes.size).Built := by
  refine .append p (.create c h) h.size_ne_root ?_
  rw [size_create]
  exact Nat.lt_succ_self _

theorem Built.appendChar (h : d.Built) (p : NodeId) (c : Char) : (d.appendChar p c).Built := by
  unfold Document.appendChar
  split
  · exact .extendText _ c h
  · exact h.append_created _ p

theorem Built.insertCharBefore (h : d.Built) (sibling : NodeId) (c : Char) :
    (d.insertCharBefore sibling c).Built := by
  unfold Document.insertCharBefore
  split
  · exact .extendText _ c h
  · split
    · refine .insertBefore sibling (.create _ h) h.size_ne_root ?_
      rw [size_create]
      exact Nat.lt_succ_self _
    · exact h

theorem Built.foldl_append {ids : List NodeId} (h : d.Built) (target : NodeId)
    (hids : ∀ id ∈ ids, id ≠ root ∧ id < d.nodes.size) :
    (ids.foldl (fun d id => d.append target id) d).Built := by
  induction ids generalizing d with
  | nil => exact h
  | cons id ids ih =>
    obtain ⟨hid, hids⟩ := List.forall_mem_cons.1 hids
    refine ih (.append target h hid.1 hid.2) ?_
    intro i hi
    rw [size_append]
    exact hids i hi

theorem Built.moveChildren (h : d.Built) (source target : NodeId) :
    (d.moveChildren source target).Built := by
  refine h.foldl_append target ?_
  intro c hc
  have hp := h.linked.parent?_of_mem hc
  refine ⟨?_, lt_size_of_parent? hp⟩
  rintro rfl
  rw [h.linked.parent?_root] at hp
  cases hp

@[simp] theorem size_moveChildren (d : Document) (source target : NodeId) :
    (d.moveChildren source target).nodes.size = d.nodes.size := by
  unfold moveChildren
  generalize d.children source = ids
  induction ids generalizing d with
  | nil => rfl
  | cons id ids ih => rw [List.foldl_cons, ih, size_append]

theorem Built.inside_of_element? {e : Element} (h : d.Built) (he : d.element? id = some e) :
    id ≠ root ∧ id < d.nodes.size := by
  constructor
  · rintro rfl
    rw [element?, h.linked.content_root] at he
    cases he
  · by_contra hn
    rw [element?, content, Array.getElem?_eq_none (Nat.le_of_not_lt hn)] at he
    cases he

end Document

namespace Builder

variable {b : Builder}

-- They are proved by rewriting, because a lemma that is true by `rfl` is of no use to `simp` in a
-- side condition here.

@[simp] theorem page_pop : b.pop.page = b.page := by
  rw [pop]

@[simp] theorem page_popWhile (p : Element → Bool) : (b.popWhile p).page = b.page := by
  rw [popWhile]

@[simp] theorem page_popUntilCurrent (p : Element → Bool) :
    (b.popUntilCurrent p).page = b.page := by
  rw [popUntilCurrent]

@[simp] theorem page_popThrough (p : Element → Bool) : (b.popThrough p).page = b.page := by
  rw [popThrough, page_pop, page_popUntilCurrent]

@[simp] theorem page_popThroughName (name : String) : (b.popThroughName name).page = b.page := by
  rw [popThroughName, page_popThrough]

@[simp] theorem page_endImplied (names : List String) : (b.endImplied names).page = b.page := by
  rw [endImplied, page_popWhile]

@[simp] theorem page_endImpliedExcept (name : String) :
    (b.endImpliedExcept name).page = b.page := by
  rw [endImpliedExcept, page_popWhile]

@[simp] theorem page_closeParagraph : b.closeParagraph.page = b.page := by
  rw [closeParagraph, page_popThroughName, page_endImpliedExcept]

@[simp] theorem page_closeOpenParagraph : b.closeOpenParagraph.page = b.page := by
  unfold closeOpenParagraph
  split <;> rfl

@[simp] theorem page_setMarker : b.setMarker.page = b.page := by
  rw [setMarker]

@[simp] theorem page_clearToMarker : b.clearToMarker.page = b.page := by
  rw [clearToMarker]

@[simp] theorem page_replaceFormatting (id : NodeId) (entry : Formatting) :
    (b.replaceFormatting id entry).page = b.page := by
  rw [replaceFormatting]

@[simp] theorem page_closeAny (name : String) : (b.closeAny name).page = b.page := by
  unfold closeAny
  split <;> rfl

@[simp] theorem page_inMode (mode : Mode) : (b.inMode mode).page = b.page := by
  rw [inMode]

@[simp] theorem page_resetMode : b.resetMode.page = b.page := by
  rw [resetMode, page_inMode]

@[simp] theorem page_done : b.done.1.page = b.page := by
  rw [done]

@[simp] theorem page_againIn (mode : Mode) : (b.againIn mode).1.page = b.page := by
  rw [againIn, page_inMode]

@[simp] theorem page_noFrameset : b.noFrameset.page = b.page := by
  rw [noFrameset]

@[simp] theorem page_closeItem (names : List String) : (b.closeItem names).page = b.page := by
  unfold closeItem
  split <;> rfl

@[simp] theorem page_popIf (name : String) : (b.popIf name).page = b.page := by
  unfold popIf
  split <;> rfl

@[simp] theorem page_closeTemplate : b.closeTemplate.page = b.page := by
  unfold closeTemplate
  split <;> rfl

@[simp] theorem page_closeSelect : b.closeSelect.page = b.page := by
  rw [closeSelect, page_resetMode, page_popThroughName]

@[simp] theorem page_closeCell : b.closeCell.page = b.page := by
  rw [closeCell, page_clearToMarker, page_popThrough, page_endImplied]

@[simp] theorem page_clearToTable : b.clearToTable.page = b.page := by
  rw [clearToTable, page_popUntilCurrent]

@[simp] theorem page_clearToSection : b.clearToSection.page = b.page := by
  rw [clearToSection, page_popUntilCurrent]

@[simp] theorem page_clearToRow : b.clearToRow.page = b.page := by
  rw [clearToRow, page_popUntilCurrent]

@[simp] theorem page_turnInto (mode : Mode) : (b.turnInto mode).1.page = b.page := by
  rw [turnInto, page_againIn]

@[simp] theorem page_finishTemplate : b.finishTemplate.1.page = b.page := by
  unfold finishTemplate
  split <;> rfl

@[simp] theorem page_closeForm : b.closeForm.page = b.page := by
  unfold closeForm
  split
  · split <;> rfl
  · split
    · rfl
    · dsimp only
      split <;> rfl

theorem page_of_closeForeign? {b' : Builder} {name : String} (h : b.closeForeign? name = some b') :
    b'.page = b.page := by
  obtain ⟨stack, -, rfl⟩ := Option.map_eq_some_iff.1 h
  rfl

@[simp] theorem built_ite_iff {b' : Builder} {q : Prop} [Decidable q] :
    (if q then b else b').page.Built ↔ if q then b.page.Built else b'.page.Built := by
  split <;> rfl

@[simp] theorem built_ite_fst_iff {r r' : Builder × Next} {q : Prop} [Decidable q] :
    (if q then r else r').1.page.Built ↔ if q then r.1.page.Built else r'.1.page.Built := by
  split <;> rfl

theorem built_ite {b' : Builder} {q : Prop} [Decidable q] (h : b.page.Built)
    (h' : b'.page.Built) : (if q then b else b').page.Built := by
  split
  · exact h
  · exact h'

theorem built_ite_fst {r r' : Builder × Next} {q : Prop} [Decidable q] (h : r.1.page.Built)
    (h' : r'.1.page.Built) : (if q then r else r').1.page.Built := by
  split
  · exact h
  · exact h'

@[simp] theorem built_insertAt {id : NodeId} (h : b.page.Built) (place : Place)
    (hne : id ≠ Document.root) (hid : id < b.page.nodes.size) :
    (b.insertAt place id).page.Built := by
  cases place with
  | lastChild parent => exact .append parent h hne hid
  | before sibling => exact .insertBefore sibling h hne hid

@[simp] theorem built_appendChar (h : b.page.Built) (c : Char) : (b.appendChar c).page.Built := by
  unfold appendChar
  split
  · exact h.appendChar _ c
  · exact h.insertCharBefore _ c

@[simp] theorem built_commentIn (h : b.page.Built) (parent : NodeId) (text : String) :
    (b.commentIn parent text).page.Built :=
  h.append_created _ parent

@[simp] theorem built_appendComment (h : b.page.Built) (text : String) :
    (b.appendComment text).page.Built := by
  refine built_insertAt (.create _ h) _ h.size_ne_root ?_
  rw [Document.size_create]
  exact Nat.lt_succ_self _

@[simp] theorem built_insert (h : b.page.Built) (e : Element) : (b.insert e).page.Built :=
  built_insertAt (h.createElement e) _ h.size_ne_root (Document.lt_size_createElement _ e)

@[simp] theorem built_openElement (h : b.page.Built) (e : Element) : (b.openElement e).page.Built :=
  built_insert h e

@[simp] theorem built_openTag (h : b.page.Built) (t : Tag) : (b.openTag t).page.Built :=
  built_insert h _

@[simp] theorem built_insertTag (h : b.page.Built) (t : Tag) : (b.insertTag t).page.Built :=
  built_insert h _

@[simp] theorem built_openImplied (h : b.page.Built) (name : String) :
    (b.openImplied name).page.Built :=
  built_insert h _

@[simp] theorem built_insertRaw (h : b.page.Built) (t : Tag) (kind : RawKind) :
    (b.insertRaw t kind).1.page.Built :=
  built_insert h _

@[simp] theorem built_openRoot (h : b.page.Built) (attributes : List Attribute) :
    (b.openRoot attributes).page.Built :=
  .append _ (h.createElement _) h.size_ne_root (Document.lt_size_createElement _ _)

@[simp] theorem built_mergeRoot (h : b.page.Built) (t : Tag) : (b.mergeRoot t).page.Built := by
  unfold mergeRoot
  split
  · exact built_ite h (.addMissingAttributes _ _ h)
  · exact h

theorem built_reopen (h : b.page.Built) (entry : NodeId × Tag) : (b.reopen entry).page.Built :=
  built_openTag h entry.2

theorem built_foldl {α : Type} {f : Builder → α → Builder}
    (hf : ∀ b : Builder, b.page.Built → ∀ a, (f b a).page.Built) (h : b.page.Built) (l : List α) :
    (l.foldl f b).page.Built := by
  induction l generalizing b with
  | nil => exact h
  | cons a l ih => exact ih (hf b h a)

@[simp] theorem built_reconstruct (h : b.page.Built) : b.reconstruct.page.Built :=
  built_foldl (fun _ h entry => built_reopen h entry) h _

@[simp] theorem built_openFormatting (h : b.page.Built) (t : Tag) :
    (b.openFormatting t).page.Built := by
  unfold openFormatting
  refine built_openTag ?_ t
  split <;> exact h

/-- What holds of the elements that have been taken so far. -/
structure Unwinding.Sound (u : Unwinding) : Prop where
  built : u.builder.page.Built
  last_ne_root : u.last ≠ Document.root
  last_lt_size : u.last < u.builder.page.nodes.size

theorem Unwinding.Sound.step {u : Unwinding} (hu : u.Sound) (block id : NodeId) :
    (u.step block id).Sound := by
  unfold Unwinding.step
  dsimp only
  split
  · split
    · exact ⟨hu.built, hu.last_ne_root, hu.last_lt_size⟩
    · refine ⟨?_, hu.built.size_ne_root, ?_⟩
      · refine .append _ (hu.built.createElement _) hu.last_ne_root ?_
        exact Nat.lt_trans hu.last_lt_size (Document.lt_size_createElement _ _)
      · rw [page_replaceFormatting, Document.size_append]
        exact Document.lt_size_createElement _ _
  · exact ⟨hu.built, hu.last_ne_root, hu.last_lt_size⟩

theorem Unwinding.Sound.foldl {u : Unwinding} (hu : u.Sound) (block : NodeId)
    (ids : List NodeId) : (ids.foldl (Unwinding.step block) u).Sound := by
  induction ids generalizing u with
  | nil => exact hu
  | cons id ids ih => exact ih (hu.step block id)

/-- A formatting element is taken apart around an element, never around the page itself. -/
theorem built_splitAround {block : NodeId} {p : Element → Bool} (h : b.page.Built) (id : NodeId)
    (tag : Tag) (hblock : b.has block p = true) : (b.splitAround id tag block).page.Built := by
  obtain ⟨e, he, -⟩ := (Option.any_eq_true _ _).1 hblock
  obtain ⟨hne, hlt⟩ := h.inside_of_element? he
  have first : Unwinding.Sound { builder := b, last := block } := ⟨h, hne, hlt⟩
  unfold splitAround
  dsimp only
  generalize hu : List.foldl (Unwinding.step block) _ _ = u
  have sound : u.Sound := hu ▸ first.foldl block _
  generalize hm : Builder.insertAt _ _ u.last = moved
  have hmoved : moved.page.Built := by
    rw [← hm]
    refine built_insertAt (.detach _ sound.built) _ sound.last_ne_root ?_
    rw [Document.size_detach]
    exact sound.last_lt_size
  have around : (((moved.page.createElement (htmlElement tag)).moveChildren block
      moved.page.nodes.size).append block moved.page.nodes.size).Built := by
    refine .append _ ((hmoved.createElement _).moveChildren _ _) hmoved.size_ne_root ?_
    rw [Document.size_moveChildren]
    exact Document.lt_size_createElement _ _
  split <;> exact around

theorem built_closeFormattingRounds (h : b.page.Built) (name : String) (rounds : Nat) :
    (b.closeFormattingRounds name rounds).page.Built := by
  induction rounds generalizing b with
  | zero => exact h
  | succ rounds ih =>
    unfold closeFormattingRounds
    split
    · rwa [page_closeAny]
    · refine built_ite h (built_ite h ?_)
      split
      · exact h
      · rename_i block hblock
        have special := List.find?_some hblock
        exact ih (built_splitAround h _ _ special)

@[simp] theorem built_closeFormatting (h : b.page.Built) (name : String) :
    (b.closeFormatting name).page.Built :=
  built_ite h (built_closeFormattingRounds h name 8)

@[simp] theorem built_closeOpenLink (h : b.page.Built) : b.closeOpenLink.page.Built := by
  unfold closeOpenLink
  split
  · exact h
  · exact built_closeFormatting h "a"

theorem built_insertForeign (h : b.page.Built) (t : Tag) (e : Element) :
    (b.insertForeign t e).page.Built :=
  built_ite (built_insert h e) (built_openElement h e)

@[simp] theorem built_enterForeign (h : b.page.Built) (t : Tag) (space : Space) :
    (b.enterForeign t space).page.Built :=
  built_insertForeign h t _

@[simp] theorem built_inForeign (h : b.page.Built) (item : Item) :
    (b.inForeign item).1.page.Built := by
  unfold inForeign
  cases item with
  | char c =>
    dsimp only
    split
    · exact built_appendChar h _
    · refine built_appendChar ?_ c
      split <;> exact h
  | comment text => exact built_appendComment h text
  | opening t =>
    dsimp only
    split
    · exact h
    · split
      · exact built_insertForeign h t _
      · exact h
  | closing name =>
    dsimp only
    split
    · exact h
    · split
      · rename_i hclosed
        rwa [page_of_closeForeign? hclosed]
      · exact h
  | finish => exact h

end Builder
end PageHarvest.Html

import PageHarvest.Proofs.Html.Building

namespace PageHarvest.Html

namespace Builder

variable {b : Builder}

@[simp] theorem built_openTemplate (h : b.page.Built) (t : Tag) : (b.openTemplate t).page.Built :=
  built_openTag h t

@[simp] theorem built_headTag (h : b.page.Built) (t : Tag) : (b.headTag t).1.page.Built := by
  simp [headTag, h]

@[simp] theorem built_openHead (h : b.page.Built) (t : Tag) : (b.openHead t).page.Built :=
  built_openTag h t

theorem built_start (h : b.page.Built) (item : Item) : (b.start item).1.page.Built := by
  unfold start
  cases item <;> simp [h]

theorem built_beforeHtml (h : b.page.Built) (item : Item) : (b.beforeHtml item).1.page.Built := by
  unfold beforeHtml
  cases item <;> simp [h]

theorem built_beforeHead (h : b.page.Built) (item : Item) : (b.beforeHead item).1.page.Built := by
  unfold beforeHead
  cases item <;> simp [h]

theorem built_inHead (h : b.page.Built) (item : Item) : (b.inHead item).1.page.Built := by
  unfold inHead
  cases item <;> simp [h]

theorem built_afterHead (h : b.page.Built) (item : Item) : (b.afterHead item).1.page.Built := by
  unfold afterHead
  cases item with
  | opening t =>
    dsimp only
    refine built_ite_fst (built_mergeRoot h t) (built_ite_fst ?_ (built_ite_fst ?_ ?_))
    · simp [h]
    · simp [h]
    · refine built_ite_fst ?_ ?_
      · split
        · exact h
        · rename_i head hhead
          exact built_headTag (b := { b with stack := head :: b.stack }) h t
      · simp [h]
  | _ => simp [h]

@[simp] theorem built_openBlock (h : b.page.Built) (t : Tag) : (b.openBlock t).page.Built := by
  simp [openBlock, h]

@[simp] theorem built_bodyChar (h : b.page.Built) (c : Char) : (b.bodyChar c).page.Built := by
  simp [bodyChar, h]

@[simp] theorem built_bodyVoid (h : b.page.Built) (t : Tag) : (b.bodyVoid t).page.Built := by
  simp [bodyVoid, h]

theorem built_bodyOpening (h : b.page.Built) (t : Tag) : (b.bodyOpening t).1.page.Built := by
  have link := built_reconstruct (built_closeOpenLink h)
  have unbroken := built_reconstruct (built_closeFormatting (built_reconstruct h) "nobr")
  unfold bodyOpening
  dsimp only
  refine built_ite_fst (built_mergeRoot h t) (built_ite_fst (built_headTag h t) ?_)
  refine built_ite_fst ?_ (built_ite_fst ?_ ?_)
  · split
    · exact .addMissingAttributes _ _ h
    · exact h
  · split
    · exact built_openTag (.detach _ h) t
    · exact h
  · simp [h, link, unbroken]

theorem built_bodyClosing (h : b.page.Built) (name : String) :
    (b.bodyClosing name).1.page.Built := by
  simp [bodyClosing, h]

@[simp] theorem built_inBody (h : b.page.Built) (item : Item) : (b.inBody item).1.page.Built := by
  unfold inBody
  cases item with
  | opening t => exact built_bodyOpening h t
  | closing name => exact built_bodyClosing h name
  | _ => simp [h]

theorem built_afterBody (h : b.page.Built) (item : Item) : (b.afterBody item).1.page.Built := by
  unfold afterBody
  cases item <;> simp [h]

theorem built_afterPage (h : b.page.Built) (item : Item) : (b.afterPage item).1.page.Built := by
  unfold afterPage
  cases item <;> simp [h]

theorem built_inFrameset (h : b.page.Built) (item : Item) : (b.inFrameset item).1.page.Built := by
  unfold inFrameset
  cases item <;> simp [h]

theorem built_afterFrameset (h : b.page.Built) (item : Item) :
    (b.afterFrameset item).1.page.Built := by
  unfold afterFrameset
  cases item <;> simp [h]

theorem built_afterFramesetPage (h : b.page.Built) (item : Item) :
    (b.afterFramesetPage item).1.page.Built := by
  unfold afterFramesetPage
  cases item <;> simp [h]

@[simp] theorem built_fosterInBody (h : b.page.Built) (item : Item) :
    (b.fosterInBody item).1.page.Built :=
  built_inBody (b := { b with fostering := true }) h item

@[simp] theorem built_inTable (h : b.page.Built) (item : Item) : (b.inTable item).1.page.Built := by
  unfold inTable
  cases item <;> simp [h]

@[simp] theorem built_flushTableText (h : b.page.Built) : b.flushTableText.page.Built := by
  have h' : { b with tableText := [] }.page.Built := h
  unfold flushTableText
  refine built_ite ?_ ?_
  · exact built_foldl (fun _ h c => built_appendChar h c) h' _
  · exact built_foldl (fun _ h c => built_fosterInBody h (.char c)) h' _

theorem built_inTableText (h : b.page.Built) (item : Item) :
    (b.inTableText item).1.page.Built := by
  unfold inTableText
  cases item <;> simp [h]

theorem built_inCaption (h : b.page.Built) (item : Item) : (b.inCaption item).1.page.Built := by
  unfold inCaption
  cases item <;> simp [h]

theorem built_inColumns (h : b.page.Built) (item : Item) : (b.inColumns item).1.page.Built := by
  unfold inColumns
  cases item <;> simp [h]

theorem built_inSection (h : b.page.Built) (item : Item) : (b.inSection item).1.page.Built := by
  unfold inSection
  cases item <;> simp [h]

theorem built_inRow (h : b.page.Built) (item : Item) : (b.inRow item).1.page.Built := by
  unfold inRow
  cases item <;> simp [h]

theorem built_inCell (h : b.page.Built) (item : Item) : (b.inCell item).1.page.Built := by
  unfold inCell
  cases item <;> simp [h]

@[simp] theorem built_inSelect (h : b.page.Built) (item : Item) :
    (b.inSelect item).1.page.Built := by
  unfold inSelect
  cases item <;> simp [h]

theorem built_inSelectInTable (h : b.page.Built) (item : Item) :
    (b.inSelectInTable item).1.page.Built := by
  unfold inSelectInTable
  cases item <;> simp [h]

theorem built_inTemplate (h : b.page.Built) (item : Item) : (b.inTemplate item).1.page.Built := by
  unfold inTemplate
  cases item <;> simp [h]

theorem built_takeInMode (h : b.page.Built) (item : Item) : (b.takeInMode item).1.page.Built := by
  unfold takeInMode
  cases b.mode with
  | start => exact built_start h item
  | beforeHtml => exact built_beforeHtml h item
  | beforeHead => exact built_beforeHead h item
  | inHead => exact built_inHead h item
  | afterHead => exact built_afterHead h item
  | inBody => exact built_inBody h item
  | inTable => exact built_inTable h item
  | inTableText => exact built_inTableText h item
  | inCaption => exact built_inCaption h item
  | inColumns => exact built_inColumns h item
  | inSection => exact built_inSection h item
  | inRow => exact built_inRow h item
  | inCell => exact built_inCell h item
  | inSelect => exact built_inSelect h item
  | inSelectInTable => exact built_inSelectInTable h item
  | inTemplate => exact built_inTemplate h item
  | afterBody => exact built_afterBody h item
  | inFrameset => exact built_inFrameset h item
  | afterFrameset => exact built_afterFrameset h item
  | afterPage => exact built_afterPage h item
  | afterFramesetPage => exact built_afterFramesetPage h item

theorem built_takeOnce (h : b.page.Built) (item : Item) : (b.takeOnce item).1.page.Built := by
  unfold takeOnce
  have hforeign := built_inForeign h item
  refine built_ite_fst ?_ (built_takeInMode h item)
  split
  · rename_i b' heq
    rw [heq] at hforeign
    exact hforeign
  · rename_i b' heq
    rw [heq] at hforeign
    exact built_takeInMode hforeign item

theorem built_takeRounds (h : b.page.Built) (item : Item) (rounds : Nat) :
    (b.takeRounds item rounds).1.page.Built := by
  induction rounds generalizing b with
  | zero => exact h
  | succ rounds ih =>
    have once := built_takeOnce h item
    unfold takeRounds
    split
    · rename_i b' heq
      rw [heq] at once
      exact ih once
    · exact once

theorem built_take (h : b.page.Built) (item : Item) : (b.take item).1.page.Built :=
  built_takeRounds h item _

theorem built_takeChars (h : b.page.Built) (run : List Char) : (b.takeChars run).page.Built :=
  built_foldl (fun _ h c => built_take h (.char c)) h run

theorem built_takeDoctype (h : b.page.Built) (d : Doctype) : (b.takeDoctype d).page.Built :=
  built_ite (h.append_created _ _) h

theorem built_takeToken (h : b.page.Built) (token : Token) :
    (b.takeToken token).1.page.Built := by
  unfold takeToken
  have h' : { b with dropsFeed := false }.page.Built := h
  cases token with
  | opening t => exact built_take h' (.opening t)
  | closing name => exact built_take h' (.closing name)
  | comment text => exact built_take h' (.comment text)
  | doctype d => exact built_takeDoctype h' d
  | chars run => exact built_takeChars h' _

theorem built_takeRaw (h : b.page.Built) (kind : RawKind) (id : NodeId) (name : String)
    (s : List Char) : (b.takeRaw kind id name s).1.page.Built := by
  unfold takeRaw
  dsimp only
  generalize withoutFeed _ _ = text
  generalize b.page = page at h
  induction text generalizing page with
  | nil => exact h
  | cons c text ih => exact ih _ (h.appendChar id c)

theorem built_advance (h : b.page.Built) (token? : Option Token) (rest : List Char) :
    (b.advance token? rest).1.page.Built := by
  unfold advance
  split
  · exact h
  · rename_i token
    have taken := built_takeToken h token
    split
    · rename_i b' kind id name heq
      rw [heq] at taken
      exact built_takeRaw taken kind id name rest
    · rename_i b' next heq
      rw [heq] at taken
      exact taken

theorem built_read (h : b.page.Built) (s : List Char) : (b.read s).page.Built := by
  fun_induction read b s with
  | case1 b => exact built_take h .finish
  | case2 b c r hplain =>
    have h' : { b with dropsFeed := false }.page.Built := h
    exact built_take (built_takeChars h' _) .finish
  | case3 b c r hplain token? rest heq ih => exact ih (built_advance h token? rest)

end Builder

theorem Document.built_parse (text : String) : (Document.parse text).Built :=
  Builder.built_read .blank _

end PageHarvest.Html

import PageHarvest.Proofs.Advice.Pattern
import PageHarvest.Proofs.Advice.Shape
import PageHarvest.Proofs.Text.Run

namespace PageHarvest.Advice

open Json (Value tick)
open Text (trim trimmed)

/-- A block: a fence and a word, the lines that it holds, and another fence. -/
def block (info content : String) : String :=
  "\x60\x60\x60" ++ info ++ "\n" ++ content ++ "\n\x60\x60\x60"

/-- No fence stands in the text, and none can start at its end. -/
structure Leads (s : List Char) : Prop where
  unfenced : ¬fence <:+: s
  ending : s.getLast? ≠ some tick

theorem Leads.cut_eq {a : List Char} (h : Leads a) (b : List Char) :
    Text.cut? fence (a ++ (fence ++ b)) = some (a, b) := by
  apply Text.cut?_append
  rintro c back ⟨front, rfl⟩ hp
  -- The text would end with a part of the fence that is found, or the fence would stand in it.
  cases back with
  | nil =>
    obtain rfl : tick = c := (List.cons_prefix_cons.1 hp).1
    exact h.ending (by simp)
  | cons d back =>
    obtain ⟨hc, hp⟩ := List.cons_prefix_cons.1 hp
    obtain ⟨hd, hp⟩ := List.cons_prefix_cons.1 hp
    cases back with
    | nil => exact h.ending (by rw [← hd]; simp [tick])
    | cons e back =>
      have he := (List.cons_prefix_cons.1 hp).1
      refine h.unfenced ⟨front, back, ?_⟩
      rw [← hc, ← hd, ← he]
      simp [fence]

theorem leads_line {s : List Char} (h : ¬fence <:+: s) : Leads (s ++ ['\n']) where
  unfenced := by
    intro hf
    rw [List.infix_concat_iff] at hf
    rcases hf with ⟨front, hs⟩ | hf
    · have last := congrArg List.getLast? hs
      simp [fence] at last
    · exact h hf
  ending := by simp [tick]

theorem dropInfo_line {info : List Char} (h : ∀ c ∈ info, isInfoChar c = true) (s : List Char) :
    dropInfo (info ++ '\n' :: s) = s := by
  have word : Text.WholeRun isInfoChar info ('\n' :: s) := ⟨h, by simp [isInfoChar]⟩
  rw [dropInfo, word.dropWhile_eq]
  rfl

theorem payload_block {before info content : String} (hb : Leads before.toList)
    (hi : ∀ c ∈ info.toList, isInfoChar c = true) (hc : ¬fence <:+: content.toList)
    (after : String) : payload (before ++ block info content ++ after) = trimmed content := by
  have written : (before ++ block info content ++ after).toList =
      before.toList ++ (fence ++ (info.toList ++ '\n' :: (content.toList ++ ['\n'] ++
        (fence ++ after.toList)))) := by
    simp [block, fence]
  have found : fenced? (before ++ block info content ++ after).toList =
      some (content.toList ++ ['\n']) := by
    rw [fenced?, written, hb.cut_eq]
    change ((Text.cut? fence (dropInfo _)).bind fun x => some x.1) = _
    rw [dropInfo_line hi, (leads_line hc).cut_eq]
    rfl
  rw [payload, found, Option.getD_some, Text.trim_concat_blank (by decide), trimmed]

theorem not_fenced_of_noFence {s : List Char} (h : ¬fence <:+: s) : ¬Fenced s := by
  rintro ⟨a, b, c, rfl⟩
  exact h ⟨a, b ++ (fence ++ c), by simp⟩

theorem not_infix_of_fenced? {s content : List Char} (h : fenced? s = some content) :
    ¬fence <:+: content := by
  obtain ⟨⟨before, opened⟩, -, h⟩ := Option.bind_eq_some_iff.1 h
  obtain ⟨⟨found, after⟩, hclose, h⟩ := Option.bind_eq_some_iff.1 h
  cases h
  exact Text.not_infix_of_cut? (List.cons_ne_nil _ _) hclose

theorem Fenced.of_trim {s : List Char} (h : Fenced (trim s)) : Fenced s := by
  obtain ⟨front, back, hs, -, -⟩ := Text.exists_trim s
  obtain ⟨a, b, c, ht⟩ := h
  exact ⟨front ++ a, b, c ++ back, by rw [hs, ht]; simp⟩

theorem toList_payload (raw : String) :
    (payload raw).toList = trim ((fenced? raw.toList).getD raw.toList) :=
  String.toList_ofList

theorem not_fenced_payload (raw : String) : ¬Fenced (payload raw).toList := by
  rw [toList_payload]
  intro h
  have whole := h.of_trim
  cases hf : fenced? raw.toList with
  | some content =>
    rw [hf] at whole
    exact not_fenced_of_noFence (not_infix_of_fenced? hf) whole
  | none =>
    rw [hf, Option.getD_none] at whole
    obtain ⟨content, hcontent⟩ := exists_fenced? whole
    rw [hf] at hcontent
    cases hcontent

theorem trimmed_payload (raw : String) : trimmed (payload raw) = payload raw := by
  rw [trimmed, toList_payload, Text.trim_trim, payload]

theorem payload_payload (raw : String) : payload (payload raw) = payload raw := by
  rw [payload_of_not_fenced (not_fenced_payload raw), trimmed_payload]

theorem read_eq_iff_of_payload_eq {raw raw' : String} {a : Advice}
    (h : payload raw = payload raw') (ha : ∀ content, a ≠ .text content) :
    read raw = a ↔ read raw' = a := by
  rw [read, read, h]
  cases Value.parse (payload raw') with
  | error fault => exact iff_of_false (ha _ ·.symm) (ha _ ·.symm)
  | ok v =>
    dsimp only
    cases ofValue? v with
    | none => exact iff_of_false (ha _ ·.symm) (ha _ ·.symm)
    | some b => rfl

/--
The payload of a response is what the best match of a fenced block holds at the first place that has
one, or the whole response, trimmed. Text without fences comes back from a block, whatever word
stands behind its first fence and whatever stands around it, as long as what is before leads to the
block. A response that is not fenced is its own payload. A payload is never fenced, neither starts
nor ends with a blank, and is its own payload. So a text that advises something advises the same in
a block.
-/
theorem payload_recovers :
    (∀ raw, payload raw = String.ofList
      (trim (((search fencedBlock raw.toList).bind (·[5]?)).getD raw.toList))) ∧
    (∀ before info content after : String, Leads before.toList →
      (∀ c ∈ info.toList, isInfoChar c = true) → ¬fence <:+: content.toList →
      payload (before ++ block info content ++ after) = trimmed content ∧
        (∀ v a, Value.parse (trimmed content) = .ok v → Advises v a →
          read (before ++ block info content ++ after) = a ∧ read content = a) ∧
        ∀ a, (∀ t, a ≠ .text t) →
          (read (before ++ block info content ++ after) = a ↔ read content = a)) ∧
    (∀ raw, ¬Fenced raw.toList → payload raw = trimmed raw) ∧
    ∀ raw, ¬Fenced (payload raw).toList ∧
      (∀ c ∈ (payload raw).toList.head?, Text.isBlank c = false) ∧
      (∀ c ∈ (payload raw).toList.getLast?, Text.isBlank c = false) ∧
      payload (payload raw) = payload raw := by
  refine ⟨?_, ?_, fun raw => payload_of_not_fenced, ?_⟩
  · intro raw
    rw [payload, fenced?_eq_search]
  · intro before info content after hb hi hc
    have held := payload_block hb hi hc after
    have alone := payload_of_not_fenced (not_fenced_of_noFence hc)
    refine ⟨held, fun v a hv ha => ?_, fun a ha => ?_⟩
    · exact ⟨read_of_advises (held ▸ hv) ha, read_of_advises (alone ▸ hv) ha⟩
    · exact read_eq_iff_of_payload_eq (held.trans alone.symm) ha
  · intro raw
    have ends := Text.trim_eq_self_iff.1 (Text.trim_trim ((fenced? raw.toList).getD raw.toList))
    rw [← toList_payload] at ends
    exact ⟨not_fenced_payload raw, ends.1, ends.2, payload_payload raw⟩

def methodText : String :=
  " \x7b\"recommendation\": \"Use Selenium\", \"reason\": \"JS rendered\"\x7d"

theorem payload_recovers_methodText :
    Leads "Here you go:\n".toList ∧ (∀ c ∈ "json".toList, isInfoChar c = true) ∧
      ¬fence <:+: methodText.toList ∧
      payload ("Here you go:\n" ++ block "json" methodText ++ " \x60") = trimmed methodText ∧
      read methodText = .method "Use Selenium" "JS rendered" ∧
      read ("Here you go:\n" ++ block "json" methodText ++ " \x60") =
        .method "Use Selenium" "JS rendered" := by
  have leads : Leads "Here you go:\n".toList := ⟨by decide, by decide⟩
  have info : ∀ c ∈ "json".toList, isInfoChar c = true := by simp [isInfoChar]
  have untouched : tick ∉ methodText.toList := by decide
  have unfenced : ¬fence <:+: methodText.toList := fun h => untouched (h.subset List.mem_cons_self)
  have alone : read methodText = .method "Use Selenium" "JS rendered" := by cbv
  obtain ⟨held, -, same⟩ :=
    payload_recovers.2.1 "Here you go:\n" "json" methodText " \x60" leads info unfenced
  exact ⟨leads, info, unfenced, held, alone, (same _ (by simp)).2 alone⟩

end PageHarvest.Advice

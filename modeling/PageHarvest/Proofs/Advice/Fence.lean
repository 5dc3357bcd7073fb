import PageHarvest.Advice.Read
import PageHarvest.Proofs.Json.Quoting
import PageHarvest.Proofs.Text.Blank
import PageHarvest.Proofs.Text.Lines

namespace PageHarvest.Advice

open Json (Side tick isOuter)

def Fenced (s : List Char) : Prop :=
  ∃ before content after, s = before ++ (fence ++ (content ++ (fence ++ after)))

/-- Whether a character neither ends a string or a fence nor escapes another one. -/
def isPlain (c : Char) : Bool :=
  c != '"' && c != '\\' && c != tick

theorem isPlain_iff {c : Char} : isPlain c = true ↔ c ≠ '"' ∧ c ≠ '\\' ∧ c ≠ tick := by
  simp [isPlain, and_assoc]

def Reaches (s rest : List Char) : Prop :=
  ∃ dropped, s = dropped ++ rest ∧ ∀ c ∈ dropped, isPlain c = true

namespace Reaches

theorem refl (s : List Char) : Reaches s s :=
  ⟨[], rfl, nofun⟩

theorem trans {s t u : List Char} (h : Reaches s t) (h' : Reaches t u) : Reaches s u := by
  obtain ⟨a, rfl, ha⟩ := h
  obtain ⟨b, rfl, hb⟩ := h'
  refine ⟨a ++ b, (List.append_assoc a b u).symm, fun c hc => ?_⟩
  rcases List.mem_append.1 hc with hc | hc
  · exact ha c hc
  · exact hb c hc

theorem cons {c : Char} (h : isPlain c = true) (s : List Char) : Reaches (c :: s) s :=
  ⟨[c], rfl, by simpa using h⟩

theorem dropWhile {p : Char → Bool} (hp : ∀ c, p c = true → isPlain c = true) (s : List Char) :
    Reaches s (s.dropWhile p) :=
  ⟨s.takeWhile p, List.takeWhile_append_dropWhile.symm,
    fun c hc => hp c (List.mem_takeWhile_imp hc)⟩

end Reaches

theorem isPlain_of_isInfoChar {c : Char} (h : isInfoChar c = true) : isPlain c = true := by
  rw [isPlain_iff]
  refine ⟨?_, ?_, ?_⟩ <;> rintro rfl <;> exact absurd h (by decide)

theorem isPlain_of_isGap {c : Char} (h : (c == ' ' || c == '\t') = true) : isPlain c = true := by
  rw [Bool.or_eq_true, beq_iff_eq, beq_iff_eq] at h
  rcases h with rfl | rfl <;> decide

theorem reaches_dropReturn (s : List Char) : Reaches s (dropReturn s) := by
  unfold dropReturn
  split
  · exact .cons (by decide) _
  · exact .refl s

theorem reaches_dropFeed (s : List Char) : Reaches s (dropFeed s) := by
  unfold dropFeed
  split
  · exact .cons (by decide) _
  · exact .refl s

theorem reaches_dropInfo (s : List Char) : Reaches s (dropInfo s) := by
  have blanks (r : List Char) : Reaches r (r.dropWhile fun c => c == ' ' || c == '\t') :=
    .dropWhile (fun _ => isPlain_of_isGap) r
  have word : Reaches s (s.dropWhile isInfoChar) := .dropWhile (fun _ => isPlain_of_isInfoChar) s
  exact (word.trans (blanks _)).trans ((reaches_dropReturn _).trans (reaches_dropFeed _))

theorem exists_of_fenced? {s content : List Char} (h : fenced? s = some content) :
    ∃ before opened after, s = before ++ (fence ++ opened) ∧
      Reaches opened (content ++ (fence ++ after)) := by
  obtain ⟨⟨before, opened⟩, hopen, h⟩ := Option.bind_eq_some_iff.1 h
  obtain ⟨⟨found, after⟩, hclose, h⟩ := Option.bind_eq_some_iff.1 h
  cases h
  refine ⟨before, opened, after, Text.eq_of_cut? hopen, ?_⟩
  rw [← Text.eq_of_cut? hclose]
  exact reaches_dropInfo opened

theorem Reaches.keeps_fence {s rest : List Char} (h : Reaches s rest) (hf : fence <:+: s) :
    fence <:+: rest := by
  obtain ⟨dropped, rfl, plain⟩ := h
  induction dropped with
  | nil => exact hf
  | cons c dropped ih =>
    rw [List.forall_mem_cons] at plain
    rw [List.cons_append, List.infix_cons_iff] at hf
    rcases hf with hf | hf
    · exact absurd (List.cons_prefix_cons.1 hf).1.symm (isPlain_iff.1 plain.1).2.2
    · exact ih plain.2 hf

theorem fenced_of_fenced? {s content : List Char} (h : fenced? s = some content) : Fenced s := by
  obtain ⟨before, opened, after, rfl, dropped, rfl, _⟩ := exists_of_fenced? h
  exact ⟨before, dropped ++ content, after, by simp⟩

theorem exists_fenced? {s : List Char} (h : Fenced s) : ∃ content, fenced? s = some content := by
  obtain ⟨a, b, c, rfl⟩ := h
  obtain ⟨before, opened, hopen, later⟩ := Text.exists_cut? fence a (b ++ (fence ++ c))
  have second : fence <:+: opened := List.IsInfix.trans ⟨b, c, by simp⟩ later.isInfix
  obtain ⟨x, y, hclose⟩ := (reaches_dropInfo opened).keeps_fence second
  rw [List.append_assoc] at hclose
  obtain ⟨content, after, hcut, _⟩ := Text.exists_cut? fence x y
  rw [hclose] at hcut
  exact ⟨content, by simp [fenced?, hopen, hcut]⟩

theorem payload_of_not_fenced {raw : String} (h : ¬Fenced raw.toList) :
    payload raw = Text.trimmed raw := by
  cases hf : fenced? raw.toList with
  | none => rw [payload, hf, Option.getD_none, Text.trimmed]
  | some content => exact absurd (fenced_of_fenced? hf) h

theorem run_fence {side next : Side} (h : side.run fence = some next) :
    side = .inside ∧ next = .inside := by
  cases side <;> cases h
  exact ⟨rfl, rfl⟩

theorem isOuter_of_isBlank {c : Char} (h : Text.isBlank c = true) : isOuter c = true := by
  rw [isOuter, h, Bool.true_or, Bool.true_or]

theorem inside_of_isBlank {s : List Char} (h : ∀ c ∈ s, Text.isBlank c = true) :
    Side.inside.run s = some .inside := by
  apply Side.run_inside
  intro c hc
  have blank := h c hc
  constructor <;> rintro rfl <;> exact absurd blank (by decide)

theorem run_trim {s : List Char} (h : Side.outside.run (Text.trim s) = some .outside) :
    Side.outside.run s = some .outside := by
  obtain ⟨before, behind, hs, hbefore, hbehind⟩ := Text.exists_trim s
  rw [hs, Side.run_append, Side.run_append,
    Side.run_outside fun c hc => isOuter_of_isBlank (hbefore c hc), Option.bind_some, h,
    Option.bind_some, Side.run_outside fun c hc => isOuter_of_isBlank (hbehind c hc)]

/-- What the fences cut out of a JSON text starts in a string of the text. -/
theorem exists_run_of_fenced? {s content : List Char}
    (h : Side.outside.run s = some .outside) (hf : fenced? s = some content) :
    ∃ next, Side.inside.run (Text.trim content) = some next := by
  obtain ⟨before, opened, after, rfl, dropped, rfl, plain⟩ := exists_of_fenced? hf
  obtain ⟨side, _, h⟩ := Side.exists_run_of_append h
  obtain ⟨next, hfence, h⟩ := Side.exists_run_of_append h
  obtain ⟨rfl, rfl⟩ := run_fence hfence
  have inside : Side.inside.run dropped = some .inside := by
    apply Side.run_inside
    intro c hc
    obtain ⟨hq, hb, _⟩ := isPlain_iff.1 (plain c hc)
    exact ⟨hq, hb⟩
  rw [Side.run_append, inside, Option.bind_some] at h
  obtain ⟨last, h, _⟩ := Side.exists_run_of_append h
  obtain ⟨first, behind, hcontent, hfirst, _⟩ := Text.exists_trim content
  rw [hcontent, List.append_assoc, Side.run_append, inside_of_isBlank hfirst, Option.bind_some] at h
  obtain ⟨next, hnext, _⟩ := Side.exists_run_of_append h
  exact ⟨next, hnext⟩

end PageHarvest.Advice

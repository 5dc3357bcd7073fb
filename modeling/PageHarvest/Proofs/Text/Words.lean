import PageHarvest.Proofs.Text.Blank

namespace PageHarvest.Text

variable {a b s w : List Char} {c d : Char} {ws texts : List (List Char)}

/-- Every run of blanks becomes one space. -/
def squeezed : List Char → List Char
  | [] => []
  | c :: r =>
    if !isBlank c then c :: squeezed r
    else if r.head?.any isBlank then squeezed r
    else ' ' :: squeezed r

/-- The text without the blanks around it, and with one space for every run of blanks in it. -/
def collapsed (s : String) : String :=
  String.ofList (squeezed (trim s.toList))

/-- A word goes on from the end of one text to the start of the other. -/
def SplitsWord (a b : List Char) : Prop :=
  (∃ c ∈ a.getLast?, isBlank c = false) ∧ ∃ c ∈ b.head?, isBlank c = false

def KeepsWords (texts : List (List Char)) : Prop :=
  ∀ front back, texts = front ++ back → ¬SplitsWord front.flatten back.flatten

@[simp] theorem words_nil : words [] = [] :=
  rfl

theorem words_append_blank (h : isBlank c = true) (a b : List Char) :
    words (a ++ c :: b) = words a ++ words b :=
  runs_append_cons h a b

theorem words_cons_blank (h : isBlank c = true) (s : List Char) : words (c :: s) = words s :=
  words_append_blank h [] s

theorem words_concat_blank (h : isBlank c = true) (s : List Char) : words (s ++ [c]) = words s := by
  rw [words_append_blank h s [], words_nil, List.append_nil]

theorem words_eq_singleton (hs : s ≠ []) (h : ∀ c ∈ s, isBlank c = false) : words s = [s] := by
  rw [words, runs, fields_eq_singleton h]
  simp [hs]

theorem words_cons_alone (hc : isBlank c = false) (h : ∀ d ∈ s.head?, isBlank d = true) :
    words (c :: s) = [c] :: words s := by
  have alone : words [c] = [[c]] := words_eq_singleton (List.cons_ne_nil c []) (by simpa using hc)
  cases s with
  | nil => exact alone
  | cons d s =>
    have cut := words_append_blank (h d rfl) [c] s
    rw [List.singleton_append, alone] at cut
    rw [cut, words_cons_blank (h d rfl)]
    rfl

theorem flatten_words (s : List Char) : (words s).flatten = s.filter (!isBlank ·) := by
  have filled (parts : List (List Char)) : (parts.filter (!·.isEmpty)).flatten = parts.flatten := by
    induction parts with
    | nil => rfl
    | cons part parts ih => cases part <;> simp [ih]
  rw [words, runs, filled]
  induction s with
  | nil => rfl
  | cons c s ih =>
    obtain ⟨f, fs, hf⟩ := List.exists_cons_of_ne_nil (fields_ne_nil isBlank s)
    rw [hf] at ih
    cases hc : isBlank c with
    | true => simpa [fields, hc, hf] using ih
    | false => simpa [fields, hc, hf] using ih

theorem words_eq_nil_iff : words s = [] ↔ ∀ c ∈ s, isBlank c = true := by
  constructor
  · intro h
    have none := flatten_words s
    rw [h, List.flatten_nil, eq_comm, List.filter_eq_nil_iff] at none
    simpa using none
  · intro h
    induction s with
    | nil => rfl
    | cons c s ih =>
      rw [List.forall_mem_cons] at h
      rw [words_cons_blank h.1, ih h.2]

theorem solid_of_mem_words (h : w ∈ words s) : w ≠ [] ∧ ∀ c ∈ w, isBlank c = false := by
  obtain ⟨hf, hne⟩ := List.mem_filter.1 h
  refine ⟨by simpa using hne, ?_⟩
  intro c hc
  exact sep_of_mem_fields hf hc

theorem words_ne_nil (hs : s ≠ []) (h : ∀ c ∈ s.getLast?, isBlank c = false) : words s ≠ [] := by
  intro none
  have last := h _ (List.getLast?_eq_some_getLast hs)
  rw [words_eq_nil_iff.1 none _ (List.getLast_mem hs)] at last
  cases last

theorem exists_words_cons (hc : isBlank c = false) (hd : isBlank d = false) (s : List Char) :
    ∃ w ws, words (d :: s) = w :: ws ∧ words (c :: d :: s) = (c :: w) :: ws := by
  obtain ⟨f, fs, hf⟩ := List.exists_cons_of_ne_nil (fields_ne_nil isBlank s)
  refine ⟨d :: f, fs.filter (!·.isEmpty), ?_, ?_⟩
  · simp [words, runs, fields, hd, hf]
  · simp [words, runs, fields, hc, hd, hf]

theorem words_append (h : ¬SplitsWord a b) : words (a ++ b) = words a ++ words b := by
  cases ha : a.getLast? with
  | none => simp [List.getLast?_eq_none_iff.1 ha]
  | some c =>
    obtain ⟨front, rfl⟩ := List.getLast?_eq_some_iff.1 ha
    cases b with
    | nil => simp
    | cons d back =>
      cases hc : isBlank c with
      | true => rw [List.append_assoc, List.singleton_append, words_append_blank hc,
          words_concat_blank hc]
      | false =>
        cases hd : isBlank d with
        | true => rw [words_append_blank hd, words_cons_blank hd]
        | false => exact absurd ⟨⟨c, ha, hc⟩, d, rfl, hd⟩ h

/-- A word starts where a character that is no blank stands before none of its kind. -/
theorem length_words_cons (c : Char) (s : List Char) : (words (c :: s)).length =
    (words s).length + if !isBlank c && !s.head?.any (!isBlank ·) then 1 else 0 := by
  cases hc : isBlank c with
  | true => simp [words_cons_blank hc]
  | false =>
    cases s with
    | nil =>
      rw [words_cons_alone hc (by simp)]
      rfl
    | cons d s =>
      cases hd : isBlank d with
      | true =>
        rw [words_cons_alone hc (by simpa using hd)]
        simp [hd]
      | false =>
        obtain ⟨w, ws, hw, hcw⟩ := exists_words_cons hc hd s
        simp [hw, hcw, hd]

theorem length_words_append (h : SplitsWord a b) :
    (words (a ++ b)).length + 1 = (words a).length + (words b).length := by
  obtain ⟨⟨c, hc, hcb⟩, d, hd, hdb⟩ := h
  obtain ⟨front, rfl⟩ := List.getLast?_eq_some_iff.1 hc
  induction front with
  | nil =>
    rw [List.nil_append, List.singleton_append, length_words_cons c b, length_words_cons c []]
    simp [Option.mem_def.1 hd, hcb, hdb, Nat.add_comm]
  | cons e front ih =>
    have rest := ih (by simp)
    have head : (front ++ [c] ++ b).head? = (front ++ [c]).head? := by
      rw [List.head?_append_of_ne_nil _ (by simp)]
    rw [List.cons_append, List.cons_append, length_words_cons e (front ++ [c] ++ b),
      length_words_cons e (front ++ [c]), head]
    omega

theorem length_words_append_le (a b : List Char) :
    (words (a ++ b)).length ≤ (words a).length + (words b).length := by
  by_cases h : SplitsWord a b
  · have := length_words_append h
    omega
  · rw [words_append h, List.length_append]

theorem length_words_flatten_le (texts : List (List Char)) :
    (words texts.flatten).length ≤ (texts.flatMap words).length := by
  induction texts with
  | nil => exact Nat.le_refl _
  | cons t texts ih =>
    have first := length_words_append_le t texts.flatten
    rw [List.flatten_cons, List.flatMap_cons, List.length_append]
    omega

theorem KeepsWords.tail {t : List Char} (h : KeepsWords (t :: texts)) : KeepsWords texts := by
  rintro front back rfl ⟨⟨c, hc, hcb⟩, hback⟩
  refine h (t :: front) back rfl ⟨⟨c, ?_, hcb⟩, hback⟩
  rw [List.flatten_cons, List.getLast?_append, Option.mem_def.1 hc]
  rfl

theorem KeepsWords.flatMap_words (h : KeepsWords texts) :
    texts.flatMap words = words texts.flatten := by
  induction texts with
  | nil => rfl
  | cons t texts ih =>
    have apart := h [t] texts rfl
    rw [List.flatten_singleton] at apart
    rw [List.flatMap_cons, List.flatten_cons, ih h.tail, words_append apart]

/-- The pieces have the words of the whole text just if none of these is divided. -/
theorem flatMap_words_eq_iff : texts.flatMap words = words texts.flatten ↔ KeepsWords texts := by
  constructor
  · rintro h front back rfl split
    have whole := length_words_append split
    have hfront := length_words_flatten_le front
    have hback := length_words_flatten_le back
    have length := congrArg List.length h
    rw [List.flatMap_append, List.length_append, List.flatten_append] at length
    omega
  · exact KeepsWords.flatMap_words

theorem joinWith_cons_cons (sep : String) (t u : List Char) (texts : List (List Char)) :
    joinWith sep (t :: u :: texts) = t ++ (sep.toList ++ joinWith sep (u :: texts)) := by
  simp [joinWith, List.intercalate_cons_cons]

theorem words_joinWith_space (texts : List (List Char)) :
    words (joinWith " " texts) = texts.flatMap words := by
  induction texts with
  | nil => rfl
  | cons t texts ih =>
    cases texts with
    | nil => simp [joinWith]
    | cons u texts =>
      have space : " ".toList = [' '] := rfl
      rw [joinWith_cons_cons, space, List.singleton_append, words_append_blank (by decide), ih]
      rfl

theorem words_joinWith (h : ∀ w ∈ ws, w ≠ [] ∧ ∀ c ∈ w, isBlank c = false) :
    words (joinWith " " ws) = ws := by
  rw [words_joinWith_space]
  induction ws with
  | nil => rfl
  | cons w ws ih =>
    rw [List.forall_mem_cons] at h
    rw [List.flatMap_cons, words_eq_singleton h.1.1 h.1.2, ih h.2]
    rfl

theorem joinWith_longer (sep : String) (c : Char) (t : List Char) (texts : List (List Char)) :
    joinWith sep ((c :: t) :: texts) = c :: joinWith sep (t :: texts) := by
  cases texts with
  | nil => simp [joinWith]
  | cons u texts => rw [joinWith_cons_cons, joinWith_cons_cons, List.cons_append]

theorem squeezed_eq (h : ∀ c ∈ s.getLast?, isBlank c = false) :
    squeezed s = (if s.head?.any isBlank then [' '] else []) ++ joinWith " " (words s) := by
  induction s with
  | nil => rfl
  | cons c s ih =>
    cases s with
    | nil =>
      have hc : isBlank c = false := h c rfl
      rw [words_cons_alone hc (by simp)]
      simp [squeezed, hc, joinWith]
    | cons d s =>
      rw [List.getLast?_cons_cons] at h
      have rest := ih h
      cases hc : isBlank c with
      | true =>
        rw [words_cons_blank hc]
        cases hd : isBlank d with
        | true => simpa [squeezed, hc, hd] using rest
        | false => simpa [squeezed, hc, hd] using rest
      | false =>
        cases hd : isBlank d with
        | false =>
          obtain ⟨w, ws, hw, hcw⟩ := exists_words_cons hc hd s
          rw [hw] at rest
          rw [hcw, joinWith_longer, squeezed, rest]
          simp [hc, hd]
        | true =>
          obtain ⟨w, ws, hw⟩ := List.exists_cons_of_ne_nil (words_ne_nil (List.cons_ne_nil d s) h)
          rw [hw] at rest
          rw [words_cons_alone hc (by simpa using hd), hw, joinWith_cons_cons, squeezed, rest]
          simp [hc, hd]

theorem words_trim (s : List Char) : words (trim s) = words s := by
  obtain ⟨before, behind, hs, hbefore, hbehind⟩ := exists_trim s
  have front : ¬SplitsWord before (trim s ++ behind) := by
    rintro ⟨⟨c, hc, hb⟩, -⟩
    rw [hbefore c (List.mem_of_getLast? hc)] at hb
    cases hb
  have back : ¬SplitsWord (trim s) behind := by
    rintro ⟨-, c, hc, hb⟩
    rw [hbehind c (List.mem_of_head? hc)] at hb
    cases hb
  conv_rhs => rw [hs, List.append_assoc, words_append front, words_append back,
    words_eq_nil_iff.2 hbefore, words_eq_nil_iff.2 hbehind]
  simp

/-- A text without idle blanks is its words with spaces between them. -/
theorem collapsed_eq (s : String) :
    collapsed s = String.ofList (joinWith " " (words s.toList)) := by
  obtain ⟨first, last⟩ := trim_eq_self_iff.1 (trim_trim s.toList)
  have head : (trim s.toList).head?.any isBlank = false := by
    cases h : (trim s.toList).head? with
    | none => rfl
    | some c => exact first c h
  rw [collapsed, squeezed_eq last, head, words_trim]
  rfl

/-- Pieces are shown as the text that they make just if they keep its words together. -/
theorem joinWith_flatMap_words_eq_iff : joinWith " " (texts.flatMap words) =
    joinWith " " (words texts.flatten) ↔ KeepsWords texts := by
  rw [← flatMap_words_eq_iff]
  constructor
  · intro h
    have words_eq := congrArg words h
    rwa [words_joinWith fun w hw => ?_, words_joinWith fun w hw => solid_of_mem_words hw]
      at words_eq
    obtain ⟨t, -, hw⟩ := List.mem_flatMap.1 hw
    exact solid_of_mem_words hw
  · intro h
    rw [h]

end PageHarvest.Text

import Mathlib
import PageHarvest.Json.Tree
import PageHarvest.Proofs.Except
import PageHarvest.Text.Basic

namespace PageHarvest.Json

/-- Where a character stands: outside of the strings, in one, or behind a backslash in one. -/
inductive Side
  | outside
  | inside
  | escape
deriving DecidableEq, Repr

/-- Whether a character may stand outside of the strings, or around the whole text. -/
def isOuter (c : Char) : Bool :=
  Text.isBlank c || c.isDigit ||
    ['+', '-', '.', ',', ':', '[', ']', '\x7b', '\x7d', 'E', 'a', 'e', 'f', 'l', 'n', 'r', 's', 't',
      'u'].contains c

namespace Side

def step : Side → Char → Option Side
  | outside, c => if c = '"' then some inside else if isOuter c then some outside else none
  | inside, c => if c = '"' then some outside else if c = '\\' then some escape else some inside
  | escape, c => if c = 'u' ∨ (simpleEscape? c).isSome then some inside else none

/-- Where the text behind some characters goes on. -/
def run (side : Side) : List Char → Option Side
  | [] => some side
  | c :: s => (side.step c).bind fun next => next.run s

theorem run_append (side : Side) (s t : List Char) :
    side.run (s ++ t) = (side.run s).bind fun next => next.run t := by
  induction s generalizing side with
  | nil => rfl
  | cons c s ih =>
    rw [List.cons_append, run, run]
    cases side.step c with
    | none => rfl
    | some next => exact ih next

theorem exists_run_of_append {side last : Side} {s t : List Char}
    (h : side.run (s ++ t) = some last) :
    ∃ next, side.run s = some next ∧ next.run t = some last := by
  rw [run_append] at h
  exact Option.bind_eq_some_iff.1 h

theorem run_outside {s : List Char} (h : ∀ c ∈ s, isOuter c = true) :
    outside.run s = some outside := by
  induction s with
  | nil => rfl
  | cons c s ih =>
    rw [List.forall_mem_cons] at h
    have hc : c ≠ '"' := by
      rintro rfl
      exact absurd h.1 (by decide)
    rw [run, step, if_neg hc, if_pos h.1, Option.bind_some, ih h.2]

theorem run_inside {s : List Char} (h : ∀ c ∈ s, c ≠ '"' ∧ c ≠ '\\') :
    inside.run s = some inside := by
  induction s with
  | nil => rfl
  | cons c s ih =>
    rw [List.forall_mem_cons] at h
    rw [run, step, if_neg h.1.1, if_neg h.1.2, Option.bind_some, ih h.2]

/-- Of two readings of one text one is in a string wherever the other one is not. -/
inductive Opposed : Side → Side → Prop
  | opened : Opposed inside outside
  | closed : Opposed outside inside

theorem isOuter_of_step {c : Char} {next : Side} (hq : c ≠ '"')
    (h : outside.step c = some next) : isOuter c = true ∧ next = outside := by
  rw [step, if_neg hq] at h
  split_ifs at h with hc
  exact ⟨hc, (Option.some.inj h).symm⟩

theorem step_of_isOuter {c : Char} {next : Side} (hq : c ≠ '"') (hc : isOuter c = true)
    (h : inside.step c = some next) : next = inside := by
  have hback : c ≠ '\\' := by
    rintro rfl
    exact absurd hc (by decide)
  rw [step, if_neg hq, if_neg hback] at h
  exact (Option.some.inj h).symm

/-- What can be read in both ways has nothing that can only stand in a string. -/
theorem eq_quote_or_isOuter {a b a' b' : Side} {s : List Char} (h : Opposed a b)
    (ha : a.run s = some a') (hb : b.run s = some b') : ∀ c ∈ s, c = '"' ∨ isOuter c = true := by
  induction s generalizing a b with
  | nil => exact nofun
  | cons c s ih =>
    obtain ⟨x, hx, ha⟩ := Option.bind_eq_some_iff.1 ha
    obtain ⟨y, hy, hb⟩ := Option.bind_eq_some_iff.1 hb
    rw [List.forall_mem_cons]
    by_cases hq : c = '"'
    -- A quote takes one reading into a string and the other one out of it.
    · subst hq
      refine ⟨.inl rfl, ?_⟩
      cases h <;> cases hx <;> cases hy
      · exact ih .closed ha hb
      · exact ih .opened ha hb
    · cases h with
      | opened =>
        obtain ⟨hc, rfl⟩ := isOuter_of_step hq hy
        obtain rfl := step_of_isOuter hq hc hx
        exact ⟨.inr hc, ih .opened ha hb⟩
      | closed =>
        obtain ⟨hc, rfl⟩ := isOuter_of_step hq hx
        obtain rfl := step_of_isOuter hq hc hy
        exact ⟨.inr hc, ih .closed ha hb⟩

end Side

namespace Value

mutual

def texts : Value → List String
  | string s => [s]
  | array items => itemTexts items
  | object members => memberTexts members
  | _ => []

def itemTexts : List Value → List String
  | [] => []
  | v :: rest => v.texts ++ itemTexts rest

def memberTexts : List (String × Value) → List String
  | [] => []
  | (key, v) :: rest => key :: (v.texts ++ memberTexts rest)

end

theorem texts_strings (items : List String) : (strings items).texts = items := by
  rw [strings, texts]
  induction items with
  | nil => rfl
  | cons s items ih => rw [List.map_cons, itemTexts, texts, ih, List.singleton_append]

theorem texts_subset_itemTexts {v : Value} {items : List Value} (h : v ∈ items) :
    v.texts ⊆ itemTexts items := by
  induction items with
  | nil => cases h
  | cons w items ih =>
    rw [itemTexts]
    rcases List.mem_cons.1 h with rfl | h
    · exact List.subset_append_left _ _
    · exact List.subset_append_of_subset_right _ (ih h)

theorem key_mem_memberTexts {m : String × Value} {members : List (String × Value)}
    (h : m ∈ members) : m.1 ∈ memberTexts members := by
  induction members with
  | nil => cases h
  | cons n members ih =>
    rw [memberTexts]
    rcases List.mem_cons.1 h with rfl | h
    · exact List.mem_cons_self
    · exact List.mem_cons_of_mem _ (List.mem_append_right _ (ih h))

theorem mem_texts_of_member? {v w : Value} {key : String} (h : v.member? key = some w) :
    key ∈ v.texts := by
  cases v with
  | object members =>
    obtain ⟨m, hm, _⟩ := Option.map_eq_some_iff.1 h
    have hkey : m.1 = key := by simpa using List.find?_some hm
    rw [texts, ← hkey]
    exact key_mem_memberTexts (List.mem_reverse.1 (List.mem_of_find?_eq_some hm))
  | null => cases h
  | bool b => cases h
  | number n => cases h
  | string s => cases h
  | array items => cases h

end Value

/-- Quotes a piece of code; it stands for itself in a string. -/
def tick : Char := '\x60'

/-- What a part of a JSON text tells of the texts that it spells. -/
structure Spells (used : List Char) (texts : List String) : Prop where
  balanced : Side.outside.run used = some .outside
  plain : '\\' ∉ used → ∀ t ∈ texts, ∀ c ∈ t.toList, c ∈ used ∧ c ≠ '"'
  ticked : tick ∈ used → ∃ t ∈ texts, tick ∈ t.toList

/-- Between the starts of two texts a part of a JSON text spells some texts. -/
def Follows (s rest : List Char) (texts : List String) : Prop :=
  ∃ used, s = used ++ rest ∧ Spells used texts

namespace Spells

theorem outer {used : List Char} (h : ∀ c ∈ used, isOuter c = true) : Spells used [] where
  balanced := Side.run_outside h
  plain := nofun
  ticked hm := absurd (h _ hm) (by decide)

theorem append {a b : List Char} {s t : List String} (ha : Spells a s) (hb : Spells b t) :
    Spells (a ++ b) (s ++ t) where
  balanced := by rw [Side.run_append, ha.balanced, Option.bind_some, hb.balanced]
  plain hn := by
    rw [List.mem_append, not_or] at hn
    intro u hu c hc
    rcases List.mem_append.1 hu with hu | hu
    · obtain ⟨hmem, hquote⟩ := ha.plain hn.1 u hu c hc
      exact ⟨List.mem_append_left b hmem, hquote⟩
    · obtain ⟨hmem, hquote⟩ := hb.plain hn.2 u hu c hc
      exact ⟨List.mem_append_right a hmem, hquote⟩
  ticked hm := by
    rcases List.mem_append.1 hm with hm | hm
    · obtain ⟨u, hu, hc⟩ := ha.ticked hm
      exact ⟨u, List.mem_append_left t hu, hc⟩
    · obtain ⟨u, hu, hc⟩ := hb.ticked hm
      exact ⟨u, List.mem_append_right s hu, hc⟩

end Spells

theorem isOuter_of_isBlank {c : Char} (h : isBlank c = true) : isOuter c = true := by
  simp only [isBlank, Bool.or_eq_true, beq_iff_eq] at h
  rcases h with ((rfl | rfl) | rfl) | rfl <;> decide

namespace Follows

variable {a b c s : List Char} {t u : List String}

theorem trans (h : Follows a b t) (h' : Follows b c u) : Follows a c (t ++ u) := by
  obtain ⟨x, rfl, hx⟩ := h
  obtain ⟨y, rfl, hy⟩ := h'
  exact ⟨x ++ y, (List.append_assoc _ _ _).symm, hx.append hy⟩

theorem outer {used : List Char} (h : ∀ c ∈ used, isOuter c = true) :
    Follows (used ++ s) s [] :=
  ⟨used, rfl, .outer h⟩

theorem refl (s : List Char) : Follows s s [] :=
  ⟨[], rfl, .outer nofun⟩

theorem cons {d : Char} (hd : isOuter d = true) (h : Follows a b t) : Follows (d :: a) b t := by
  obtain ⟨used, rfl, spelled⟩ := h
  have head : Spells [d] [] := .outer (by simpa using hd)
  exact ⟨d :: used, rfl, head.append spelled⟩

theorem blanks (s : List Char) : Follows s (skipBlanks s) [] := by
  have h := outer (s := skipBlanks s) fun d (hd : d ∈ s.takeWhile isBlank) =>
    isOuter_of_isBlank (List.mem_takeWhile_imp hd)
  rwa [skipBlanks, List.takeWhile_append_dropWhile] at h

end Follows

/-- What the inside of a string as it stands in a text tells of the characters it spells. -/
structure SpellsString (body said : List Char) : Prop where
  inside : Side.inside.run body = some .inside
  plain : '\\' ∉ body → ∀ c ∈ said, c ∈ body ∧ c ≠ '"'
  ticked : tick ∈ body → tick ∈ said

namespace SpellsString

variable {body said : List Char}

theorem nil : SpellsString [] [] where
  inside := rfl
  plain := nofun
  ticked h := h

theorem char {c : Char} (hq : c ≠ '"') (hb : c ≠ '\\') (h : SpellsString body said) :
    SpellsString (c :: body) (c :: said) := by
  have step : Side.inside.step c = some .inside := by rw [Side.step, if_neg hq, if_neg hb]
  constructor
  · rw [Side.run, step, Option.bind_some, h.inside]
  · intro hn d hd
    rcases List.mem_cons.1 hd with rfl | hd
    · exact ⟨List.mem_cons_self, hq⟩
    · obtain ⟨hmem, hquote⟩ := h.plain (fun hm => hn (List.mem_cons_of_mem c hm)) d hd
      exact ⟨List.mem_cons_of_mem c hmem, hquote⟩
  · intro hm
    rcases List.mem_cons.1 hm with rfl | hm
    · exact List.mem_cons_self
    · exact List.mem_cons_of_mem c (h.ticked hm)

theorem escape {code : List Char} {c : Char} (hrun : Side.inside.run code = some .inside)
    (hb : '\\' ∈ code) (ht : tick ∉ code) (h : SpellsString body said) :
    SpellsString (code ++ body) (c :: said) where
  inside := by rw [Side.run_append, hrun, Option.bind_some, h.inside]
  plain hn := (hn (List.mem_append_left body hb)).elim
  ticked hm := List.mem_cons_of_mem c (h.ticked ((List.mem_append.1 hm).resolve_left ht))

theorem spells (h : SpellsString body said) :
    Spells ('"' :: (body ++ ['"'])) [String.ofList said] where
  balanced := by
    have opens : Side.outside.step '"' = some .inside := rfl
    rw [Side.run, opens, Option.bind_some, Side.run_append, h.inside]
    rfl
  plain hn := by
    simp only [List.mem_cons, List.mem_append, not_or] at hn
    intro t ht c hc
    rw [List.mem_singleton.1 ht, String.toList_ofList] at hc
    obtain ⟨hmem, hquote⟩ := h.plain hn.2.1 c hc
    exact ⟨List.mem_cons_of_mem _ (List.mem_append_left _ hmem), hquote⟩
  ticked hm := by
    have other : tick ≠ '"' := by decide
    simp only [List.mem_cons, List.mem_append, other, false_or, List.not_mem_nil, or_false] at hm
    refine ⟨_, List.mem_singleton_self _, ?_⟩
    rw [String.toList_ofList]
    exact h.ticked hm

end SpellsString

theorem ne_of_hexValue? {c : Char} (h : (hexValue? c).isSome = true) :
    c ≠ '"' ∧ c ≠ '\\' ∧ c ≠ tick := by
  refine ⟨?_, ?_, ?_⟩ <;> rintro rfl <;> exact absurd h (by decide)

theorem exists_code_of_scanHex {s rest : List Char} {n : Nat} (h : scanHex s = .ok (n, rest)) :
    ∃ code, s = code ++ rest ∧ ∀ c ∈ code, (hexValue? c).isSome = true := by
  unfold scanHex at h
  split_ifs at h
  split at h
  · rename_i a b c d behind _
    split at h
    · rename_i ds hds
      cases h
      exact ⟨[a, b, c, d], rfl, isSome_of_mem_mapM hds⟩
    · cases h
  · cases h

theorem skipString_code {s rest : List Char} {n : Nat} (h : scanHex s = .ok (n, rest)) :
    skipString ('\\' :: 'u' :: s) = skipString rest := by
  rw [skipString]
  split
  · rename_i he
    rw [h] at he
    cases he
  · rename_i he
    rw [h] at he
    cases he
    rfl

theorem run_code {code : List Char} (h : ∀ c ∈ code, (hexValue? c).isSome = true)
    (behind : List Char) :
    Side.inside.run ('\\' :: 'u' :: (code ++ behind)) = Side.inside.run behind := by
  have digits := Side.run_inside fun c hc => ⟨(ne_of_hexValue? (h c hc)).1,
    (ne_of_hexValue? (h c hc)).2.1⟩
  have opens : Side.inside.step '\\' = some .escape := rfl
  have named : Side.escape.step 'u' = some .inside := rfl
  rw [Side.run, opens, Option.bind_some, Side.run, named, Option.bind_some, Side.run_append, digits,
    Option.bind_some]

theorem tick_not_mem_code {code : List Char} (h : ∀ c ∈ code, (hexValue? c).isSome = true) :
    tick ∉ code :=
  fun hm => (ne_of_hexValue? (h _ hm)).2.2 rfl

/-- The code of an escape, as it stands behind the backslash, and that skipping takes it as well. -/
theorem exists_code_of_scanCode {s rest : List Char} {c : Char} (h : scanCode s = .ok (c, rest)) :
    ∃ code, s = code ++ rest ∧ Side.inside.run ('\\' :: 'u' :: code) = some .inside ∧
      tick ∉ code ∧ skipString ('\\' :: 'u' :: s) = skipString rest := by
  obtain ⟨⟨n, behind⟩, hn, hc⟩ := bind_eq_ok h
  clear h
  obtain ⟨code, rfl, hcode⟩ := exists_code_of_scanHex hn
  have first := run_code hcode []
  rw [List.append_nil] at first
  rw [skipString_code hn]
  dsimp only at hc
  split_ifs at hc
  · split at hc
    · cases hc
    · cases hc
    · obtain ⟨⟨m, last⟩, hm, hl⟩ := bind_eq_ok hc
      clear hc
      split_ifs at hl
      obtain rfl : last = rest := congrArg Prod.snd (Except.ok.inj hl)
      obtain ⟨code', rfl, hcode'⟩ := exists_code_of_scanHex hm
      have second := run_code hcode' []
      rw [List.append_nil] at second
      refine ⟨code ++ '\\' :: 'u' :: code', by simp, ?_, ?_, skipString_code hm⟩
      · rw [run_code hcode, second]
        rfl
      · have other : tick ≠ '\\' ∧ tick ≠ 'u' := by decide
        simp [tick_not_mem_code hcode, tick_not_mem_code hcode', other]
    · cases hc
  · obtain rfl : behind = rest := congrArg Prod.snd (Except.ok.inj hc)
    exact ⟨code, rfl, first, tick_not_mem_code hcode, rfl⟩

theorem tick_ne_of_simpleEscape? {e c : Char} (h : simpleEscape? e = some c) : tick ≠ e := by
  rintro rfl
  cases h

theorem exists_body_of_readString {s said rest : List Char} (h : readString s = .ok (said, rest)) :
    ∃ body, s = body ++ '"' :: rest ∧ SpellsString body said ∧ skipString s = .ok rest := by
  fun_induction readString s generalizing said with
  | case1 => cases h
  | case2 r =>
    cases h
    refine ⟨[], rfl, .nil, ?_⟩
    rw [skipString]
  | case3 => cases h
  | case4 r e he => cases h
  | case5 r c behind hc ih =>
    obtain ⟨⟨more, last⟩, hmore, he⟩ := map_eq_ok h
    cases he
    obtain ⟨code, rfl, hrun, htick, hskip⟩ := exists_code_of_scanCode hc
    obtain ⟨body, rfl, spelled, skipped⟩ := ih hmore
    refine ⟨'\\' :: 'u' :: code ++ body, by simp, ?_, by rw [hskip, skipped]⟩
    refine .escape hrun (by simp) ?_ spelled
    have other : tick ≠ '\\' ∧ tick ≠ 'u' := by decide
    simp [htick, other]
  | case6 e r _ he => cases h
  | case7 e r hu c hc ih =>
    obtain ⟨⟨more, last⟩, hmore, he⟩ := map_eq_ok h
    cases he
    obtain ⟨body, rfl, spelled, skipped⟩ := ih hmore
    have opens : Side.inside.step '\\' = some .escape := rfl
    have named : Side.escape.step e = some .inside := by
      rw [Side.step, if_pos (.inr (by rw [hc]; rfl))]
    refine ⟨['\\', e] ++ body, rfl, .escape ?_ (by simp) ?_ spelled, ?_⟩
    · rw [Side.run, opens, Option.bind_some, Side.run, named, Option.bind_some, Side.run]
    · have other : tick ≠ '\\' := by decide
      simp [other, tick_ne_of_simpleEscape? hc]
    · rw [skipString, hc]
      · exact skipped
      · exact hu
  | case8 => cases h
  | case9 c r hquote hlast hcode hother hc ih =>
    obtain ⟨⟨more, last⟩, hmore, he⟩ := map_eq_ok h
    cases he
    obtain ⟨body, rfl, spelled, skipped⟩ := ih hmore
    have hback : c ≠ '\\' := by
      intro hb
      cases hr : body ++ '"' :: rest with
      | nil => exact hlast hb hr
      | cons e r => exact hother e r hb hr
    refine ⟨c :: body, rfl, spelled.char hquote hback, ?_⟩
    rw [skipString, if_neg hc]
    · exact skipped
    all_goals assumption

theorem follows_of_followString {s rest : List Char} {text : String}
    (h : followString s = .ok (.ok text, rest)) : Follows ('"' :: s) rest [text] := by
  unfold followString at h
  dsimp only at h
  cases hread : readString s with
  | error e =>
    rw [hread] at h
    split at h <;> cases h
  | ok found =>
    obtain ⟨said, behind⟩ := found
    obtain ⟨body, rfl, spelled, skipped⟩ := exists_body_of_readString hread
    rw [hread, skipped] at h
    cases h
    exact ⟨_, by simp, spelled.spells⟩

theorem eq_append_of_skipWord {word s rest : List Char} (h : skipWord word s = .ok rest) :
    s = word ++ rest := by
  induction word generalizing s with
  | nil => exact Except.ok.inj h
  | cons w word ih =>
    cases s with
    | nil => cases h
    | cons c s =>
      rw [skipWord] at h
      split_ifs at h with hc
      rw [hc, ih h, List.cons_append]

theorem follows_of_followWord {word : String} {value t : Tree} {s rest : List Char} {d : Nat}
    {v : Value} (hw : word.toList.all isOuter = true) (h : followWord word value s = (t, rest))
    (hv : t.value? d = .ok v) : Follows s rest [] ∧ t = value := by
  unfold followWord at h
  split at h
  · rename_i behind hskip
    cases h
    rw [eq_append_of_skipWord hskip]
    exact ⟨.outer (List.all_eq_true.1 hw), rfl⟩
  · cases h
    cases hv

theorem isOuter_of_isDigit {c : Char} (h : c.isDigit = true) : isOuter c = true := by
  rw [isOuter, h, Bool.or_true, Bool.true_or]

theorem follows_of_scanDigits {reading : Bool} {s ds rest : List Char}
    (h : scanDigits reading s = .ok (ds, rest)) : Follows s rest [] := by
  unfold scanDigits at h
  split at h
  · cases h
  · obtain rfl : s.dropWhile Char.isDigit = rest := congrArg Prod.snd (Except.ok.inj h)
    have run := Follows.outer (s := s.dropWhile Char.isDigit)
      fun c (hc : c ∈ s.takeWhile Char.isDigit) => isOuter_of_isDigit (List.mem_takeWhile_imp hc)
    rwa [List.takeWhile_append_dropWhile] at run

theorem follows_of_scanWhole {reading : Bool} {s ds rest : List Char}
    (h : scanWhole reading s = .ok (ds, rest)) : Follows s rest [] := by
  obtain ⟨⟨found, behind⟩, hd, h⟩ := bind_eq_ok h
  dsimp only at h
  split at h
  · cases h
  · cases h
    exact follows_of_scanDigits hd

theorem follows_of_scanFraction {reading : Bool} {s rest : List Char} {f : Option (List Char)}
    (h : scanFraction reading s = .ok (f, rest)) : Follows s rest [] := by
  unfold scanFraction at h
  split at h
  · obtain ⟨⟨ds, behind⟩, hd, he⟩ := map_eq_ok h
    cases he
    exact (follows_of_scanDigits hd).cons (by decide)
  · cases h
    exact .refl s

theorem follows_of_scanExponent {reading : Bool} {s rest : List Char}
    {e : Option (Bool × List Char)} (h : scanExponent reading s = .ok (e, rest)) :
    Follows s rest [] := by
  unfold scanExponent at h
  split at h
  · split_ifs at h with hm
    · rename_i c r
      have mark : isOuter c = true := by
        simp only [isExponentMark, Bool.or_eq_true, beq_iff_eq] at hm
        rcases hm with rfl | rfl <;> decide
      split at h
      · obtain ⟨⟨ds, behind⟩, hd, he⟩ := map_eq_ok h
        cases he
        exact ((follows_of_scanDigits hd).cons (by decide)).cons mark
      · obtain ⟨⟨ds, behind⟩, hd, he⟩ := map_eq_ok h
        cases he
        exact ((follows_of_scanDigits hd).cons (by decide)).cons mark
      · obtain ⟨⟨ds, behind⟩, hd, he⟩ := map_eq_ok h
        cases he
        exact (follows_of_scanDigits hd).cons mark
    · cases h
      exact .refl _
  · cases h
    exact .refl _

theorem follows_of_scanNumber {reading : Bool} {s rest : List Char} {l : Lexeme}
    (h : scanNumber reading s = .ok (l, rest)) : Follows s rest [] := by
  unfold scanNumber at h
  split at h
  rename_i negative r hr
  obtain ⟨⟨whole, s1⟩, hwhole, h⟩ := bind_eq_ok h
  obtain ⟨⟨fraction, s2⟩, hfraction, h⟩ := bind_eq_ok h
  obtain ⟨⟨exponent, s3⟩, hexponent, h⟩ := bind_eq_ok h
  cases h
  have digits : Follows r rest [] := (follows_of_scanWhole hwhole).trans
    ((follows_of_scanFraction hfraction).trans (follows_of_scanExponent hexponent))
  split at hr
  · cases hr
    exact digits.cons (by decide)
  · cases hr
    exact digits

theorem follows_of_followNumber {s rest : List Char} {t : Tree} {d : Nat} {v : Value}
    (h : followNumber s = (t, rest)) (hv : t.value? d = .ok v) : Follows s rest v.texts := by
  unfold followNumber at h
  split at h
  · rename_i l behind hscan
    cases h
    obtain ⟨n, _, rfl⟩ := map_eq_ok hv
    exact follows_of_scanNumber hscan
  · split at h <;> cases h <;> cases hv

/-- What is read between two places of a text, with some fuel, spells the text between them. -/
structure FollowsAll (fuel : Nat) : Prop where
  value {s rest : List Char} {t : Tree} {d : Nat} {v : Value} :
    followValue fuel s = (t, rest) → t.value? d = .ok v → Follows s rest v.texts
  items {first : Bool} {s rest : List Char} {t : Items} {d : Nat} {vs : List Value} :
    followItems fuel first s = (t, rest) → t.values? d = .ok vs →
      Follows s rest (Value.itemTexts vs)
  item {s rest : List Char} {t : Items} {d : Nat} {vs : List Value} :
    followItem fuel s = (t, rest) → t.values? d = .ok vs → Follows s rest (Value.itemTexts vs)
  members {first : Bool} {s rest : List Char} {t : Members} {d : Nat}
      {vs : List (String × Value)} :
    followMembers fuel first s = (t, rest) → t.values? d = .ok vs →
      Follows s rest (Value.memberTexts vs)
  member {s rest : List Char} {t : Members} {d : Nat} {vs : List (String × Value)} :
    followMember fuel s = (t, rest) → t.values? d = .ok vs →
      Follows s rest (Value.memberTexts vs)

namespace FollowsAll

theorem zero : FollowsAll 0 where
  value h hv := by
    cases h
    cases hv
  items h hv := by
    cases h
    cases hv
  item h hv := by
    cases h
    cases hv
  members h hv := by
    cases h
    cases hv
  member h hv := by
    cases h
    cases hv

variable {fuel : Nat} {s rest : List Char} {d : Nat}

theorem value_succ (all : FollowsAll fuel) {t : Tree} {v : Value}
    (h : followValue (fuel + 1) s = (t, rest)) (hv : t.value? d = .ok v) :
    Follows s rest v.texts := by
  refine (Follows.blanks s).trans ?_
  unfold followValue at h
  generalize skipBlanks s = next at h ⊢
  split at h
  · cases h
    cases hv
  · obtain ⟨used, rfl⟩ := follows_of_followWord (by decide) h hv
    cases hv
    exact used.cons (by decide)
  · obtain ⟨used, rfl⟩ := follows_of_followWord (by decide) h hv
    cases hv
    exact used.cons (by decide)
  · obtain ⟨used, rfl⟩ := follows_of_followWord (by decide) h hv
    cases hv
    exact used.cons (by decide)
  · split at h
    · rename_i content behind hcontent
      cases h
      obtain ⟨text, rfl, rfl⟩ := map_eq_ok hv
      exact follows_of_followString hcontent
    · cases h
      cases hv
  · split at h
    rename_i items behind hitems
    cases h
    rw [Tree.value?] at hv
    split_ifs at hv
    obtain ⟨vs, hvs, rfl⟩ := map_eq_ok hv
    exact (all.items hitems hvs).cons (by decide)
  · split at h
    rename_i members behind hmembers
    cases h
    rw [Tree.value?] at hv
    split_ifs at hv
    obtain ⟨vs, hvs, rfl⟩ := map_eq_ok hv
    exact (all.members hmembers hvs).cons (by decide)
  · split_ifs at h
    · exact follows_of_followNumber h hv
    · cases h
      cases hv

theorem items_succ (all : FollowsAll fuel) {first : Bool} {t : Items} {vs : List Value}
    (h : followItems (fuel + 1) first s = (t, rest)) (hv : t.values? d = .ok vs) :
    Follows s rest (Value.itemTexts vs) := by
  refine (Follows.blanks s).trans ?_
  unfold followItems at h
  generalize skipBlanks s = next at h ⊢
  split at h
  · cases h
    cases hv
  · cases h
    cases hv
    exact (Follows.refl rest).cons (by decide)
  · split_ifs at h with hfirst hcomma
    · exact all.item h hv
    · cases h
      cases hv
    · obtain rfl := not_not.1 (fun hn => hcomma (bne_iff_ne.2 hn))
      refine Follows.cons (by decide) ((Follows.blanks _).trans ?_)
      generalize skipBlanks _ = next at h ⊢
      split at h
      · cases h
        cases hv
      · cases h
        cases hv
      · exact all.item h hv

theorem item_succ (all : FollowsAll fuel) {t : Items} {vs : List Value}
    (h : followItem (fuel + 1) s = (t, rest)) (hv : t.values? d = .ok vs) :
    Follows s rest (Value.itemTexts vs) := by
  unfold followItem at h
  split at h
  rename_i value behind hvalue
  split at h
  rename_i items last hitems
  cases h
  obtain ⟨v, hread, hv⟩ := bind_eq_ok hv
  obtain ⟨ws, hrest, hv⟩ := bind_eq_ok hv
  cases hv
  exact (all.value hvalue hread).trans (all.items hitems hrest)

theorem members_succ (all : FollowsAll fuel) {first : Bool} {t : Members}
    {vs : List (String × Value)} (h : followMembers (fuel + 1) first s = (t, rest))
    (hv : t.values? d = .ok vs) : Follows s rest (Value.memberTexts vs) := by
  refine (Follows.blanks s).trans ?_
  unfold followMembers at h
  generalize skipBlanks s = next at h ⊢
  split at h
  · cases h
    cases hv
  · cases h
    cases hv
    exact (Follows.refl rest).cons (by decide)
  · split_ifs at h with hfirst hcomma
    · exact all.member h hv
    · cases h
      cases hv
    · obtain rfl := not_not.1 (fun hn => hcomma (bne_iff_ne.2 hn))
      refine Follows.cons (by decide) ((Follows.blanks _).trans ?_)
      generalize skipBlanks _ = next at h ⊢
      split at h
      · cases h
        cases hv
      · cases h
        cases hv
      · exact all.member h hv

theorem member_succ (all : FollowsAll fuel) {t : Members} {vs : List (String × Value)}
    (h : followMember (fuel + 1) s = (t, rest)) (hv : t.values? d = .ok vs) :
    Follows s rest (Value.memberTexts vs) := by
  unfold followMember at h
  split at h
  · split at h
    · cases h
      cases hv
    · rename_i key behind hkey
      split at h
      · rename_i after hcolon
        split at h
        rename_i value next hvalue
        split at h
        rename_i members last hmembers
        cases h
        obtain ⟨k, hk, hv⟩ := bind_eq_ok hv
        obtain ⟨v, hread, hv⟩ := bind_eq_ok hv
        obtain ⟨ws, hrest, hv⟩ := bind_eq_ok hv
        cases hv
        subst hk
        have colon := (all.value hvalue hread).cons (d := ':') (by decide)
        rw [← hcolon] at colon
        exact (follows_of_followString hkey).trans
          (((Follows.blanks behind).trans colon).trans (all.members hmembers hrest))
      · cases h
        obtain ⟨k, _, hv⟩ := bind_eq_ok hv
        cases hv
      · cases h
        obtain ⟨k, _, hv⟩ := bind_eq_ok hv
        cases hv
  · cases h
    cases hv

end FollowsAll

theorem followsAll (fuel : Nat) : FollowsAll fuel := by
  -- The five ways of following a text call each other with less fuel, so one induction is for all.
  induction fuel with
  | zero => exact .zero
  | succ fuel ih =>
    exact ⟨ih.value_succ, ih.items_succ, ih.item_succ, ih.members_succ, ih.member_succ⟩

theorem spells_of_parse {text : String} {v : Value} (h : Value.parse text = .ok v) :
    Spells text.toList v.texts := by
  unfold Value.parse at h
  split at h
  rename_i t more hfollow
  obtain ⟨u, hu, hv⟩ := bind_eq_ok h
  split_ifs at hv with hmore
  cases hv
  unfold follow at hfollow
  obtain ⟨found, rest, hfound⟩ :
      ∃ found rest, followValue (3 * text.toList.length + 4) text.toList = (found, rest) :=
    ⟨_, _, rfl⟩
  simp only [hfound] at hfollow
  cases hfollow
  have behind : skipBlanks rest = [] := by simpa using hmore
  obtain ⟨used, hused, spelled⟩ := (followsAll _).value hfound hu
  obtain ⟨blanks, hblanks, last⟩ := Follows.blanks rest
  rw [behind, List.append_nil] at hblanks
  have whole := spelled.append last
  rwa [← hblanks, ← hused, List.append_nil] at whole

end PageHarvest.Json

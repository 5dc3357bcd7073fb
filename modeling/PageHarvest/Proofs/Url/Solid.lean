import PageHarvest.Proofs.Text.Blank
import PageHarvest.Url.Parse

namespace PageHarvest.Url

open Text (isBlank)

variable {a b p s : List Char} {kind : SchemeKind}

def Solid (s : List Char) : Prop :=
  ∀ c ∈ s, isBlank c = false

instance (s : List Char) : Decidable (Solid s) :=
  decidable_of_iff (s.all (!isBlank ·) = true) (by simp [Solid])

def EndsFirm (s : List Char) : Prop :=
  ∀ c ∈ s.getLast?, isBlank c = false

namespace Solid

theorem nil : Solid [] := nofun

theorem cons {c : Char} (hc : isBlank c = false) (h : Solid s) : Solid (c :: s) :=
  List.forall_mem_cons.2 ⟨hc, h⟩

theorem append (ha : Solid a) (hb : Solid b) : Solid (a ++ b) :=
  List.forall_mem_append.2 ⟨ha, hb⟩

theorem subset (h : Solid s) (hs : a ⊆ s) : Solid a :=
  fun c hc => h c (hs hc)

theorem ite {q : Prop} [Decidable q] (ha : Solid a) (hb : Solid b) :
    Solid (if q then a else b) := by
  split
  · exact ha
  · exact hb

theorem endsFirm (h : Solid s) : EndsFirm s :=
  fun c hc => h c (List.mem_of_getLast? hc)

end Solid

theorem EndsFirm.append (hb : EndsFirm b) (ha : b = [] → EndsFirm a) : EndsFirm (a ++ b) := by
  intro c hc
  rw [List.getLast?_append, Option.mem_def, Option.or_eq_some_iff] at hc
  rcases hc with hc | ⟨hnone, hc⟩
  · exact hb c hc
  · exact ha (List.getLast?_eq_none_iff.1 hnone) c hc

theorem toNat_of_isBlank {c : Char} (h : isBlank c = true) :
    c.toNat < 0x20 ∨ c = ' ' ∨ 0x7E < c.toNat := by
  have code : c.toNat = 0x20 → c = ' ' := fun hc => Char.toNat_inj.1 hc
  simp only [isBlank, Bool.or_eq_true, Bool.and_eq_true, decide_eq_true_eq, beq_iff_eq] at h
  by_cases hs : c.toNat = 0x20
  · exact .inr (.inl (code hs))
  · omega

theorem needsFragmentCode_of_isBlank {c : Char} (h : isBlank c = true) :
    needsFragmentCode c = true := by
  rcases toNat_of_isBlank h with h | rfl | h
  · simp [needsFragmentCode, isUnprintable, h]
  · decide
  · simp [needsFragmentCode, isUnprintable, h]

theorem needsPathCode_of_isBlank {c : Char} (h : isBlank c = true) : needsPathCode c = true := by
  rw [needsPathCode, needsFragmentCode_of_isBlank h, Bool.true_or]

theorem needsQueryCode_of_isBlank {c : Char} (h : isBlank c = true) : needsQueryCode c = true := by
  rcases toNat_of_isBlank h with h | rfl | h
  · simp [needsQueryCode, isUnprintable, h]
  · decide
  · simp [needsQueryCode, isUnprintable, h]

theorem needsSpecialQueryCode_of_isBlank {c : Char} (h : isBlank c = true) :
    needsSpecialQueryCode c = true := by
  rw [needsSpecialQueryCode, needsQueryCode_of_isBlank h, Bool.true_or]

theorem solid_encodeByte (n : UInt8) : Solid (encodeByte n) := by
  have digits : ∀ d < 16, isBlank (upperHexDigit d) = false := by decide
  have hn := n.toNat_lt
  exact .cons (by decide) (.cons (digits _ (by omega)) (.cons (digits _ (by omega)) .nil))

theorem solid_encode {needsCode : Char → Bool} {s : List Char}
    (h : ∀ c ∈ s, isBlank c = true → needsCode c = true) : Solid (encode needsCode s) := by
  intro d hd
  obtain ⟨c, hc, hd⟩ := List.mem_flatMap.1 hd
  split at hd
  · obtain ⟨n, -, hd⟩ := List.mem_flatMap.1 hd
    exact solid_encodeByte n d hd
  · rename_i hneeds
    obtain rfl := List.mem_singleton.1 hd
    cases hb : isBlank d with
    | false => rfl
    | true => exact absurd (h d hc hb) hneeds

theorem solid_encodePath (s : List Char) : Solid (encode needsPathCode s) :=
  solid_encode fun _ _ => needsPathCode_of_isBlank

theorem solid_fragmentOf (s : List Char) : Solid (fragmentOf s) :=
  solid_encode fun _ _ => needsFragmentCode_of_isBlank

theorem solid_encodeUser (s : List Char) : Solid (encode needsUserCode s) :=
  solid_encode fun _ _ h => by rw [needsUserCode, needsPathCode_of_isBlank h, Bool.true_or]

/-- A text in which only what cannot be printed is coded ends as firmly as it was given. -/
theorem endsFirm_encode_isUnprintable (h : ∀ c ∈ s.getLast?, 0x20 < c.toNat) :
    EndsFirm (encode isUnprintable s) := by
  rcases s.eq_nil_or_concat with rfl | ⟨a, c, rfl⟩
  · exact nofun
  · have last : Solid (encode isUnprintable [c]) := by
      refine solid_encode fun d hd hb => ?_
      obtain rfl := List.mem_singleton.1 hd
      have printed : 0x20 < d.toNat := h d (by simp)
      rcases toNat_of_isBlank hb with hd | rfl | hd
      · omega
      · exact absurd printed (by decide)
      · simp [isUnprintable, hd]
    have written : encode isUnprintable [c] ≠ [] := by
      rw [encode, List.flatMap_singleton]
      split
      · obtain ⟨n, bytes, hn⟩ := List.exists_cons_of_ne_nil (@String.utf8EncodeChar_ne_nil c)
        rw [hn, List.flatMap_cons]
        exact List.cons_ne_nil _ _
      · exact List.cons_ne_nil _ _
    rw [List.concat_eq_append, encode, List.flatMap_append]
    exact last.endsFirm.append fun hnil => absurd hnil written

theorem solid_popSegment (h : Solid p) : Solid (popSegment kind p) := by
  unfold popSegment uptoLastSlash
  split
  · exact h
  · refine h.subset fun c hc => ?_
    exact List.mem_reverse.1 ((List.dropWhile_sublist _).subset (List.mem_reverse.1 hc))

theorem PathState.solid_add {p : PathState} (h : Solid p.text) (segment : List Char)
    (slash : Bool) : Solid (p.add kind segment slash).text := by
  have slashes : Solid ['/'] := .cons (by decide) .nil
  have tail : Solid (if slash then ['/'] else []) := Solid.ite slashes .nil
  have coded := solid_encodePath segment
  have opened : Solid (if kind == .file && !segment.isEmpty && isPlainDrive (p.text.drop 1) then
    p.text ++ ['/'] else p.text) := Solid.ite (h.append slashes) h
  unfold PathState.add
  dsimp only
  generalize (if kind == .file && !segment.isEmpty && isPlainDrive (p.text.drop 1) then
    p.text ++ ['/'] else p.text) = text at opened ⊢
  split
  · have up : Solid (popSegment kind
        (if endsWithSlash text && mayDropSlash text then text.dropLast else text)) :=
      solid_popSegment (Solid.ite (opened.subset (List.dropLast_subset text)) opened)
    exact Solid.ite (up.append slashes) up
  · split
    · exact Solid.ite opened (opened.append slashes)
    · split
      · have drive := opened.append (coded.subset (List.take_subset 1 _))
        exact (drive.append (.cons (by decide) .nil)).append tail
      · exact (opened.append coded).append tail

theorem solid_addSegments {p : PathState} (h : Solid p.text) (segments : List (List Char)) :
    Solid (addSegments kind p segments).text := by
  fun_induction addSegments kind p segments with
  | case1 p => exact h
  | case2 p segment => exact PathState.solid_add h segment false
  | case3 p segment rest _ ih => exact ih (PathState.solid_add h segment true)

theorem solid_extendPath (h : Solid p) (s : List Char) : Solid (extendPath kind p s).text := by
  have added : Solid (addSegments kind { text := p } (Text.fields (isSlash kind) s)).text :=
    solid_addSegments h _
  unfold extendPath
  split
  · exact .cons (by decide) (added.subset (List.dropWhile_sublist _).subset)
  · exact added

theorem solid_toDigits {base : Nat} (hb : 1 < base) (hb' : base ≤ 16) (n : Nat) :
    Solid (Nat.toDigits base n) := by
  have digits : ∀ d < 16, isBlank (Nat.digitChar d) = false := by decide
  induction n using Nat.strongRecOn with
  | ind n ih =>
    rw [Nat.toDigits_eq_if hb]
    split
    · exact .cons (digits n (by omega)) .nil
    · have last := Nat.mod_lt n (Nat.zero_lt_of_lt hb)
      exact (ih _ (Nat.div_lt_self (by omega) hb)).append (.cons (digits _ (by omega)) .nil)

theorem solid_digitsOf_ten (n : Nat) : Solid (digitsOf 10 n) :=
  solid_toDigits (by decide) (by decide) n

theorem solid_joinWith {sep : String} (hs : Solid sep.toList) {parts : List (List Char)}
    (h : ∀ p ∈ parts, Solid p) : Solid (Text.joinWith sep parts) := by
  intro c hc
  rcases Text.mem_joinWith hc with hc | ⟨p, hp, hc⟩
  · exact hs c hc
  · exact h p hp c hc

theorem solid_joinNumbers {sep : String} (hs : Solid sep.toList) {base : Nat} (hb : 1 < base)
    (hb' : base ≤ 16) (numbers : List Nat) :
    Solid (Text.joinWith sep (numbers.map (digitsOf base))) := by
  refine solid_joinWith hs fun p hp => ?_
  obtain ⟨n, -, rfl⟩ := List.mem_map.1 hp
  exact solid_toDigits hb hb' n

theorem solid_ipv6Text (pieces : List Nat) : Solid (ipv6Text pieces) := by
  have join : ∀ numbers : List Nat, Solid (Text.joinWith ":" (numbers.map (digitsOf 16))) :=
    solid_joinNumbers (by decide) (by decide) (by decide)
  unfold ipv6Text
  exact Solid.ite (join _) (((join _).append (by decide)).append (join _))

theorem solid_readIpv6 {host : Host} (h : readIpv6 s = .ok host) : Solid host.chars := by
  unfold readIpv6 at h
  split at h
  · split at h
    · rename_i pieces _
      cases h
      exact .cons (by decide) ((solid_ipv6Text pieces).append (.cons (by decide) .nil))
    · cases h
  · cases h

section

open Punycode (isBasic digitChar numberDigits writeCodes Writing)

theorem isBasic_of_mem_numberDigits {bias place n : Nat} :
    ∀ c ∈ numberDigits bias place n, isBasic c = true := by
  have digit : ∀ d < 36, isBasic (digitChar d) = true := by decide
  fun_induction numberDigits bias place n with
  | case1 place n t hn =>
    have := Punycode.threshold_le bias place
    exact List.forall_mem_singleton.2 (digit n (by omega))
  | case2 place n t hn ih =>
    have := Punycode.threshold_le bias place
    have weight := Nat.mod_lt (n - t) (y := 36 - t) (by omega)
    exact List.forall_mem_cons.2 ⟨digit _ (by omega), ih⟩

theorem isBasic_pass {basic code : Nat} {w : Writing} (h : ∀ c ∈ w.out, isBasic c = true)
    (d : Char) : ∀ c ∈ (w.pass basic code d).out, isBasic c = true := by
  unfold Writing.pass
  split
  · exact h
  · split
    · exact List.forall_mem_append.2 ⟨h, isBasic_of_mem_numberDigits⟩
    · exact h

theorem isBasic_foldl_pass {basic code : Nat} (s : List Char) {w : Writing}
    (h : ∀ c ∈ w.out, isBasic c = true) :
    ∀ c ∈ (s.foldl (Writing.pass basic code) w).out, isBasic c = true := by
  induction s generalizing w with
  | nil => exact h
  | cons d s ih => exact ih (isBasic_pass h d)

theorem isBasic_of_mem_writeCodes {s : List Char} {basic next : Nat} {codes : List Nat}
    {w : Writing} (h : ∀ c ∈ w.out, isBasic c = true) :
    ∀ c ∈ writeCodes s basic codes next w, isBasic c = true := by
  induction codes generalizing next w with
  | nil => exact h
  | cons code codes ih => exact ih (isBasic_foldl_pass s h)

theorem isBasic_of_mem_asciiPart {part : List Char} : ∀ c ∈ asciiPart part, isBasic c = true := by
  unfold asciiPart Punycode.encode
  split
  · rename_i basic
    exact List.all_eq_true.1 basic
  · have mark : codedMark.all isBasic = true := rfl
    have hyphen : ['-'].all isBasic = true := rfl
    refine List.forall_mem_append.2 ⟨List.all_eq_true.1 mark, List.forall_mem_append.2 ⟨?_, ?_⟩⟩
    · split
      · exact nofun
      · refine List.forall_mem_append.2 ⟨fun c hc => ?_, List.all_eq_true.1 hyphen⟩
        exact (List.mem_filter.1 hc).2
    · exact isBasic_of_mem_writeCodes nofun

/-- The last check of a name keeps the blanks of ASCII out, and others cannot come in. -/
theorem solid_asciiName? {name : List Char} (h : asciiName? s = some name) : Solid name := by
  unfold asciiName? at h
  split at h
  · cases h
  · rename_i parts _
    dsimp only at h
    split at h
    · cases h
    · rename_i fit
      cases h
      intro c hc
      have basic : isBasic c = true := by
        rcases Text.mem_joinWith hc with hc | ⟨p, hp, hc⟩
        · obtain rfl := List.mem_singleton.1 hc
          rfl
        · obtain ⟨part, -, rfl⟩ := List.mem_map.1 hp
          exact isBasic_of_mem_asciiPart c hc
      cases hb : isBlank c with
      | false => rfl
      | true =>
        refine absurd (Bool.or_eq_true_iff.2 (.inr (List.any_eq_true.2 ⟨c, hc, ?_⟩))) fit
        have low : c.toNat ≤ 0x20 := by
          simp only [isBasic, decide_eq_true_eq] at basic
          simp only [isBlank, Bool.or_eq_true, Bool.and_eq_true, decide_eq_true_eq,
            beq_iff_eq] at hb
          omega
        simp [isUnfitForName, low]

end

theorem solid_readSite {host : Host} (h : readSite s = .ok host) : Solid host.chars := by
  unfold readSite at h
  split at h
  · exact solid_readIpv6 h
  · split at h
    · cases h
    · cases h
    · rename_i name hname
      obtain ⟨decoded, -, hname⟩ := Option.bind_eq_some_iff.1 hname
      split at h
      · split at h
        · cases h
          exact solid_joinNumbers (by decide) (by decide) (by decide) _
        · cases h
      · cases h
        exact solid_asciiName? hname

theorem solid_readOtherHost {host : Host} (h : readOtherHost s = .ok host) :
    Solid host.chars := by
  unfold readOtherHost at h
  split at h
  · exact solid_readIpv6 h
  · split at h
    · cases h
    · rename_i fit
      cases h
      refine solid_encode fun c hc hb => ?_
      rcases toNat_of_isBlank hb with hlow | rfl | hhigh
      · simp [isUnprintable, hlow]
      · exact absurd (List.any_eq_true.2 ⟨' ', hc, by decide⟩) fit
      · simp [isUnprintable, hhigh]

theorem solid_noHost : Solid (Host.named []).chars :=
  .nil

theorem Authority.solid_host {a : Authority} (h : Solid a.chars) : Solid a.host.chars := by
  refine h.subset fun c hc => ?_
  simp only [Authority.chars, List.mem_append]
  exact .inl (.inr hc)

theorem Authority.solid_chars {a : Authority} (user : Solid a.user)
    (password : ∀ p ∈ a.password, Solid p) (host : Solid a.host.chars) : Solid a.chars := by
  have sign : Solid ['@'] := by decide
  intro c hc
  simp only [Authority.chars, List.mem_append] at hc
  rcases hc with (((hc | hc) | hc) | hc) | hc
  · exact user c hc
  · split at hc
    · rename_i p hp
      exact Solid.cons (by decide) (password p hp) c hc
    · cases hc
  · exact Solid.ite .nil sign c hc
  · exact host c hc
  · split at hc
    · exact Solid.cons (by decide) (solid_digitsOf_ten _) c hc
    · cases hc

end PageHarvest.Url

import Mathlib
import PageHarvest.Proofs.Except
import PageHarvest.Proofs.Url.Solid

namespace PageHarvest.Url

open Text (isBlank)

variable {p s : List Char} {u base : Url} {kind : SchemeKind}

/-- A URL with a path that is split, without a blank in what stands before the query. -/
structure Rooted (u : Url) : Prop where
  scheme : Solid u.scheme
  authority : ∀ a ∈ u.authority, Solid a.chars
  path : ∃ t, u.path = .segments t ∧ Solid t

/-- A URL without blanks, but for a path that is not split; nor does that end the URL with one. -/
structure Firm (u : Url) : Prop where
  scheme : Solid u.scheme
  authority : ∀ a ∈ u.authority, Solid a.chars
  segments : ∀ t, u.path = .segments t → Solid t
  unsplit : ∀ t, u.path = .unsplit t →
    u.kind = .other ∧ (u.query = none → u.fragment = none → EndsFirm t)
  query : ∀ q ∈ u.query, Solid q
  fragment : ∀ f ∈ u.fragment, Solid f

theorem exists_withTail (u : Url) (s : List Char) : ∃ q f,
    withTail u s = { u with query := q, fragment := f } ∧ (∀ x ∈ q, Solid x) ∧
      (∀ x ∈ f, Solid x) ∧ (q = none → f = none → beforeTail s = s) := by
  have query (r : List Char) : Solid (encode
      (if u.kind.takesBackslash then needsSpecialQueryCode else needsQueryCode) r) := by
    refine solid_encode fun c _ hc => ?_
    split
    · exact needsSpecialQueryCode_of_isBlank hc
    · exact needsQueryCode_of_isBlank hc
  unfold withTail
  split
  · rename_i r _
    dsimp only
    split
    · exact ⟨_, _, rfl, fun _ hx => Option.some.inj hx ▸ query _,
        fun _ hx => Option.some.inj hx ▸ solid_fragmentOf _, nofun⟩
    · exact ⟨_, _, rfl, fun _ hx => Option.some.inj hx ▸ query _, nofun, nofun⟩
  · exact ⟨_, _, rfl, nofun, fun _ hx => Option.some.inj hx ▸ solid_fragmentOf _, fun _ => nofun⟩
  · rename_i whole
    refine ⟨_, _, rfl, nofun, nofun, fun _ _ => ?_⟩
    have joined := s.takeWhile_append_dropWhile (p := (!startsTail ·))
    rwa [whole, List.append_nil] at joined

theorem Rooted.firm_of_parts (h : Rooted u) {q f : Option (List Char)} (hq : ∀ x ∈ q, Solid x)
    (hf : ∀ x ∈ f, Solid x) : Firm { u with query := q, fragment := f } := by
  obtain ⟨t, ht, solid⟩ := h.path
  refine ⟨h.scheme, h.authority, fun t' ht' => ?_, fun t' ht' => ?_, hq, hf⟩
  · rw [ht] at ht'
    cases ht'
    exact solid
  · rw [ht] at ht'
    cases ht'

theorem Rooted.firm_withTail (h : Rooted u) (s : List Char) : Firm (withTail u s) := by
  obtain ⟨q, f, hw, hq, hf, -⟩ := exists_withTail u s
  rw [hw]
  exact h.firm_of_parts hq hf

namespace Firm

theorem rooted (h : Firm u) (split : u.isOpaque = false) : Rooted u := by
  refine ⟨h.scheme, h.authority, ?_⟩
  cases hp : u.path with
  | unsplit t =>
    rw [isOpaque, hp] at split
    cases split
  | segments t => exact ⟨t, rfl, h.segments t hp⟩

theorem isOpaque_eq_false (h : Firm u) (hk : u.kind ≠ .other) : u.isOpaque = false := by
  unfold isOpaque
  split
  · rename_i t hp
    exact absurd (h.unsplit t hp).1 hk
  · rfl

theorem withFragment (h : Firm u) (s : List Char) : Firm (withFragment u s) :=
  ⟨h.scheme, h.authority, h.segments, fun t ht => ⟨(h.unsplit t ht).1, nofun⟩, h.query,
    fun _ hx => Option.some.inj hx ▸ solid_fragmentOf s⟩

theorem solid_path (h : Firm u) (split : u.isOpaque = false) : Solid u.path.chars := by
  obtain ⟨t, ht, solid⟩ := (h.rooted split).path
  rw [ht]
  exact solid

theorem solid_hostOf (h : Firm u) : Solid (hostOf u).chars := by
  unfold hostOf
  split
  · rename_i a ha
    exact a.solid_host (h.authority a ha)
  · exact .nil

end Firm

theorem rooted_withPath (h : Rooted u) (hp : Solid p) : Rooted { u with path := .segments p } :=
  ⟨h.scheme, h.authority, p, rfl, hp⟩

theorem firm_fileUrl {host : Host} (hh : Solid host.chars) (hp : Solid p) (s : List Char) :
    Firm (fileUrl host p s) := by
  have scheme : Solid "file".toList := by decide
  refine Rooted.firm_withTail ⟨scheme, fun a ha => ?_, _, rfl, solid_extendPath hp _⟩ s
  cases ha
  exact Authority.solid_chars .nil nofun hh

theorem solid_readCredentials_fst (s : List Char) : Solid (readCredentials s).1 := by
  unfold readCredentials
  split <;> exact solid_encodeUser _

theorem solid_readCredentials_snd (s : List Char) : ∀ p ∈ (readCredentials s).2, Solid p := by
  unfold readCredentials
  split
  · exact nofun
  · exact fun _ hp => Option.some.inj hp ▸ solid_encodeUser _

theorem solid_credentialsOf (cut : Option (List Char × List Char)) :
    Solid (credentialsOf cut).1 ∧ ∀ p ∈ (credentialsOf cut).2, Solid p := by
  cases cut with
  | none => exact ⟨.nil, nofun⟩
  | some c => exact ⟨solid_readCredentials_fst c.1, solid_readCredentials_snd c.1⟩

theorem solid_readHost {host : Host} (h : readHost kind s = .ok host) : Solid host.chars := by
  unfold readHost at h
  split at h
  · exact solid_readOtherHost h
  · exact solid_readSite h

theorem solid_pathAfterHost (kind : SchemeKind) (s : List Char) :
    Solid (pathAfterHost kind s) := by
  have slash : Solid ['/'] := by decide
  unfold pathAfterHost
  split
  · exact .nil
  · exact solid_extendPath .nil _
  · exact solid_extendPath slash _
  · exact solid_extendPath slash _
  · exact slash

theorem firm_readAuthority {scheme : List Char} (hs : Solid scheme)
    (h : readAuthority scheme s = .ok u) : Firm u := by
  unfold readAuthority at h
  obtain ⟨user, password⟩ := solid_credentialsOf (cutCredentials? (schemeKind scheme) s)
  dsimp only at h
  split at h
  · cases h
  · split at h
    · cases h
    · obtain ⟨host, hhost, h⟩ := bind_eq_ok h
      split at h
      · cases h
      · obtain ⟨⟨port, rest⟩, -, h⟩ := bind_eq_ok h
        cases h
        refine Rooted.firm_withTail ⟨hs, fun a ha => ?_, _, rfl, solid_pathAfterHost _ _⟩ rest
        cases ha
        exact Authority.solid_chars user password (solid_readHost hhost)

theorem firm_readFileHost (h : readFileHost s = .ok u) : Firm u := by
  have slash : Solid ['/'] := by decide
  unfold readFileHost at h
  dsimp only at h
  split at h
  · cases h
    exact firm_fileUrl solid_noHost slash s
  · split at h
    · cases h
      exact firm_fileUrl solid_noHost slash _
    · obtain ⟨host, hhost, h⟩ := bind_eq_ok h
      split at h
      · cases h
        exact firm_fileUrl solid_noHost slash _
      · cases h
        have kept : ∀ dropsHost : Bool,
            Solid (if dropsHost then .named [] else host : Host).chars :=
          Bool.forall_bool.2 ⟨solid_readSite hhost, solid_noHost⟩
        exact firm_fileUrl (kept _) slash _

theorem Firm.without_fragment (h : Firm u) (split : u.isOpaque = false) :
    Firm { u with fragment := none } :=
  (h.rooted split).firm_of_parts h.query nofun

theorem firm_readLocal {base? : Option Url}
    (hb : ∀ base ∈ base?, Firm base ∧ base.isOpaque = false) {c : Char} {r : List Char}
    (h : readFile.readLocal base? c r = .ok u) : Firm u := by
  have slash : Solid ['/'] := by decide
  unfold readFile.readLocal at h
  split at h
  · cases h
    exact firm_fileUrl solid_noHost (Solid.ite .nil slash) _
  · rename_i base
    obtain ⟨firm, split⟩ := hb base rfl
    have path := firm.solid_path split
    dsimp only at h
    split at h
    · -- From the root: a drive is given, or the one of the page stays, or there is none.
      split at h
      · cases h
        exact firm_fileUrl solid_noHost .nil _
      · split at h
        · cases h
          refine firm_fileUrl solid_noHost (.cons (by decide) (path.subset fun d hd => ?_)) _
          exact List.mem_of_mem_drop ((List.takeWhile_sublist _).subset hd)
        · cases h
          exact firm_fileUrl firm.solid_hostOf .nil _
    · -- On from the page: a query, a fragment, another drive or a path.
      split at h
      · cases h
        exact (firm.rooted split).firm_withTail _
      · split at h
        · cases h
          exact firm.withFragment r
        · split at h
          · cases h
            exact firm_fileUrl solid_noHost slash _
          · cases h
            exact firm_fileUrl firm.solid_hostOf (solid_popSegment path) _

theorem firm_readFile {base? : Option Url}
    (hb : ∀ base ∈ base?, Firm base ∧ base.isOpaque = false) (h : readFile base? s = .ok u) :
    Firm u := by
  unfold readFile at h
  split at h
  · split at h
    · exact firm_readFileHost h
    · exact firm_readLocal hb h
  · exact firm_readLocal hb h
  · split at h
    · cases h
      obtain ⟨firm, split⟩ := hb _ rfl
      exact firm.without_fragment split
    · cases h
      exact firm_fileUrl solid_noHost (by decide) []

theorem firm_readRelative (hb : Firm base) (split : base.isOpaque = false)
    (h : readRelative base s = .ok u) : Firm u := by
  have slash : Solid ['/'] := by decide
  have moved {p : List Char} (hp : Solid p) (rest : List Char) : Firm (withTail
      { base with path := .segments (extendPath base.kind p (beforeTail rest)).text } rest) :=
    (rooted_withPath (hb.rooted split) (solid_extendPath hp _)).firm_withTail rest
  unfold readRelative at h
  dsimp only at h
  split at h
  · cases h
    exact hb.without_fragment split
  · cases h
    exact (hb.rooted split).firm_withTail _
  · cases h
    exact hb.withFragment _
  · split at h
    · split at h
      · exact firm_readAuthority hb.scheme h
      · cases h
        exact moved slash _
    · cases h
      have up : Solid (popSegment base.kind base.path.chars) :=
        solid_popSegment (hb.solid_path split)
      exact moved (Solid.ite slash up) _

/-- What stands behind a scheme ends without a blank if the text does. -/
theorem firm_readWithScheme {base? : Option Url} {scheme : List Char}
    (hb : ∀ base ∈ base?, Firm base) (hs : Solid scheme)
    (ending : ∀ c ∈ s.getLast?, 0x20 < c.toNat) (h : readWithScheme base? scheme s = .ok u) :
    Firm u := by
  unfold readWithScheme at h
  split at h
  · refine firm_readFile (fun base hbase => ?_) h
    obtain ⟨hmem, hk⟩ := Option.filter_eq_some_iff.1 hbase
    have file : base.kind = .file := by simpa using hk
    exact ⟨hb base hmem, (hb base hmem).isOpaque_eq_false (by simp [file])⟩
  · rename_i special
    dsimp only at h
    split at h
    · rename_i base hbase
      obtain ⟨hmem, hk⟩ := Option.filter_eq_some_iff.1 hbase
      have same : base.kind = .special := by
        simp only [Bool.and_eq_true, beq_iff_eq] at hk
        rw [kind, hk.2, special]
      exact firm_readRelative (hb base hmem) ((hb base hmem).isOpaque_eq_false (by simp [same])) h
    · exact firm_readAuthority hs h
  · rename_i other
    split at h
    · exact firm_readAuthority hs h
    · cases h
      have slash : Solid ['/'] := by decide
      exact Rooted.firm_withTail ⟨hs, fun a ha => absurd ha (Option.not_mem_none a), _, rfl,
        solid_extendPath slash _⟩ _
    · cases h
      obtain ⟨q, f, hw, hq, hf, whole⟩ := exists_withTail
        { scheme, path := .unsplit (encode isUnprintable (beforeTail s)) } s
      rw [hw]
      refine ⟨hs, fun a ha => absurd ha (Option.not_mem_none a), fun t ht => ?_,
        fun t ht => ⟨other, fun hqn hfn => ?_⟩, hq, hf⟩
      · cases ht
      · cases ht
        rw [whole hqn hfn]
        exact endsFirm_encode_isUnprintable ending

theorem toNat_of_isSchemeChar {c : Char} (h : isSchemeChar c = true) : c.toNat < 0x80 := by
  rw [Char.toNat]
  simp only [isSchemeChar, Char.isAlphanum, Char.isAlpha, Char.isUpper, Char.isLower,
    Char.isDigit, Bool.or_eq_true, Bool.and_eq_true, decide_eq_true_eq, beq_iff_eq, ge_iff_le,
    UInt32.le_iff_toNat_le, Char.reduceVal, UInt32.reduceToNat] at h
  rcases h with ((h | rfl) | rfl) | rfl
  · omega
  · decide
  · decide
  · decide

theorem solid_scheme {scheme r : List Char} (h : readScheme? s = some (scheme, r)) :
    Solid scheme := by
  have letters : ∀ n < 0x80, isSchemeChar (Char.ofNat n) = true →
      isBlank (Char.ofNat n).toLower = false := by decide
  unfold readScheme? at h
  split at h
  · split at h
    · cases h
      intro d hd
      obtain ⟨c, hc, rfl⟩ := List.mem_map.1 hd
      have hs := List.mem_takeWhile_imp hc
      have blank := letters c.toNat (toNat_of_isSchemeChar hs)
      rw [Char.ofNat_toNat] at blank
      exact blank hs
    · cases h
  · cases h

theorem exists_scheme_append {scheme r : List Char} (h : readScheme? s = some (scheme, r)) :
    ∃ front, s = front ++ r := by
  unfold readScheme? at h
  split at h
  · split at h
    · rename_i behind
      cases h
      refine ⟨s.takeWhile isSchemeChar ++ [':'], ?_⟩
      rw [List.append_assoc, List.singleton_append, ← behind, List.takeWhile_append_dropWhile]
    · cases h
  · cases h

theorem getLast?_cleaned (s : List Char) : ∀ c ∈ (cleaned s).getLast?, 0x20 < c.toNat := by
  unfold cleaned
  dsimp only
  generalize s.dropWhile _ = t
  have outer := Text.dropTrailing_eq_self_iff.1
    (List.rdropWhile_idempotent (fun c : Char => decide (c.toNat ≤ 0x20)) t)
  change ∀ c ∈ (Text.dropTrailing _ t).getLast?, _ at outer
  generalize Text.dropTrailing _ t = t at outer ⊢
  rcases t.eq_nil_or_concat with rfl | ⟨a, c, rfl⟩
  · exact nofun
  · have high : 0x20 < c.toNat := by simpa using outer c (by simp)
    have kept : (c != '\t' && c != '\n' && c != '\r') = true := by
      simp only [Bool.and_eq_true, bne_iff_ne]
      exact ⟨⟨fun h => absurd high (h ▸ by decide), fun h => absurd high (h ▸ by decide)⟩,
        fun h => absurd high (h ▸ by decide)⟩
    rw [List.concat_eq_append, List.filter_append, List.filter_cons, if_pos kept,
      List.filter_nil, List.getLast?_concat]
    exact fun d hd => Option.some.inj hd ▸ high

theorem firm_read {base? : Option Url} {text : String} (hb : ∀ base ∈ base?, Firm base)
    (h : read base? text = .ok u) : Firm u := by
  unfold read at h
  dsimp only at h
  split at h
  · rename_i scheme r hs
    obtain ⟨front, hfront⟩ := exists_scheme_append hs
    refine firm_readWithScheme hb (solid_scheme hs) (fun c hc => ?_) h
    refine getLast?_cleaned text.toList c ?_
    rw [hfront, List.getLast?_append, hc, Option.some_or]
    rfl
  · cases h
  · rename_i base _
    have firm := hb base rfl
    split at h
    · cases h
      exact firm.withFragment _
    · split at h
      · cases h
      · rename_i split
        have split := Bool.not_eq_true _ ▸ split
        split at h
        · exact firm_readFile (fun _ hbase => by cases hbase; exact ⟨firm, split⟩) h
        · exact firm_readRelative firm split h

namespace Firm

theorem endsFirm_path (h : Firm u) (hq : u.query = none) (hf : u.fragment = none) :
    EndsFirm u.path.chars := by
  cases hp : u.path with
  | unsplit t => exact (h.unsplit t hp).2 hq hf
  | segments t => exact (h.segments t hp).endsFirm

theorem endsFirm_chars (h : Firm u) : EndsFirm u.chars := by
  unfold chars
  refine EndsFirm.append (Solid.endsFirm ?_) fun noFragment =>
    EndsFirm.append (Solid.endsFirm ?_) fun noQuery => ?_
  · split
    · rename_i f hf
      exact .cons (by decide) (h.fragment f hf)
    · exact .nil
  · split
    · rename_i q hq
      exact .cons (by decide) (h.query q hq)
    · exact .nil
  · have hf : u.fragment = none := by
      cases hf : u.fragment with
      | none => rfl
      | some f => rw [hf] at noFragment; cases noFragment
    have hq : u.query = none := by
      cases hq : u.query with
      | none => rfl
      | some q => rw [hq] at noQuery; cases noQuery
    refine EndsFirm.append (h.endsFirm_path hq hf) fun _ => Solid.endsFirm ?_
    refine h.scheme.append (.cons (by decide) ?_)
    split
    · rename_i a ha
      exact .cons (by decide) (.cons (by decide) (h.authority a ha))
    · have dot : Solid ['/', '.'] := by decide
      exact Solid.ite dot .nil

theorem trimmed_text (h : Firm u) : Text.trimmed u.text = u.text := by
  have trim : Text.trim u.chars = u.chars := by
    refine Text.trim_eq_self_iff.2 ⟨fun c hc => ?_, h.endsFirm_chars⟩
    unfold chars at hc
    cases hs : u.scheme with
    | nil =>
      rw [hs] at hc
      cases hc
      decide
    | cons d s =>
      rw [hs] at hc
      cases hc
      exact h.scheme c (hs ▸ List.mem_cons_self)
  rw [Text.trimmed, text, String.toList_ofList, trim]

end Firm

theorem firm_of_parse {text : String} (h : parse text = .ok u) : Firm u :=
  firm_read (fun base hb => absurd hb (Option.not_mem_none base)) h

theorem firm_of_join {text : String} (hb : Firm base) (h : base.join text = .ok u) : Firm u :=
  firm_read (fun _ hbase => Option.some.inj hbase ▸ hb) h

end PageHarvest.Url

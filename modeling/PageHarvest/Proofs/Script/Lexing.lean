import PageHarvest.Proofs.Python.Lexeme
import PageHarvest.Proofs.Script.Literal
import PageHarvest.Proofs.Script.Rows

namespace PageHarvest.Script

open Python

/-- What a piece of a line ends with. -/
inductive Edge
  | word
  | mark
  | literal
deriving DecidableEq

def Edge.Before : Edge → Place → Prop
  | word, p => ∃ rest, p = .code rest
  | mark, p => p = .code []
  | literal, p => p = .closed

/-- The characters of a formatted literal that neither end it nor open or close a hole. -/
def isPlainChar (c : Char) : Bool :=
  isCodeChar c && c != '\x7b' && c != '\x7d'

namespace Part

def isPlain : Part → Bool
  | plain text => text.toList.all isPlainChar
  | hole expression => expression.toList.all isPlainChar

end Part

namespace Piece

/-- Whether the piece reads as what it is behind something that ends with an edge. -/
def fits (before : Edge) : Piece → Bool
  | code text => !text.toList.isEmpty && text.toList.all isCodeChar
  | quoted _ => before == .mark
  | list _ => true
  | interpolated parts => before != .word && parts.all Part.isPlain

def edge : Piece → Edge
  | code text => if text.toList.getLast?.any (!isWordChar ·) then .mark else .word
  | list _ => .mark
  | quoted _ | interpolated _ => .literal

/-- The piece without what its literals hold, be it not written by the user. -/
def bare : Piece → Piece
  | quoted _ => quoted ""
  | list values => list (values.map fun _ => "")
  | p => p

end Piece

def fit (before : Edge) : List Piece → Bool
  | [] => true
  | p :: rest => p.fits before && fit p.edge rest

/-- Two texts are read from one place to another and have the same code. -/
def SameCode (p q : Place) (s t : List Char) : Prop :=
  ∃ xs ys, scan p s = some (q, xs) ∧ scan p t = some (q, ys) ∧
    xs.map Lexeme.bare = ys.map Lexeme.bare

theorem SameCode.append {p q r : Place} {s s' t t' : List Char} (h : SameCode p q s t)
    (h' : SameCode q r s' t') : SameCode p r (s ++ s') (t ++ t') := by
  obtain ⟨xs, ys, hs, ht, he⟩ := h
  obtain ⟨xs', ys', hs', ht', he'⟩ := h'
  refine ⟨_, _, scan_append_of_eq hs hs', scan_append_of_eq ht ht', ?_⟩
  rw [List.map_append, List.map_append, he, he']

theorem SameCode.nil (p : Place) : SameCode p p [] [] :=
  ⟨[], [], rfl, rfl, rfl⟩

theorem SameCode.of_scan {p q : Place} {s : List Char} {xs : List Lexeme}
    (h : scan p s = some (q, xs)) : SameCode p q s s :=
  ⟨xs, xs, h, h, rfl⟩

theorem hexDigit_inside {quote : Char} (hq : isQuote quote = true) (d : Fin 16) :
    hexDigit d ≠ quote ∧ hexDigit d ≠ '\\' ∧ endsLine (hexDigit d) = false := by
  rcases eq_of_isQuote hq with rfl | rfl <;> revert d <;> decide

theorem scan_literalChar {quote : Char} (hq : isQuote quote = true) (c : Char)
    (body : List Char) :
    scan (.inside false quote body) (literalChar quote c) =
      some (.inside false quote ((literalChar quote c).reverse ++ body), []) := by
  have hb := ne_backslash_of_isQuote hq
  have escape {e : Char} (he : endsLine e = false) :
      scan (.inside false quote body) ['\\', e] =
        some (.inside false quote (e :: '\\' :: body), []) := by
    simp [scan, step, hb.symm, he]
  rcases literalChar_cases hq c with ⟨e, he, _, _, hc⟩ | ⟨_, he⟩ | ⟨he, hne, hcq, hc⟩
  · rw [he]
    exact escape (endsLine_of_not_isControl hc)
  · rw [he]
    -- only the letter behind the backslash belongs to the escape; the digits are plain characters
    have digits : ∀ d ∈ [hexDigit (Fin.ofNat 16 (c.toNat / 16)), hexDigit (Fin.ofNat 16 c.toNat)],
        d ≠ quote ∧ d ≠ '\\' ∧ endsLine d = false := by
      simpa using ⟨hexDigit_inside hq _, hexDigit_inside hq _⟩
    have h := scan_append_of_eq (escape (e := 'x') rfl) (scan_inside digits false _)
    simpa using h
  · rw [he]
    apply scan_inside
    simpa [hne, hcq] using endsLine_of_not_isControl hc

theorem scan_flatMap {quote : Char} (hq : isQuote quote = true) (s body : List Char) :
    scan (.inside false quote body) (s.flatMap (literalChar quote)) =
      some (.inside false quote ((s.flatMap (literalChar quote)).reverse ++ body), []) := by
  induction s generalizing body with
  | nil => rfl
  | cons c s ih =>
    have h := scan_append_of_eq (scan_literalChar hq c body) (ih _)
    simpa using h

theorem scan_literal (s : List Char) :
    scan (.code []) (literal s) =
      some (.closed,
        [.literal false (literalQuote s) (s.flatMap (literalChar (literalQuote s)))]) := by
  have hq := isQuote_literalQuote s
  have opened :
      scan (.code []) [literalQuote s] = some (.inside false (literalQuote s) [], []) := by
    rcases literalQuote_eq s with h | h <;> rw [h] <;> rfl
  have closed (body : List Char) : scan (.inside false (literalQuote s) body) [literalQuote s] =
      some (.closed, [.literal false (literalQuote s) body.reverse]) := by
    simp [scan, step, mayClose]
  have h := scan_append_of_eq (scan_append_of_eq opened (scan_flatMap hq s [])) (closed _)
  simpa [literal] using h

theorem sameCode_literal (s t : List Char) : SameCode (.code []) .closed (literal s) (literal t) :=
  ⟨_, _, scan_literal s, scan_literal t, rfl⟩

def listCode : Nat → List Lexeme
  | 0 => [.mark '[', .mark ']']
  | n + 1 =>
    .mark '[' :: .literal false '"' [] ::
      (List.replicate n [.mark ',', .mark ' ', .literal false '"' []]).flatten ++ [.mark ']']

theorem scan_joinWith (x : List Char) (xs : List (List Char)) :
    ∃ lexemes, scan (.code []) (Text.joinWith ", " ((x :: xs).map literal)) =
        some (.closed, lexemes) ∧
      lexemes.map Lexeme.bare = .literal false '"' [] ::
        (List.replicate xs.length [.mark ',', .mark ' ', .literal false '"' []]).flatten := by
  induction xs generalizing x with
  | nil =>
    have h := scan_literal x
    exact ⟨[.literal false _ _], by simpa [Text.joinWith] using h, rfl⟩
  | cons y xs ih =>
    obtain ⟨lexemes, hscan, hcode⟩ := ih y
    have comma : scan .closed ", ".toList = some (.code [], [.mark ',', .mark ' ']) := rfl
    have h := scan_append_of_eq (scan_literal x) (scan_append_of_eq comma hscan)
    refine ⟨_, by simpa [Text.joinWith, List.intercalate_cons_cons] using h, ?_⟩
    simp [hcode, List.replicate_succ, Lexeme.bare]

theorem scan_listLiteral (word : List Char) (xs : List (List Char)) :
    ∃ lexemes, scan (.code word) (listLiteral xs) = some (.code [], wordLexemes word ++ lexemes) ∧
      lexemes.map Lexeme.bare = listCode xs.length := by
  have opened : scan (.code word) ['['] = some (.code [], wordLexemes word ++ [.mark '[']) :=
    scan_mark rfl rfl word
  cases xs with
  | nil =>
    have closed : scan (.code []) [']'] = some (.code [], [.mark ']']) := scan_mark rfl rfl []
    have h := scan_append_of_eq opened closed
    exact ⟨[.mark '[', .mark ']'], by simpa [listLiteral, Text.joinWith] using h, rfl⟩
  | cons x xs =>
    obtain ⟨lexemes, hscan, hcode⟩ := scan_joinWith x xs
    have closed : scan .closed [']'] = some (.code [], [.mark ']']) := rfl
    have h := scan_append_of_eq opened (scan_append_of_eq hscan closed)
    refine ⟨.mark '[' :: lexemes ++ [.mark ']'], by simpa [listLiteral] using h, ?_⟩
    simp [hcode, listCode, Lexeme.bare]

theorem sameCode_listLiteral (word : List Char) {xs ys : List (List Char)}
    (hl : xs.length = ys.length) :
    SameCode (.code word) (.code []) (listLiteral xs) (listLiteral ys) := by
  obtain ⟨as, ha, hac⟩ := scan_listLiteral word xs
  obtain ⟨bs, hb, hbc⟩ := scan_listLiteral word ys
  refine ⟨_, _, ha, hb, ?_⟩
  rw [List.map_append, List.map_append, hac, hbc, hl]

/-- What is read between words is read in the same way right behind a literal. -/
theorem SameCode.behind_literal {q : Place} {c d : Char} {s t : List Char}
    (h : SameCode (.code []) q (c :: s) (d :: t)) (hc : isQuote c = false)
    (hd : isQuote d = false) : SameCode .closed q (c :: s) (d :: t) := by
  obtain ⟨xs, ys, hs, ht, he⟩ := h
  exact ⟨xs, ys, (scan_closed hc).trans hs, (scan_closed hd).trans ht, he⟩

theorem inside_of_isPlainChar {c : Char} (h : isPlainChar c = true) :
    (c ≠ '"' ∧ c ≠ '\\' ∧ endsLine c = false) ∧ c ≠ '\x7b' ∧ c ≠ '\x7d' := by
  simp only [isPlainChar, isCodeChar, isQuote, Bool.and_eq_true, Bool.not_eq_true',
    Bool.or_eq_false_iff, bne_iff_ne, ne_eq, beq_eq_false_iff_ne] at h
  simp [h]

theorem count_brace_of_isPlainChar {s : List Char} (h : s.all isPlainChar = true) :
    s.count '\x7b' = 0 ∧ s.count '\x7d' = 0 := by
  rw [List.count_eq_zero, List.count_eq_zero]
  constructor <;> intro hm
  · exact (inside_of_isPlainChar (List.all_eq_true.1 h _ hm)).2.1 rfl
  · exact (inside_of_isPlainChar (List.all_eq_true.1 h _ hm)).2.2 rfl

theorem part_inside {p : Part} (h : p.isPlain = true) :
    (∀ c ∈ p.chars, c ≠ '"' ∧ c ≠ '\\' ∧ endsLine c = false) ∧
      p.chars.count '\x7b' = p.chars.count '\x7d' := by
  cases p with
  | plain text =>
    obtain ⟨ho, hc⟩ := count_brace_of_isPlainChar h
    refine ⟨fun c hm => (inside_of_isPlainChar (List.all_eq_true.1 h c hm)).1, ?_⟩
    rw [Part.chars, ho, hc]
  | hole expression =>
    obtain ⟨ho, hc⟩ := count_brace_of_isPlainChar h
    constructor
    · intro c hm
      simp only [Part.chars, List.cons_append, List.mem_cons, List.mem_append, List.not_mem_nil,
        or_false] at hm
      rcases hm with rfl | hm | rfl
      · decide
      · exact (inside_of_isPlainChar (List.all_eq_true.1 h c hm)).1
      · decide
    · simp [Part.chars, ho, hc]

theorem parts_inside {parts : List Part} (h : parts.all Part.isPlain = true) :
    (∀ c ∈ parts.flatMap Part.chars, c ≠ '"' ∧ c ≠ '\\' ∧ endsLine c = false) ∧
      (parts.flatMap Part.chars).count '\x7b' = (parts.flatMap Part.chars).count '\x7d' := by
  induction parts with
  | nil => simp
  | cons p parts ih =>
    simp only [List.all_cons, Bool.and_eq_true] at h
    obtain ⟨hp, hcp⟩ := part_inside h.1
    obtain ⟨hps, hcps⟩ := ih h.2
    rw [List.flatMap_cons]
    refine ⟨List.forall_mem_append.2 ⟨hp, hps⟩, ?_⟩
    rw [List.count_append, List.count_append, hcp, hcps]

theorem scan_interpolated {parts : List Part} (h : parts.all Part.isPlain = true) :
    scan (.code []) (Piece.interpolated parts).chars =
      some (.closed, [.literal true '"' (parts.flatMap Part.chars)]) := by
  obtain ⟨hs, hc⟩ := parts_inside h
  have opened : scan (.code []) ['f', '"'] = some (.inside true '"' [], []) := rfl
  have closed : scan (.inside true '"' (parts.flatMap Part.chars).reverse) ['"'] =
      some (.closed, [.literal true '"' (parts.flatMap Part.chars)]) := by
    simp [scan, step, mayClose, hc]
  have body := scan_inside hs true []
  rw [List.append_nil] at body
  exact scan_append_of_eq (scan_append_of_eq opened body) closed

theorem fits_code {before : Edge} {text : String} (h : (Piece.code text).fits before = true) :
    ∃ c s, text.toList = c :: s ∧ isQuote c = false ∧ (c :: s).all isCodeChar = true := by
  simp only [Piece.fits, Bool.and_eq_true, Bool.not_eq_true', List.isEmpty_eq_false_iff] at h
  obtain ⟨c, s, he⟩ := List.exists_cons_of_ne_nil h.1
  rw [he] at h
  refine ⟨c, s, he, ?_, h.2⟩
  have hc := List.all_eq_true.1 h.2 c List.mem_cons_self
  simp only [isCodeChar, Bool.and_eq_true, Bool.not_eq_true'] at hc
  exact hc.1.1.1

theorem Edge.Before.eq {before : Edge} {p : Place} (h : before.Before p) :
    (∃ word, p = .code word) ∨ p = .closed := by
  cases before with
  | word => exact .inl h
  | mark => exact .inl ⟨[], h⟩
  | literal => exact .inr h

theorem edge_code {text : String} {rest : List Char}
    (h : text.toList.getLast?.any (!isWordChar ·) = true → rest = []) :
    (Piece.code text).edge.Before (.code rest) := by
  simp only [Piece.edge]
  split_ifs with hl
  · exact congrArg Place.code (h hl)
  · exact ⟨rest, rfl⟩

/-- Pieces that differ only in what their literals hold have the same code and the same end. -/
theorem sameCode_piece {before : Edge} {p : Place} {a b : Piece} (ha : a.fits before = true)
    (he : a.bare = b.bare) (hp : before.Before p) :
    ∃ q, SameCode p q a.chars b.chars ∧ a.edge.Before q := by
  cases a with
  | code text =>
    have hb : b = .code text := by cases b <;> simp_all [Piece.bare]
    subst b
    obtain ⟨c, s, hcs, hq, hall⟩ := fits_code ha
    simp only [Piece.chars, hcs]
    -- code may go on with a word, which a literal may not, so the word behind it is kept track of
    rcases hp.eq with ⟨word, rfl⟩ | rfl
    · obtain ⟨rest, xs, hscan, hlast⟩ := scan_code hall word
      exact ⟨_, .of_scan hscan, edge_code (by rwa [hcs])⟩
    · obtain ⟨rest, xs, hscan, hlast⟩ := scan_code hall []
      exact ⟨_, (SameCode.of_scan hscan).behind_literal hq hq, edge_code (by rwa [hcs])⟩
  | quoted v =>
    obtain ⟨w, rfl⟩ : ∃ w, b = .quoted w := by cases b <;> simp_all [Piece.bare]
    obtain rfl : before = .mark := eq_of_beq ha
    obtain rfl : p = .code [] := hp
    exact ⟨_, sameCode_literal v.toList w.toList, rfl⟩
  | list vs =>
    obtain ⟨ws, rfl⟩ : ∃ ws, b = .list ws := by cases b <;> simp_all [Piece.bare]
    have hl : (vs.map String.toList).length = (ws.map String.toList).length := by
      have := congrArg List.length (Piece.list.inj he)
      simpa using this
    rcases hp.eq with ⟨word, rfl⟩ | rfl
    · exact ⟨_, sameCode_listLiteral word hl, rfl⟩
    · exact ⟨_, (sameCode_listLiteral [] hl).behind_literal rfl rfl, rfl⟩
  | interpolated parts =>
    obtain rfl : b = .interpolated parts := by cases b <;> simp_all [Piece.bare]
    simp only [Piece.fits, Bool.and_eq_true, bne_iff_ne, ne_eq] at ha
    have h := SameCode.of_scan (scan_interpolated ha.2)
    cases before with
    | word => exact (ha.1 rfl).elim
    | mark =>
      obtain rfl : p = .code [] := hp
      exact ⟨_, h, rfl⟩
    | literal =>
      obtain rfl : p = .closed := hp
      exact ⟨_, h.behind_literal rfl rfl, rfl⟩

/-- A line whose pieces fit is read to its end, and its code does not depend on its literals. -/
theorem sameCode_lineChars {before : Edge} {p : Place} {as bs : List Piece}
    (hf : fit before as = true) (he : as.map Piece.bare = bs.map Piece.bare)
    (hp : before.Before p) :
    ∃ q, SameCode p q (lineChars as) (lineChars bs) ∧ ((∃ word, q = .code word) ∨ q = .closed) := by
  induction as generalizing before p bs with
  | nil =>
    obtain rfl : bs = [] := List.map_eq_nil_iff.1 he.symm
    exact ⟨p, .nil p, hp.eq⟩
  | cons a as ih =>
    obtain ⟨b, bs, rfl, hab, hbs⟩ := List.map_eq_cons_iff.1 he.symm
    simp only [fit, Bool.and_eq_true] at hf
    obtain ⟨q, hq, hedge⟩ := sameCode_piece hf.1 hab.symm hp
    obtain ⟨r, hr, hend⟩ := ih hf.2 hbs.symm hedge
    exact ⟨r, hq.append hr, hend⟩

namespace Row

def isTidy : Row → Bool
  | gap => true
  | comment _ text => text.all (!endsLine ·)
  | code _ pieces => !pieces.isEmpty && fit .mark pieces

def bare : Row → Row
  | gap => gap
  | comment depth _ => comment depth []
  | code depth pieces => code depth (pieces.map Piece.bare)

theorem depth_bare (r : Row) : r.bare.depth = r.depth := by
  cases r <;> rfl

end Row

theorem scan_indentation (depth : Nat) :
    scan (.code []) (Writer.indentation depth) =
      some (.code [], List.replicate (4 * depth) (.mark ' ')) := by
  unfold Writer.indentation
  induction 4 * depth with
  | zero => rfl
  | succ n ih => exact scan_append_of_eq (scan_mark (c := ' ') rfl rfl []) ih

theorem scan_comment_line {text : List Char} (h : ∀ c ∈ text, endsLine c = false) :
    scan (.code []) ('#' :: text ++ ['\n']) = some (.code [], [.comment text, .lineEnd]) := by
  have opened : scan (.code []) ['#'] = some (.comment [], []) := rfl
  have closed : scan (.comment text.reverse) ['\n'] =
      some (.code [], [.comment text, .lineEnd]) := by
    simp [scan, step]
  have body := scan_comment h []
  rw [List.append_nil] at body
  exact scan_append_of_eq (scan_append_of_eq opened body) closed

theorem scan_lineEnd_of {p : Place} (h : (∃ word, p = .code word) ∨ p = .closed) :
    ∃ xs, scan p ['\n'] = some (.code [], xs) := by
  rcases h with ⟨word, rfl⟩ | rfl
  · exact ⟨_, scan_lineEnd word⟩
  · exact ⟨_, (scan_closed rfl).trans (scan_lineEnd [])⟩

theorem content_comment (depth : Nat) (text : List Char) :
    ∃ said, (Row.comment depth text).content = '#' :: said ∧ ∀ c ∈ said, c = ' ' ∨ c ∈ text := by
  cases text with
  | nil => exact ⟨[], rfl, by simp⟩
  | cons c text => exact ⟨' ' :: c :: text, rfl, by simp⟩

theorem sameCode_content {r s : Row} (hr : r.isTidy = true) (hs : s.isTidy = true)
    (he : r.bare = s.bare) :
    SameCode (.code []) (.code []) (r.content ++ ['\n']) (s.content ++ ['\n']) := by
  cases r with
  | gap =>
    have hb : s = .gap := by cases s <;> simp_all [Row.bare]
    subst s
    exact .of_scan (scan_lineEnd [])
  | comment depth text =>
    obtain ⟨text', rfl⟩ : ∃ text', s = .comment depth text' := by cases s <;> simp_all [Row.bare]
    have commentCode {t : List Char} (ht : (Row.comment depth t).isTidy = true) :
        ∃ said, scan (.code []) ((Row.comment depth t).content ++ ['\n']) =
          some (.code [], [.comment said, .lineEnd]) := by
      obtain ⟨said, hc, hm⟩ := content_comment depth t
      refine ⟨said, hc ▸ scan_comment_line fun c h => ?_⟩
      rcases hm c h with rfl | h
      · rfl
      · simpa using List.all_eq_true.1 ht c h
    obtain ⟨said, h⟩ := commentCode hr
    obtain ⟨said', h'⟩ := commentCode hs
    exact ⟨_, _, h, h', rfl⟩
  | code depth pieces =>
    obtain ⟨pieces', rfl⟩ : ∃ pieces', s = .code depth pieces' := by cases s <;> simp_all [Row.bare]
    simp only [Row.isTidy, Bool.and_eq_true] at hr
    have start : Edge.mark.Before (.code []) := rfl
    obtain ⟨q, hq, hend⟩ := sameCode_lineChars hr.2 (Row.code.inj he).2 start
    obtain ⟨xs, hx⟩ := scan_lineEnd_of hend
    exact hq.append (.of_scan hx)

theorem sameCode_rows {rs ss : List Row} (hr : ∀ r ∈ rs, r.isTidy = true)
    (hs : ∀ s ∈ ss, s.isTidy = true) (he : rs.map Row.bare = ss.map Row.bare) :
    SameCode (.code []) (.code []) (rs.flatMap Row.chars) (ss.flatMap Row.chars) := by
  induction rs generalizing ss with
  | nil =>
    obtain rfl : ss = [] := List.map_eq_nil_iff.1 he.symm
    exact .nil (.code [])
  | cons r rs ih =>
    obtain ⟨s, ss, rfl, hrs, hss⟩ := List.map_eq_cons_iff.1 he.symm
    rw [List.forall_mem_cons] at hr hs
    have hd : r.depth = s.depth := by rw [← r.depth_bare, ← hrs, s.depth_bare]
    have hcontent := sameCode_content hr.1 hs.1 hrs.symm
    have hrow := (SameCode.of_scan (scan_indentation r.depth)).append hcontent
    have h := hrow.append (ih hr.2 hs.2 hss.symm)
    simpa [Row.chars, hd] using h

theorem endsLine_of_mem_chars {before : Edge} {p : Piece} (hf : p.fits before = true) {c : Char}
    (h : c ∈ p.chars) : endsLine c = false := by
  cases p with
  | code text =>
    simp only [Piece.fits, Bool.and_eq_true] at hf
    have hc := List.all_eq_true.1 hf.2 c h
    simp only [isCodeChar, Bool.and_eq_true, Bool.not_eq_true'] at hc
    exact hc.1.1.2
  | quoted v => exact endsLine_of_not_isControl (isControl_of_mem_literal h)
  | list vs => exact endsLine_of_not_isControl (isControl_of_mem_listLiteral h)
  | interpolated parts =>
    simp only [Piece.fits, Bool.and_eq_true] at hf
    simp only [Piece.chars, List.cons_append, List.mem_cons, List.mem_append, List.not_mem_nil,
      or_false] at h
    rcases h with rfl | rfl | h | rfl
    · rfl
    · rfl
    · exact ((parts_inside hf.2).1 c h).2.2
    · rfl

theorem chars_ne_nil_of_fits {before : Edge} {p : Piece} (h : p.fits before = true) :
    p.chars ≠ [] := by
  cases p with
  | code text =>
    simp only [Piece.fits, Bool.and_eq_true, Bool.not_eq_true', List.isEmpty_eq_false_iff] at h
    exact h.1
  | quoted v => simp [Piece.chars, literal]
  | list vs => simp [Piece.chars, listLiteral]
  | interpolated parts => simp [Piece.chars]

theorem endsLine_of_mem_lineChars {before : Edge} {pieces : List Piece}
    (hf : fit before pieces = true) {c : Char} (h : c ∈ lineChars pieces) : endsLine c = false := by
  induction pieces generalizing before with
  | nil => cases h
  | cons p pieces ih =>
    simp only [fit, Bool.and_eq_true] at hf
    rw [lineChars, List.flatMap_cons, List.mem_append] at h
    rcases h with h | h
    · exact endsLine_of_mem_chars hf.1 h
    · exact ih hf.2 h

theorem Row.solid_of_isTidy {r : Row} (h : r.isTidy = true) : r.Solid := by
  cases r with
  | gap => exact ⟨List.not_mem_nil, fun _ => rfl⟩
  | comment depth text =>
    obtain ⟨said, hc, hm⟩ := content_comment depth text
    refine ⟨fun hn => ?_, fun he => by rw [hc] at he; cases he⟩
    rw [hc, List.mem_cons] at hn
    rcases hn with hn | hn
    · cases hn
    · rcases hm _ hn with hn | hn
      · cases hn
      · have := List.all_eq_true.1 h _ hn
        cases this
  | code depth pieces =>
    simp only [Row.isTidy, Bool.and_eq_true] at h
    rw [Row.solid_code]
    refine ⟨fun hn => ?_, ?_⟩
    · have := endsLine_of_mem_lineChars h.2 hn
      cases this
    · cases pieces with
      | nil => exact (Bool.false_ne_true h.1).elim
      | cons p pieces =>
        have hf := h.2
        simp only [fit, Bool.and_eq_true] at hf
        rw [lineChars, List.flatMap_cons]
        exact List.append_ne_nil_of_left_ne_nil (chars_ne_nil_of_fits hf.1) _

theorem isGap_bare (r : Row) : r.bare.isGap = r.isGap := by
  cases r <;> rfl

theorem render_eq_of_isTidy {script : List Statement}
    (ht : ∀ r ∈ rowsAll 0 script, r.isTidy = true)
    (hne : ∃ r ∈ rowsAll 0 script, r.isGap = false) :
    (render script).toList = (settled (rowsAll 0 script)).flatMap Row.chars := by
  apply render_eq fun r hr => Row.solid_of_isTidy (ht r hr)
  obtain ⟨r, hr, hg⟩ := hne
  have hm : r ∈ (settled (rowsAll 0 script)).filter (!·.isGap) := by
    rw [filter_settled]
    exact List.mem_filter.2 ⟨hr, by simp [hg]⟩
  exact List.ne_nil_of_mem (List.mem_filter.1 hm).1

/-- Scripts whose rows are tidy and differ only in literals and comments have the same code. -/
theorem skeleton_render_eq {a b : List Statement}
    (ha : ∀ r ∈ rowsAll 0 a, r.isTidy = true) (hb : ∀ r ∈ rowsAll 0 b, r.isTidy = true)
    (he : (rowsAll 0 a).map Row.bare = (rowsAll 0 b).map Row.bare)
    (hna : ∃ r ∈ rowsAll 0 a, r.isGap = false) (hnb : ∃ r ∈ rowsAll 0 b, r.isGap = false) :
    ∃ lexemes, skeleton (render a) = some lexemes ∧ skeleton (render b) = some lexemes := by
  have hs : (settled (rowsAll 0 a)).map Row.bare = (settled (rowsAll 0 b)).map Row.bare := by
    rw [← settled_map isGap_bare, ← settled_map isGap_bare, he]
  obtain ⟨xs, ys, hx, hy, hxy⟩ := sameCode_rows (fun r hr => ha r (mem_of_mem_settled hr))
    (fun r hr => hb r (mem_of_mem_settled hr)) hs
  refine ⟨xs.map Lexeme.bare, ?_, ?_⟩
  · simp [skeleton, lex, render_eq_of_isTidy ha hna, hx, lastLexemes, wordLexemes]
  · simp [skeleton, lex, render_eq_of_isTidy hb hnb, hy, lastLexemes, wordLexemes, hxy]

end PageHarvest.Script

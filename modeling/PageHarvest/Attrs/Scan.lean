import PageHarvest.Attrs.Basic
import PageHarvest.Text.Basic

namespace PageHarvest
namespace Attrs

def scanValue (offset : Nat) (s : List Char) : Except AttrFault (List Char × Nat × List Char) :=
  match s with
  | [] => .ok ([], offset, [])
  | c :: r =>
    if isQuote c then
      match r.dropWhile (· != c) with
      | [] => .error (.unterminatedQuote c offset)
      | _ :: rest =>
        let value := r.takeWhile (· != c)
        .ok (value, offset + Text.byteLength value + 2, rest)
    else
      let value := (c :: r).takeWhile (!isSeparator ·)
      .ok (value, offset + Text.byteLength value, (c :: r).dropWhile (!isSeparator ·))

def scanPair (offset : Nat) (s : List Char) : Except AttrFault (AttrPair × Nat × List Char) :=
  let key := s.takeWhile isKeyChar
  let afterKey := s.dropWhile isKeyChar
  let equalsAt := offset + Text.byteLength key + Text.byteLength (afterKey.takeWhile Text.isBlank)
  match afterKey.dropWhile Text.isBlank with
  | '=' :: r =>
    let valueAt := equalsAt + 1 + Text.byteLength (r.takeWhile Text.isBlank)
    match scanValue valueAt (r.dropWhile Text.isBlank) with
    | .ok (value, after, rest) => .ok (⟨String.ofList key, String.ofList value⟩, after, rest)
    | .error e => .error e
  | _ => .error (.missingEquals (String.ofList key) equalsAt)

theorem length_of_scanValue {offset after : Nat} {s value rest : List Char}
    (h : scanValue offset s = .ok (value, after, rest)) : rest.length ≤ s.length := by
  unfold scanValue at h
  split at h
  · simp_all
  · rename_i c r
    split at h
    · split at h
      · simp at h
      · rename_i d rest' hd
        have := Text.length_dropWhile_le (· != c) r
        simp only [Except.ok.injEq, Prod.mk.injEq] at h
        simp only [hd, List.length_cons] at *
        grind
    · simp only [Except.ok.injEq, Prod.mk.injEq] at h
      rw [← h.2.2]
      exact Text.length_dropWhile_le _ _

theorem length_of_scanPair {offset after : Nat} {s rest : List Char} {pair : AttrPair}
    (h : scanPair offset s = .ok (pair, after, rest)) : rest.length < s.length := by
  unfold scanPair at h
  simp only at h
  split at h
  · rename_i r hr
    split at h
    · rename_i value after' rest' hv
      have h1 := length_of_scanValue hv
      have h2 := Text.length_dropWhile_le Text.isBlank r
      have h3 := Text.length_dropWhile_le Text.isBlank (s.dropWhile isKeyChar)
      have h4 := Text.length_dropWhile_le isKeyChar s
      simp only [Except.ok.injEq, Prod.mk.injEq] at h
      simp only [hr, List.length_cons] at h3
      grind
    · simp at h
  · simp at h

def scan (offset : Nat) (s : List Char) : Except AttrFault (List AttrPair) :=
  let start := offset + Text.byteLength (s.takeWhile isSeparator)
  match _hs : s.dropWhile isSeparator with
  | [] => .ok []
  | c :: r =>
    if c = '=' then .error (.emptyKey start)
    else if !isKeyChar c then .error (.unexpectedChar c start)
    else
      match _hp : scanPair start (c :: r) with
      | .error e => .error e
      | .ok (pair, after, rest) =>
        match scan after rest with
        | .ok pairs => .ok (pair :: pairs)
        | .error e => .error e
termination_by s.length
decreasing_by
  have h1 := Text.length_dropWhile_le isSeparator s
  have h2 := length_of_scanPair _hp
  rw [_hs] at h1
  omega

end Attrs

/-- The pairs of an attribute text, left to right. -/
def tokenizeAttrs (attrs : String) : Except AttrFault (List AttrPair) :=
  Attrs.scan 0 attrs.toList

end PageHarvest

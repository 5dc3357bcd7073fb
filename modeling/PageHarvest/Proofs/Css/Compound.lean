import PageHarvest.Css.Read
import PageHarvest.Proofs.Css.Lexing

namespace PageHarvest.Css

def prepend (simples : List Simple) (p : List Simple × List Reading) :
    List Simple × List Reading :=
  (simples ++ p.1, p.2)

/--
The text is read as these conditions, whatever text follows that does not go on a name: it gives
components of its own, and they give the conditions.
-/
structure Denotes (text : List Char) (simples : List Simple) : Prop where
  endsName : ∀ rest, EndsName rest → EndsName (text ++ rest)
  components : ∃ cs : List Component,
    (∀ rest content, EndsName rest →
      nestInto content [] (tokens (text ++ rest)) =
        nestInto (cs.reverse ++ content) [] (tokens rest)) ∧
    (∀ rs, readSimples {} (readings cs ++ rs) = (readSimples {} rs).map (prepend simples)) ∧
    ∀ x ∈ readings cs, x.token ≠ .comma ∧ x.token ≠ .delim '|'

variable {text text' rest name : List Char} {simples simples' : List Simple}

theorem readings_append (cs cs' : List Component) :
    readings (cs ++ cs') = readings cs ++ readings cs' := by
  induction cs with
  | nil => rfl
  | cons c cs ih => rw [List.cons_append, readings, readings, ih, List.cons_append]

theorem prepend_append (simples simples' : List Simple) :
    prepend simples ∘ prepend simples' = prepend (simples ++ simples') := by
  funext p
  simp only [Function.comp, prepend, List.append_assoc]

namespace Denotes

theorem nil : Denotes [] [] where
  endsName _ h := h
  components := by
    refine ⟨[], ?_, ?_, ?_⟩
    · intro rest content _
      rw [List.reverse_nil, List.nil_append, List.nil_append]
    · intro rs
      rw [readings, List.nil_append]
      cases readSimples {} rs <;> rfl
    · intro x hx
      rw [readings] at hx
      cases hx

theorem append (h : Denotes text simples) (h' : Denotes text' simples') :
    Denotes (text ++ text') (simples ++ simples') := by
  obtain ⟨cs, hn, hr, ht⟩ := h.components
  obtain ⟨cs', hn', hr', ht'⟩ := h'.components
  refine ⟨?_, cs ++ cs', ?_, ?_, ?_⟩
  · intro rest he
    rw [List.append_assoc]
    exact h.endsName _ (h'.endsName rest he)
  · intro rest content he
    rw [List.append_assoc, hn _ _ (h'.endsName rest he), hn' _ _ he, List.reverse_append,
      List.append_assoc]
  · intro rs
    rw [readings_append, List.append_assoc, hr, hr', ← prepend_append]
    cases readSimples {} rs <;> rfl
  · intro x hx
    rw [readings_append] at hx
    rcases List.mem_append.1 hx with hx | hx
    · exact ht x hx
    · exact ht' x hx

theorem flatMap {α : Type} {text : α → List Char} {simples : α → List Simple} {l : List α}
    (h : ∀ a ∈ l, Denotes (text a) (simples a)) : Denotes (l.flatMap text) (l.flatMap simples) := by
  induction l with
  | nil => exact nil
  | cons a l ih =>
    rw [List.forall_mem_cons] at h
    exact h.1.append (ih h.2)

end Denotes

theorem readSimples_cons {mode : Mode} {simple : Simple} {rs rs' : List Reading}
    (h : readSimple mode rs = .ok (some simple, rs')) :
    readSimples mode rs = (readSimples mode rs').map (prepend [simple]) := by
  rw [readSimples]
  split
  · simp_all
  · simp_all
  · rename_i simple' rest he
    rw [h] at he
    cases he
    split
    · simp_all [Except.map]
    · simp_all [Except.map, prepend]

theorem endsName_cons {c : Char} {s : List Char}
    (h : isNameChar c = false ∧ c ≠ '\\' ∧ c ≠ '(' ∧ c ≠ '>') : EndsName (c :: s) := by
  rintro d ⟨⟩
  exact h

theorem denotes_id (h : IsName name) : Denotes ('#' :: name) [.id (String.ofList name)] where
  endsName rest _ := endsName_cons (by decide)
  components := by
    refine ⟨[.single (.idHash (String.ofList name))], ?_, ?_, ?_⟩
    · intro rest content he
      rw [List.cons_append, tokens_id h he]
      rfl
    · intro rs
      exact readSimples_cons rfl
    · intro x hx
      obtain rfl := List.mem_singleton.1 hx
      exact ⟨nofun, nofun⟩

theorem denotes_class (h : IsName name) :
    Denotes ('.' :: name) [.class (String.ofList name)] where
  endsName rest _ := endsName_cons (by decide)
  components := by
    refine ⟨[.single (.delim '.'), .single (.ident (String.ofList name))], ?_, ?_, ?_⟩
    · intro rest content he
      rw [List.cons_append, tokens_class h he]
      rfl
    · intro rs
      exact readSimples_cons rfl
    · intro x hx
      rcases List.mem_cons.1 hx with rfl | hx
      · exact ⟨nofun, by simp [Component.reading]⟩
      · obtain rfl := List.mem_singleton.1 hx
        exact ⟨nofun, nofun⟩

/-- The test that an attribute has a value. In HTML the case of some attributes does not count. -/
def equalTest (name value : String) : AttributeTest where
  name := name
  anyNamespace := false
  value := some
    { comparison := .equal
      value := value
      letterCase := if caselessAttributes.contains (lowered name) then .ignoredInHtml else .exact }

def testTokens (name value : String) : List Token :=
  [.openSquare, .ident name, .delim '=', .quoted value, .closeSquare]

def testComponent (name value : String) : Component :=
  .block .openSquare [.single (.ident name), .single (.delim '='), .single (.quoted value)]

theorem readSimples_test (name value : String) (rs : List Reading) :
    readSimples {} (readings [testComponent name value] ++ rs) =
      (readSimples {} rs).map (prepend [.attribute (equalTest name value)]) :=
  readSimples_cons rfl

theorem denotes_test {name value : String}
    (h : ∀ rest, tokens (text ++ rest) = testTokens name value ++ tokens rest)
    (he : ∀ rest, EndsName (text ++ rest)) : Denotes text [.attribute (equalTest name value)] where
  endsName rest _ := he rest
  components := by
    refine ⟨[testComponent name value], ?_, ?_, ?_⟩
    · intro rest content _
      rw [h]
      rfl
    · exact readSimples_test name value
    · intro x hx
      obtain rfl := List.mem_singleton.1 hx
      exact ⟨nofun, nofun⟩

theorem alternatives_eq_singleton {rs : List Reading} (h : ∀ x ∈ rs, x.token ≠ .comma) :
    alternatives rs = [rs] := by
  induction rs with
  | nil => rfl
  | cons x rs ih =>
    rw [List.forall_mem_cons] at h
    rw [alternatives, if_neg h.1, ih h.2]

theorem readTail_nil (mode : Mode) (left : Complex) : readTail mode left [] = .ok (left, []) := by
  rw [readTail]
  rfl

theorem readAlternative_of_readCompound {mode : Mode} {rs : List Reading} {part : Simple}
    {parts : List Simple} (hm : mode.relative = false)
    (h : readCompound mode rs = .ok (part :: parts, [])) :
    readAlternative mode rs = .ok (.compound (part :: parts)) := by
  have selector : readSelector mode rs = .ok (.compound (part :: parts), []) := by
    simp only [readSelector, hm, h, readTail_nil, Bool.false_eq_true, if_false]
  simp only [readAlternative, selector]
  rfl

theorem readList_of_readAlternative {mode : Mode} {rs : List Reading} {selector : Complex}
    (h : ∀ x ∈ rs, x.token ≠ .comma) (ha : readAlternative mode rs = .ok selector) :
    readList mode rs = .ok [selector] := by
  rw [readList, alternatives_eq_singleton h, ite_self, List.mapM_cons, ha]
  rfl

theorem readSimples_nil (mode : Mode) : readSimples mode [] = .ok ([], []) := by
  rw [readSimples]
  rfl

theorem readCompound_eq {mode : Mode} {rs rest rest' : List Reading}
    {types simples : List Simple} (hb : skipBlanks rs = rs)
    (ht : readType rs = .ok (types, rest)) (hs : readSimples mode rest = .ok (simples, rest')) :
    readCompound mode rs = .ok (types ++ simples, rest') := by
  simp only [readCompound, hb, ht, hs]

theorem readType_of_ident {x : Reading} {rs : List Reading} {name : String}
    (hx : x.token = .ident name) (h : ∀ y ∈ rs, y.token ≠ .delim '|') :
    readType (x :: rs) = .ok ([.type name], rs) := by
  cases rs with
  | nil => simp only [readType, hx]
  | cons y rs =>
    have hy := h y List.mem_cons_self
    simp only [readType, hx]
    split
    · rename_i he
      cases List.head_eq_of_cons_eq he
      exact (hy rfl).elim
    · rename_i hn _
      cases hn
      rfl
    all_goals simp_all

theorem readAlternative_type (name : String) :
    readAlternative {} (readings [.single (.ident name)]) = .ok (.compound [.type name]) := by
  have behind : ∀ x ∈ readings [], x.token ≠ .delim '|' := by
    intro x hx
    rw [readings] at hx
    cases hx
  have type : readType (readings [.single (.ident name)]) = .ok ([.type name], readings []) :=
    readType_of_ident rfl behind
  exact readAlternative_of_readCompound rfl (readCompound_eq rfl type (readSimples_nil {}))

theorem readAlternative_test (name value : String) :
    readAlternative {} (readings [testComponent name value]) =
      .ok (.compound [.attribute (equalTest name value)]) := by
  have conditions : readSimples {} (readings [testComponent name value]) =
      .ok ([.attribute (equalTest name value)], []) := by
    have he := readSimples_test name value []
    rwa [List.append_nil, readSimples_nil] at he
  have untyped : readType (readings [testComponent name value]) =
      .ok ([], readings [testComponent name value]) := rfl
  exact readAlternative_of_readCompound rfl (readCompound_eq rfl untyped conditions)

theorem readSelectors_test {name value : String} (h : tokens text = testTokens name value) :
    readSelectors (String.ofList text) = .ok [.compound [.attribute (equalTest name value)]] := by
  have nested : nest (testTokens name value) = [testComponent name value] := rfl
  rw [readSelectors, String.toList_ofList, h, nested]
  refine readList_of_readAlternative ?_ (readAlternative_test name value)
  intro x hx
  obtain rfl := List.mem_singleton.1 hx
  nofun

theorem endsName_nil : EndsName [] :=
  nofun

theorem tokens_nil : tokens [] = [] := by
  rw [tokens]

theorem Denotes.readSelectors_type (h : Denotes text simples) (hn : IsName name) :
    readSelectors (String.ofList (name ++ text)) =
      .ok [.compound (.type (String.ofList name) :: simples)] := by
  obtain ⟨cs, hc, hr, ht⟩ := h.components
  have ends : EndsName text := by
    rw [← List.append_nil text]
    exact h.endsName [] endsName_nil
  have nested : nest (tokens (name ++ text)) = .single (.ident (String.ofList name)) :: cs := by
    have he := hc [] [.single (.ident (String.ofList name))] endsName_nil
    rw [List.append_nil, tokens_nil] at he
    rw [tokens_name hn ends]
    refine he.trans ?_
    rw [nestInto, closeAll, List.reverse_append, List.reverse_reverse, List.reverse_singleton,
      List.singleton_append]
  have conditions : readSimples {} (readings cs) = .ok (simples, []) := by
    have he := hr []
    rw [List.append_nil, readSimples_nil] at he
    simpa [Except.map, prepend] using he
  rw [readSelectors, String.toList_ofList, nested, readings]
  refine readList_of_readAlternative ?_ (readAlternative_of_readCompound rfl ?_)
  · rw [List.forall_mem_cons]
    exact ⟨nofun, fun x hx => (ht x hx).1⟩
  · have type : readType (Component.reading (.single (.ident (String.ofList name))) ::
        readings cs) = .ok ([.type (String.ofList name)], readings cs) :=
      readType_of_ident rfl fun x hx => (ht x hx).2
    exact readCompound_eq rfl type conditions

end PageHarvest.Css

import PageHarvest.Proofs.Json.Scalar

namespace PageHarvest.Json

namespace Value

mutual

def tree : Value → Tree
  | null => .null
  | bool b => .bool b
  | number n => .number (.ok n)
  | string s => .string (.ok s)
  | array items => .array (treeItems items)
  | object members => .object (treeMembers members)

def treeItems : List Value → Items
  | [] => .ended .closed
  | v :: rest => .item v.tree (treeItems rest)

def treeMembers : List (String × Value) → Members
  | [] => .ended .closed
  | (key, v) :: rest => .member (.ok key) v.tree (treeMembers rest)

end

mutual

def isWhole : Value → Bool
  | number (.natural _) => true
  | number _ => false
  | array items => wholeItems items
  | object members => wholeMembers members
  | _ => true

def wholeItems : List Value → Bool
  | [] => true
  | v :: rest => v.isWhole && wholeItems rest

def wholeMembers : List (String × Value) → Bool
  | [] => true
  | (_, v) :: rest => v.isWhole && wholeMembers rest

end

def furtherItems (depth : Nat) (items : List Value) : List Char :=
  items.flatMap fun v => ',' :: (newline depth ++ v.pretty depth)

def prettyMember (depth : Nat) (member : String × Value) : List Char :=
  writeString member.1 ++ ':' :: ' ' :: member.2.pretty depth

def furtherMembers (depth : Nat) (members : List (String × Value)) : List Char :=
  members.flatMap fun m => ',' :: (newline depth ++ prettyMember depth m)

theorem prettyItems_cons (depth : Nat) (v : Value) (rest : List Value) :
    prettyItems depth (v :: rest) = newline depth ++ v.pretty depth ++ furtherItems depth rest := by
  induction rest generalizing v with
  | nil => simp [prettyItems, furtherItems]
  | cons w rest ih =>
    rw [prettyItems, ih]
    · simp [furtherItems]
    · simp

theorem prettyMembers_cons (depth : Nat) (m : String × Value) (rest : List (String × Value)) :
    prettyMembers depth (m :: rest) =
      newline depth ++ prettyMember depth m ++ furtherMembers depth rest := by
  induction rest generalizing m with
  | nil => simp [prettyMembers, prettyMember, furtherMembers]
  | cons n rest ih =>
    obtain ⟨key, v⟩ := m
    rw [prettyMembers, ih]
    · simp [furtherMembers, prettyMember]
    · simp

end Value

theorem isBlank_of_mem_newline {depth : Nat} {c : Char} (h : c ∈ Value.newline depth) :
    isBlank c = true := by
  rcases List.mem_cons.1 h with rfl | h
  · rfl
  · rw [List.eq_of_mem_replicate h]
    rfl

theorem skipBlanks_newline (depth : Nat) (s : List Char) :
    skipBlanks (Value.newline depth ++ s) = skipBlanks s :=
  List.dropWhile_append_of_pos fun _ hc => isBlank_of_mem_newline hc

theorem skipBlanks_cons {c : Char} (h : isBlank c = false) (s : List Char) :
    skipBlanks (c :: s) = c :: s := by
  rw [skipBlanks, List.dropWhile_cons_of_neg (by simp [h])]

theorem isBlank_of_isDigit {c : Char} (h : c.isDigit = true) : isBlank c = false := by
  simp only [isBlank, Bool.or_eq_false_iff, beq_eq_false_iff_ne]
  refine ⟨⟨⟨?_, ?_⟩, ?_⟩, ?_⟩ <;> rintro rfl <;> cases h

theorem followValue_blank (fuel : Nat) (s : List Char) :
    followValue (fuel + 1) (' ' :: s) = followValue (fuel + 1) s := by
  simp only [followValue, skipBlanks, List.dropWhile_cons, isBlank, beq_self_eq_true, Bool.true_or,
    if_true]

/-- A written value starts with a character that neither is blank nor ends a list. -/
theorem pretty_eq_cons {v : Value} (h : v.isWhole = true) (depth : Nat) :
    ∃ c t, v.pretty depth = c :: t ∧ isBlank c = false ∧ c ≠ ']' := by
  cases v with
  | null => exact ⟨'n', "ull".toList, rfl, rfl, by decide⟩
  | bool b =>
    cases b with
    | true => exact ⟨'t', "rue".toList, rfl, rfl, by decide⟩
    | false => exact ⟨'f', "alse".toList, rfl, rfl, by decide⟩
  | number n =>
    cases n with
    | natural n =>
      obtain ⟨d, ds, hd, hdigit⟩ := toDigits_eq_cons n.toNat
      refine ⟨d, ds, by rw [Value.pretty, chars_natural, hd], isBlank_of_isDigit hdigit, ?_⟩
      rintro rfl
      cases hdigit
    | negative n => cases h
    | float bits => cases h
  | string s => exact ⟨'"', _, by rw [Value.pretty, writeString]; rfl, rfl, by decide⟩
  | array items =>
    cases items with
    | nil => exact ⟨'[', [']'], by rw [Value.pretty], rfl, by decide⟩
    | cons v items =>
      refine ⟨'[', Value.prettyItems (depth + 1) (v :: items) ++ Value.newline depth ++ [']'], ?_,
        rfl, by decide⟩
      rw [Value.pretty, List.cons_append, List.cons_append]
      simp
  | object members =>
    cases members with
    | nil => exact ⟨'\x7b', ['\x7d'], by rw [Value.pretty], rfl, by decide⟩
    | cons m members =>
      refine ⟨'\x7b', Value.prettyMembers (depth + 1) (m :: members) ++ Value.newline depth ++
        ['\x7d'], ?_, rfl, by decide⟩
      rw [Value.pretty, List.cons_append, List.cons_append]
      simp

theorem followItems_closed (fuel : Nat) (first : Bool) (depth : Nat) (rest : List Char) :
    followItems (fuel + 1) first (Value.newline depth ++ ']' :: rest) = (.ended .closed, rest) := by
  have hb : skipBlanks (Value.newline depth ++ ']' :: rest) = ']' :: rest := by
    rw [skipBlanks_newline, skipBlanks_cons rfl]
  rw [followItems, hb]
  rfl

/-- The blanks in front of a value are skipped and nothing else. -/
theorem skipBlanks_pretty {v : Value} (h : v.isWhole = true) (depth : Nat) (s : List Char) :
    skipBlanks (Value.newline depth ++ (v.pretty depth ++ s)) = v.pretty depth ++ s := by
  obtain ⟨c, t, hc, hb, _⟩ := pretty_eq_cons h depth
  rw [skipBlanks_newline, hc, List.cons_append, skipBlanks_cons hb]

theorem followItems_first (fuel : Nat) {v : Value} (h : v.isWhole = true) (depth : Nat)
    (s : List Char) : followItems (fuel + 1) true (Value.newline depth ++ (v.pretty depth ++ s)) =
      followItem fuel (v.pretty depth ++ s) := by
  obtain ⟨c, t, hc, _, hne⟩ := pretty_eq_cons h depth
  rw [followItems, skipBlanks_pretty h, hc, List.cons_append]
  split
  · rename_i he
    cases he
  · rename_i he
    exact (hne (List.cons.inj he).1).elim
  · rename_i he
    rw [if_pos rfl, he]

theorem followItems_comma (fuel : Nat) {v : Value} (h : v.isWhole = true) (depth : Nat)
    (s : List Char) :
    followItems (fuel + 1) false (',' :: (Value.newline depth ++ (v.pretty depth ++ s))) =
      followItem fuel (v.pretty depth ++ s) := by
  obtain ⟨c, t, hc, _, hne⟩ := pretty_eq_cons h depth
  rw [followItems, skipBlanks_cons rfl]
  simp only [Char.reduceEq, imp_self, Bool.false_eq_true, if_false, bne_self_eq_false,
    skipBlanks_pretty h]
  split
  · rename_i he
    rw [hc] at he
    cases he
  · rename_i he
    rw [hc] at he
    exact (hne (List.cons.inj he).1).elim
  · rfl

theorem followMembers_closed (fuel : Nat) (first : Bool) (depth : Nat) (rest : List Char) :
    followMembers (fuel + 1) first (Value.newline depth ++ '\x7d' :: rest) =
      (.ended .closed, rest) := by
  have hb : skipBlanks (Value.newline depth ++ '\x7d' :: rest) = '\x7d' :: rest := by
    rw [skipBlanks_newline, skipBlanks_cons rfl]
  rw [followMembers, hb]
  rfl

theorem skipBlanks_prettyMember (depth : Nat) (m : String × Value) (s : List Char) :
    skipBlanks (Value.newline depth ++ (Value.prettyMember depth m ++ s)) =
      Value.prettyMember depth m ++ s :=
  (skipBlanks_newline _ _).trans (skipBlanks_cons (c := '"') rfl _)

theorem followMembers_first (fuel : Nat) (depth : Nat) (m : String × Value) (s : List Char) :
    followMembers (fuel + 1) true (Value.newline depth ++ (Value.prettyMember depth m ++ s)) =
      followMember fuel (Value.prettyMember depth m ++ s) := by
  rw [followMembers, skipBlanks_prettyMember]
  rfl

theorem followMembers_comma (fuel : Nat) (depth : Nat) (m : String × Value) (s : List Char) :
    followMembers (fuel + 1) false
        (',' :: (Value.newline depth ++ (Value.prettyMember depth m ++ s))) =
      followMember fuel (Value.prettyMember depth m ++ s) := by
  rw [followMembers, skipBlanks_cons rfl]
  simp only [Char.reduceEq, imp_self, Bool.false_eq_true, if_false, bne_self_eq_false,
    skipBlanks_prettyMember]
  rfl

theorem followMember_key (fuel : Nat) (key : String) {s behind : List Char} {t : Tree}
    (h : followValue fuel s = (t, behind)) :
    followMember (fuel + 1) (writeString key ++ ':' :: s) =
      (.member (.ok key) t (followMembers fuel false behind).1,
        (followMembers fuel false behind).2) := by
  rw [writeString_append, followMember]
  simp only [followString_flatMap, skipBlanks_cons (c := ':') rfl, h]

theorem followValue_digit (fuel : Nat) {c : Char} (h : c.isDigit = true) (s : List Char) :
    followValue (fuel + 1) (c :: s) = followNumber (c :: s) := by
  rw [followValue, skipBlanks_cons (isBlank_of_isDigit h)]
  split <;> rename_i he <;> cases he <;> first | cases h | rw [h, Bool.or_true, if_pos rfl]

theorem endsNumber_furtherItems (depth : Nat) (items : List Value) (d : Nat) (rest : List Char) :
    EndsNumber (Value.furtherItems depth items ++ (Value.newline d ++ rest)) := by
  cases items with
  | nil => exact endsNumber_cons rfl
  | cons v items => exact endsNumber_cons rfl

theorem endsNumber_furtherMembers (depth : Nat) (members : List (String × Value)) (d : Nat)
    (rest : List Char) :
    EndsNumber (Value.furtherMembers depth members ++ (Value.newline d ++ rest)) := by
  cases members with
  | nil => exact endsNumber_cons rfl
  | cons m members => exact endsNumber_cons rfl

/-- Three steps for each character are enough to follow the value to its end. -/
def Followed (v : Value) : Prop :=
  ∀ (depth fuel : Nat) (rest : List Char), 3 * (v.pretty depth).length ≤ fuel →
    EndsNumber rest → followValue fuel (v.pretty depth ++ rest) = (v.tree, rest)

theorem followItem_pretty {v : Value} {items : List Value}
    (hw : ∀ w ∈ v :: items, w.isWhole = true) (hv : ∀ w ∈ v :: items, Followed w)
    (depth d fuel : Nat) (rest : List Char)
    (hf : 3 * (v.pretty depth ++ Value.furtherItems depth items).length < fuel) :
    followItem fuel (v.pretty depth ++ (Value.furtherItems depth items ++
      (Value.newline d ++ ']' :: rest))) = (Value.treeItems (v :: items), rest) := by
  induction items generalizing v fuel with
  | nil =>
    obtain ⟨c, t, hc, _, _⟩ := pretty_eq_cons (hw v List.mem_cons_self) depth
    have hl : 0 < (v.pretty depth).length := by simp [hc]
    rw [List.length_append] at hf
    obtain ⟨fuel, rfl⟩ : ∃ n, fuel = n + 2 := ⟨fuel - 2, by omega⟩
    have hvalue := hv v List.mem_cons_self depth (fuel + 1) _ (by omega)
      (endsNumber_furtherItems depth [] d (']' :: rest))
    rw [followItem, hvalue]
    simp [Value.furtherItems, followItems_closed, Value.treeItems]
  | cons w items ih =>
    have hitems : Value.furtherItems depth (w :: items) = ',' :: (Value.newline depth ++
        (w.pretty depth ++ Value.furtherItems depth items)) := by
      simp [Value.furtherItems]
    rw [hitems] at hf ⊢
    simp only [List.length_cons, List.length_append] at hf
    obtain ⟨fuel, rfl⟩ : ∃ n, fuel = n + 2 := ⟨fuel - 2, by omega⟩
    rw [List.forall_mem_cons] at hw hv
    have hvalue := hv.1 depth (fuel + 1) _ (by omega)
      (endsNumber_furtherItems depth (w :: items) d (']' :: rest))
    have hrest := ih hw.2 hv.2 fuel (by rw [List.length_append]; omega)
    rw [hitems] at hvalue
    rw [followItem, hvalue]
    simp only [List.cons_append, List.append_assoc,
      followItems_comma _ (hw.2 w List.mem_cons_self), hrest]
    rfl

theorem followMember_pretty {m : String × Value} {members : List (String × Value)}
    (hv : ∀ n ∈ m :: members, Followed n.2) (depth d fuel : Nat) (rest : List Char)
    (hf : 3 * (Value.prettyMember depth m ++ Value.furtherMembers depth members).length < fuel) :
    followMember fuel (Value.prettyMember depth m ++ (Value.furtherMembers depth members ++
      (Value.newline d ++ '\x7d' :: rest))) = (Value.treeMembers (m :: members), rest) := by
  induction members generalizing m fuel with
  | nil =>
    obtain ⟨key, v⟩ := m
    simp only [List.length_append, Value.prettyMember, List.length_cons] at hf
    obtain ⟨fuel, rfl⟩ : ∃ n, fuel = n + 2 := ⟨fuel - 2, by omega⟩
    have hvalue := hv (key, v) List.mem_cons_self depth (fuel + 1) _ (by simp only; omega)
      (endsNumber_furtherMembers depth [] d ('\x7d' :: rest))
    rw [← followValue_blank] at hvalue
    simp only [Value.prettyMember, List.append_assoc, List.cons_append]
    rw [followMember_key _ _ hvalue]
    simp [Value.furtherMembers, followMembers_closed, Value.treeMembers]
  | cons n members ih =>
    obtain ⟨key, v⟩ := m
    have hmembers : Value.furtherMembers depth (n :: members) = ',' :: (Value.newline depth ++
        (Value.prettyMember depth n ++ Value.furtherMembers depth members)) := by
      simp [Value.furtherMembers]
    rw [hmembers] at hf ⊢
    have hlen : 3 * (Value.prettyMember depth n ++ Value.furtherMembers depth members).length + 2 <
        fuel := by
      simp only [List.length_append, List.length_cons] at hf ⊢
      omega
    simp only [List.length_append, Value.prettyMember, List.length_cons] at hf
    obtain ⟨fuel, rfl⟩ : ∃ n, fuel = n + 2 := ⟨fuel - 2, by omega⟩
    rw [List.forall_mem_cons] at hv
    have hvalue := hv.1 depth (fuel + 1) _ (by simp only; omega)
      (endsNumber_furtherMembers depth (n :: members) d ('\x7d' :: rest))
    have hrest := ih hv.2 fuel (by omega)
    rw [← followValue_blank, hmembers] at hvalue
    rw [Value.prettyMember]
    simp only [List.append_assoc, List.cons_append] at hvalue ⊢
    rw [followMember_key _ _ hvalue, followMembers_comma, hrest]
    rfl

theorem Value.wholeItems_iff {items : List Value} :
    wholeItems items = true ↔ ∀ v ∈ items, v.isWhole = true := by
  induction items with
  | nil => simp [wholeItems]
  | cons v items ih => simp [wholeItems, ih]

theorem Value.wholeMembers_iff {members : List (String × Value)} :
    wholeMembers members = true ↔ ∀ m ∈ members, m.2.isWhole = true := by
  induction members with
  | nil => simp [wholeMembers]
  | cons m members ih => simp [wholeMembers, ih]

theorem followed_natural (n : UInt64) : Followed (.number (.natural n)) := by
  intro depth fuel rest hf hr
  obtain ⟨d, ds, hd, hdigit⟩ := toDigits_eq_cons n.toNat
  have hnumber := followNumber_natural hr n
  simp only [Value.pretty, chars_natural, hd, List.cons_append, List.length_cons] at hf hnumber ⊢
  obtain ⟨fuel, rfl⟩ : ∃ n, fuel = n + 1 := ⟨fuel - 1, by omega⟩
  rw [followValue_digit fuel hdigit, hnumber]
  rfl

theorem followed_string (s : String) : Followed (.string s) := by
  intro depth fuel rest hf hr
  simp only [Value.pretty, writeString, List.cons_append, List.length_cons] at hf
  obtain ⟨fuel, rfl⟩ : ∃ n, fuel = n + 1 := ⟨fuel - 1, by omega⟩
  rw [Value.pretty, writeString_append, followValue, skipBlanks_cons rfl]
  simp only [followString_flatMap]
  rfl

theorem followed_array {items : List Value} (hw : ∀ w ∈ items, w.isWhole = true)
    (hv : ∀ w ∈ items, Followed w) : Followed (.array items) := by
  intro depth fuel rest hf hr
  cases items with
  | nil =>
    rw [Value.pretty] at hf ⊢
    simp only [List.length_cons, List.length_nil] at hf
    obtain ⟨fuel, rfl⟩ : ∃ n, fuel = n + 2 := ⟨fuel - 2, by omega⟩
    rfl
  | cons v items =>
    have hp : (Value.array (v :: items)).pretty depth = '[' :: (Value.newline (depth + 1) ++
        (v.pretty (depth + 1) ++ (Value.furtherItems (depth + 1) items ++
          (Value.newline depth ++ [']'])))) := by
      rw [Value.pretty, Value.prettyItems_cons] <;> simp
    rw [hp] at hf ⊢
    simp only [List.length_cons, List.length_append, List.length_nil] at hf
    obtain ⟨fuel, rfl⟩ : ∃ n, fuel = n + 3 := ⟨fuel - 3, by omega⟩
    have hi := followItem_pretty hw hv (depth + 1) depth (fuel + 1) rest
      (by rw [List.length_append]; omega)
    simp only [List.cons_append, List.append_assoc, List.nil_append]
    rw [followValue, skipBlanks_cons rfl]
    simp only [followItems_first _ (hw v List.mem_cons_self), hi]
    rfl

theorem followed_object {members : List (String × Value)} (hv : ∀ m ∈ members, Followed m.2) :
    Followed (.object members) := by
  intro depth fuel rest hf hr
  cases members with
  | nil =>
    rw [Value.pretty] at hf ⊢
    simp only [List.length_cons, List.length_nil] at hf
    obtain ⟨fuel, rfl⟩ : ∃ n, fuel = n + 2 := ⟨fuel - 2, by omega⟩
    rfl
  | cons m members =>
    have hp : (Value.object (m :: members)).pretty depth = '\x7b' ::
        (Value.newline (depth + 1) ++ (Value.prettyMember (depth + 1) m ++
          (Value.furtherMembers (depth + 1) members ++ (Value.newline depth ++ ['\x7d'])))) := by
      rw [Value.pretty, Value.prettyMembers_cons] <;> simp
    rw [hp] at hf ⊢
    simp only [List.length_cons, List.length_append, List.length_nil] at hf
    obtain ⟨fuel, rfl⟩ : ∃ n, fuel = n + 3 := ⟨fuel - 3, by omega⟩
    have hm := followMember_pretty hv (depth + 1) depth (fuel + 1) rest
      (by rw [List.length_append]; omega)
    simp only [List.cons_append, List.append_assoc, List.nil_append]
    rw [followValue, skipBlanks_cons rfl]
    simp only [followMembers_first, hm]
    rfl

theorem followed_of_isWhole {v : Value} (hv : v.isWhole = true) : Followed v := by
  cases v with
  | null =>
    intro depth fuel rest hf hr
    obtain ⟨fuel, rfl⟩ : ∃ n, fuel = n + 1 := ⟨fuel - 1, by simp [Value.pretty] at hf; omega⟩
    rfl
  | bool b =>
    intro depth fuel rest hf hr
    obtain ⟨fuel, rfl⟩ : ∃ n, fuel = n + 1 :=
      ⟨fuel - 1, by cases b <;> simp [Value.pretty] at hf <;> omega⟩
    cases b <;> rfl
  | number n =>
    cases n with
    | natural n => exact followed_natural n
    | negative n => cases hv
    | float bits => cases hv
  | string s => exact followed_string s
  | array items =>
    have hw := Value.wholeItems_iff.1 hv
    exact followed_array hw fun w h => followed_of_isWhole (hw w h)
  | object members =>
    have hw := Value.wholeMembers_iff.1 hv
    exact followed_object fun m h => followed_of_isWhole (hw m h)
termination_by sizeOf v
decreasing_by
  · subst_vars
    have := List.sizeOf_lt_of_mem h
    simp only [Value.array.sizeOf_spec]
    omega
  · subst_vars
    have := List.sizeOf_lt_of_mem h
    obtain ⟨key, w⟩ := m
    simp only [Value.object.sizeOf_spec, Prod.mk.sizeOf_spec] at this ⊢
    omega

/--
The indented text of a value is followed as the tree of the value. Its numbers are natural ones, as
a float may be written with fewer digits than it has.
-/
theorem follow_prettyText {v : Value} (hv : v.isWhole = true) :
    follow v.prettyText = (v.tree, false) := by
  have h := followed_of_isWhole hv 0 (3 * (v.pretty 0).length + 4) [] (by omega) endsNumber_nil
  rw [List.append_nil] at h
  rw [follow, Value.prettyText, String.toList_ofList, h]
  rfl

end PageHarvest.Json

import Mathlib.Data.List.Forall2
import PageHarvest.Proofs.Json.Record

namespace PageHarvest.Json

/-- Which values are left of a value without some of its members. -/
abbrev Thinning := Value → Value → Prop

namespace Thinning

/-- The members that are left. One that is as in a default may be missing, and each of the others
may lack something itself. -/
inductive Members (isDefault : Value → Prop) :
    List (String × Thinning) → List (String × Value) → List (String × Value) → Prop
  | nil : Members isDefault [] [] []
  | without {key : String} {inside : Thinning} {v d : Value} {parts : List (String × Thinning)}
      {vs ws : List (String × Value)} :
      isDefault d → d.member? key = some v → Members isDefault parts vs ws →
      Members isDefault ((key, inside) :: parts) ((key, v) :: vs) ws
  | within {key : String} {inside : Thinning} {v w : Value} {parts : List (String × Thinning)}
      {vs ws : List (String × Value)} :
      inside v w → Members isDefault parts vs ws →
      Members isDefault ((key, inside) :: parts) ((key, v) :: vs) ((key, w) :: ws)

inductive record (isDefault : Value → Prop) (parts : List (String × Thinning)) : Thinning
  | members {vs ws : List (String × Value)} : Members isDefault parts vs ws →
      record isDefault parts (.object vs) (.object ws)

/-- A list with as many items, each of which may lack something. -/
inductive items (inside : Thinning) : Thinning
  | each {vs ws : List Value} : List.Forall₂ inside vs ws → items inside (.array vs) (.array ws)

end Thinning

namespace Value

variable {key : String} {v : Value} {members : List (String × Value)}

theorem member?_eq_none (h : ∀ m ∈ members, m.1 ≠ key) : (object members).member? key = none := by
  rw [member?, Option.map_eq_none_iff, List.find?_eq_none]
  intro m hm
  simpa using h m (List.mem_reverse.1 hm)

theorem member?_cons_of_ne {other : String} (h : other ≠ key) :
    (object ((other, v) :: members)).member? key = (object members).member? key := by
  have last : [(other, v)].find? (·.1 == key) = none :=
    List.find?_cons_of_neg (by simpa using h)
  rw [member?, member?, List.reverse_cons, List.find?_append, last, Option.or_none]

theorem member?_cons_self (h : ∀ m ∈ members, m.1 ≠ key) :
    (object ((key, v) :: members)).member? key = some v := by
  have before : members.reverse.find? (·.1 == key) = none := by
    rw [List.find?_eq_none]
    intro m hm
    simpa using h m (List.mem_reverse.1 hm)
  have last : [(key, v)].find? (·.1 == key) = some (key, v) :=
    List.find?_cons_of_pos (by simp)
  rw [member?, List.reverse_cons, List.find?_append, before, Option.none_or, last, Option.map_some]

end Value

/-- How reading what is left of a value leads from a record to the one that was written. -/
inductive Restores {σ : Type} (isDefault : Value → Prop) (given : Value) :
    List (Member σ) → List (String × Thinning) → List (String × Value) → σ → σ → Prop
  | nil (record : σ) : Restores isDefault given [] [] [] record record
  | cons {m : Member σ} {inside : Thinning} {v : Value} {ms : List (Member σ)}
      {parts : List (String × Thinning)} {vs : List (String × Value)} {before after last : σ}
      (without : given.member? m.name = none → ∀ d, isDefault d → d.member? m.name = some v →
        m.required = false ∧ after = before)
      (within : ∀ w, given.member? m.name = some w → inside v w → m.put before w.tree = .ok after)
      (rest : Restores isDefault given ms parts vs after last) :
      Restores isDefault given (m :: ms) ((m.name, inside) :: parts) ((m.name, v) :: vs) before last

namespace Restores

variable {σ α : Type} {isDefault : Value → Prop} {given : Value} {ms : List (Member σ)}
  {parts : List (String × Thinning)} {vs : List (String × Value)}

/-- A member that is put where it is given, and where it is not the record has it already. -/
theorem member {name : String} {read : Decoder α} {set : σ → α → σ} {inside : Thinning} {v : Value}
    {x default : α} {before last : σ}
    (without : given.member? name = none → ∀ d, isDefault d → d.member? name = some v →
      x = default)
    (within : ∀ w, given.member? name = some w → inside v w → read w.tree = .ok x)
    (hset : set before default = before)
    (rest : Restores isDefault given ms parts vs (set before x) last) :
    Restores isDefault given (Member.of name read set :: ms) ((name, inside) :: parts)
      ((name, v) :: vs) before last := by
  refine .cons (fun absent d hd hm => ⟨rfl, ?_⟩) (fun w hw hin => ?_) rest
  · rw [without absent d hd hm, hset]
  · exact Member.put_of (within w hw hin) name set before

theorem part {name : String} {read : Decoder α} {set : σ → α → σ} {inside : Thinning} {v : Value}
    {x default : α} {before last : σ} (hv : read v.tree = .ok x)
    (hleft : ∀ w, inside v w → read w.tree = .ok x)
    (hdefault : ∀ d, isDefault d → ∃ u, d.member? name = some u ∧ read u.tree = .ok default)
    (hset : set before default = before)
    (rest : Restores isDefault given ms parts vs (set before x) last) :
    Restores isDefault given (Member.of name read set :: ms) ((name, inside) :: parts)
      ((name, v) :: vs) before last := by
  refine member (fun _ d hd hm => ?_) (fun w _ hw => hleft w hw) hset rest
  obtain ⟨u, hu, hread⟩ := hdefault d hd
  obtain rfl : v = u := Option.some.inj (hm.symm.trans hu)
  exact Except.ok.inj (hv.symm.trans hread)

theorem leaf {name : String} {read : Decoder α} {set : σ → α → σ} {v : Value}
    {x default : α} {before last : σ} (hv : read v.tree = .ok x)
    (hdefault : ∀ d, isDefault d → ∃ u, d.member? name = some u ∧ read u.tree = .ok default)
    (hset : set before default = before)
    (rest : Restores isDefault given ms parts vs (set before x) last) :
    Restores isDefault given (Member.of name read set :: ms) ((name, Eq) :: parts)
      ((name, v) :: vs) before last :=
  part hv (fun _ he => he ▸ hv) hdefault hset rest

theorem always {m : Member σ} {v : Value} {before after last : σ}
    (hput : m.put before v.tree = .ok after)
    (hnone : ∀ d, isDefault d → d.member? m.name = none)
    (rest : Restores isDefault given ms parts vs after last) :
    Restores isDefault given (m :: ms) ((m.name, Eq) :: parts) ((m.name, v) :: vs) before last := by
  refine .cons (fun _ d hd hm => ?_) (fun w _ hw => hw ▸ hput) rest
  rw [hnone d hd] at hm
  cases hm

theorem exists_pairs {ws : List (String × Value)} {first last : σ}
    (hr : Restores isDefault given ms parts vs first last)
    (hw : Thinning.Members isDefault parts vs ws) (hn : (ms.map (·.name)).Nodup)
    (hg : ∀ m ∈ ms, given.member? m.name = (Value.object ws).member? m.name) :
    ∃ pairs : List (Member σ × Value), ws = pairs.map (fun p => (p.1.name, p.2)) ∧
      (pairs.map Prod.fst).Sublist ms ∧
      (∀ m ∈ ms, m.required = true → m ∈ pairs.map Prod.fst) ∧
      pairs.foldlM (fun r p => p.1.put r p.2.tree) first = .ok last := by
  induction hr generalizing ws with
  | nil record =>
    cases hw
    exact ⟨[], rfl, .slnil, nofun, rfl⟩
  | @cons m inside v ms parts vs before after last without within rest ih =>
    rw [List.map_cons, List.nodup_cons] at hn
    rw [List.forall_mem_cons] at hg
    have other {n : Member σ} (h : n ∈ ms) : m.name ≠ n.name :=
      fun he => hn.1 (he ▸ List.mem_map_of_mem h)
    have apart {pairs : List (Member σ × Value)} (h : (pairs.map Prod.fst).Sublist ms) :
        ∀ p ∈ pairs.map (fun p => (p.1.name, p.2)), p.1 ≠ m.name := by
      intro p hp
      obtain ⟨q, hq, rfl⟩ := List.mem_map.1 hp
      exact (other (h.subset (List.mem_map_of_mem hq))).symm
    cases hw with
    | without hd hm hw =>
      obtain ⟨pairs, rfl, hsub, hreq, hput⟩ := ih hw hn.2 hg.2
      have absent := hg.1.trans (Value.member?_eq_none (apart hsub))
      obtain ⟨optional, rfl⟩ := without absent _ hd hm
      refine ⟨pairs, rfl, hsub.cons m, fun n hmem hr => ?_, hput⟩
      rcases List.mem_cons.1 hmem with rfl | hmem
      · rw [optional] at hr
        cases hr
      · exact hreq n hmem hr
    | @within _ _ _ w _ _ ws hin hw =>
      have further : ∀ n ∈ ms, given.member? n.name = (Value.object ws).member? n.name :=
        fun n h => (hg.2 n h).trans (Value.member?_cons_of_ne (other h))
      obtain ⟨pairs, rfl, hsub, hreq, hput⟩ := ih hw hn.2 further
      have given := hg.1.trans (Value.member?_cons_self (apart hsub))
      have put := within w given hin
      refine ⟨(m, w) :: pairs, rfl, hsub.cons_cons m, fun n hmem hr => ?_, ?_⟩
      · rcases List.mem_cons.1 hmem with rfl | hmem
        · exact List.mem_cons_self
        · exact List.mem_cons_of_mem _ (hreq n hmem hr)
      · rw [List.foldlM_cons, put]
        exact hput

end Restores

theorem RecordShape.read_thinned {σ : Type} {shape : RecordShape σ}
    (hn : (shape.members.map (·.name)).Nodup) {isDefault : Value → Prop}
    {parts : List (String × Thinning)} {vs : List (String × Value)} {w : Value} {first last : σ}
    (hw : Thinning.record isDefault parts (.object vs) w)
    (hr : Restores isDefault w shape.members parts vs first last) :
    shape.read first w.tree = .ok last := by
  cases hw with
  | members hw =>
    obtain ⟨pairs, rfl, hsub, hreq, hput⟩ := hr.exists_pairs hw hn fun _ _ => rfl
    exact read_tree hn hsub hreq hput

theorem readList_thinned {α : Type} {read : Decoder α} {write : α → Value} {inside : Thinning}
    {as : List α} {w : Value}
    (h : ∀ a ∈ as, ∀ u, inside (write a) u → read u.tree = .ok a)
    (hw : Thinning.items inside (.array (as.map write)) w) : readList read w.tree = .ok as := by
  cases hw with
  | @each _ ws hw =>
    change readItems read (Value.treeItems ws) = .ok as
    induction as generalizing ws with
    | nil =>
      cases hw
      rfl
    | cons a as ih =>
      rw [List.forall_mem_cons] at h
      cases hw with
      | cons hu hw =>
        rw [Value.treeItems, readItems, h.1 _ hu, ih h.2 hw]
        rfl

def Thinning.KeepsWhole (t : Thinning) : Prop :=
  ∀ v w, t v w → v.isWhole = true → w.isWhole = true

namespace Thinning

theorem keepsWhole_eq : KeepsWhole Eq := by
  rintro v w rfl h
  exact h

theorem KeepsWhole.items {inside : Thinning} (h : inside.KeepsWhole) :
    (items inside).KeepsWhole := by
  intro v w hw hv
  cases hw with
  | each hw =>
    rw [Value.isWhole] at hv ⊢
    induction hw with
    | nil => rfl
    | cons hu _ ih =>
      simp only [Value.wholeItems, Bool.and_eq_true] at hv ⊢
      exact ⟨h _ _ hu hv.1, ih hv.2⟩

theorem KeepsWhole.record {isDefault : Value → Prop} {parts : List (String × Thinning)}
    (h : ∀ part ∈ parts, part.2.KeepsWhole) : (record isDefault parts).KeepsWhole := by
  intro v w hw hv
  cases hw with
  | members hw =>
    rw [Value.isWhole] at hv ⊢
    induction hw with
    | nil => rfl
    | without _ _ _ ih =>
      simp only [Value.wholeMembers, Bool.and_eq_true] at hv
      exact ih (List.forall_mem_cons.1 h).2 hv.2
    | within hin _ ih =>
      simp only [Value.wholeMembers, Bool.and_eq_true] at hv ⊢
      rw [List.forall_mem_cons] at h
      exact ⟨h.1 _ _ hin hv.1, ih h.2 hv.2⟩

end Thinning
end PageHarvest.Json

import PageHarvest.Json.Decode
import PageHarvest.Proofs.Json.Tree

namespace PageHarvest.Json

theorem readText_tree (s : String) : readText (Value.string s).tree = .ok s :=
  rfl

theorem readOptional_tree (s : Option String) :
    readOptional readText (Value.ofOption s).tree = .ok s := by
  cases s <;> rfl

theorem readU64_tree (n : UInt64) : readU64 (Value.number (.natural n)).tree = .ok n := by
  have hn : n.toNat < UInt64.size := n.toNat_lt_size
  simp only [readU64, readNatural, Value.tree, Tree.found, Except.map, naturalOf, if_pos hn]
  exact congrArg Except.ok UInt64.ofNat_toNat

theorem readU32_tree (n : UInt32) : readU32 (Value.natural n.toNat).tree = .ok n := by
  have hn : n.toNat < UInt32.size := n.toNat_lt_size
  have hs : (UInt64.ofNat n.toNat).toNat = n.toNat := by
    rw [UInt64.toNat_ofNat']
    exact Nat.mod_eq_of_lt (Nat.lt_trans hn (by decide))
  simp only [readU32, readNatural, Value.natural, Value.tree, Tree.found, Except.map, naturalOf, hs,
    if_pos hn]
  exact congrArg Except.ok UInt32.ofNat_toNat

theorem readItems_tree {α : Type} {read : Decoder α} {write : α → Value} {items : List α}
    (h : ∀ a ∈ items, read (write a).tree = .ok a) :
    readItems read (Value.treeItems (items.map write)) = .ok items := by
  induction items with
  | nil => rfl
  | cons a items ih =>
    rw [List.forall_mem_cons] at h
    rw [List.map_cons, Value.treeItems, readItems, h.1, ih h.2]
    rfl

theorem readList_tree {α : Type} {read : Decoder α} {write : α → Value} {items : List α}
    (h : ∀ a ∈ items, read (write a).tree = .ok a) :
    readList read (Value.array (items.map write)).tree = .ok items :=
  readItems_tree h

theorem readChoice_tree {α : Type} {all : List α} {label : α → String} {a : α}
    (h : all.find? (fun b => label b == label a) = some a) :
    readChoice all label (Value.string (label a)).tree = .ok a := by
  simp only [readChoice, Value.tree, ofFault, bind, Except.bind, pick, h]

theorem Member.put_of {σ α : Type} {read : Decoder α} {a : α} {t : Tree} (h : read t = .ok a)
    (name : String) (set : σ → α → σ) (record : σ) :
    (Member.of name read set).put record t = .ok (set record a) := by
  simp only [Member.of, h]
  rfl

namespace RecordShape

variable {σ : Type} {shape : RecordShape σ}

theorem find?_member {members : List (Member σ)} (hn : (members.map (·.name)).Nodup)
    {m : Member σ} (hm : m ∈ members) : members.find? (fun n => n.name == m.name) = some m := by
  induction members with
  | nil => cases hm
  | cons n members ih =>
    rw [List.map_cons, List.nodup_cons] at hn
    rcases List.mem_cons.1 hm with rfl | hm
    · rw [List.find?_cons_of_pos (by simp)]
    · have hne : n.name ≠ m.name := fun he => hn.1 (he ▸ List.mem_map_of_mem hm)
      rw [List.find?_cons_of_neg (by simpa using hne)]
      exact ih hn.2 hm

theorem readMembers_tree (hn : (shape.members.map (·.name)).Nodup)
    {pairs : List (Member σ × Value)} (hm : ∀ p ∈ pairs, p.1 ∈ shape.members)
    (hp : (pairs.map (·.1.name)).Nodup) {given : List String}
    (hg : ∀ p ∈ pairs, p.1.name ∉ given) {record result : σ}
    (hr : pairs.foldlM (fun r p => p.1.put r p.2.tree) record = .ok result)
    (ha : shape.absent? ((pairs.map (·.1.name)).reverse ++ given) = none) :
    shape.readMembers given record (Value.treeMembers (pairs.map fun p => (p.1.name, p.2))) =
      .ok result := by
  induction pairs generalizing given record with
  | nil =>
    obtain rfl : record = result := Except.ok.inj hr
    simp only [List.map_nil, List.reverse_nil, List.nil_append] at ha
    simp only [List.map_nil, Value.treeMembers, readMembers, Ending.objectFault?, ha]
  | cons p pairs ih =>
    rw [List.forall_mem_cons] at hm hg
    rw [List.map_cons, List.nodup_cons] at hp
    rw [List.foldlM_cons] at hr
    cases hput : p.1.put record p.2.tree with
    | error e =>
      rw [hput] at hr
      cases hr
    | ok record' =>
      rw [hput] at hr
      have hnew : ∀ q ∈ pairs, q.1.name ∉ p.1.name :: given := by
        intro q hq hmem
        rcases List.mem_cons.1 hmem with he | hmem
        · exact hp.1 (he ▸ List.mem_map_of_mem (f := fun p => p.1.name) hq)
        · exact hg.2 q hq hmem
      have hrest := ih hm.2 hp.2 hnew hr (by simpa using ha)
      have hgiven : given.contains p.1.name = false := by simpa using hg.1
      rw [List.map_cons, Value.treeMembers, readMembers]
      simp only [ofFault, bind, Except.bind, find?_member hn hm.1, hgiven, hput, hrest,
        Bool.false_eq_true, if_false]

/--
A record whose written members are among those of the shape, in their order and with all that are
required, is read as what the members put into it.
-/
theorem read_tree (hn : (shape.members.map (·.name)).Nodup) {pairs : List (Member σ × Value)}
    (hp : (pairs.map Prod.fst).Sublist shape.members)
    (hq : ∀ m ∈ shape.members, m.required = true → m ∈ pairs.map Prod.fst) {record result : σ}
    (hr : pairs.foldlM (fun r p => p.1.put r p.2.tree) record = .ok result) :
    shape.read record (Value.object (pairs.map fun p => (p.1.name, p.2))).tree = .ok result := by
  have hnames : (pairs.map (·.1.name)).Nodup := by
    have := (hp.map (·.name)).nodup hn
    rwa [List.map_map] at this
  have absent : shape.absent? ((pairs.map (·.1.name)).reverse ++ []) = none := by
    rw [absent?, Option.map_eq_none_iff, List.find?_eq_none]
    intro m hm h
    simp only [Bool.and_eq_true, Bool.not_eq_true', List.append_nil] at h
    obtain ⟨p, hpair, rfl⟩ := List.mem_map.1 (hq m hm h.1)
    have hmem : p.1.name ∈ (pairs.map (·.1.name)).reverse :=
      List.mem_reverse.2 (List.mem_map_of_mem (f := fun p => p.1.name) hpair)
    rw [List.contains_iff_mem.2 hmem] at h
    cases h.2
  exact readMembers_tree hn (fun p h => hp.subset (List.mem_map_of_mem h)) hnames
    (fun _ _ => List.not_mem_nil) hr absent

theorem read_empty (h : ∀ m ∈ shape.members, m.required = false) (record : σ) :
    shape.read record (Value.object []).tree = .ok record := by
  have absent : shape.absent? [] = none := by
    rw [absent?, Option.map_eq_none_iff, List.find?_eq_none]
    intro m hm
    rw [h m hm, Bool.false_and]
    exact Bool.false_ne_true
  simp only [Value.tree, Value.treeMembers, read, readMembers, Ending.objectFault?, absent]

theorem read_zip (shape : RecordShape σ) (values : List Value)
    (hn : (shape.members.map (·.name)).Nodup) (hl : values.length = shape.members.length)
    {record result : σ}
    (hr : (shape.members.zip values).foldlM (fun r p => p.1.put r p.2.tree) record = .ok result) :
    shape.read record
      (Value.object ((shape.members.zip values).map fun p => (p.1.name, p.2))).tree =
        .ok result := by
  have hall : (shape.members.zip values).map Prod.fst = shape.members :=
    List.map_fst_zip (by omega)
  refine read_tree hn ?_ ?_ hr
  · exact hall.symm ▸ List.Sublist.refl shape.members
  · intro m hm _
    rwa [hall]

end RecordShape
end PageHarvest.Json

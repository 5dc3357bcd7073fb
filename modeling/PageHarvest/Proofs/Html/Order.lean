import PageHarvest.Proofs.Html.Tree

namespace PageHarvest.Html.Document

variable {d : Document} {top c c' x y : NodeId} {i n : Nat} {ids : List NodeId}

/-- How many nodes of the tree the walk down from the page comes by before the node. -/
def place (d : Document) (id : NodeId) : Nat :=
  (d.descendants root).idxOf id

/-- The nodes stand in the tree, and none comes before one that is further up in it. -/
structure InOrder (d : Document) (ids : List NodeId) : Prop where
  inTree : ∀ id ∈ ids, d.InTree id
  ordered : ids.Pairwise fun a b => d.place a ≤ d.place b

/-- The nodes stand in the tree, and whichever is further up was created earlier. -/
structure Grown (d : Document) (ids : List NodeId) : Prop where
  inTree : ∀ id ∈ ids, d.InTree id
  created : ∀ a ∈ ids, ∀ b ∈ ids, d.place a < d.place b → a < b

namespace Linked

theorem place_injective (h : d.Linked) (hx : d.InTree x) (hp : d.place x = d.place y) : x = y :=
  List.idxOf_inj (h.mem_descendants_iff.2 hx) |>.1 hp

theorem pairwise_place (h : d.Linked) :
    (d.descendants root).Pairwise fun a b => d.place a < d.place b := by
  rw [List.pairwise_iff_getElem]
  intro i j hi hj hlt
  unfold place
  rw [h.nodup_descendants.idxOf_getElem, h.nodup_descendants.idxOf_getElem]
  exact hlt

end Linked

namespace InOrder

theorem filter (h : d.InOrder ids) (p : NodeId → Bool) : d.InOrder (ids.filter p) where
  inTree id hid := h.inTree id (List.mem_filter.1 hid).1
  ordered := h.ordered.filter p

theorem eq_of_mem_iff {ids' : List NodeId} (hd : d.Linked) (h : d.InOrder ids)
    (h' : d.InOrder ids') (hn : ids.Nodup) (hn' : ids'.Nodup) (hm : ∀ id, id ∈ ids ↔ id ∈ ids') :
    ids = ids' := by
  refine List.Perm.eq_of_pairwise ?_ h.ordered h'.ordered ((List.perm_ext_iff_of_nodup hn hn').2 hm)
  intro a b ha hb hab hba
  exact hd.place_injective (h.inTree a ha) (Nat.le_antisymm hab hba)

end InOrder

/-- Nodes by their numbers are in the order of the tree just if they were created in it. -/
theorem inOrder_iff_grown (hs : ids.Pairwise (· < ·)) : d.InOrder ids ↔ d.Grown ids := by
  constructor
  · intro h
    refine ⟨h.inTree, ?_⟩
    intro a ha b hb hlt
    have both := hs.and h.ordered
    by_contra hn
    have hne : b ≠ a := by
      rintro rfl
      exact Nat.lt_irrefl _ hlt
    have hba : b < a := Nat.lt_of_le_of_ne (Nat.le_of_not_lt hn) hne
    obtain ⟨i, hi, rfl⟩ := List.getElem_of_mem ha
    obtain ⟨j, hj, rfl⟩ := List.getElem_of_mem hb
    rw [List.pairwise_iff_getElem] at both
    rcases Nat.lt_trichotomy i j with hij | rfl | hji
    · exact hn (both i j hi hj hij).1
    · exact hne rfl
    · exact Nat.not_lt_of_le (both j i hj hi hji).2 hlt
  · intro h
    refine ⟨h.inTree, hs.imp_of_mem ?_⟩
    intro a b ha hb hab
    by_contra hn
    exact Nat.lt_asymm hab (h.created b hb a ha (Nat.lt_of_not_le hn))

/-- A walk deeper than the tree goes no further. -/
theorem walk_add (k : Nat) (h : ∀ j y, d.Level c j y → j ≤ n) :
    walk d.children (n + k) c = walk d.children n c := by
  induction n generalizing c with
  | zero =>
    have childless : d.children c = [] := by
      rw [List.eq_nil_iff_forall_not_mem]
      intro y hy
      have := h 1 y (.child .top hy)
      omega
    cases k with
    | zero => rfl
    | succ k => simp [walk, childless]
  | succ n ih =>
    rw [Nat.succ_add, walk, walk]
    refine List.flatMap_congr ?_
    intro y hy
    rw [ih]
    intro j z hz
    have first : d.Level c 1 y := .child .top hy
    have := h (1 + j) z (first.trans hz)
    omega

/-- A walk comes by the nodes below another in one go, straight behind that one. -/
theorem exists_walk_eq (hx : d.Level top i x) (n : Nat) :
    ∃ front back, top :: walk d.children (n + i) top =
      front ++ x :: (walk d.children n x ++ back) := by
  induction hx generalizing n with
  | top => exact ⟨[], [], by simp⟩
  | @child i p c hp hc ih =>
    obtain ⟨front, back, hw⟩ := ih (n + 1)
    obtain ⟨before, behind, hs⟩ := List.append_of_mem hc
    refine ⟨front ++ p :: before.flatMap fun c => c :: walk d.children n c,
      (behind.flatMap fun c => c :: walk d.children n c) ++ back, ?_⟩
    have hi : n + (i + 1) = n + 1 + i := by omega
    rw [hi, hw, walk, hs]
    simp

/-- The tree before a node, and what stands neither before it nor below it. -/
structure Parted (d : Document) (c : NodeId) (front back : List NodeId) : Prop where
  walk : d.descendants root = front ++ c :: (d.descendants c ++ back)
  front_lt : ∀ x ∈ front, d.place x < d.place c
  lt_below : ∀ x ∈ d.descendants c, d.place c < d.place x
  inside : (d.descendants c).Pairwise fun a b => d.place a < d.place b
  lt_back : ∀ x ∈ d.descendants c, ∀ y ∈ back, d.place x < d.place y

namespace Linked

theorem mem_descendants_of_level (h : d.Linked) (hc : d.Level root n c)
    (hx : d.Level c (i + 1) x) : x ∈ d.descendants c := by
  rw [descendants_eq]
  have := h.level_lt_size (hc.trans hx)
  exact mem_walk_of_level hx (by omega)

theorem exists_descendants_eq (h : d.Linked) (hc : d.InTree c) :
    ∃ front back, d.descendants root = front ++ c :: (d.descendants c ++ back) := by
  obtain ⟨i, hi⟩ := hc
  have hlt := h.level_lt_size hi
  have shallow : ∀ j y, d.Level c j y → j ≤ d.nodes.size - (i + 1) := by
    intro j y hy
    have := h.level_lt_size (hi.trans hy)
    omega
  have hsize : d.nodes.size - (i + 1) + (i + 1) = d.nodes.size := by omega
  obtain ⟨front, back, hw⟩ := exists_walk_eq hi (d.nodes.size - (i + 1))
  rw [← walk_add (i + 1) shallow, hsize, ← descendants_eq, ← descendants_eq] at hw
  cases front with
  | nil =>
    rw [List.nil_append, List.cons.injEq] at hw
    have hroot : d.Level root (i + 1) root := hw.1 ▸ hi
    have := h.level_unique hroot .top
    omega
  | cons r front => exact ⟨front, back, (List.cons.inj hw).2⟩

theorem exists_parted (h : d.Linked) (hc : d.InTree c) : ∃ front back, d.Parted c front back := by
  obtain ⟨front, back, hw⟩ := h.exists_descendants_eq hc
  have apart := h.pairwise_place
  rw [hw, List.pairwise_append, List.pairwise_cons, List.pairwise_append] at apart
  obtain ⟨-, ⟨behind, inside, -, back_apart⟩, front_apart⟩ := apart
  refine ⟨front, back, hw, ?_, ?_, inside, back_apart⟩
  · intro x hx
    exact front_apart x hx c List.mem_cons_self
  · intro x hx
    exact behind x (List.mem_append_left back hx)

theorem descendants_subset (h : d.Linked) (hc : d.InTree c) (hx : x ∈ d.descendants c) :
    d.descendants x ⊆ d.descendants c := by
  intro y hy
  rw [descendants_eq] at hx hy
  obtain ⟨n, hn⟩ := hc
  obtain ⟨i, hi⟩ := exists_level_of_mem_walk hx
  obtain ⟨j, hj⟩ := exists_level_of_mem_walk hy
  have deeper : d.Level c (i + 1 + j + 1) y := hi.trans hj
  exact h.mem_descendants_of_level hn deeper

end Linked

theorem inTree_of_mem_descendants (hc : d.InTree c) (hx : x ∈ d.descendants c) : d.InTree x := by
  rw [descendants_eq] at hx
  obtain ⟨i, hi⟩ := hc
  obtain ⟨j, hj⟩ := exists_level_of_mem_walk hx
  exact ⟨i + 1 + j, hi.trans hj⟩

namespace Linked

/-- The first of the nodes below that have a property is above the others. -/
theorem place_head?_le_of_mem (h : d.Linked) (hc : d.InTree c) {p : NodeId → Bool}
    (hx : ((d.descendants c).filter p).head? = some x)
    (hy : y ∈ (d.descendants c).filter p) : d.place x ≤ d.place y := by
  obtain ⟨front, back, parted⟩ := h.exists_parted hc
  have inside := parted.inside.filter p
  obtain ⟨rest, hr⟩ := List.head?_eq_some_iff.1 hx
  rw [hr] at hy inside
  rcases List.mem_cons.1 hy with rfl | hy
  · exact Nat.le_refl _
  · exact Nat.le_of_lt ((List.pairwise_cons.1 inside).1 y hy)

/--
The first of the nodes below with a property is no further down for a node that is further up: the
later node stands below the earlier one, or behind all that is below that.
-/
theorem place_head?_le (h : d.Linked) (hc : d.InTree c) (hc' : d.InTree c')
    (hle : d.place c ≤ d.place c') {p : NodeId → Bool}
    (hx : ((d.descendants c).filter p).head? = some x)
    (hy : ((d.descendants c').filter p).head? = some y) : d.place x ≤ d.place y := by
  have hxc := List.mem_filter.1 (List.mem_of_head? hx)
  have hyc' := List.mem_filter.1 (List.mem_of_head? hy)
  obtain ⟨front, back, parted⟩ := h.exists_parted hc
  have hmem := h.mem_descendants_iff.2 hc'
  rw [parted.walk] at hmem
  rcases List.mem_append.1 hmem with hfront | hmem
  · exact absurd hle (Nat.not_le_of_lt (parted.front_lt c' hfront))
  rcases List.mem_cons.1 hmem with rfl | hmem
  · exact h.place_head?_le_of_mem hc hx (List.mem_of_head? hy)
  rcases List.mem_append.1 hmem with hbelow | hback
  · have inside := h.descendants_subset hc hbelow hyc'.1
    exact h.place_head?_le_of_mem hc hx (List.mem_filter.2 ⟨inside, hyc'.2⟩)
  · obtain ⟨_, _, parted'⟩ := h.exists_parted hc'
    have hlt := parted.lt_back x hxc.1 c' hback
    exact Nat.le_of_lt (Nat.lt_trans hlt (parted'.lt_below y hyc'.1))

end Linked

end PageHarvest.Html.Document

import Mathlib.Data.List.Nodup
import Mathlib.Data.List.Perm.Subperm
import PageHarvest.Html.Document

namespace PageHarvest.Html.Document

variable {d : Document} {top p p' c x : NodeId} {i j n : Nat}

/-- Whatever is a child has the parent that it is a child of, and the page itself has none. -/
structure Linked (d : Document) : Prop where
  content_root : d.content root = .document
  parent?_root : d.parent? root = none
  parent?_of_mem {p c : NodeId} : c ∈ d.children p → d.parent? c = some p
  nodup_children (p : NodeId) : (d.children p).Nodup

/-- The node stands so many levels below `top`. -/
inductive Level (d : Document) (top : NodeId) : Nat → NodeId → Prop
  | top : Level d top 0 top
  | child {n : Nat} {p c : NodeId} :
    Level d top n p → c ∈ d.children p → Level d top (n + 1) c

/-- The node stands in the tree below the page itself. -/
def InTree (d : Document) (id : NodeId) : Prop :=
  ∃ n, d.Level root (n + 1) id

theorem lt_size_of_parent? (h : d.parent? c = some p) : c < d.nodes.size := by
  by_contra hn
  rw [parent?, Array.getElem?_eq_none (Nat.le_of_not_lt hn)] at h
  cases h

theorem isSome_parent?_of_inTree (h : d.Linked) (hx : d.InTree x) :
    (d.parent? x).isSome = true := by
  obtain ⟨n, hl⟩ := hx
  cases hl with
  | child hp hc => rw [h.parent?_of_mem hc, Option.isSome_some]

theorem Level.trans (h : d.Level top i p) (h' : d.Level p j x) : d.Level top (i + j) x := by
  induction h' with
  | top => exact h
  | child hp hc ih => exact .child ih hc

/-- No node of the tree stands at two levels, because there is one parent to go up to. -/
theorem Linked.level_unique (h : d.Linked) (hi : d.Level root i x) (hj : d.Level root j x) :
    i = j := by
  induction hi generalizing j with
  | top =>
    cases hj with
    | top => rfl
    | child hp hc =>
      have hn := h.parent?_of_mem hc
      rw [h.parent?_root] at hn
      cases hn
  | child hp hc ih =>
    cases hj with
    | top =>
      have hn := h.parent?_of_mem hc
      rw [h.parent?_root] at hn
      cases hn
    | child hp' hc' =>
      have same := (h.parent?_of_mem hc).symm.trans (h.parent?_of_mem hc')
      obtain rfl := Option.some.inj same
      rw [ih hp']

/-- Nodes as far above the same node are the same. -/
theorem Linked.top_unique (h : d.Linked) (hp : d.Level p n x) (hp' : d.Level p' n x) : p = p' := by
  induction n generalizing x with
  | zero =>
    cases hp
    cases hp'
    rfl
  | succ n ih =>
    cases hp with
    | child hq hc =>
      cases hp' with
      | child hq' hc' =>
        have same := (h.parent?_of_mem hc).symm.trans (h.parent?_of_mem hc')
        obtain rfl := Option.some.inj same
        exact ih hq hq'

theorem Linked.lt_size (h : d.Linked) (hx : d.Level root n x) : x < d.nodes.size := by
  cases hx with
  | top =>
    by_contra hn
    have hc := h.content_root
    rw [content, Array.getElem?_eq_none (Nat.le_of_not_lt hn)] at hc
    cases hc
  | child hp hc => exact lt_size_of_parent? (h.parent?_of_mem hc)

/-- The nodes on the way down, the lowest first. They all differ, because their levels do. -/
theorem Linked.exists_way (h : d.Linked) (hx : d.Level root n x) :
    ∃ way : List NodeId, way.length = n + 1 ∧ way.Nodup ∧
      ∀ y ∈ way, ∃ i ≤ n, d.Level root i y := by
  induction hx with
  | top =>
    refine ⟨[root], rfl, List.nodup_singleton _, ?_⟩
    intro y hy
    obtain rfl := List.mem_singleton.1 hy
    exact ⟨0, Nat.le_refl 0, .top⟩
  | @child n p c hp hc ih =>
    obtain ⟨way, hlength, hnodup, hlevels⟩ := ih
    have hl : d.Level root (n + 1) c := .child hp hc
    refine ⟨c :: way, by rw [List.length_cons, hlength], List.nodup_cons.2 ⟨?_, hnodup⟩, ?_⟩
    · intro hm
      obtain ⟨i, hi, hli⟩ := hlevels c hm
      have := h.level_unique hl hli
      omega
    · rw [List.forall_mem_cons]
      refine ⟨⟨n + 1, Nat.le_refl _, hl⟩, ?_⟩
      intro y hy
      obtain ⟨i, hi, hli⟩ := hlevels y hy
      exact ⟨i, Nat.le_succ_of_le hi, hli⟩

theorem Linked.level_lt_size (h : d.Linked) (hx : d.Level root n x) : n < d.nodes.size := by
  obtain ⟨way, hlength, hnodup, hlevels⟩ := h.exists_way hx
  have inside : way ⊆ List.range d.nodes.size := by
    intro y hy
    obtain ⟨i, -, hli⟩ := hlevels y hy
    exact List.mem_range.2 (h.lt_size hli)
  have hle := (List.subperm_of_subset hnodup inside).length_le
  rw [hlength, List.length_range] at hle
  exact hle

theorem exists_level_of_mem_walk (hx : x ∈ walk d.children n top) :
    ∃ i, d.Level top (i + 1) x := by
  induction n generalizing top with
  | zero => cases hx
  | succ n ih =>
    obtain ⟨c, hc, hx⟩ := List.mem_flatMap.1 hx
    have first : d.Level top 1 c := .child .top hc
    rcases List.mem_cons.1 hx with rfl | hx
    · exact ⟨0, first⟩
    · obtain ⟨i, hi⟩ := ih hx
      refine ⟨1 + i, ?_⟩
      exact first.trans hi

theorem exists_level_of_mem_cons_walk (hx : x ∈ c :: walk d.children n c) :
    ∃ i, d.Level c i x := by
  rcases List.mem_cons.1 hx with rfl | hx
  · exact ⟨0, .top⟩
  · obtain ⟨i, hi⟩ := exists_level_of_mem_walk hx
    exact ⟨i + 1, hi⟩

theorem child_mem_walk (hp : p ∈ walk d.children n top) (hc : c ∈ d.children p) :
    c ∈ walk d.children (n + 1) top := by
  induction n generalizing top with
  | zero => cases hp
  | succ n ih =>
    obtain ⟨q, hq, hp⟩ := List.mem_flatMap.1 hp
    refine List.mem_flatMap.2 ⟨q, hq, List.mem_cons_of_mem q ?_⟩
    rcases List.mem_cons.1 hp with rfl | hp
    · exact List.mem_flatMap.2 ⟨c, hc, List.mem_cons_self⟩
    · exact ih hp

theorem mem_walk_of_level (hx : d.Level top (i + 1) x) (hi : i < n) :
    x ∈ walk d.children n top := by
  induction i generalizing n x with
  | zero =>
    cases n with
    | zero => cases hi
    | succ n =>
      cases hx with
      | child hp hc =>
        cases hp
        exact List.mem_flatMap.2 ⟨x, hc, List.mem_cons_self⟩
  | succ i ih =>
    cases n with
    | zero => cases hi
    | succ n =>
      cases hx with
      | child hp hc => exact child_mem_walk (ih hp (Nat.lt_of_succ_lt_succ hi)) hc

theorem Linked.nodup_walk (h : d.Linked) (ht : d.Level root i top) :
    (walk d.children n top).Nodup := by
  induction n generalizing i top with
  | zero => exact List.nodup_nil
  | succ n ih =>
    refine List.nodup_flatMap.2 ⟨?_, (h.nodup_children top).imp_of_mem ?_⟩
    · intro c hc
      have hl : d.Level root (i + 1) c := .child ht hc
      refine List.nodup_cons.2 ⟨?_, ih hl⟩
      intro hm
      obtain ⟨j, hj⟩ := exists_level_of_mem_walk hm
      have := h.level_unique hl (hl.trans hj)
      omega
    · -- What stands below two children stands as far below the one as below the other.
      intro c c' hc hc' hne x hx hx'
      obtain ⟨j, hj⟩ := exists_level_of_mem_cons_walk hx
      obtain ⟨j', hj'⟩ := exists_level_of_mem_cons_walk hx'
      have hl : d.Level root (i + 1) c := .child ht hc
      have hl' : d.Level root (i + 1) c' := .child ht hc'
      have same := h.level_unique (hl.trans hj) (hl'.trans hj')
      obtain rfl : j = j' := by omega
      exact hne (h.top_unique hj hj')

theorem Linked.mem_descendants_iff (h : d.Linked) : x ∈ d.descendants root ↔ d.InTree x := by
  rw [descendants_eq]
  constructor
  · exact exists_level_of_mem_walk
  · rintro ⟨i, hi⟩
    exact mem_walk_of_level hi (Nat.lt_of_succ_lt (h.level_lt_size hi))

theorem Linked.nodup_descendants (h : d.Linked) : (d.descendants root).Nodup := by
  rw [descendants_eq]
  exact h.nodup_walk .top

end PageHarvest.Html.Document

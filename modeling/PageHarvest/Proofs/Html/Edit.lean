import PageHarvest.Proofs.Html.Tree

namespace PageHarvest.Html.Document

variable {d : Document} {id p x : NodeId}

theorem children_of_size_le (h : d.nodes.size ≤ x) : d.children x = [] := by
  rw [children, Array.getElem?_eq_none h]

def setChildren (d : Document) (p : NodeId) (place : List NodeId → List NodeId) : Document :=
  d.modify p fun n => { n with children := place n.children }

def setParent (d : Document) (id : NodeId) (parent : Option NodeId) : Document :=
  d.modify id fun n => { n with parent := parent }

@[simp] theorem size_modify (d : Document) (id : NodeId) (f : Node → Node) :
    (d.modify id f).nodes.size = d.nodes.size :=
  Array.size_modify

@[simp] theorem size_setChildren (d : Document) (p : NodeId) (place : List NodeId → List NodeId) :
    (d.setChildren p place).nodes.size = d.nodes.size :=
  Array.size_modify

@[simp] theorem size_setParent (d : Document) (id : NodeId) (parent : Option NodeId) :
    (d.setParent id parent).nodes.size = d.nodes.size :=
  Array.size_modify

section

variable {f : Node → Node}

theorem content_modify (h : ∀ n, (f n).content = n.content) :
    (d.modify id f).content x = d.content x := by
  unfold content modify
  rw [Array.getElem?_modify]
  by_cases he : id = x
  · rw [if_pos he]
    cases d.nodes[x]? with
    | none => rfl
    | some n => exact h n
  · rw [if_neg he]

theorem parent?_modify (h : ∀ n, (f n).parent = n.parent) :
    (d.modify id f).parent? x = d.parent? x := by
  unfold parent? modify
  rw [Array.getElem?_modify]
  by_cases he : id = x
  · rw [if_pos he]
    cases d.nodes[x]? with
    | none => rfl
    | some n => exact h n
  · rw [if_neg he]

theorem children_modify (h : ∀ n, (f n).children = n.children) :
    (d.modify id f).children x = d.children x := by
  unfold children modify
  rw [Array.getElem?_modify]
  by_cases he : id = x
  · rw [if_pos he]
    cases d.nodes[x]? with
    | none => rfl
    | some n => exact h n
  · rw [if_neg he]

end

theorem children_setChildren (place : List NodeId → List NodeId) :
    (d.setChildren p place).children x =
      if x = p ∧ p < d.nodes.size then place (d.children x) else d.children x := by
  unfold children setChildren modify
  rw [Array.getElem?_modify]
  by_cases he : p = x
  · subst he
    by_cases hp : p < d.nodes.size
    · simp [hp]
    · simp [hp]
  · simp [he, Ne.symm he]

theorem parent?_setParent (hid : id < d.nodes.size) (parent : Option NodeId) :
    (d.setParent id parent).parent? x = if x = id then parent else d.parent? x := by
  unfold parent? setParent modify
  rw [Array.getElem?_modify]
  by_cases he : id = x
  · subst he
    simp [hid]
  · simp [he, Ne.symm he]

@[simp] theorem content_setChildren (place : List NodeId → List NodeId) :
    (d.setChildren p place).content x = d.content x :=
  content_modify fun _ => rfl

@[simp] theorem parent?_setChildren (place : List NodeId → List NodeId) :
    (d.setChildren p place).parent? x = d.parent? x :=
  parent?_modify fun _ => rfl

@[simp] theorem content_setParent (parent : Option NodeId) :
    (d.setParent id parent).content x = d.content x :=
  content_modify fun _ => rfl

@[simp] theorem children_setParent (parent : Option NodeId) :
    (d.setParent id parent).children x = d.children x :=
  children_modify fun _ => rfl

theorem detach_of_none (h : d.parent? id = none) : d.detach id = d := by
  rw [detach, h]

theorem detach_of_some (h : d.parent? id = some p) :
    d.detach id = (d.setChildren p (·.filter (· != id))).setParent id none := by
  rw [detach, h]
  rfl

@[simp] theorem content_detach : (d.detach id).content x = d.content x := by
  cases h : d.parent? id with
  | none => rw [detach_of_none h]
  | some p => rw [detach_of_some h, content_setParent, content_setChildren]

@[simp] theorem size_detach : (d.detach id).nodes.size = d.nodes.size := by
  cases h : d.parent? id with
  | none => rw [detach_of_none h]
  | some p => rw [detach_of_some h, size_setParent, size_setChildren]

theorem parent?_detach : (d.detach id).parent? x = if x = id then none else d.parent? x := by
  cases h : d.parent? id with
  | none =>
    rw [detach_of_none h]
    split
    · rename_i he
      rw [he, h]
    · rfl
  | some p =>
    have hid : id < (d.setChildren p (·.filter (· != id))).nodes.size := by
      rw [size_setChildren]
      exact lt_size_of_parent? h
    rw [detach_of_some h, parent?_setParent hid, parent?_setChildren]

namespace Linked

theorem children_detach (h : d.Linked) :
    (d.detach id).children x = (d.children x).filter (· != id) := by
  have elsewhere (hx : d.parent? id ≠ some x) : (d.children x).filter (· != id) = d.children x := by
    rw [List.filter_eq_self]
    intro c hc
    rw [bne_iff_ne]
    rintro rfl
    exact hx (h.parent?_of_mem hc)
  cases hp : d.parent? id with
  | none => rw [detach_of_none hp, elsewhere (by rw [hp]; nofun)]
  | some p =>
    rw [detach_of_some hp, children_setParent, children_setChildren]
    split
    · rfl
    · rename_i hx
      by_cases he : x = p
      · have hs : d.nodes.size ≤ x := by
          rw [he] at hx ⊢
          exact Nat.le_of_not_lt fun hlt => hx ⟨rfl, hlt⟩
        rw [children_of_size_le hs]
        rfl
      · rw [elsewhere (by rw [hp]; exact fun hs => he (Option.some.inj hs).symm)]

theorem detach (h : d.Linked) (id : NodeId) : (d.detach id).Linked where
  content_root := by rw [content_detach, h.content_root]
  parent?_root := by
    rw [parent?_detach, h.parent?_root]
    exact ite_self none
  parent?_of_mem {p c} hc := by
    rw [h.children_detach, List.mem_filter, bne_iff_ne] at hc
    rw [parent?_detach, if_neg hc.2, h.parent?_of_mem hc.1]
  nodup_children p := by
    rw [h.children_detach]
    exact (h.nodup_children p).filter _

/-- A node that stands nowhere is given a place among the children of another. -/
theorem attach (h : d.Linked) (hp : d.parent? id = none) (hne : id ≠ root)
    (hid : id < d.nodes.size) {place : List NodeId → List NodeId}
    (hplace : ∀ children, (place children).Perm (id :: children)) (p : NodeId) :
    ((d.setChildren p place).setParent id (some p)).Linked := by
  have notChild (x : NodeId) : id ∉ d.children x := by
    intro hm
    rw [h.parent?_of_mem hm] at hp
    cases hp
  have parent (x : NodeId) : ((d.setChildren p place).setParent id (some p)).parent? x =
      if x = id then some p else d.parent? x := by
    rw [parent?_setParent (by rwa [size_setChildren]), parent?_setChildren]
  have children (x : NodeId) : ((d.setChildren p place).setParent id (some p)).children x =
      if x = p ∧ p < d.nodes.size then place (d.children x) else d.children x := by
    rw [children_setParent, children_setChildren]
  refine ⟨?_, ?_, ?_, ?_⟩
  · rw [content_setParent, content_setChildren, h.content_root]
  · rw [parent, if_neg (Ne.symm hne), h.parent?_root]
  · intro x c hc
    rw [children] at hc
    rw [parent]
    split at hc
    · rename_i hx
      rcases List.mem_cons.1 ((hplace _).subset hc) with rfl | hc
      · rw [if_pos rfl, hx.1]
      · have hcid : c ≠ id := fun he => notChild x (he ▸ hc)
        rw [if_neg hcid, h.parent?_of_mem hc]
    · have hcid : c ≠ id := fun he => notChild x (he ▸ hc)
      rw [if_neg hcid, h.parent?_of_mem hc]
  · intro x
    rw [children]
    split
    · rw [(hplace _).nodup_iff, List.nodup_cons]
      exact ⟨notChild x, h.nodup_children x⟩
    · exact h.nodup_children x

theorem append (h : d.Linked) (hne : id ≠ root) (hid : id < d.nodes.size) (p : NodeId) :
    (d.append p id).Linked := by
  have behind : ∀ children : List NodeId, (children ++ [id]).Perm (id :: children) := by
    intro children
    exact List.perm_append_singleton id children
  have alone : (d.detach id).parent? id = none := by rw [parent?_detach, if_pos rfl]
  exact (h.detach id).attach alone hne (by rwa [size_detach]) behind p

theorem insertBefore (h : d.Linked) (hne : id ≠ root) (hid : id < d.nodes.size)
    (sibling : NodeId) : (d.insertBefore sibling id).Linked := by
  have between : ∀ children : List NodeId,
      (children.takeWhile (· != sibling) ++ id :: children.dropWhile (· != sibling)).Perm
        (id :: children) := by
    intro children
    refine List.perm_middle.trans ?_
    rw [List.takeWhile_append_dropWhile]
  have alone : (d.detach id).parent? id = none := by rw [parent?_detach, if_pos rfl]
  unfold Document.insertBefore
  dsimp only
  split
  · exact h.detach id
  · exact (h.detach id).attach alone hne (by rwa [size_detach]) between _

theorem create (h : d.Linked) (c : Content) : (d.create c).Linked := by
  have hsize : d.nodes.size ≠ root := Nat.ne_of_gt (h.lt_size .top)
  have parent (x : NodeId) : (d.create c).parent? x = d.parent? x := by
    unfold parent? Document.create
    rw [Array.getElem?_push]
    split
    · rename_i he
      rw [he, Array.getElem?_eq_none (Nat.le_refl _)]
      rfl
    · rfl
  have children (x : NodeId) : (d.create c).children x = d.children x := by
    unfold Document.children Document.create
    rw [Array.getElem?_push]
    by_cases he : x = d.nodes.size
    · rw [if_pos he, he, Array.getElem?_eq_none (Nat.le_refl _)]
    · rw [if_neg he]
  refine ⟨?_, ?_, ?_, ?_⟩
  · rw [← h.content_root]
    unfold content Document.create
    rw [Array.getElem?_push, if_neg (Ne.symm hsize)]
  · rw [parent, h.parent?_root]
  · intro p c hc
    rw [children] at hc
    rw [parent, h.parent?_of_mem hc]
  · intro p
    rw [children]
    exact h.nodup_children p

/-- What a node is may change, as long as the page itself stays what it is. -/
theorem modify (h : d.Linked) {f : Node → Node} (hp : ∀ n, (f n).parent = n.parent)
    (hc : ∀ n, (f n).children = n.children)
    (hd : ∀ n, n.content = .document → (f n).content = .document) (id : NodeId) :
    (d.modify id f).Linked where
  content_root := by
    have hroot := h.content_root
    unfold content Document.modify at *
    rw [Array.getElem?_modify]
    by_cases he : id = root
    · rw [if_pos he]
      cases hn : d.nodes[root]? with
      | none =>
        rw [hn] at hroot
        cases hroot
      | some n =>
        rw [hn] at hroot
        exact hd n hroot
    · rwa [if_neg he]
  parent?_root := by rw [parent?_modify hp, h.parent?_root]
  parent?_of_mem {p c} hm := by
    rw [children_modify hc] at hm
    rw [parent?_modify hp, h.parent?_of_mem hm]
  nodup_children p := by
    rw [children_modify hc]
    exact h.nodup_children p

end Linked

/--
The pages that can be made of a blank one by creating nodes, by moving them about below the page and
by adding to what they hold.
-/
inductive Built : Document → Prop
  | blank : Built blank
  | create {d : Document} (c : Content) : Built d → Built (d.create c)
  | detach {d : Document} (id : NodeId) : Built d → Built (d.detach id)
  | append {d : Document} {id : NodeId} (p : NodeId) :
    Built d → id ≠ root → id < d.nodes.size → Built (d.append p id)
  | insertBefore {d : Document} {id : NodeId} (sibling : NodeId) :
    Built d → id ≠ root → id < d.nodes.size → Built (d.insertBefore sibling id)
  | extendText {d : Document} (id : NodeId) (c : Char) : Built d → Built (d.extendText id c)
  | addMissingAttributes {d : Document} (id : NodeId) (attributes : List Attribute) :
    Built d → Built (d.addMissingAttributes id attributes)

theorem linked_blank : blank.Linked where
  content_root := rfl
  parent?_root := rfl
  parent?_of_mem {p c} hc := by
    cases p with
    | zero => cases hc
    | succ p => cases hc
  nodup_children p := by
    cases p with
    | zero => exact List.nodup_nil
    | succ p => exact List.nodup_nil

theorem Built.linked (h : d.Built) : d.Linked := by
  induction h with
  | blank => exact linked_blank
  | create c h ih => exact ih.create c
  | detach id h ih => exact ih.detach id
  | append p h hne hid ih => exact ih.append hne hid p
  | insertBefore sibling h hne hid ih => exact ih.insertBefore hne hid sibling
  | extendText id c h ih =>
    refine ih.modify ?_ ?_ ?_ id
    all_goals
      intro n
      cases hn : n.content <;> simp [hn]
  | addMissingAttributes id attributes h ih =>
    refine ih.modify ?_ ?_ ?_ id
    all_goals
      intro n
      cases hn : n.content <;> simp [hn]

end PageHarvest.Html.Document

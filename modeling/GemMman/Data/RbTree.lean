import Mathlib.Data.List.Perm.Basic
import Mathlib.Data.List.Nodup

namespace GemMman.Data

/-! The red-black trees of this file (`obj->mmo.offsets`, keyed by mapping type, and a
node's `vm_files`, keyed by file pointer) are searched and extended by the same walk:
stop at an equal key, go right past a smaller key, left otherwise; link a new entry at
the empty slot the walk ends on; then `rb_insert_color`. Colours are not modelled:
recolouring and rotations keep the in-order sequence, which is all a search of an ordered
tree depends on (`search_eq_find`). -/

inductive RbTree (α : Type) where
  | leaf
  | node (left : RbTree α) (entry : α) (right : RbTree α)
deriving Repr

namespace RbTree

variable {α : Type} (key : α → Nat)

def inorder : RbTree α → List α
  | leaf => []
  | node left entry right => left.inorder ++ entry :: right.inorder

@[simp] theorem inorder_leaf : (leaf : RbTree α).inorder = [] := rfl

@[simp] theorem inorder_node (left : RbTree α) (entry : α) (right : RbTree α) :
    (node left entry right).inorder = left.inorder ++ entry :: right.inorder := rfl

/-- The order `rbtree_postorder_for_each_entry_safe` visits entries in. -/
def postorder : RbTree α → List α
  | leaf => []
  | node left entry right => left.postorder ++ right.postorder ++ [entry]

theorem mem_postorder {x : α} : ∀ {tree : RbTree α}, x ∈ tree.postorder ↔ x ∈ tree.inorder
  | leaf => Iff.rfl
  | node left entry right => by
      simp only [postorder, inorder_node, List.mem_append, List.mem_cons, List.mem_singleton,
        @mem_postorder x left, @mem_postorder x right]
      tauto

/-- The search loop of `lookup_mmo`, `insert_mmo` and `vma_node_allow_once`. -/
def search (wanted : Nat) : RbTree α → Option α
  | leaf => none
  | node left entry right =>
      if key entry = wanted then some entry
      else if key entry < wanted then search wanted right
      else search wanted left

/-- `rb_link_node` at the empty slot the search walk for `entry`'s key ends on. -/
def link (entry : α) : RbTree α → RbTree α
  | leaf => node leaf entry leaf
  | node left current right =>
      if key current < key entry then node left current (link entry right)
      else node (link entry left) current right

/-- The search-tree property: keys strictly increase in order. -/
def Ordered (tree : RbTree α) : Prop :=
  (tree.inorder.map key).Pairwise (· < ·)

variable {key}

theorem ordered_node {left right : RbTree α} {entry : α} :
    Ordered key (node left entry right) ↔
      Ordered key left ∧ Ordered key right ∧
        (∀ x ∈ left.inorder, key x < key entry) ∧ (∀ y ∈ right.inorder, key entry < key y) := by
  simp only [Ordered, inorder_node, List.map_append, List.map_cons, List.pairwise_append,
    List.pairwise_cons, List.mem_map, List.mem_cons, forall_exists_index, and_imp,
    forall_apply_eq_imp_iff₂]
  constructor
  · rintro ⟨orderedLeft, ⟨above, orderedRight⟩, below⟩
    exact ⟨orderedLeft, orderedRight, fun x member => below x member _ (.inl rfl), above⟩
  · rintro ⟨orderedLeft, orderedRight, below, above⟩
    refine ⟨orderedLeft, ⟨above, orderedRight⟩, ?_⟩
    rintro x member _ (rfl | ⟨y, inRight, rfl⟩)
    · exact below x member
    · exact (below x member).trans (above y inRight)

theorem search_some {wanted : Nat} {found : α} :
    ∀ {tree : RbTree α}, tree.search key wanted = some found →
      key found = wanted ∧ found ∈ tree.inorder
  | leaf, result => by cases result
  | node left entry right, result => by
      simp only [search] at result
      split at result
      · cases result
        simp_all
      · split at result
        · have := search_some result
          simp [this]
        · have := search_some result
          simp [this]

/-- On an ordered tree the walk finds exactly the first in-order entry with the key;
this is why rotations, which keep the in-order sequence, never change a lookup. -/
theorem search_eq_find {wanted : Nat} :
    ∀ {tree : RbTree α}, Ordered key tree →
      tree.search key wanted = tree.inorder.find? (key · = wanted)
  | leaf, _ => rfl
  | node left entry right, ordered => by
      obtain ⟨orderedLeft, orderedRight, below, above⟩ := ordered_node.mp ordered
      have leftNone (smaller : key entry ≤ wanted) : left.inorder.find? (key · = wanted) = none :=
        List.find?_eq_none.mpr fun x member => by have := below x member; simp; omega
      simp only [search, inorder_node, List.find?_append, List.find?_cons, decide_eq_true_eq]
      by_cases equal : key entry = wanted
      · simp [equal, leftNone equal.le]
      · by_cases smaller : key entry < wanted
        · simp [equal, smaller, leftNone smaller.le, search_eq_find orderedRight]
        · have rightNone : right.inorder.find? (key · = wanted) = none :=
            List.find?_eq_none.mpr fun y member => by have := above y member; simp; omega
          rw [if_neg equal, if_neg smaller, search_eq_find orderedLeft]
          cases left.inorder.find? (key · = wanted) <;> simp [equal, rightNone]

theorem search_eq_none_iff {wanted : Nat} {tree : RbTree α} (ordered : Ordered key tree) :
    tree.search key wanted = none ↔ ∀ x ∈ tree.inorder, key x ≠ wanted := by
  simp [search_eq_find ordered, List.find?_eq_none]

/-- In an ordered tree an entry is found exactly under its own key. -/
theorem search_eq_some_iff {wanted : Nat} {found : α} {tree : RbTree α}
    (ordered : Ordered key tree) :
    tree.search key wanted = some found ↔ found ∈ tree.inorder ∧ key found = wanted := by
  refine ⟨fun result => (search_some result).symm, fun ⟨member, keyed⟩ => ?_⟩
  rw [search_eq_find ordered]
  have present : (tree.inorder.find? (key · = wanted)).isSome :=
    List.find?_isSome.mpr ⟨found, member, by simpa using keyed⟩
  obtain ⟨other, result⟩ := Option.isSome_iff_exists.mp present
  have otherKey : key other = wanted := by simpa using List.find?_some result
  rw [result, List.inj_on_of_nodup_map ordered.nodup (List.mem_of_find?_eq_some result) member
    (otherKey.trans keyed.symm)]

theorem inorder_link_perm (entry : α) :
    ∀ tree : RbTree α, (tree.link key entry).inorder.Perm (entry :: tree.inorder)
  | leaf => .refl _
  | node left current right => by
      simp only [link]
      split
      · simpa using ((inorder_link_perm entry right).append_left (left.inorder ++ [current])).trans
          List.perm_middle
      · simpa using ((inorder_link_perm entry left).append_right (current :: right.inorder))

theorem mem_inorder_link {entry x : α} {tree : RbTree α} :
    x ∈ (tree.link key entry).inorder ↔ x = entry ∨ x ∈ tree.inorder := by
  simp [(inorder_link_perm entry tree).mem_iff]

theorem ordered_link {entry : α} :
    ∀ {tree : RbTree α}, Ordered key tree → (∀ x ∈ tree.inorder, key x ≠ key entry) →
      Ordered key (tree.link key entry)
  | leaf, _, _ => by simp [link, Ordered]
  | node left current right, ordered, absent => by
      obtain ⟨orderedLeft, orderedRight, below, above⟩ := ordered_node.mp ordered
      have distinct : key current ≠ key entry := absent current (by simp)
      simp only [link]
      split
      · refine ordered_node.mpr ⟨orderedLeft, ordered_link orderedRight
          (fun y member => absent y (by simp [member])), below, ?_⟩
        intro y member
        rcases mem_inorder_link.mp member with rfl | member
        · assumption
        · exact above y member
      · refine ordered_node.mpr ⟨ordered_link orderedLeft
          (fun x member => absent x (by simp [member])), orderedRight, ?_, above⟩
        intro x member
        rcases mem_inorder_link.mp member with rfl | member
        · omega
        · exact below x member

end RbTree

/-- `rb_insert_color`: whatever recolouring and rotations it performs, the in-order
sequence of the tree is unchanged. -/
structure RbInsertColor where
  run : {α : Type} → RbTree α → RbTree α
  inorder_run : ∀ {α : Type} (tree : RbTree α), (run tree).inorder = tree.inorder

/-- A tree that needs no rotation. -/
def RbInsertColor.none : RbInsertColor := ⟨fun tree => tree, fun _ => rfl⟩

theorem RbInsertColor.ordered_run (balance : RbInsertColor) {α : Type} {key : α → Nat}
    {tree : RbTree α} (ordered : tree.Ordered key) : (balance.run tree).Ordered key := by
  simpa [RbTree.Ordered, balance.inorder_run] using ordered

theorem RbInsertColor.search_run (balance : RbInsertColor) {α : Type} {key : α → Nat}
    {tree : RbTree α} (ordered : tree.Ordered key) (wanted : Nat) :
    (balance.run tree).search key wanted = tree.search key wanted := by
  rw [RbTree.search_eq_find (balance.ordered_run ordered), RbTree.search_eq_find ordered,
    balance.inorder_run]

end GemMman.Data

import Mathlib.Data.List.Basic

namespace GemMman.Data

/-! Counting over lists of program counters: how a count over `filterMap` changes when
one caller's counter is replaced, and how a `countP` over a list without duplicates
changes when the predicate changes at one element. -/

theorem count_filterMap_middle {α β : Type} [BEq β] [LawfulBEq β] (f : α → Option β) (x : β)
    (before after : List α) (old new : α) :
    ((before ++ new :: after).filterMap f).count x + (f old).toList.count x =
      ((before ++ old :: after).filterMap f).count x + (f new).toList.count x := by
  cases hold : f old <;> cases hnew : f new <;>
    simp [List.filterMap_append, List.filterMap_cons, hold, hnew, List.count_cons] <;> omega

/-- Replacing one element of a list changes a `filterMap` count by the difference of the
two elements' contributions. -/
theorem count_filterMap_set {α β : Type} [BEq β] [LawfulBEq β] {l : List α} {index : Nat}
    {old new : α} {was becomes : Option β} (f : α → Option β) (x : β)
    (found : l[index]? = some old) (before : f old = was) (after : f new = becomes) :
    ((l.set index new).filterMap f).count x + was.toList.count x =
      (l.filterMap f).count x + becomes.toList.count x := by
  obtain ⟨bound, rfl⟩ := List.getElem?_eq_some_iff.mp found
  have split : l = l.take index ++ l[index] :: l.drop (index + 1) := by
    conv_lhs => rw [← List.take_append_drop index l, List.drop_eq_getElem_cons bound]
  rw [List.set_eq_take_append_cons_drop, if_pos bound, ← before, ← after]
  conv_rhs => rw [split]
  exact count_filterMap_middle f x _ _ _ _

theorem count_filterMap_le {α β : Type} [DecidableEq β] {f g : α → Option β} (x : β)
    (pointwise : ∀ a, (f a).toList.count x ≤ (g a).toList.count x) :
    ∀ l : List α, (l.filterMap f).count x ≤ (l.filterMap g).count x
  | [] => le_rfl
  | a :: rest => by
      have head := pointwise a
      have tail := count_filterMap_le x pointwise rest
      cases hf : f a <;> cases hg : g a <;>
        simp [List.filterMap_cons, hf, hg, List.count_cons] at head ⊢ <;> (try split_ifs at *) <;> omega

/-- On a list without duplicates, two predicates that agree except at `a` give counts
that differ by their verdicts on `a`. -/
theorem countP_add_of_agree {α : Type} {l : List α} {a : α} {p q : α → Bool} (distinct : l.Nodup)
    (member : a ∈ l) (agree : ∀ x ∈ l, x ≠ a → p x = q x) :
    l.countP p + (if q a then 1 else 0) = l.countP q + (if p a then 1 else 0) := by
  induction l with
  | nil => cases member
  | cons head tail ih =>
      obtain ⟨fresh, distinct⟩ := List.nodup_cons.mp distinct
      simp only [List.countP_cons]
      by_cases here : head = a
      · subst here
        have same : tail.countP p = tail.countP q :=
          List.countP_congr fun x inTail => by
            rw [agree x (.tail _ inTail) (ne_of_mem_of_not_mem inTail fresh)]
        rw [same]
        omega
      · have inTail := (List.mem_cons.mp member).resolve_left (Ne.symm here)
        have := ih distinct inTail fun x inRest => agree x (.tail _ inRest)
        rw [agree head (.head _) here]
        omega

end GemMman.Data

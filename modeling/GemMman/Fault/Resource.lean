import GemMman.Basic

namespace GemMman.Fault

/-! The resources the fault handlers and `vm_access` take and give back, and the run of
their acquisitions and releases over the set of resources held. A handler is
well-behaved on a run when every event is allowed from the resources held before it: it
takes only a resource it does not hold and gives back only one it holds. It leaves nothing
behind when the run ends with nothing held, so that every acquisition was released exactly
once. -/

/-- A resource of the fault handlers and of `vm_access`. -/
inductive Resource where
  /-- The runtime-pm wakeref of `intel_runtime_pm_get`. -/
  | wakeref
  /-- The ww acquire context of `i915_gem_ww_ctx_init`. -/
  | wwCtx
  /-- A pin of the object's pages (`i915_gem_object_pin_pages_sync`). -/
  | pages
  /-- The reset srcu read lock of `intel_gt_reset_lock_interruptible`. -/
  | resetLock
  /-- A pin of the GGTT vma (`i915_gem_object_ggtt_pin_ww`). -/
  | vmaPin
  /-- The fence of `i915_vma_pin_fence_wait`. -/
  | fencePin
  /-- The kernel mapping of `i915_gem_object_pin_map`. -/
  | pinMap
  /-- This handler's count in `i915->active_fault_handlers`. -/
  | faultHandler
deriving DecidableEq, Repr

/-- Taking or giving back a resource. -/
inductive ResEvent where
  | acquire (r : Resource)
  | release (r : Resource)
deriving DecidableEq, Repr

/-- The resources a handler holds. -/
abbrev Held := Resource → Bool

/-- Nothing held. -/
def Held.none : Held := fun _ => false

/-- One event: a resource is taken only when it is not held, and given back only when it
is; any other event is a fault of the handler (`none`). -/
def Held.step (held : Held) : ResEvent → Option Held
  | .acquire r => if held r then none else some (Function.update held r true)
  | .release r => if held r then some (Function.update held r false) else none

/-- The resources held after a run of events, or `none` if one of them was a fault. -/
def Held.replay (held : Held) : List ResEvent → Option Held
  | [] => some held
  | event :: rest => (held.step event).bind fun next => next.replay rest

/-- A run that never takes a resource already held nor gives back one not held. -/
def Sane (events : List ResEvent) : Prop := (Held.none.replay events).isSome

/-- A sane run that ends holding nothing: every resource taken was given back exactly once. -/
def Paired (events : List ResEvent) : Prop := Held.none.replay events = some Held.none

theorem Held.replay_append (held : Held) (first second : List ResEvent) :
    held.replay (first ++ second) = (held.replay first).bind fun next => next.replay second := by
  induction first generalizing held with
  | nil => rfl
  | cons event rest ih =>
      simp only [List.cons_append, replay]
      cases held.step event with
      | none => rfl
      | some next => exact ih next

@[simp] theorem Held.replay_acquire (held : Held) (r : Resource) (rest : List ResEvent)
    (free : held r = false) :
    held.replay (.acquire r :: rest) = Held.replay (Function.update held r true) rest := by
  simp [replay, step, free]

@[simp] theorem Held.replay_release (held : Held) (r : Resource) (rest : List ResEvent)
    (taken : held r = true) :
    held.replay (.release r :: rest) = Held.replay (Function.update held r false) rest := by
  simp [replay, step, taken]

/-- Taking distinct free resources and giving them back in the reverse order, as an unwind
ladder does, leaves the held set as it was. -/
theorem Held.replay_ladder (held : Held) {taken : List Resource} (distinct : taken.Nodup)
    (free : ∀ r ∈ taken, held r = false) :
    held.replay (taken.map .acquire ++ taken.reverse.map .release) = some held := by
  induction taken generalizing held with
  | nil => rfl
  | cons r rest ih =>
      have ⟨fresh, distinct⟩ := List.nodup_cons.mp distinct
      have inner := ih (Function.update held r true) distinct fun r' member => by
        rw [Function.update_noteq (by rintro rfl; exact fresh member)]
        exact free r' (.tail _ member)
      have back : Function.update (Function.update held r true) r false = held := by
        rw [Function.update_idem, ← free r (.head _), Function.update_eq_self]
      have shape : (r :: rest).map ResEvent.acquire ++ (r :: rest).reverse.map ResEvent.release =
          .acquire r :: ((rest.map .acquire ++ rest.reverse.map .release) ++ [.release r]) := by
        simp
      rw [shape, replay_acquire _ _ _ (free r (.head _)), replay_append, inner]
      simp [replay, step, back]

end GemMman.Fault

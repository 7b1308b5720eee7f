import Mathlib.Data.List.Nodup
import GemMman.Fault.Gtt

namespace GemMman.Revoke

open GemMman.Fault

/-! The bookkeeping that lets GTT mappings be revoked: each GGTT binding carries a
userfault bit, each object counts its marked bindings in `userfault_count`, and an object
with marked bindings sits on `ggtt->userfault_list`. The marking step of `vm_fault_gtt`
and the revocation of `i915_gem_object_release_mmap_gtt` both run under
`ggtt->vm.mutex`, so each is one atomic step here. -/

/-- The bookkeeping of every object (by identity): its GGTT bindings (by view) with their
userfault bits, `obj->userfault_count`, and `ggtt->userfault_list`. -/
structure UserfaultState where
  ggttVmas : Nat → List GgttView := fun _ => []
  userfault : Nat → GgttView → Bool := fun _ _ => false
  userfaultCount : Nat → Nat := fun _ => 0
  userfaultList : List Nat := []

/-- Not in this file: `i915_vma_instance` (i915_vma.c), through which a GGTT pin finds the
object's binding of a view or adds a new one, unmarked. -/
def UserfaultState.vmaInstance (s : UserfaultState) (obj : Nat) (view : GgttView) :
    UserfaultState :=
  if view ∈ s.ggttVmas obj then s
  else { s with ggttVmas := Function.update s.ggttVmas obj (s.ggttVmas obj ++ [view]) }

/-- The marking step of `vm_fault_gtt`: `i915_vma_set_userfault` sets the bit and returns
its old value, and the first mark of an object puts it on `userfault_list`. -/
def markUserfault (s : UserfaultState) (obj : Nat) (view : GgttView) : UserfaultState :=
  if s.userfault obj view then s
  else
    { s with
      userfault := Function.update s.userfault obj (Function.update (s.userfault obj) view true)
      userfaultCount := Function.update s.userfaultCount obj (s.userfaultCount obj + 1)
      userfaultList :=
        if s.userfaultCount obj = 0 then obj :: s.userfaultList else s.userfaultList }

/-- Modelled from the spec: `i915_vma_revoke_mmap` (i915_vma.c) leaves a binding with no
userfault mapping alone, so revocation never takes the count below zero; otherwise it
zaps the mapping, clears the bit, and takes the object off the list when the count
reaches zero. -/
def i915VmaRevokeMmap (s : UserfaultState) (obj : Nat) (view : GgttView) : UserfaultState :=
  if s.userfault obj view then
    { s with
      userfault := Function.update s.userfault obj (Function.update (s.userfault obj) view false)
      userfaultCount := Function.update s.userfaultCount obj (s.userfaultCount obj - 1)
      userfaultList :=
        if s.userfaultCount obj - 1 = 0 then s.userfaultList.erase obj else s.userfaultList }
  else s

/-- `for_each_ggtt_vma(vma, obj) i915_vma_revoke_mmap(vma)`. -/
def revokeAll (obj : Nat) (views : List GgttView) (s : UserfaultState) : UserfaultState :=
  views.foldl (fun s view => i915VmaRevokeMmap s obj view) s

/-- `__i915_gem_object_release_mmap_gtt`, called with `ggtt->vm.mutex` held; `none` where
one of its `GEM_BUG_ON`s fires. -/
def i915GemObjectReleaseMmapGttLocked (s : UserfaultState) (obj : Nat) :
    Option UserfaultState :=
  if s.userfaultCount obj = 0 then none
  else
    let revoked := revokeAll obj (s.ggttVmas obj) s
    if revoked.userfaultCount obj = 0 then some revoked else none

/-- `i915_gem_object_release_mmap_gtt`. -/
def i915GemObjectReleaseMmapGtt (s : UserfaultState) (obj : Nat) : Option UserfaultState :=
  if s.userfaultCount obj = 0 then some s else i915GemObjectReleaseMmapGttLocked s obj

/-- What an effect of `vm_fault_gtt` on object `obj` does to the bookkeeping. -/
def applyGttEffect (obj : Nat) (s : UserfaultState) : GttEffect → UserfaultState
  | .pin vma => s.vmaInstance obj vma.view
  | .userfault vma => markUserfault s obj vma.view
  | .pinPages => s
  | .remap _ => s

inductive Event where
  | fault (hasLlc : Bool) (gmadrStart : Nat) (area : VmArea) (obj : GemObject) (address : Nat)
      (rounds : List GttPassEnv)
  | release (obj : Nat)

def step (s : UserfaultState) : Event → UserfaultState
  | .fault hasLlc gmadrStart area obj address rounds =>
      (vmFaultGtt hasLlc gmadrStart area obj address rounds).1.foldl (applyGttEffect obj.id) s
  | .release obj => (i915GemObjectReleaseMmapGtt s obj).getD s

def run (s : UserfaultState) (events : List Event) : UserfaultState := events.foldl step s

/-- The bookkeeping is exact: the count is the number of marked bindings, and the object
is on the list, once, exactly when the count is positive. -/
structure Valid (s : UserfaultState) : Prop where
  distinct : ∀ obj, (s.ggttVmas obj).Nodup
  bound : ∀ obj view, s.userfault obj view = true → view ∈ s.ggttVmas obj
  count : ∀ obj, s.userfaultCount obj = (s.ggttVmas obj).countP (s.userfault obj)
  listed : ∀ obj, s.userfaultList.count obj = if 0 < s.userfaultCount obj then 1 else 0

variable {s : UserfaultState} {obj : Nat} {view : GgttView}

theorem countP_update_mem {views : List GgttView} (distinct : views.Nodup)
    (member : view ∈ views) (bits : GgttView → Bool) (b : Bool) :
    views.countP (Function.update bits view b) + (if bits view then 1 else 0) =
      views.countP bits + (if b then 1 else 0) := by
  induction views with
  | nil => cases member
  | cons head tail ih =>
      obtain ⟨fresh, distinct⟩ := List.nodup_cons.mp distinct
      by_cases here : head = view
      · subst here
        have same : tail.countP (Function.update bits head b) = tail.countP bits :=
          List.countP_congr fun x inTail => by
            rw [Function.update_noteq (ne_of_mem_of_not_mem inTail fresh)]
        simp only [List.countP_cons, Function.update_same, same]
        omega
      · have inTail := (List.mem_cons.mp member).resolve_left (Ne.symm here)
        have := ih distinct inTail
        simp only [List.countP_cons, Function.update_noteq here]
        omega

theorem Valid.vmaInstance (valid : Valid s) :
    Valid (s.vmaInstance obj view) ∧ view ∈ (s.vmaInstance obj view).ggttVmas obj := by
  unfold UserfaultState.vmaInstance
  split
  · exact ⟨valid, ‹_›⟩
  · rename_i absent
    have unmarked : s.userfault obj view = false :=
      Bool.eq_false_iff.mpr fun marked => absent (valid.bound obj view marked)
    refine ⟨⟨fun o => ?_, fun o w marked => ?_, fun o => ?_, valid.listed⟩, by simp⟩
    · rcases eq_or_ne o obj with rfl | other
      · simpa [List.nodup_append, absent] using valid.distinct o
      · simpa [other] using valid.distinct o
    · rcases eq_or_ne o obj with rfl | other
      · simpa using Or.inl (valid.bound o w marked)
      · simpa [other] using valid.bound o w marked
    · rcases eq_or_ne o obj with rfl | other
      · simpa [List.countP_append, unmarked] using valid.count o
      · simpa [other] using valid.count o

theorem Valid.markUserfault (valid : Valid s) (member : view ∈ s.ggttVmas obj) :
    Valid (markUserfault s obj view) := by
  unfold GemMman.Revoke.markUserfault
  split
  · exact valid
  · rename_i unmarked
    have counted := countP_update_mem (valid.distinct obj) member (s.userfault obj) true
    refine ⟨valid.distinct, fun o w marked => ?_, fun o => ?_, fun o => ?_⟩
    · rcases eq_or_ne o obj with rfl | other
      · rcases eq_or_ne w view with rfl | same
        · exact member
        · simpa [same] using valid.bound o w (by simpa [same] using marked)
      · simpa [other] using valid.bound o w (by simpa [other] using marked)
    · rcases eq_or_ne o obj with rfl | other
      · simp only [Function.update_same, valid.count o]
        simp [unmarked] at counted
        omega
      · simpa [other] using valid.count o
    · have listed := valid.listed o
      rcases eq_or_ne o obj with rfl | other
      · simp only [Function.update_same, Nat.succ_pos, if_true]
        split
        · rw [List.count_cons_self, listed, if_neg (by omega)]
        · rw [listed, if_pos (by omega)]
      · simp only [Function.update_noteq other]
        split <;> simp [List.count_cons, listed, Ne.symm other]

theorem Valid.i915VmaRevokeMmap (valid : Valid s) : Valid (i915VmaRevokeMmap s obj view) := by
  unfold GemMman.Revoke.i915VmaRevokeMmap
  split
  · rename_i marked
    have member := valid.bound obj view marked
    have counted := countP_update_mem (valid.distinct obj) member (s.userfault obj) false
    have positive : 0 < s.userfaultCount obj :=
      (valid.count obj).symm ▸ List.countP_pos_iff.mpr ⟨view, member, marked⟩
    refine ⟨valid.distinct, fun o w unrevoked => ?_, fun o => ?_, fun o => ?_⟩
    · rcases eq_or_ne o obj with rfl | other
      · rcases eq_or_ne w view with rfl | same
        · simp at unrevoked
        · simpa [same] using valid.bound o w (by simpa [same] using unrevoked)
      · simpa [other] using valid.bound o w (by simpa [other] using unrevoked)
    · rcases eq_or_ne o obj with rfl | other
      · simp only [Function.update_same, valid.count o]
        simp [marked] at counted
        omega
      · simpa [other] using valid.count o
    · have listed := valid.listed o
      rcases eq_or_ne o obj with rfl | other
      · rw [if_pos positive] at listed
        simp only [Function.update_same]
        split
        · rw [List.count_erase_self, listed, if_neg (by omega)]
        · rw [listed, if_pos (by omega)]
      · simp only [Function.update_noteq other]
        split <;> simp [List.count_erase_of_ne other, listed]
  · exact valid

theorem i915VmaRevokeMmap_ggttVmas : (i915VmaRevokeMmap s obj view).ggttVmas = s.ggttVmas := by
  unfold GemMman.Revoke.i915VmaRevokeMmap
  split <;> rfl

/-- Revocation only clears bits, and clears the one it is given. -/
theorem userfault_i915VmaRevokeMmap {w : GgttView}
    (marked : (i915VmaRevokeMmap s obj view).userfault obj w = true) :
    s.userfault obj w = true ∧ w ≠ view := by
  unfold GemMman.Revoke.i915VmaRevokeMmap at marked
  split at marked
  · rcases eq_or_ne w view with rfl | other
    · simp at marked
    · simpa [other] using marked
  · exact ⟨marked, fun same => by simp_all⟩

theorem Valid.revokeAll (obj : Nat) (views : List GgttView) :
    ∀ {s : UserfaultState}, Valid s →
      Valid (revokeAll obj views s) ∧ (revokeAll obj views s).ggttVmas = s.ggttVmas ∧
        ∀ w, (revokeAll obj views s).userfault obj w = true → s.userfault obj w = true ∧ w ∉ views := by
  induction views with
  | nil => exact fun valid => ⟨valid, rfl, fun _ marked => ⟨marked, List.not_mem_nil _⟩⟩
  | cons view rest ih =>
      intro s valid
      obtain ⟨revoked, same, cleared⟩ := ih valid.i915VmaRevokeMmap
      refine ⟨revoked, same.trans i915VmaRevokeMmap_ggttVmas, fun w marked => ?_⟩
      obtain ⟨before, notRest⟩ := cleared w marked
      obtain ⟨original, notView⟩ := userfault_i915VmaRevokeMmap before
      exact ⟨original, by simp [notView, notRest]⟩

theorem Valid.not_mem_userfaultList (valid : Valid s) (zero : s.userfaultCount obj = 0) :
    obj ∉ s.userfaultList := fun member => by
  have listed := valid.listed obj
  rw [zero, if_neg (lt_irrefl 0)] at listed
  exact (List.count_pos_iff.mpr member).ne' listed

/-- With a positive count, `__i915_gem_object_release_mmap_gtt` revokes every marked
binding, so neither `GEM_BUG_ON` fires, and it leaves the count at zero. -/
theorem Valid.releaseLocked (valid : Valid s) (positive : s.userfaultCount obj ≠ 0) :
    ∃ released, i915GemObjectReleaseMmapGttLocked s obj = some released ∧ Valid released ∧
      released.userfaultCount obj = 0 := by
  obtain ⟨revoked, same, cleared⟩ := valid.revokeAll obj (s.ggttVmas obj)
  have zero : (GemMman.Revoke.revokeAll obj (s.ggttVmas obj) s).userfaultCount obj = 0 := by
    rw [revoked.count obj, List.countP_eq_zero]
    exact fun w member marked => (cleared w marked).2 (same ▸ member)
  refine ⟨_, ?_, revoked, zero⟩
  simp only [i915GemObjectReleaseMmapGttLocked, positive, zero, if_false, if_true]

theorem Valid.release (valid : Valid s) (obj : Nat) :
    ∃ released, i915GemObjectReleaseMmapGtt s obj = some released ∧ Valid released ∧
      released.userfaultCount obj = 0 := by
  unfold i915GemObjectReleaseMmapGtt
  split
  · exact ⟨s, rfl, valid, ‹_›⟩
  · exact valid.releaseLocked ‹_›

theorem Valid.applyPass (valid : Valid s) (hasLlc : Bool) (gmadrStart : Nat) (area : VmArea)
    (obj : GemObject) (address : Nat) (env : GttPassEnv) :
    Valid ((vmFaultGttPass hasLlc gmadrStart area obj address env).1.foldl
      (applyGttEffect obj.id) s) := by
  rcases vmFaultGttPass_effects hasLlc gmadrStart area obj address env with
    none | pages | ⟨vma, -, pinned | remapped | marked⟩
  · rw [none]; exact valid
  · rw [pages]; exact valid
  · rw [pinned]; exact valid.vmaInstance.1
  · rw [remapped]; exact valid.vmaInstance.1
  · rw [marked]
    obtain ⟨instanced, member⟩ := @Valid.vmaInstance s obj.id vma.view valid
    exact instanced.markUserfault member

theorem Valid.fault (hasLlc : Bool) (gmadrStart : Nat) (area : VmArea) (obj : GemObject)
    (address : Nat) : ∀ {s : UserfaultState} (rounds : List GttPassEnv), Valid s →
      Valid ((vmFaultGtt hasLlc gmadrStart area obj address rounds).1.foldl
        (applyGttEffect obj.id) s)
  | _, [], valid => valid
  | _, env :: rest, valid => by
      have pass := valid.applyPass hasLlc gmadrStart area obj address env
      simp only [vmFaultGtt]
      split
      · split
        · rw [List.foldl_append]
          exact Valid.fault hasLlc gmadrStart area obj address rest pass
        · exact pass
      · exact pass

theorem Valid.step (valid : Valid s) : ∀ event, Valid (step s event)
  | .fault hasLlc gmadrStart area obj address rounds =>
      Valid.fault hasLlc gmadrStart area obj address rounds valid
  | .release obj => by
      obtain ⟨released, result, revoked, -⟩ := valid.release obj
      simpa only [GemMman.Revoke.step, result, Option.getD_some] using revoked

theorem Valid.run (events : List Event) (valid : Valid s) : Valid (run s events) := by
  induction events generalizing s with
  | nil => exact valid
  | cons event rest ih => exact ih (valid.step event)

theorem valid_initial : Valid {} :=
  ⟨fun _ => List.nodup_nil, fun _ _ marked => (nomatch marked), fun _ => rfl, fun _ => rfl⟩

theorem userfault_bookkeeping (events : List Event) :
    let s := run {} events
    (∀ obj, (s.ggttVmas obj).Nodup ∧
      s.userfaultCount obj = (s.ggttVmas obj).countP (s.userfault obj) ∧
      s.userfaultList.count obj = if 0 < s.userfaultCount obj then 1 else 0) ∧
    (∀ obj ∈ s.userfaultList, ∃ released,
      i915GemObjectReleaseMmapGttLocked s obj = some released) ∧
    ∀ obj, ∃ released, i915GemObjectReleaseMmapGtt s obj = some released ∧
      released.userfaultCount obj = 0 ∧ obj ∉ released.userfaultList ∧
      i915GemObjectReleaseMmapGtt released obj = some released := by
  intro s
  have valid : Valid s := valid_initial.run events
  refine ⟨fun obj => ⟨valid.distinct obj, valid.count obj, valid.listed obj⟩,
    fun obj member => ?_, fun obj => ?_⟩
  · have positive : s.userfaultCount obj ≠ 0 := fun zero => valid.not_mem_userfaultList zero member
    obtain ⟨released, result, -⟩ := valid.releaseLocked positive
    exact ⟨released, result⟩
  · obtain ⟨released, result, revoked, zero⟩ := valid.release obj
    exact ⟨released, result, zero, revoked.not_mem_userfaultList zero,
      by simp [i915GemObjectReleaseMmapGtt, zero]⟩

/-- No effect of a fault clears a userfault bit. -/
theorem applyGttEffect_userfault {o : Nat} {w : GgttView} (marked : s.userfault o w = true) :
    ∀ effect, (applyGttEffect obj s effect).userfault o w = true
  | .pin vma => by
      simp only [applyGttEffect, UserfaultState.vmaInstance]
      split <;> exact marked
  | .userfault vma => by
      simp only [applyGttEffect, markUserfault]
      split
      · exact marked
      · by_cases same : o = obj
        · subst same
          by_cases here : w = vma.view <;> simp [here, marked]
        · simp [same, marked]
  | .pinPages => marked
  | .remap _ => marked

theorem foldl_applyGttEffect_userfault {o : Nat} {w : GgttView} :
    ∀ {s : UserfaultState} (effects : List GttEffect), s.userfault o w = true →
      (effects.foldl (applyGttEffect obj) s).userfault o w = true
  | _, [], marked => marked
  | _, effect :: rest, marked =>
      foldl_applyGttEffect_userfault rest (applyGttEffect_userfault marked effect)

/-- A binding a fault marks is marked once its effects are applied. -/
theorem userfault_of_mem_effects {vma : GgttVma} :
    ∀ {s : UserfaultState} (effects : List GttEffect), .userfault vma ∈ effects →
      (effects.foldl (applyGttEffect obj) s).userfault obj vma.view = true
  | _, [], member => nomatch member
  | s, effect :: rest, member => by
      rcases List.mem_cons.mp member with rfl | later
      · refine foldl_applyGttEffect_userfault rest ?_
        simp only [applyGttEffect, markUserfault]
        split
        · assumption
        · simp
      · exact userfault_of_mem_effects rest later

/-- After any run of GTT faults and releases, every pass a fault runs (the passes before
it each ended on `-EDEADLK` with a successful backoff) leaves each binding it remapped
marked for revocation once the fault is over, unless that pass's own `remap_io_mapping`
failed: the binding's userfault bit is set, the object's `userfault_count` is positive and
the object is on `userfault_list`, so the next `i915_gem_object_release_mmap_gtt` of the
object revokes it. -/
theorem gtt_remaps_marked (events : List Event) (hasLlc : Bool) (gmadrStart : Nat)
    (area : VmArea) (obj : GemObject) (address : Nat) {pre post : List GttPassEnv}
    (env : GttPassEnv)
    (retried : ∀ e ∈ pre, (vmFaultGttPass hasLlc gmadrStart area obj address e).err = -EDEADLK ∧
      e.backoff = 0) :
    let after := step (run {} events) (.fault hasLlc gmadrStart area obj address (pre ++ env :: post))
    ∀ call, .remap call ∈ (vmFaultGttPass hasLlc gmadrStart area obj address env).effects →
      ∃ vma, call = gttRemap area gmadrStart vma ∧
        (env.remap ≠ 0 ∨ after.userfault obj.id vma.view = true ∧
          0 < after.userfaultCount obj.id ∧ obj.id ∈ after.userfaultList) := by
  intro after call remapped
  have valid : Valid after := (valid_initial.run events).step _
  obtain ⟨vma, rfl, failed | marking⟩ :=
    vmFaultGttPass_remap_marked hasLlc gmadrStart area obj address env remapped
  · exact ⟨vma, rfl, .inl failed⟩
  have marked : after.userfault obj.id vma.view = true :=
    userfault_of_mem_effects _ (vmFaultGtt_effects_of_ran hasLlc gmadrStart area obj address
      retried marking)
  have positive : 0 < after.userfaultCount obj.id := by
    rw [valid.count]
    exact List.countP_pos_iff.mpr ⟨vma.view, valid.bound _ _ marked, marked⟩
  have listed := valid.listed obj.id
  rw [if_pos positive] at listed
  exact ⟨vma, rfl, .inr ⟨marked, positive, List.count_pos_iff.mp (by omega)⟩⟩

/-- A fault whose first pass binds the whole object and remaps it: the binding is marked,
although a later round in the list, which the handler never reaches, would have failed its
remap. -/
theorem gtt_remaps_marked_first_pass :
    let area : VmArea := { vmStart := 0x100000, vmEnd := 0x100000 + 2 * 4096, vmPgoff := 0x100 }
    let obj : GemObject := { id := 1, pages := 2, swapto := none, segments := [] }
    let env : GttPassEnv := { pinWhole := .ok 0x2000 }
    let after := step (run {} []) (.fault false 0 area obj 0x100000 ([] ++ env :: [{ env with remap := -12 }]))
    (∀ e ∈ ([] : List GttPassEnv), (vmFaultGttPass false 0 area obj 0x100000 e).err = -EDEADLK ∧
      e.backoff = 0) ∧
    ∀ call, .remap call ∈ (vmFaultGttPass false 0 area obj 0x100000 env).effects →
      ∃ vma, call = gttRemap area 0 vma ∧
        (env.remap ≠ 0 ∨ after.userfault obj.id vma.view = true ∧
          0 < after.userfaultCount obj.id ∧ obj.id ∈ after.userfaultList) :=
  ⟨(fun _ ran => nomatch ran),
    gtt_remaps_marked [] false 0 _ _ 0x100000 _ (fun _ ran => nomatch ran)⟩

end GemMman.Revoke

import GemMman.Fault.Gtt
import GemMman.Fault.Access

namespace GemMman.Fault

/-! What the three handlers take and give back, as runs of `ResEvent`s over the modelled
handlers. Each pass says what it took along its path and where it jumped: `vm_fault_gtt`
unwinds each pass down its ladder of labels from the one it jumped to, while
`vm_fault_cpu` and `vm_access` give back their page pin and kernel mapping after the
remap or the copy. Around the passes, `vm_fault_gtt` holds a wakeref and a ww context;
`vm_fault_cpu` counts itself in `active_fault_handlers` after its read-only check and
finalises its ww context each time `for_i915_gem_ww` leaves; `vm_access` opens its ww
context only after its checks. Each run is replayed over the held set, and its end is read
off the handler's own result. -/

/-- Taking a free resource and giving it straight back leaves the held set as it was. -/
theorem Held.replay_pair (held : Held) {r : Resource} (free : held r = false) :
    held.replay [.acquire r, .release r] = some held :=
  held.replay_ladder (List.nodup_cons.mpr ⟨List.not_mem_nil r, List.nodup_nil⟩)
    fun _ member => List.mem_singleton.mp member ▸ free

/-- Giving a held resource back and taking it again leaves the held set as it was. -/
theorem Held.replay_renew (held : Held) {r : Resource} (taken : held r = true)
    (rest : List ResEvent) :
    held.replay (.release r :: .acquire r :: rest) = held.replay rest := by
  have back : Function.update (Function.update held r false) r true = held := by
    rw [Function.update_idem, ← taken, Function.update_eq_self]
  rw [replay_release _ _ _ taken, replay_acquire _ _ _ (by simp), back]

/-! ## `vm_fault_gtt` -/

/-- What the handler holds around its passes: the wakeref and the ww context. -/
def gttHolding : Held := Function.update (Function.update Held.none .wakeref true) .wwCtx true

/-- A pass whose label gives back, in reverse, what it took, all of it distinct and none of
it held around the passes. -/
def GttPass.Unwinds (pass : GttPass) : Prop :=
  pass.exit.unwind = pass.taken.reverse ∧ pass.taken.Nodup ∧ ∀ r ∈ pass.taken, gttHolding r = false

/-- The events of one pass: what it took on its way, then what the ladder gives back from
the label it jumped to. -/
def GttPass.events (pass : GttPass) : List ResEvent :=
  pass.taken.map .acquire ++ pass.exit.unwind.map .release

theorem GttPass.replay_events {pass : GttPass} (unwinds : pass.Unwinds) :
    gttHolding.replay pass.events = some gttHolding := by
  rw [events, unwinds.1]
  exact gttHolding.replay_ladder unwinds.2.1 unwinds.2.2

section Gtt

variable (hasLlc : Bool) (gmadrStart : Nat) (area : VmArea) (obj : GemObject) (address : Nat)

/-- Whichever way a pass of `vm_fault_gtt` leaves, the label it jumps to gives back, in
reverse, what it took on the way: each `goto` of the source lands on the label that
releases the last resource taken before it. -/
theorem vmFaultGttPass_unwinds (env : GttPassEnv) :
    (vmFaultGttPass hasLlc gmadrStart area obj address env).Unwinds := by
  have leaf : ∀ effects err exit taken, exit.unwind = taken.reverse ∧ taken.Nodup ∧
      (∀ r ∈ taken, gttHolding r = false) → GttPass.Unwinds ⟨effects, err, exit, taken⟩ :=
    fun _ _ _ _ holds => holds
  unfold vmFaultGttPass
  by_cases locked : env.lock ≠ 0
  · rw [if_pos locked]; exact leaf _ _ _ _ (by decide)
  rw [if_neg locked]
  by_cases refused : (obj.readonly && area.vmFlags.write) = true
  · rw [if_pos refused]; exact leaf _ _ _ _ (by decide)
  rw [if_neg refused]
  by_cases pages : env.pinPages ≠ 0
  · rw [if_pos pages]; exact leaf _ _ _ _ (by decide)
  rw [if_neg pages]
  by_cases reset : env.resetLock ≠ 0
  · rw [if_pos reset]; exact leaf _ _ _ _ (by decide)
  rw [if_neg reset]
  cases faultGttPin obj ((address - area.vmStart) >>> pageShift) env with
  | error err => exact leaf _ _ _ _ (by decide)
  | ok vma =>
      dsimp only
      by_cases incoherent : (!(obj.cacheLevelNone || hasLlc)) = true
      · rw [if_pos incoherent]; exact leaf _ _ _ _ (by decide)
      rw [if_neg incoherent]
      by_cases fence : env.fenceWait ≠ 0
      · rw [if_pos fence]; exact leaf _ _ _ _ (by decide)
      rw [if_neg fence]
      split <;> exact leaf _ _ _ _ (by decide)

/-- The events of the passes `vm_fault_gtt` runs. -/
def vmFaultGttPassEvents : List GttPassEnv → List ResEvent
  | [] => []
  | env :: rest =>
      let pass := vmFaultGttPass hasLlc gmadrStart area obj address env
      pass.events ++ if pass.err = -EDEADLK ∧ env.backoff = 0 then vmFaultGttPassEvents rest else []

/-- The events of `vm_fault_gtt`: `intel_runtime_pm_get` and `i915_gem_ww_ctx_init` on
entry, the passes, and `i915_gem_ww_ctx_fini` and `intel_runtime_pm_put` once it returns. -/
def vmFaultGttEvents (rounds : List GttPassEnv) : List ResEvent :=
  [.acquire .wakeref, .acquire .wwCtx] ++ vmFaultGttPassEvents hasLlc gmadrStart area obj address rounds ++
    if (vmFaultGtt hasLlc gmadrStart area obj address rounds).2.isSome then
      [.release .wwCtx, .release .wakeref]
    else []

theorem replay_vmFaultGttPassEvents :
    ∀ rounds, gttHolding.replay (vmFaultGttPassEvents hasLlc gmadrStart area obj address rounds) =
      some gttHolding
  | [] => rfl
  | env :: rest => by
      rw [vmFaultGttPassEvents, Held.replay_append,
        GttPass.replay_events (vmFaultGttPass_unwinds hasLlc gmadrStart area obj address env)]
      split
      · exact replay_vmFaultGttPassEvents rest
      · rfl

/-- The run of `vm_fault_gtt` holds the wakeref and the ww context while it has not
returned, and nothing once it has. -/
theorem replay_vmFaultGttEvents (rounds : List GttPassEnv) :
    Held.none.replay (vmFaultGttEvents hasLlc gmadrStart area obj address rounds) =
      some (if (vmFaultGtt hasLlc gmadrStart area obj address rounds).2.isSome then Held.none
        else gttHolding) := by
  have entry : Held.none.replay [.acquire .wakeref, .acquire .wwCtx] = some gttHolding := rfl
  have exit : gttHolding.replay [.release .wwCtx, .release .wakeref] = some Held.none := by
    rw [Held.replay_release _ _ _ rfl, Held.replay_release _ _ _ rfl]
    exact congrArg some (funext fun r => by cases r <;> rfl)
  rw [vmFaultGttEvents, Held.replay_append, Held.replay_append, entry, Option.some_bind,
    replay_vmFaultGttPassEvents, Option.some_bind]
  split
  · exact exit
  · rfl

end Gtt

/-! ## `vm_fault_cpu` -/

/-- A pass of `vm_fault_cpu` gives back the page pin it took: it either takes none, or
unpins after `remap_io_sg` whatever the remap returned. -/
theorem vmFaultCpuPass_pins (swap : SwapEnv) (write : Bool) (window : CpuWindow)
    (env : CpuPassEnv) {held : Held} (free : held .pages = false) :
    held.replay (vmFaultCpuPass swap write window env).pins = some held := by
  unfold vmFaultCpuPass
  by_cases locked : env.lock ≠ 0
  · rw [if_pos locked]; rfl
  rw [if_neg locked]
  lift_lets
  intro swapped pg migrated
  by_cases stops : (migrated.2 ≠ 0 && env.required || migrated.2 = -EDEADLK) = true
  · rw [if_pos stops]; rfl
  rw [if_neg stops]
  by_cases unpinned : env.pinPages ≠ 0
  · rw [if_pos unpinned]; rfl
  rw [if_neg unpinned]
  exact held.replay_pair free

/-- The events of the passes of `vm_fault_cpu`'s loop, from inside a ww context: each
pass's page pin and unpin, then `i915_gem_ww_ctx_fini` when `for_i915_gem_ww` leaves, and
`i915_gem_ww_ctx_init` again when the `do … while` goes round. -/
def vmFaultCpuLoopEvents (swap : SwapEnv) (write : Bool) :
    CpuWindow → List CpuPassEnv → List ResEvent
  | _, [] => []
  | window, env :: rest =>
      let pass := vmFaultCpuPass swap write window env
      let err := if pass.err = -EDEADLK ∧ env.backoff ≠ 0 then env.backoff else pass.err
      let later := vmFaultCpuLoopEvents swap write { window with obj := pass.obj } rest
      pass.pins ++
        if err = -EDEADLK then later
        else if err = - ENXIO ∨ err = -ENOMEM then .release .wwCtx :: .acquire .wwCtx :: later
        else [.release .wwCtx]

/-- Inside the ww context, the loop gives the context back when it leaves for good, and
otherwise holds what it held. -/
theorem replay_vmFaultCpuLoopEvents (swap : SwapEnv) (write : Bool) {held : Held}
    (inContext : held .wwCtx = true) (free : held .pages = false) :
    ∀ window rounds, held.replay (vmFaultCpuLoopEvents swap write window rounds) =
      some (if (vmFaultCpuLoop swap write window rounds).2.isSome then
        Function.update held .wwCtx false else held)
  | _, [] => rfl
  | window, env :: rest => by
      have later := replay_vmFaultCpuLoopEvents swap write inContext free
        { window with obj := (vmFaultCpuPass swap write window env).obj } rest
      rw [vmFaultCpuLoopEvents, vmFaultCpuLoop, Held.replay_append,
        vmFaultCpuPass_pins swap write window env free, Option.some_bind]
      dsimp only
      generalize (if (vmFaultCpuPass swap write window env).err = -EDEADLK ∧
          env.backoff ≠ 0 then env.backoff else (vmFaultCpuPass swap write window env).err) = err
      by_cases deadlock : err = -EDEADLK
      · have retried : err = -EDEADLK ∨ err = - ENXIO ∨ err = -ENOMEM := .inl deadlock
        rw [if_pos deadlock, if_pos retried]
        exact later
      by_cases again : err = - ENXIO ∨ err = -ENOMEM
      · have retried : err = -EDEADLK ∨ err = - ENXIO ∨ err = -ENOMEM := .inr again
        rw [if_neg deadlock, if_pos again, if_pos retried, Held.replay_renew _ inContext]
        exact later
      · have leaves : ¬(err = -EDEADLK ∨ err = - ENXIO ∨ err = -ENOMEM) := by tauto
        rw [if_neg deadlock, if_neg again, if_neg leaves, Held.replay_release _ _ _ inContext]
        rfl

/-- What `vm_fault_cpu` holds inside its loop: its count in `active_fault_handlers` and the
ww context. -/
def cpuHolding : Held := Function.update (Function.update Held.none .faultHandler true) .wwCtx true

/-- The events of `vm_fault_cpu`: after the read-only check, `atomic_inc` of
`active_fault_handlers`; when the window is found, `i915_gem_ww_ctx_init` and the loop; and
once the handler returns, the `atomic_dec_and_test` at `out:`. -/
def vmFaultCpuEvents (invalidateLmemMmaps : Bool) (swap : SwapEnv) (area : VmArea)
    (obj : GemObject) (nodeStart address : Nat) (rounds : List CpuPassEnv) : List ResEvent :=
  if obj.readonly && area.vmFlags.write then []
  else
    .acquire .faultHandler ::
      ((if invalidateLmemMmaps then []
        else match cpuFaultWindow obj area (area.vmPgoff - nodeStart)
            ((address - area.vmStart) >>> pageShift) with
          | none => []
          | some window => .acquire .wwCtx :: vmFaultCpuLoopEvents swap area.vmFlags.write window rounds) ++
        if (vmFaultCpu invalidateLmemMmaps swap area obj nodeStart address rounds).2.isSome then
          [.release .faultHandler]
        else [])

/-- The run of `vm_fault_cpu` holds its count and the ww context while it has not returned,
and nothing once it has. -/
theorem replay_vmFaultCpuEvents (invalidateLmemMmaps : Bool) (swap : SwapEnv) (area : VmArea)
    (obj : GemObject) (nodeStart address : Nat) (rounds : List CpuPassEnv) :
    Held.none.replay (vmFaultCpuEvents invalidateLmemMmaps swap area obj nodeStart address rounds) =
      some (if (vmFaultCpu invalidateLmemMmaps swap area obj nodeStart address rounds).2.isSome
        then Held.none else cpuHolding) := by
  have uncounted : Held.replay (Function.update Held.none .faultHandler true)
      [.release .faultHandler] = some Held.none := by
    rw [Held.replay_release _ _ _ rfl]
    exact congrArg some (funext fun r => by cases r <;> rfl)
  unfold vmFaultCpuEvents vmFaultCpu
  by_cases refused : (obj.readonly && area.vmFlags.write) = true
  · simp only [if_pos refused]; rfl
  simp only [if_neg refused]
  rw [Held.replay_acquire _ _ _ rfl]
  by_cases invalid : invalidateLmemMmaps = true
  · simp only [if_pos invalid, Option.isSome_some, if_true, List.nil_append]
    exact uncounted
  simp only [if_neg invalid]
  cases found : cpuFaultWindow obj area (area.vmPgoff - nodeStart)
      ((address - area.vmStart) >>> pageShift) with
  | none =>
      simp only [Option.isSome_some, if_true, List.nil_append]
      exact uncounted
  | some window =>
      rw [List.cons_append, Held.replay_acquire _ _ _ rfl, Held.replay_append,
        replay_vmFaultCpuLoopEvents swap _ rfl rfl window rounds, Option.some_bind]
      by_cases returned : (vmFaultCpuLoop swap area.vmFlags.write window rounds).2.isSome = true
      · simp only [returned, if_true]
        rw [Held.replay_release _ _ _ rfl]
        exact congrArg some (funext fun r => by cases r <;> rfl)
      · simp only [returned, if_false]
        rfl

/-! ## `vm_access` -/

section Access

variable (target : GemObject) (offset : Nat) (len : Int) (write : Bool)

/-- A pass of `vm_access` gives back the kernel mapping it took: it either maps nothing, or
unmaps after the copy. -/
theorem vmAccessPass_maps (env : AccessPassEnv) {held : Held} (free : held .pinMap = false) :
    held.replay (vmAccessPass target offset len write env).maps = some held := by
  unfold vmAccessPass
  by_cases locked : env.lock ≠ 0
  · rw [if_pos locked]; rfl
  rw [if_neg locked]
  by_cases unmapped : env.pinMap ≠ 0
  · rw [if_pos unmapped]; rfl
  rw [if_neg unmapped]
  exact held.replay_pair free

/-- The events of the passes of `vm_access` from `retry:`: each pass's kernel mapping and
`i915_gem_object_unpin_map`, and `i915_gem_ww_ctx_fini` once it stops retrying. -/
def vmAccessLoopEvents : List AccessPassEnv → List ResEvent
  | [] => []
  | env :: rest =>
      let pass := vmAccessPass target offset len write env
      pass.maps ++
        if pass.err = -EDEADLK ∧ env.backoff = 0 then vmAccessLoopEvents rest else [.release .wwCtx]

theorem replay_vmAccessLoopEvents {held : Held} (inContext : held .wwCtx = true)
    (free : held .pinMap = false) :
    ∀ rounds, held.replay (vmAccessLoopEvents target offset len write rounds) =
      some (if (vmAccessLoop target offset len write rounds).2.isSome then
        Function.update held .wwCtx false else held)
  | [] => rfl
  | env :: rest => by
      rw [vmAccessLoopEvents, vmAccessLoop, Held.replay_append, vmAccessPass_maps target offset len write env free,
        Option.some_bind]
      dsimp only
      by_cases again : (vmAccessPass target offset len write env).err = -EDEADLK ∧ env.backoff = 0
      · rw [if_pos again, if_pos again]
        exact replay_vmAccessLoopEvents inContext free rest
      · rw [if_neg again, if_neg again, Held.replay_release _ _ _ inContext]
        rfl

end Access

/-- The events of `vm_access`: nothing before its checks pass, then `i915_gem_ww_ctx_init`
and the passes. -/
def vmAccessEvents (area : VmArea) (obj : GemObject) (addr : Nat) (len : Int) (write : Bool)
    (rounds : List AccessPassEnv) : List ResEvent :=
  match vmAccessTarget area obj addr len write with
  | .error _ => []
  | .ok (target, offset) => .acquire .wwCtx :: vmAccessLoopEvents target offset len write rounds

/-- The run of `vm_access` holds the ww context while it has not returned, and nothing once
it has. -/
theorem replay_vmAccessEvents (area : VmArea) (obj : GemObject) (addr : Nat) (len : Int)
    (write : Bool) (rounds : List AccessPassEnv) :
    Held.none.replay (vmAccessEvents area obj addr len write rounds) =
      some (if (vmAccess area obj addr len write rounds).2.isSome then Held.none
        else Function.update Held.none .wwCtx true) := by
  unfold vmAccessEvents vmAccess
  cases vmAccessTarget area obj addr len write with
  | error err => rfl
  | ok selected =>
      obtain ⟨target, offset⟩ := selected
      rw [Held.replay_acquire _ _ _ rfl, replay_vmAccessLoopEvents target offset len write rfl rfl]
      by_cases returned : (vmAccessLoop target offset len write rounds).2.isSome = true
      · simp only [returned, if_true]
        exact congrArg some (funext fun r => by cases r <;> rfl)
      · simp only [returned, if_false]
        rfl

/-! ## The three handlers -/

/-- On every run of `vm_fault_gtt`, `vm_fault_cpu` and `vm_access`, whatever their
collaborators return and however many backoff-and-retry rounds they go through, no resource
is taken while held or given back while not held; and once a handler returns it holds
nothing: the wakeref, the ww context, page pins, the reset lock, the vma and fence pins and
the kernel mapping it took were each given back exactly once (`vm_fault_cpu` initialises a
fresh ww context each time its `do … while` goes round, and finalises each), and
`vm_fault_cpu`'s count in `active_fault_handlers`, taken after its read-only check, is gone
again. -/
theorem handlers_give_back_what_they_take :
    (∀ hasLlc gmadrStart area obj address rounds,
      Sane (vmFaultGttEvents hasLlc gmadrStart area obj address rounds) ∧
        ((vmFaultGtt hasLlc gmadrStart area obj address rounds).2.isSome →
          Paired (vmFaultGttEvents hasLlc gmadrStart area obj address rounds))) ∧
    (∀ invalidateLmemMmaps swap area obj nodeStart address rounds,
      Sane (vmFaultCpuEvents invalidateLmemMmaps swap area obj nodeStart address rounds) ∧
        ((vmFaultCpu invalidateLmemMmaps swap area obj nodeStart address rounds).2.isSome →
          Paired (vmFaultCpuEvents invalidateLmemMmaps swap area obj nodeStart address rounds))) ∧
    (∀ area obj addr len write rounds,
      Sane (vmAccessEvents area obj addr len write rounds) ∧
        ((vmAccess area obj addr len write rounds).2.isSome →
          Paired (vmAccessEvents area obj addr len write rounds))) := by
  refine ⟨fun hasLlc gmadrStart area obj address rounds => ?_,
    fun invalidateLmemMmaps swap area obj nodeStart address rounds => ?_,
    fun area obj addr len write rounds => ?_⟩
  · rw [Sane, Paired, replay_vmFaultGttEvents]
    exact ⟨rfl, fun returned => by rw [if_pos returned]⟩
  · rw [Sane, Paired, replay_vmFaultCpuEvents]
    exact ⟨rfl, fun returned => by rw [if_pos returned]⟩
  · rw [Sane, Paired, replay_vmAccessEvents]
    exact ⟨rfl, fun returned => by rw [if_pos returned]⟩

end GemMman.Fault

import GemMman.Fault.Resource
import Mathlib.Tactic.LiftLets

namespace GemMman.Fault

/-! `vm_fault_cpu`, the fault handler of mappings of the object's own pages. It picks the
segment holding the faulting page and the shadow object `use_swapto` may substitute, and
maps the window of the area that object covers with `remap_io_sg`. A pass is retried
after `-EDEADLK` once the backoff succeeds, and after `-ENXIO` or `-ENOMEM`. -/

/-- The configuration and collaborators `use_swapto` and `create_swapto` read. -/
structure SwapEnv where
  /-- `CPTCFG_DRM_I915_CHICKEN_MMAP_SWAP`. -/
  mmapSwap : Bool := false
  /-- `CPTCFG_DRM_I915_CHICKEN_MMAP_SWAP_CREATE`. -/
  mmapSwapCreate : Bool := false
  /-- `atomic64_read(&obj->mm.region.mem->avail)`. -/
  avail : Nat := 0
  /-- `HAS_FLAT_CCS(i915) && !intel_gt_is_wedged(obj->mm.region.mem->gt)`. -/
  flatCcs : Bool := false
  /-- `i915_gem_object_create_shmem` of a size: the new object, or `none` on error. -/
  createShmem : Nat → Option GemObject := fun _ => none

/-- What `create_swapto` and `use_swapto` leave: the object the fault maps, the object `obj`
with `obj->swapto` as they leave it, and whether they reached `GEM_BUG_ON(obj->swapto)` in
`create_swapto` or `GEM_BUG_ON(swp->base.resv != obj->base.resv)` in `use_swapto` with its
condition true (without `CONFIG_DRM_I915_DEBUG_GEM` the code carries on). -/
structure SwapResult where
  target : GemObject
  obj : GemObject
  attachedTwice : Bool := false
  resvDiffers : Bool := false

/-- `create_swapto`. The new shadow object shares `obj`'s reservation
(`i915_gem_object_share_resv`) and becomes `obj->swapto`. -/
def createSwapto (swap : SwapEnv) (obj : GemObject) (write : Bool) : SwapResult :=
  if !swap.mmapSwapCreate then ⟨obj, obj, false, false⟩
  else if !obj.lmem then ⟨obj, obj, false, false⟩
  else if obj.hasPages || obj.madv = .purged then ⟨obj, obj, false, false⟩
  else if write && 2 * obj.size < swap.avail then ⟨obj, obj, false, false⟩
  else
    let size := if swap.flatCcs then obj.size + (obj.size >>> 8) else obj.size
    match swap.createShmem size with
    | none => ⟨obj, obj, false, false⟩
    | some swp =>
        let swp := { swp with resv := obj.resv }
        ⟨swp, { obj with swapto := some swp }, obj.swapto.isSome, false⟩

/-- `use_swapto`. -/
def useSwapto (swap : SwapEnv) (obj : GemObject) (write : Bool) : SwapResult :=
  if !swap.mmapSwap then ⟨obj, obj, false, false⟩
  else
    match obj.swapto with
    | some swp =>
        if swp.madv ≠ .willneed then createSwapto swap obj write
        else ⟨swp, obj, false, swp.resv != obj.resv⟩
    | none => createSwapto swap obj write

section Swap

variable {swap : SwapEnv} {obj : GemObject} {write : Bool}

/-- An attached shadow that is still `WILLNEED` and shares `obj`'s reservation is what
`use_swapto` returns, with `obj` left as it is and no assertion reached. -/
theorem useSwapto_of_willneed {shadow : GemObject} (enabled : swap.mmapSwap = true)
    (attached : obj.swapto = some shadow) (willneed : shadow.madv = .willneed)
    (shares : shadow.resv = obj.resv) :
    useSwapto swap obj write = ⟨shadow, obj, false, false⟩ := by
  simp [useSwapto, enabled, attached, willneed, shares]

/-- An lmem object without pages whose attached shadow object was marked `DONTNEED`, on a
read fault with both options set: `use_swapto` hands it to `create_swapto`, which reaches
`GEM_BUG_ON(obj->swapto)` with that shadow still attached and attaches a new one over it,
so the old shadow is no longer reachable from the object. -/
theorem useSwapto_stale_shadow_attached_twice :
    let old : GemObject := { id := 2, pages := 2, madv := .dontneed, swapto := none, segments := [] }
    let obj : GemObject := { id := 1, pages := 2, lmem := true, swapto := some old, segments := [] }
    let swp : GemObject := { id := 3, pages := 2, swapto := none, segments := [] }
    let swap : SwapEnv :=
      { mmapSwap := true, mmapSwapCreate := true, createShmem := fun _ => some swp }
    let result := useSwapto swap obj false
    result.attachedTwice = true ∧ result.target.id = 3 ∧
      result.obj.swapto.map GemObject.id = some 3 := by
  decide

end Swap

/-- The window `vm_fault_cpu` remaps: the object whose pages it maps, the user address
the window starts at, its length, and the page of that object mapped there. -/
structure CpuWindow where
  obj : GemObject
  vmStart : Nat
  vmSize : Nat
  objOffset : Nat

/-- The window of `vm_fault_cpu`: for a segmented object, the part of the area that the
segment holding the faulting page covers; `none` when no segment holds it. -/
def cpuFaultWindow (obj : GemObject) (area : VmArea) (objOffset pageOffset : Nat) :
    Option CpuWindow :=
  if obj.hasSegments then
    match obj.lookupSegment ((objOffset + pageOffset) <<< pageShift) with
    | none => none
    | some segment =>
        if objOffset > segment.segmentOffset >>> pageShift then
          let objOffset := objOffset - (segment.segmentOffset >>> pageShift)
          let vmSize := segment.size - (objOffset <<< pageShift)
          some ⟨segment, area.vmStart, min area.vmEnd (area.vmStart + vmSize) - area.vmStart,
            objOffset⟩
        else
          let vmStart := area.vmStart + segment.segmentOffset - (objOffset <<< pageShift)
          some ⟨segment, vmStart, min area.vmEnd (vmStart + segment.size) - vmStart, 0⟩
  else some ⟨obj, area.vmStart, area.vmEnd - area.vmStart, objOffset⟩

/-- What the collaborators return in one pass of the loop body. -/
structure CpuPassEnv where
  lock : Int := 0
  /-- `i915_gem_object_should_migrate_smem(pg, &required)`, and what it sets `required` to. -/
  shouldMigrate : Bool := false
  required : Bool := false
  migrate : Int := 0
  pinPages : Int := 0
  remap : Int := 0
  backoff : Int := 0

/-- The arguments of one `remap_io_sg` call: the object whose pages it maps (by identity),
the first user address, the length in bytes, and the page of the object mapped first. -/
structure SgRemap where
  obj : Nat
  start : Nat
  size : Nat
  page : Nat
deriving DecidableEq, Repr

/-- The object page a remap installs at user address `u`, if `u` is in its range. -/
def SgRemap.pageAt (call : SgRemap) (u : Nat) : Option Nat :=
  if call.start ≤ u ∧ u < call.start + call.size then some (call.page + (u - call.start) / pageSize)
  else none

theorem SgRemap.pageAt_of_mem {call : SgRemap} {u : Nat} (lower : call.start ≤ u)
    (upper : u < call.start + call.size) :
    call.pageAt u = some (call.page + (u - call.start) / pageSize) := by
  rw [SgRemap.pageAt, if_pos ⟨lower, upper⟩]

/-- What the remap of `window` does for a fault at `address` of `area`, whose first page is
page `objOffset` of the parent: the window lies in the area and holds the fault, and the
remap maps each of its addresses `u` to the window object's page
`objOffset + (u - vmStart) / PAGE_SIZE`. That page is the parent's page at `u` less
`base`, the window object's first page in the parent, and lies inside the window object. -/
structure CpuWindow.Maps (window : CpuWindow) (area : VmArea) (address objOffset base : Nat) :
    Prop where
  within : area.vmStart ≤ window.vmStart ∧ window.vmStart + window.vmSize ≤ area.vmEnd
  holds : window.vmStart ≤ address ∧ address < window.vmStart + window.vmSize
  pages : ∀ id u, window.vmStart ≤ u → u < window.vmStart + window.vmSize →
    ∃ page, (SgRemap.mk id window.vmStart window.vmSize window.objOffset).pageAt u = some page ∧
      page = window.objOffset + (u - window.vmStart) / pageSize ∧
      page + base = objOffset + (u - area.vmStart) / pageSize ∧ page < window.obj.pages

section Segment

variable {obj segment : GemObject} {area : VmArea} {k address : Nat}

/-- The segment found for the faulting page, in pages: it starts at page `s` of the parent
and holds the parent's page `k + q` of the fault. -/
theorem lookupSegment_pages
    (found : obj.lookupSegment ((k + (address - area.vmStart) >>> pageShift) <<< pageShift) =
      some segment)
    (aligned : segment.segmentOffset % pageSize = 0) :
    segment.segmentOffset >>> pageShift ≤ k + (address - area.vmStart) / pageSize ∧
      k + (address - area.vmStart) / pageSize <
        segment.segmentOffset >>> pageShift + segment.pages ∧
      segment.segmentOffset = (segment.segmentOffset >>> pageShift) * pageSize := by
  have covers := GemObject.lookupSegment_covers found
  simp only [Nat.shiftLeft_eq, Nat.shiftRight_eq_div_pow, pageShift_eq, GemObject.size,
    pageSize_eq] at covers aligned ⊢
  omega

theorem cpuFaultWindow_after_segment_start (segmented : obj.hasSegments = true)
    (inArea : area.vmStart ≤ address ∧ address < area.vmEnd)
    (found : obj.lookupSegment ((k + (address - area.vmStart) >>> pageShift) <<< pageShift) =
      some segment)
    (aligned : segment.segmentOffset % pageSize = 0)
    (after : k > segment.segmentOffset >>> pageShift) :
    ∃ window, cpuFaultWindow obj area k ((address - area.vmStart) >>> pageShift) = some window ∧
      window.obj = segment ∧ window.Maps area address k (segment.segmentOffset / pageSize) := by
  have ⟨lower, upper, offset⟩ := lookupSegment_pages found aligned
  refine ⟨_, by simp only [cpuFaultWindow, if_pos segmented, found, if_pos after]; rfl, rfl,
    ⟨?_, ?_, fun id u low high => ⟨_, SgRemap.pageAt_of_mem low high, rfl, ?_⟩⟩⟩
  all_goals
    dsimp only at *
    simp only [Nat.shiftLeft_eq, Nat.shiftRight_eq_div_pow, pageShift_eq, GemObject.size,
      pageSize_eq] at *
    omega

theorem cpuFaultWindow_before_segment_start (segmented : obj.hasSegments = true)
    (inArea : area.vmStart ≤ address ∧ address < area.vmEnd)
    (found : obj.lookupSegment ((k + (address - area.vmStart) >>> pageShift) <<< pageShift) =
      some segment)
    (aligned : segment.segmentOffset % pageSize = 0)
    (before : ¬ k > segment.segmentOffset >>> pageShift) :
    ∃ window, cpuFaultWindow obj area k ((address - area.vmStart) >>> pageShift) = some window ∧
      window.obj = segment ∧ window.Maps area address k (segment.segmentOffset / pageSize) := by
  have ⟨lower, upper, offset⟩ := lookupSegment_pages found aligned
  refine ⟨_, by simp only [cpuFaultWindow, if_pos segmented, found, if_neg before]; rfl, rfl,
    ⟨?_, ?_, fun id u low high => ⟨_, SgRemap.pageAt_of_mem low high, rfl, ?_⟩⟩⟩
  all_goals
    dsimp only at *
    simp only [Nat.shiftLeft_eq, Nat.shiftRight_eq_div_pow, pageShift_eq, GemObject.size,
      pageSize_eq] at *
    omega

/-- The window `vm_fault_cpu` remaps for a fault at `address` of `area`, whose first page is
page `k` of the object: the whole area from page `k` of an unsegmented object; for a
segmented one, the part of the area that the segment holding the faulting page covers,
mapped page by page onto that segment, whether the area starts inside it or before it. -/
theorem cpuFaultWindow_maps (inArea : area.vmStart ≤ address ∧ address < area.vmEnd) :
    (obj.hasSegments = false →
      cpuFaultWindow obj area k ((address - area.vmStart) >>> pageShift) =
        some ⟨obj, area.vmStart, area.vmEnd - area.vmStart, k⟩) ∧
    ∀ segment, obj.hasSegments = true →
      obj.lookupSegment ((k + (address - area.vmStart) >>> pageShift) <<< pageShift) = some segment →
      segment.segmentOffset % pageSize = 0 →
      ∃ window, cpuFaultWindow obj area k ((address - area.vmStart) >>> pageShift) = some window ∧
        window.obj = segment ∧ window.Maps area address k (segment.segmentOffset / pageSize) := by
  refine ⟨fun unsegmented => by rw [cpuFaultWindow, if_neg (by simp [unsegmented])],
    fun segment segmented found aligned => ?_⟩
  by_cases after : k > segment.segmentOffset >>> pageShift
  · exact cpuFaultWindow_after_segment_start segmented inArea found aligned after
  · exact cpuFaultWindow_before_segment_start segmented inArea found aligned after

/-- In an area that lies within the object from page `k` on, the window of a fault is the
whole area mapped onto the object from page `k`, or the part of it that the segment
holding the faulting page covers, mapped onto that segment: either way inside the object
it maps. -/
theorem cpuFaultWindow_within
    (aligned : ∀ segment ∈ obj.segments, segment.segmentOffset % pageSize = 0)
    (fits : k * pageSize + (area.vmEnd - area.vmStart) ≤ obj.size)
    (inArea : area.vmStart ≤ address ∧ address < area.vmEnd) {window : CpuWindow}
    (found : cpuFaultWindow obj area k ((address - area.vmStart) >>> pageShift) = some window) :
    ∃ base, (window.obj = obj ∧ base = 0 ∨
        window.obj ∈ obj.segments ∧ base = window.obj.segmentOffset / pageSize) ∧
      window.Maps area address k base := by
  cases segmented : obj.hasSegments
  · rw [cpuFaultWindow, segmented, if_neg Bool.false_ne_true, Option.some.injEq] at found
    subst found
    refine ⟨0, .inl ⟨rfl, rfl⟩, ⟨⟨le_rfl, ?_⟩, ⟨inArea.1, ?_⟩,
      fun id u low high => ⟨_, SgRemap.pageAt_of_mem low high, rfl, rfl, ?_⟩⟩⟩
    all_goals
      dsimp only at *
      simp only [GemObject.size, pageSize_eq] at *
      omega
  cases looked : obj.lookupSegment ((k + (address - area.vmStart) >>> pageShift) <<< pageShift) with
  | none => simp only [cpuFaultWindow, segmented, if_true, looked] at found; cases found
  | some segment =>
      have member : segment ∈ obj.segments := List.mem_of_find?_eq_some looked
      have ⟨w, same, named, maps⟩ :=
        if after : k > segment.segmentOffset >>> pageShift then
          cpuFaultWindow_after_segment_start segmented inArea looked (aligned segment member) after
        else cpuFaultWindow_before_segment_start segmented inArea looked (aligned segment member) after
      rw [found, Option.some.injEq] at same
      subst same named
      exact ⟨_, .inr ⟨member, rfl⟩, maps⟩

end Segment

theorem cpuFaultWindow_maps_second_segment :
    let segment : Nat → GemObject := fun i =>
      { id := 2 + i, pages := 4, isSegment := true, segmentOffset := i * 4 * 4096, parent := some 1,
        swapto := none, segments := [] }
    let obj : GemObject := { id := 1, pages := 8, swapto := none, segments := [segment 0, segment 1] }
    let area : VmArea := { vmStart := 0x100000, vmEnd := 0x100000 + 8 * 4096, vmPgoff := 0x100 }
    let address := 0x100000 + 5 * 4096
    (area.vmStart ≤ address ∧ address < area.vmEnd) ∧ obj.hasSegments = true ∧
      obj.lookupSegment ((0 + (address - area.vmStart) >>> pageShift) <<< pageShift) =
        some (segment 1) ∧ (segment 1).segmentOffset % pageSize = 0 ∧
      (obj.hasSegments = false →
        cpuFaultWindow obj area 0 ((address - area.vmStart) >>> pageShift) =
          some ⟨obj, area.vmStart, area.vmEnd - area.vmStart, 0⟩) ∧
      ∀ segment, obj.hasSegments = true →
        obj.lookupSegment ((0 + (address - area.vmStart) >>> pageShift) <<< pageShift) = some segment →
        segment.segmentOffset % pageSize = 0 →
        ∃ window, cpuFaultWindow obj area 0 ((address - area.vmStart) >>> pageShift) = some window ∧
          window.obj = segment ∧ window.Maps area address 0 (segment.segmentOffset / pageSize) :=
  have inArea : 0x100000 ≤ 0x100000 + 5 * 4096 ∧ 0x100000 + 5 * 4096 < 0x100000 + 8 * 4096 :=
    by decide
  ⟨inArea, rfl, rfl, rfl, cpuFaultWindow_maps inArea⟩

/-- What a pass did: tried to migrate an object, pinned its pages, or remapped them. -/
inductive CpuEffect where
  | migrate (obj : Nat)
  | pinPages (obj : Nat)
  | remap (call : SgRemap)
deriving DecidableEq, Repr

/-- One pass of the loop body of `vm_fault_cpu`: what it did, the error it ends on, the
object as `use_swapto` leaves it, and the page pins it took and gave back, in order. -/
structure CpuPass where
  effects : List CpuEffect
  err : Int
  obj : GemObject
  pins : List ResEvent

/-- One pass of the loop body of `vm_fault_cpu`. -/
def vmFaultCpuPass (swap : SwapEnv) (write : Bool) (window : CpuWindow) (env : CpuPassEnv) :
    CpuPass :=
  if env.lock ≠ 0 then ⟨[], env.lock, window.obj, []⟩
  else
    let swapped := useSwapto swap window.obj write
    let pg := swapped.target
    let migrated : List CpuEffect × Int :=
      if env.shouldMigrate then
        if pg.hasPinnedPages then ([], -EFAULT) else ([.migrate pg.id], env.migrate)
      else ([], 0)
    if migrated.2 ≠ 0 && env.required || migrated.2 = -EDEADLK then
      ⟨migrated.1, migrated.2, swapped.obj, []⟩
    else if env.pinPages ≠ 0 then ⟨migrated.1, env.pinPages, swapped.obj, []⟩
    else
      -- `i915_gem_object_pin_pages_sync`, `remap_io_sg`, then `i915_gem_object_unpin_pages`
      -- whatever the remap returned
      ⟨migrated.1 ++ [.pinPages pg.id, .remap ⟨pg.id, window.vmStart, window.vmSize, window.objOffset⟩],
        env.remap, swapped.obj, [.acquire .pages, .release .pages]⟩

/-- The loop of `vm_fault_cpu`: its `do … while` runs the body again on `-ENXIO` or
`-ENOMEM`. The `for_i915_gem_ww` inside it is not in this file and is modelled from the
spec: it runs the body again after `-EDEADLK` once `i915_gem_ww_ctx_backoff` succeeds, and
otherwise leaves with the error. A later pass sees the shadow object an earlier one
attached. -/
def vmFaultCpuLoop (swap : SwapEnv) (write : Bool) (window : CpuWindow) :
    List CpuPassEnv → List CpuEffect × Option VmFault
  | [] => ([], none)
  | env :: rest =>
      let pass := vmFaultCpuPass swap write window env
      let err := if pass.err = -EDEADLK ∧ env.backoff ≠ 0 then env.backoff else pass.err
      if err = -EDEADLK ∨ err = - ENXIO ∨ err = -ENOMEM then
        let later := vmFaultCpuLoop swap write { window with obj := pass.obj } rest
        (pass.effects ++ later.1, later.2)
      else (pass.effects, some (i915ErrorToVmfFault err))

/-- `vm_fault_cpu`; `nodeStart` is `drm_vma_node_start(&mmo->vma_node)`. The area's
`vm_pgoff` never lies below it (`i915_gem_update_vma_info` sets it there and splits only
move it up), so `obj_offset` is a natural number. -/
def vmFaultCpu (invalidateLmemMmaps : Bool) (swap : SwapEnv) (area : VmArea) (obj : GemObject)
    (nodeStart address : Nat) (rounds : List CpuPassEnv) : List CpuEffect × Option VmFault :=
  let pageOffset := (address - area.vmStart) >>> pageShift
  let objOffset := area.vmPgoff - nodeStart
  let write := area.vmFlags.write
  if obj.readonly && write then ([], some .sigbus)
  else if invalidateLmemMmaps then ([], some .sigbus)
  else
    match cpuFaultWindow obj area objOffset pageOffset with
    | none => ([], some .sigbus)
    | some window => vmFaultCpuLoop swap write window rounds

/-- A pass whose page pinning fails with `-ENOMEM` ends on that error having done nothing. -/
theorem vmFaultCpuPass_pin_enomem (swap : SwapEnv) (write : Bool) (window : CpuWindow) :
    vmFaultCpuPass swap write window { pinPages := -ENOMEM } =
      ⟨[], -ENOMEM, (useSwapto swap window.obj write).obj, []⟩ := by
  simp [vmFaultCpuPass, ENOMEM, EDEADLK]

/-- Page pinning that keeps failing with `-ENOMEM` is retried as long as it fails: after any
number of such passes the loop has not returned. -/
theorem vmFaultCpuLoop_pin_enomem (swap : SwapEnv) (write : Bool) :
    ∀ n window,
      (vmFaultCpuLoop swap write window (List.replicate n { pinPages := -ENOMEM })).2 = none
  | 0, _ => rfl
  | n + 1, window => by
      simp [vmFaultCpuLoop, vmFaultCpuPass_pin_enomem, vmFaultCpuLoop_pin_enomem swap write n]

/-- The loop never reports `VM_FAULT_OOM`: `-ENOMEM` always sends it round again. -/
theorem vmFaultCpuLoop_ne_oom (swap : SwapEnv) (write : Bool) :
    ∀ rounds window, (vmFaultCpuLoop swap write window rounds).2 ≠ some .oom
  | [], _ => nofun
  | env :: rest, window => by
      simp only [vmFaultCpuLoop]
      split <;> split
      all_goals first
        | exact vmFaultCpuLoop_ne_oom swap write rest _
        | rename_i again
          exact fun oom =>
            again (.inr (.inr ((i915ErrorToVmfFault_eq_oom _).1 (Option.some.inj oom))))

/-- Pinning that fails with `-ENOMEM` on every pass keeps `vm_fault_cpu` in its loop for
ever, with no `-EDEADLK` anywhere, and `VM_FAULT_OOM`, the outcome
`i915_error_to_vmf_fault` gives `-ENOMEM`, is never what `vm_fault_cpu` returns. -/
theorem vmFaultCpu_retries_enomem :
    (∀ swap write window n,
      (vmFaultCpuLoop swap write window (List.replicate n { pinPages := -ENOMEM })).2 = none) ∧
    ∀ invalidate swap area obj nodeStart address rounds,
      (vmFaultCpu invalidate swap area obj nodeStart address rounds).2 ≠ some .oom := by
  refine ⟨fun swap write window n => vmFaultCpuLoop_pin_enomem swap write n window,
    fun invalidate swap area obj nodeStart address rounds => ?_⟩
  simp only [vmFaultCpu]
  by_cases refused : (obj.readonly && area.vmFlags.write) = true
  · rw [if_pos refused]; decide
  rw [if_neg refused]
  by_cases invalid : invalidate = true
  · rw [if_pos invalid]; decide
  rw [if_neg invalid]
  split
  · decide
  · exact vmFaultCpuLoop_ne_oom swap _ rounds _

/-- What a pass leaves and maps: the object as `use_swapto` leaves it (unless the object
lock failed), and at most one remap, of the window onto the object `use_swapto` returned. -/
theorem vmFaultCpuPass_remap (swap : SwapEnv) (write : Bool) (window : CpuWindow)
    (env : CpuPassEnv) :
    (vmFaultCpuPass swap write window env).obj =
        (if env.lock ≠ 0 then window.obj else (useSwapto swap window.obj write).obj) ∧
      ∀ call, .remap call ∈ (vmFaultCpuPass swap write window env).effects →
        call = ⟨(useSwapto swap window.obj write).target.id, window.vmStart, window.vmSize,
          window.objOffset⟩ := by
  unfold vmFaultCpuPass
  by_cases locked : env.lock ≠ 0
  · rw [if_pos locked]
    exact ⟨(if_pos locked).symm, nofun⟩
  rw [if_neg locked, if_neg locked]
  lift_lets
  intro swapped pg migrated
  have unmapped : ∀ call, .remap call ∉ migrated.1 := by
    simp only [migrated]
    split <;> (try split) <;> simp
  by_cases stops : (migrated.2 ≠ 0 && env.required || migrated.2 = -EDEADLK) = true
  · rw [if_pos stops]
    exact ⟨rfl, fun call member => absurd member (unmapped call)⟩
  rw [if_neg stops]
  by_cases pinned : env.pinPages ≠ 0
  · rw [if_pos pinned]
    exact ⟨rfl, fun call member => absurd member (unmapped call)⟩
  rw [if_neg pinned]
  refine ⟨rfl, fun call member => ?_⟩
  simpa [unmapped call] using member

section NoSwap

variable {swap : SwapEnv} (noSwap : swap.mmapSwap = false)
include noSwap

/-- Without `CPTCFG_DRM_I915_CHICKEN_MMAP_SWAP`, `use_swapto` maps the object itself. -/
theorem useSwapto_of_no_swap (obj : GemObject) (write : Bool) :
    useSwapto swap obj write = ⟨obj, obj, false, false⟩ := by
  simp [useSwapto, noSwap]

/-- Without `CPTCFG_DRM_I915_CHICKEN_MMAP_SWAP`, every remap of the loop maps the window
onto the window's own object. -/
theorem vmFaultCpuLoop_remap_of_no_swap (write : Bool) :
    ∀ window rounds call, .remap call ∈ (vmFaultCpuLoop swap write window rounds).1 →
      call = ⟨window.obj.id, window.vmStart, window.vmSize, window.objOffset⟩
  | _, [], _, member => nomatch member
  | window, env :: rest, call, member => by
      obtain ⟨kept, remaps⟩ := vmFaultCpuPass_remap swap write window env
      rw [useSwapto_of_no_swap noSwap, ite_self] at kept
      rw [useSwapto_of_no_swap noSwap] at remaps
      simp only [vmFaultCpuLoop] at member
      generalize (if (vmFaultCpuPass swap write window env).err = -EDEADLK ∧
          env.backoff ≠ 0 then env.backoff else (vmFaultCpuPass swap write window env).err) = err
        at member
      by_cases retried : err = -EDEADLK ∨ err = - ENXIO ∨ err = -ENOMEM
      · rw [if_pos retried] at member
        rcases List.mem_append.mp member with first | later
        · exact remaps call first
        · rw [kept] at later
          exact vmFaultCpuLoop_remap_of_no_swap write window rest call later
      · rw [if_neg retried] at member
        exact remaps call member

/-- Without `CPTCFG_DRM_I915_CHICKEN_MMAP_SWAP`, every remap of `vm_fault_cpu` maps the
window it computed for the fault onto that window's object. -/
theorem vmFaultCpu_remap_of_no_swap {invalidate : Bool} {area : VmArea} {obj : GemObject}
    {nodeStart address : Nat} {rounds : List CpuPassEnv} {call : SgRemap}
    (remapped : .remap call ∈ (vmFaultCpu invalidate swap area obj nodeStart address rounds).1) :
    ∃ window, cpuFaultWindow obj area (area.vmPgoff - nodeStart)
        ((address - area.vmStart) >>> pageShift) = some window ∧
      call = ⟨window.obj.id, window.vmStart, window.vmSize, window.objOffset⟩ := by
  unfold vmFaultCpu at remapped
  by_cases refused : (obj.readonly && area.vmFlags.write) = true
  · rw [if_pos refused] at remapped; nomatch remapped
  rw [if_neg refused] at remapped
  by_cases invalid : invalidate = true
  · rw [if_pos invalid] at remapped; nomatch remapped
  rw [if_neg invalid] at remapped
  split at remapped
  · nomatch remapped
  · next window found =>
      exact ⟨window, found, vmFaultCpuLoop_remap_of_no_swap noSwap _ window rounds call remapped⟩

end NoSwap

end GemMman.Fault

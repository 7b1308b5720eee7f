import GemMman.Fault.Resource
import Mathlib.Algebra.Group.Nat.Basic

namespace GemMman.Fault

/-! `vm_fault_gtt`, the fault handler of mappings through the aperture. One pass of its
retry loop locks the object, pins its pages, binds the whole object into the mappable
GGTT or, when that fails, a partial view around the faulting page, and remaps the
binding's aperture pages into the faulting area. The collaborators' outcomes in each pass
are inputs (`GttPassEnv`); what a pass did is its list of effects. -/

/-- `enum i915_ggtt_view_type`, the two kinds this file builds. -/
inductive GgttViewType where
  | normal
  | partialView
deriving DecidableEq, Repr

/-- `struct i915_ggtt_view` with its `partial` member, in pages. -/
structure GgttView where
  type : GgttViewType := .normal
  offset : Nat := 0
  size : Nat := 0
deriving DecidableEq, Repr

/-- `roundup` of the kernel's headers. -/
def roundup (x y : Nat) : Nat := (x + (y - 1)) / y * y

/-- `tile_row_pages`; tile row sizes are 32-bit, so the rounding below never wraps. -/
def tileRowPages (obj : GemObject) : Nat := obj.tileRowSize >>> pageShift

/-- `MIN_CHUNK_PAGES`. -/
def minChunkPages : Nat := 1048576 >>> pageShift

/-- The chunk of `compute_partial_view`: rounded up to a whole tile row when tiled. -/
def partialChunk (obj : GemObject) (chunk : Nat) : Nat :=
  if obj.tiled then roundup chunk (if tileRowPages obj = 0 then 1 else tileRowPages obj)
  else chunk

/-- `compute_partial_view`. The pages left past the view's offset are an `unsigned long`
difference that `min_t(unsigned int, …)` truncates to 32 bits. -/
def computePartialView (obj : GemObject) (pageOffset chunk : Nat) : GgttView :=
  let chunk := partialChunk obj chunk
  let offset := pageOffset - pageOffset % chunk
  { type := if chunk ≥ obj.pages then .normal else .partialView
    offset
    size := min chunk ((2 ^ 64 + obj.pages - offset) % 2 ^ 32) }

/-- A GGTT binding of the object: its view, `vma->size` in bytes, and its GGTT offset. -/
structure GgttVma where
  view : GgttView
  size : Nat
  offset : Nat
deriving DecidableEq, Repr

/-- Not in this file: `vma_create` (i915_vma.c) keeps a view only when it is not normal,
and sizes a partial binding by its view, a normal one by the object. -/
def ggttBinding (obj : GemObject) (view : GgttView) (offset : Nat) : GgttVma :=
  match view.type with
  | .normal => { view := {}, size := obj.size, offset }
  | .partialView => { view, size := view.size <<< pageShift, offset }

/-- The aperture page through which `vma` exposes object page `page`: the binding's pages
follow each other from `ggtt->gmadr.start + i915_ggtt_offset(vma)`. -/
def GgttVma.aperturePage (vma : GgttVma) (gmadrStart page : Nat) : Option Nat :=
  if vma.view.offset ≤ page ∧ page < vma.view.offset + vma.size / pageSize then
    some ((gmadrStart + vma.offset) / pageSize + (page - vma.view.offset))
  else none

/-- The arguments of one `remap_io_mapping` call: first user address, first page frame,
and length in bytes. -/
structure RemapCall where
  addr : Nat
  pfn : Nat
  size : Nat
deriving DecidableEq, Repr

/-- The page frame a remap installs at user address `u`, if `u` is in its range. -/
def RemapCall.pfnAt (call : RemapCall) (u : Nat) : Option Nat :=
  if call.addr ≤ u ∧ u < call.addr + call.size then some (call.pfn + (u - call.addr) / pageSize)
  else none

/-- The `remap_io_mapping` call of `vm_fault_gtt` for binding `vma`. -/
def gttRemap (area : VmArea) (gmadrStart : Nat) (vma : GgttVma) : RemapCall where
  addr := area.vmStart + (vma.view.offset <<< pageShift)
  pfn := (gmadrStart + vma.offset) >>> pageShift
  size := min vma.size (area.vmEnd - area.vmStart)

/-- What the collaborators return in one pass from `retry:`; a GGTT pin returns an error or
the GGTT offset it bound the view at. -/
structure GttPassEnv where
  lock : Int := 0
  pinPages : Int := 0
  resetLock : Int := 0
  pinWhole : Except Int Nat
  pinView : Except Int Nat := .error (-ENOSPC)
  pinPartial : Except Int Nat := .error (-ENOSPC)
  fenceWait : Int := 0
  remap : Int := 0
  backoff : Int := 0

/-- What a pass did to the object: pinned its pages, bound it, remapped a range, or marked
a binding as faulted into userspace. -/
inductive GttEffect where
  | pinPages
  | pin (vma : GgttVma)
  | remap (call : RemapCall)
  | userfault (vma : GgttVma)
deriving DecidableEq, Repr

/-- The GGTT pins of `vm_fault_gtt`: the whole object; on an error other than `-EDEADLK`
the partial view around the fault, and on another such error that view retyped partial. -/
def faultGttPin (obj : GemObject) (pageOffset : Nat) (env : GttPassEnv) : Except Int GgttVma :=
  match env.pinWhole with
  | .ok offset => .ok (ggttBinding obj {} offset)
  | .error err =>
      if err = -EDEADLK then .error err
      else
        let view := computePartialView obj pageOffset minChunkPages
        match env.pinView with
        | .ok offset => .ok (ggttBinding obj view offset)
        | .error err =>
            if err = -EDEADLK then .error err
            else match env.pinPartial with
              | .ok offset => .ok (ggttBinding obj { view with type := .partialView } offset)
              | .error err => .error err

theorem le_roundup (x : Nat) {y : Nat} (positive : 0 < y) : x ≤ roundup x y := by
  have := (Nat.lt_div_mul_add positive : x + (y - 1) < _)
  unfold roundup
  omega

theorem dvd_roundup (x y : Nat) : y ∣ roundup x y := Nat.dvd_mul_left y _

/-- `roundup` is the least multiple of `y` not below `x`. -/
theorem roundup_le_of_dvd {x y m : Nat} (positive : 0 < y) (multiple : y ∣ m) (above : x ≤ m) :
    roundup x y ≤ m := by
  obtain ⟨j, rfl⟩ := multiple
  have : (x + (y - 1)) / y ≤ j := (Nat.div_le_iff_le_mul_add_pred positive).2 (by omega)
  unfold roundup
  calc (x + (y - 1)) / y * y ≤ j * y := Nat.mul_le_mul_right y this
    _ = y * j := Nat.mul_comm j y

theorem le_partialChunk (obj : GemObject) (chunk : Nat) : chunk ≤ partialChunk obj chunk := by
  unfold partialChunk
  split
  · exact le_roundup chunk (by split <;> omega)
  · exact le_refl _

@[simp] theorem partialChunk_of_not_tiled {obj : GemObject} (untiled : obj.tiled = false)
    (chunk : Nat) : partialChunk obj chunk = chunk := by
  simp [partialChunk, untiled]

theorem partialChunk_of_tiled {obj : GemObject} (tiled : obj.tiled = true) (chunk : Nat) :
    partialChunk obj chunk = roundup chunk (max (tileRowPages obj) 1) := by
  have row : (if tileRowPages obj = 0 then 1 else tileRowPages obj) = max (tileRowPages obj) 1 := by
    split <;> omega
  simp only [partialChunk, tiled, if_true, row]

/-- The view contains the faulting page and ends within the object. -/
theorem computePartialView_fits {obj : GemObject} {pageOffset chunk : Nat} (positive : 0 < chunk)
    (fault : pageOffset < obj.pages) (small : obj.pages < 2 ^ 32) :
    let view := computePartialView obj pageOffset chunk
    view.offset ≤ pageOffset ∧ pageOffset < view.offset + view.size ∧
      view.offset + view.size ≤ obj.pages := by
  have chunked := le_partialChunk obj chunk
  have below := Nat.mod_lt pageOffset (positive.trans_le chunked)
  simp only [computePartialView]
  omega

@[simp] theorem minChunkPages_eq : minChunkPages = 256 := rfl

/-- The tiled chunk: the least multiple of the tile row (a row of no pages read as one) not
below the requested chunk, with no 32-bit wrap in the rounding. -/
theorem partialChunk_of_tiled_spec {obj : GemObject} (tiled : obj.tiled = true)
    (rows : tileRowPages obj ≤ 2 ^ 31) :
    let t := max (tileRowPages obj) 1
    let c := partialChunk obj minChunkPages
    minChunkPages + (t - 1) < 2 ^ 32 ∧ t ∣ c ∧ minChunkPages ≤ c ∧
      ∀ m, t ∣ m → minChunkPages ≤ m → c ≤ m := by
  intro t c
  have positive : 0 < t := Nat.lt_of_lt_of_le Nat.one_pos (le_max_right _ _)
  have chunk : c = roundup minChunkPages t := partialChunk_of_tiled tiled minChunkPages
  refine ⟨by simp only [minChunkPages_eq, t]; omega, chunk ▸ dvd_roundup _ _,
    chunk ▸ le_roundup _ positive,
    fun m multiple above => chunk ▸ roundup_le_of_dvd positive multiple above⟩

/-- The partial view around page `p` of an object of at most `INT_MAX` pages: aligned to the
rounded chunk, holding the faulting page, inside the object, one chunk or the object's tail
long, and normal exactly when the chunk covers the whole object. The u64 difference of the
size does not underflow and its u32 truncation is the identity. -/
theorem computePartialView_chunked {obj : GemObject} {p : Nat}
    (bounded : obj.pages ≤ 2 ^ 31 - 1) (fault : p < obj.pages)
    (rows : tileRowPages obj ≤ 2 ^ 31) :
    let t := max (tileRowPages obj) 1
    let c := partialChunk obj minChunkPages
    let view := computePartialView obj p minChunkPages
    (obj.tiled = true → minChunkPages + (t - 1) < 2 ^ 32 ∧ t ∣ c ∧ minChunkPages ≤ c ∧
        ∀ m, t ∣ m → minChunkPages ≤ m → c ≤ m) ∧
      (obj.tiled = false → c = minChunkPages) ∧
      c ∣ view.offset ∧ (obj.tiled = true → t ∣ view.offset) ∧
      view.offset ≤ p ∧ p < view.offset + view.size ∧ view.offset + view.size ≤ obj.pages ∧
      (2 ^ 64 + obj.pages - view.offset) % 2 ^ 32 = obj.pages - view.offset ∧
      view.size = min c (obj.pages - view.offset) ∧ 1 ≤ view.size ∧
      (view.type = .normal ↔ obj.pages ≤ c) ∧
      (view.type = .normal → view.offset = 0 ∧ view.size = obj.pages) := by
  intro t c view
  have positive : 0 < c := Nat.lt_of_lt_of_le (by decide) (le_partialChunk obj minChunkPages)
  have aligned : c ∣ view.offset := Nat.dvd_sub_mod p
  have offset : view.offset = p - p % c := rfl
  have size : view.size = min c ((2 ^ 64 + obj.pages - view.offset) % 2 ^ 32) := rfl
  have type : view.type = if c ≥ obj.pages then .normal else .partialView := rfl
  refine ⟨fun tiled => partialChunk_of_tiled_spec tiled rows,
    fun untiled => partialChunk_of_not_tiled untiled _, aligned,
    fun tiled => Nat.dvd_trans (partialChunk_of_tiled_spec tiled rows).2.1 aligned, ?_⟩
  clear_value view c t
  have below : p % c < c := Nat.mod_lt p positive
  have noWrap : (2 ^ 64 + obj.pages - view.offset) % 2 ^ 32 = obj.pages - view.offset := by
    rw [show 2 ^ 64 + obj.pages - view.offset = obj.pages - view.offset + 2 ^ 32 * 2 ^ 32 by omega,
      Nat.add_mul_mod_self_left, Nat.mod_eq_of_lt (by omega)]
  rw [noWrap] at size
  have normal : view.type = .normal ↔ obj.pages ≤ c := by
    by_cases whole : c ≥ obj.pages
    · rw [type, if_pos whole]; exact iff_of_true rfl whole
    · rw [type, if_neg whole]; exact iff_of_false nofun whole
  refine ⟨by omega, by omega, by omega, noWrap, size, by omega, normal, fun whole => ?_⟩
  have covers : obj.pages ≤ c := normal.1 whole
  have within : p % c = p := Nat.mod_eq_of_lt (fault.trans_le covers)
  omega

theorem computePartialView_chunked_rows :
    let obj : GemObject :=
      { id := 1, pages := 4096, tiled := true, tileRowSize := 64 * 4096, swapto := none, segments := [] }
    let t := max (tileRowPages obj) 1
    let c := partialChunk obj minChunkPages
    let view := computePartialView obj 300 minChunkPages
    (obj.pages ≤ 2 ^ 31 - 1 ∧ 300 < obj.pages ∧ tileRowPages obj ≤ 2 ^ 31) ∧
      (obj.tiled = true → minChunkPages + (t - 1) < 2 ^ 32 ∧ t ∣ c ∧ minChunkPages ≤ c ∧
        ∀ m, t ∣ m → minChunkPages ≤ m → c ≤ m) ∧
      (obj.tiled = false → c = minChunkPages) ∧
      c ∣ view.offset ∧ (obj.tiled = true → t ∣ view.offset) ∧
      view.offset ≤ 300 ∧ 300 < view.offset + view.size ∧ view.offset + view.size ≤ obj.pages ∧
      (2 ^ 64 + obj.pages - view.offset) % 2 ^ 32 = obj.pages - view.offset ∧
      view.size = min c (obj.pages - view.offset) ∧ 1 ≤ view.size ∧
      (view.type = .normal ↔ obj.pages ≤ c) ∧
      (view.type = .normal → view.offset = 0 ∧ view.size = obj.pages) :=
  ⟨⟨by decide, by decide, by decide⟩, computePartialView_chunked (by decide) (by decide) (by decide)⟩

/-- A binding that exposes object page `page` and nothing past the object's end. -/
structure Exposes (obj : GemObject) (page : Nat) (vma : GgttVma) : Prop where
  start : vma.view.offset ≤ page
  fault : page < vma.view.offset + vma.size / pageSize
  within : vma.view.offset * pageSize + vma.size ≤ obj.size
  whole : vma.size % pageSize = 0

theorem ggttBinding_exposes {obj : GemObject} {page : Nat} {view : GgttView} (offset : Nat)
    (fault : page < obj.pages)
    (fits : view.type = .partialView → view.offset ≤ page ∧ page < view.offset + view.size ∧
      view.offset + view.size ≤ obj.pages) :
    Exposes obj page (ggttBinding obj view offset) := by
  unfold ggttBinding
  split
  · constructor <;> simp [GemObject.size, fault]
  · have := fits ‹_›
    constructor <;> simp [Nat.shiftLeft_eq, GemObject.size] <;> omega

theorem faultGttPin_exposes {obj : GemObject} {page : Nat} {env : GttPassEnv} {vma : GgttVma}
    (fault : page < obj.pages) (small : obj.pages < 2 ^ 32)
    (pinned : faultGttPin obj page env = .ok vma) : Exposes obj page vma := by
  have fits := computePartialView_fits (by decide : 0 < minChunkPages) fault small
  unfold faultGttPin at pinned
  split at pinned
  · cases pinned
    exact ggttBinding_exposes _ fault nofun
  · split at pinned
    · cases pinned
    · split at pinned
      · cases pinned
        exact ggttBinding_exposes _ fault fun _ => fits
      · split at pinned
        · cases pinned
        · split at pinned
          · cases pinned
            exact ggttBinding_exposes _ fault fun _ => fits
          · cases pinned

/-- The remap of a binding that exposes the faulting page covers the fault, stays within
the object's extent from `vm_start`, and maps each address to the aperture page of object
page `(u - vm_start) / PAGE_SIZE`. -/
theorem gttRemap_window {obj : GemObject} {area : VmArea} {gmadrStart address : Nat}
    {vma : GgttVma} (inArea : area.vmStart ≤ address ∧ address < area.vmEnd)
    (exposes : Exposes obj ((address - area.vmStart) >>> pageShift) vma) :
    let call := gttRemap area gmadrStart vma
    call.addr ≤ address ∧ address < call.addr + call.size ∧ area.vmStart ≤ call.addr ∧
      call.addr + call.size ≤ area.vmStart + obj.size ∧
      ∀ u, call.addr ≤ u → u < call.addr + call.size →
        call.pfnAt u = vma.aperturePage gmadrStart ((u - area.vmStart) / pageSize) := by
  obtain ⟨start, fault, within, whole⟩ := exposes
  simp only [Nat.shiftRight_eq_div_pow, pageShift_eq, pageSize_eq, GemObject.size] at *
  simp only [gttRemap, Nat.shiftLeft_eq, Nat.shiftRight_eq_div_pow, pageShift_eq]
  refine ⟨by omega, by omega, by omega, by omega, fun u lower upper => ?_⟩
  simp only [RemapCall.pfnAt, GgttVma.aperturePage, pageSize_eq, if_pos (And.intro lower upper)]
  rw [if_pos (by omega)]
  congr 1
  omega

section Handler

variable (hasLlc : Bool) (gmadrStart : Nat) (area : VmArea) (obj : GemObject) (address : Nat)

/-- The labels of the unwind ladder of `vm_fault_gtt`, from the last acquisition down; a
pass that gets as far as the remap falls through from `err_fence:`. -/
inductive GttLabel where
  | errFence
  | errUnpin
  | errReset
  | errPages
  | errRpm
deriving DecidableEq, Repr

/-- What the code from the label down to `err_rpm:` gives back, in order:
`i915_vma_unpin_fence`, `__i915_vma_unpin`, `intel_gt_reset_unlock` and
`i915_gem_object_unpin_pages`, each label falling through to the next. -/
def GttLabel.unwind : GttLabel → List Resource
  | errFence => [.fencePin, .vmaPin, .resetLock, .pages]
  | errUnpin => [.vmaPin, .resetLock, .pages]
  | errReset => [.resetLock, .pages]
  | errPages => [.pages]
  | errRpm => []

/-- One pass of `vm_fault_gtt` from `retry:` to `err_rpm:`: what it did, the error it ends
on, the label of the unwind ladder it leaves by, and the resources it took on its way there,
in order. -/
structure GttPass where
  effects : List GttEffect
  err : Int
  exit : GttLabel
  taken : List Resource

/-- One pass of `vm_fault_gtt` from `retry:` to `err_rpm:`. -/
def vmFaultGttPass (env : GttPassEnv) : GttPass :=
  let write := area.vmFlags.write
  let pageOffset := (address - area.vmStart) >>> pageShift
  if env.lock ≠ 0 then ⟨[], env.lock, .errRpm, []⟩
  else if obj.readonly && write then ⟨[], -EFAULT, .errRpm, []⟩
  else if env.pinPages ≠ 0 then ⟨[], env.pinPages, .errRpm, []⟩
  else if env.resetLock ≠ 0 then ⟨[.pinPages], env.resetLock, .errPages, [.pages]⟩
  else match faultGttPin obj pageOffset env with
    | .error err => ⟨[.pinPages], err, .errReset, [.pages, .resetLock]⟩
    | .ok vma =>
        if !(obj.cacheLevelNone || hasLlc) then
          ⟨[.pinPages, .pin vma], -EFAULT, .errUnpin, [.pages, .resetLock, .vmaPin]⟩
        else if env.fenceWait ≠ 0 then
          ⟨[.pinPages, .pin vma], env.fenceWait, .errUnpin, [.pages, .resetLock, .vmaPin]⟩
        else
          let call := gttRemap area gmadrStart vma
          let taken := [.pages, .resetLock, .vmaPin, .fencePin]
          if env.remap ≠ 0 then ⟨[.pinPages, .pin vma, .remap call], env.remap, .errFence, taken⟩
          else ⟨[.pinPages, .pin vma, .remap call, .userfault vma], 0, .errFence, taken⟩

/-- `vm_fault_gtt`: a pass ending in `-EDEADLK` is retried once `i915_gem_ww_ctx_backoff`
succeeds. The result is `none` while the passes given do not let it return. -/
def vmFaultGtt : List GttPassEnv → List GttEffect × Option VmFault
  | [] => ([], none)
  | env :: rest =>
      let pass := vmFaultGttPass hasLlc gmadrStart area obj address env
      if pass.err = -EDEADLK then
        if env.backoff = 0 then
          let later := vmFaultGtt rest
          (pass.effects ++ later.1, later.2)
        else (pass.effects, some (i915ErrorToVmfFault env.backoff))
      else (pass.effects, some (i915ErrorToVmfFault pass.err))

/-- Every effect of the handler is one of a pass it ran, and that pass's effects are all
among the handler's. -/
theorem mem_vmFaultGtt {effect : GttEffect} :
    ∀ {rounds : List GttPassEnv},
      effect ∈ (vmFaultGtt hasLlc gmadrStart area obj address rounds).1 →
      ∃ env ∈ rounds, effect ∈ (vmFaultGttPass hasLlc gmadrStart area obj address env).effects ∧
        (vmFaultGttPass hasLlc gmadrStart area obj address env).effects ⊆
          (vmFaultGtt hasLlc gmadrStart area obj address rounds).1
  | [], member => by cases member
  | env :: rest, member => by
      simp only [vmFaultGtt] at member ⊢
      split
      · split
        · rcases List.mem_append.mp (by simpa only [*, if_true] using member) with first | later
          · exact ⟨env, .head _, first, List.subset_append_left _ _⟩
          · obtain ⟨other, present, inPass, covered⟩ := mem_vmFaultGtt later
            exact ⟨other, .tail _ present, inPass,
              fun _ inPass => List.mem_append_right _ (covered inPass)⟩
        · exact ⟨env, .head _, by simpa only [*, if_true, if_false] using member, fun _ => id⟩
      · exact ⟨env, .head _, by simpa only [*, if_false] using member, fun _ => id⟩

/-- The passes the handler runs: after passes that each ended on `-EDEADLK` with a
successful backoff, the next pass runs, and all it did is among the handler's effects. -/
theorem vmFaultGtt_effects_of_ran {env : GttPassEnv} {post : List GttPassEnv} :
    ∀ {pre : List GttPassEnv},
      (∀ e ∈ pre, (vmFaultGttPass hasLlc gmadrStart area obj address e).err = -EDEADLK ∧
        e.backoff = 0) →
      (vmFaultGttPass hasLlc gmadrStart area obj address env).effects ⊆
        (vmFaultGtt hasLlc gmadrStart area obj address (pre ++ env :: post)).1
  | [], _ => fun effect member => by
      simp only [List.nil_append, vmFaultGtt]
      split
      · split
        · exact List.mem_append_left _ member
        · exact member
      · exact member
  | e :: pre, retried => fun effect member => by
      have ⟨deadlock, backoff⟩ := retried e (.head _)
      simp only [List.cons_append, vmFaultGtt, if_pos deadlock, if_pos backoff]
      exact List.mem_append_right _
        (vmFaultGtt_effects_of_ran (fun other later => retried other (.tail _ later)) member)

/-- What one pass can have done: nothing, pinned the pages only, or bound `vma` and then
perhaps remapped it and marked it faulted. -/
theorem vmFaultGttPass_effects (env : GttPassEnv) :
    let pass := vmFaultGttPass hasLlc gmadrStart area obj address env
    pass.effects = [] ∨ pass.effects = [.pinPages] ∨
      ∃ vma, faultGttPin obj ((address - area.vmStart) >>> pageShift) env = .ok vma ∧
        (pass.effects = [.pinPages, .pin vma] ∨
          pass.effects = [.pinPages, .pin vma, .remap (gttRemap area gmadrStart vma)] ∨
          pass.effects =
            [.pinPages, .pin vma, .remap (gttRemap area gmadrStart vma), .userfault vma]) := by
  unfold vmFaultGttPass
  by_cases locked : env.lock ≠ 0
  · rw [if_pos locked]; exact .inl rfl
  rw [if_neg locked]
  by_cases refused : (obj.readonly && area.vmFlags.write) = true
  · rw [if_pos refused]; exact .inl rfl
  rw [if_neg refused]
  by_cases pages : env.pinPages ≠ 0
  · rw [if_pos pages]; exact .inl rfl
  rw [if_neg pages]
  by_cases reset : env.resetLock ≠ 0
  · rw [if_pos reset]; exact .inr (.inl rfl)
  rw [if_neg reset]
  cases faultGttPin obj ((address - area.vmStart) >>> pageShift) env with
  | error err => exact .inr (.inl rfl)
  | ok vma =>
      refine .inr (.inr ⟨vma, rfl, ?_⟩)
      dsimp only
      split_ifs
      · exact .inl rfl
      · exact .inl rfl
      · exact .inr (.inl rfl)
      · exact .inr (.inr rfl)

/-- Whatever bindings the passes end up with, a remap covers the faulting address and stays
within the object's extent counted from `vm_start`, and it maps each of its addresses `u`
to the aperture page of object page `(u - vm_start) / PAGE_SIZE`, whatever `vm_pgoff`. -/
theorem vmFaultGtt_remap_window {rounds : List GttPassEnv} {call : RemapCall}
    (inArea : area.vmStart ≤ address ∧ address < area.vmEnd)
    (fits : area.vmEnd - area.vmStart ≤ obj.size) (small : obj.pages < 2 ^ 32)
    (remapped : .remap call ∈ (vmFaultGtt hasLlc gmadrStart area obj address rounds).1) :
    ∃ vma, .pin vma ∈ (vmFaultGtt hasLlc gmadrStart area obj address rounds).1 ∧
      call.addr ≤ address ∧ address < call.addr + call.size ∧
      area.vmStart ≤ call.addr ∧ call.addr + call.size ≤ area.vmStart + obj.size ∧
      ∀ u, call.addr ≤ u → u < call.addr + call.size →
        call.pfnAt u = vma.aperturePage gmadrStart ((u - area.vmStart) / pageSize) := by
  obtain ⟨env, -, inPass, covered⟩ := mem_vmFaultGtt hasLlc gmadrStart area obj address remapped
  have fault : (address - area.vmStart) >>> pageShift < obj.pages := by
    simp only [Nat.shiftRight_eq_div_pow, pageShift_eq, GemObject.size, pageSize_eq] at fits ⊢
    omega
  rcases vmFaultGttPass_effects hasLlc gmadrStart area obj address env with
    none | pages | ⟨vma, pinned, effects⟩
  · rw [none] at inPass; cases inPass
  · rw [pages] at inPass; simp at inPass
  · have same : call = gttRemap area gmadrStart vma := by
      rcases effects with effects | effects | effects <;> rw [effects] at inPass <;> simp_all
    have bound :
        GttEffect.pin vma ∈ (vmFaultGttPass hasLlc gmadrStart area obj address env).effects := by
      rcases effects with effects | effects | effects <;> rw [effects] <;> simp
    subst same
    exact ⟨vma, covered bound, gttRemap_window inArea (faultGttPin_exposes fault small pinned)⟩

/-- A pass marks every binding it remaps, unless its `remap_io_mapping` failed. -/
theorem vmFaultGttPass_remap_marked (env : GttPassEnv) {call : RemapCall}
    (remapped : .remap call ∈ (vmFaultGttPass hasLlc gmadrStart area obj address env).effects) :
    ∃ vma, call = gttRemap area gmadrStart vma ∧
      (env.remap ≠ 0 ∨
        .userfault vma ∈ (vmFaultGttPass hasLlc gmadrStart area obj address env).effects) := by
  unfold vmFaultGttPass at remapped ⊢
  by_cases locked : env.lock ≠ 0
  · rw [if_pos locked] at remapped; nomatch remapped
  rw [if_neg locked] at remapped ⊢
  by_cases refused : (obj.readonly && area.vmFlags.write) = true
  · rw [if_pos refused] at remapped; nomatch remapped
  rw [if_neg refused] at remapped ⊢
  by_cases pages : env.pinPages ≠ 0
  · rw [if_pos pages] at remapped; nomatch remapped
  rw [if_neg pages] at remapped ⊢
  by_cases reset : env.resetLock ≠ 0
  · rw [if_pos reset] at remapped; simp at remapped
  rw [if_neg reset] at remapped ⊢
  revert remapped
  split
  · intro remapped; simp at remapped
  · next vma _ =>
      intro remapped
      by_cases incoherent : (!(obj.cacheLevelNone || hasLlc)) = true
      · rw [if_pos incoherent] at remapped; simp at remapped
      rw [if_neg incoherent] at remapped ⊢
      by_cases fence : env.fenceWait ≠ 0
      · rw [if_pos fence] at remapped; simp at remapped
      rw [if_neg fence] at remapped ⊢
      by_cases failed : env.remap ≠ 0
      · rw [if_pos failed] at remapped
        exact ⟨vma, by simpa using remapped, .inl failed⟩
      · rw [if_neg failed] at remapped ⊢
        exact ⟨vma, by simpa using remapped, .inr (by simp)⟩

end Handler

section ReadOnly

variable {obj : GemObject}

/-- A write fault on a read-only object stops each pass at the read-only check, holding
nothing, and the handler does nothing however many rounds it runs. -/
theorem vmFaultGttPass_read_only (readonly : obj.readonly = true) (hasLlc : Bool)
    (gmadrStart : Nat) {area : VmArea} (write : area.vmFlags.write = true) (address : Nat)
    (env : GttPassEnv) :
    vmFaultGttPass hasLlc gmadrStart area obj address env =
      if env.lock ≠ 0 then ⟨[], env.lock, .errRpm, []⟩ else ⟨[], -EFAULT, .errRpm, []⟩ := by
  simp only [vmFaultGttPass, readonly, write, Bool.and_self, if_true]

theorem vmFaultGtt_read_only (readonly : obj.readonly = true) (hasLlc : Bool) (gmadrStart : Nat)
    {area : VmArea} (write : area.vmFlags.write = true) (address : Nat) :
    ∀ rounds, (vmFaultGtt hasLlc gmadrStart area obj address rounds).1 = []
  | [] => rfl
  | env :: rest => by
      have pass := vmFaultGttPass_read_only readonly hasLlc gmadrStart write address env
      have later := vmFaultGtt_read_only readonly hasLlc gmadrStart write address rest
      simp only [vmFaultGtt, pass]
      split_ifs <;> simp [later]

end ReadOnly

theorem vmFaultGtt_remap_window_whole :
    let area : VmArea := { vmStart := 0x100000, vmEnd := 0x100000 + 2 * 4096, vmPgoff := 0x100 }
    let obj : GemObject := { id := 1, pages := 2, swapto := none, segments := [] }
    let rounds : List GttPassEnv := [{ pinWhole := .ok 0x2000 }]
    let call : RemapCall := ⟨0x100000, 2, 2 * 4096⟩
    (area.vmStart ≤ 0x100000 + 4096 ∧ 0x100000 + 4096 < area.vmEnd) ∧
      area.vmEnd - area.vmStart ≤ obj.size ∧ obj.pages < 2 ^ 32 ∧
      .remap call ∈ (vmFaultGtt false 0 area obj (0x100000 + 4096) rounds).1 ∧
      ∃ vma, .pin vma ∈ (vmFaultGtt false 0 area obj (0x100000 + 4096) rounds).1 ∧
        call.addr ≤ 0x100000 + 4096 ∧ 0x100000 + 4096 < call.addr + call.size ∧
        area.vmStart ≤ call.addr ∧ call.addr + call.size ≤ area.vmStart + obj.size ∧
        ∀ u, call.addr ≤ u → u < call.addr + call.size →
          call.pfnAt u = vma.aperturePage 0 ((u - area.vmStart) / pageSize) :=
  have inArea : 0x100000 ≤ 0x100000 + 4096 ∧ 0x100000 + 4096 < 0x100000 + 2 * 4096 := by decide
  have fits : 0x100000 + 2 * 4096 - 0x100000 ≤ 2 * 4096 := by decide
  have remapped : GttEffect.remap ⟨0x100000, 2, 2 * 4096⟩ ∈ (vmFaultGtt false 0
      { vmStart := 0x100000, vmEnd := 0x100000 + 2 * 4096, vmPgoff := 0x100 }
      { id := 1, pages := 2, swapto := none, segments := [] } (0x100000 + 4096)
      [{ pinWhole := .ok 0x2000 }]).1 := by decide
  ⟨inArea, fits, by decide, remapped,
    vmFaultGtt_remap_window _ _ _ _ _ inArea fits (by decide) remapped⟩

/-- An object of 512 pages mapped by an area of its first 300 pages, faulted at page 280
when the whole object does not fit the mappable aperture: the partial view `[256, 512)`
is remapped from `vm_start + 256` pages for 256 pages, past `vm_end`. -/
theorem vmFaultGtt_remap_past_vm_end :
    let area : VmArea := { vmStart := 0x100000, vmEnd := 0x100000 + 300 * 4096, vmPgoff := 0x100 }
    let out := vmFaultGtt false 0 area { id := 1, pages := 512, swapto := none, segments := [] } (0x100000 + 280 * 4096)
      [{ pinWhole := .error (-ENOSPC), pinView := .ok 0 }]
    .remap ⟨0x100000 + 256 * 4096, 0, 256 * 4096⟩ ∈ out.1 ∧
      area.vmEnd < 0x100000 + 256 * 4096 + 256 * 4096 ∧ out.2 = some .nopage := by
  decide

end GemMman.Fault

import GemMman.Fault.Cpu
import GemMman.Registry.Attach

namespace GemMman.Revoke

open GemMman.Data GemMman.Fault GemMman.Registry

/-! Revocation of CPU mappings. `i915_gem_object_release_mmap_offset` zaps the user
mappings of an object's non-GTT records: for each record, the range of the shared anonymous
file's offsets that the object (or, for a segment, its part of the parent) occupies under
the record's node. The page mapped at user address `u` of an area is page
`linear_page_index(area, u)` of that file, and `unmap_mapping_range` zaps the pages of a
range of it. Every page `vm_fault_cpu` maps into an area of a non-GTT record lies in a
range that the release of the object it maps passes on, as long as `use_swapto` maps the
object itself: the shadow object it may substitute has no records, so its release zaps
nothing. -/

/-- `i915_gem_object_release_mmap_offset`: the ranges (start, length) of file offsets, in
bytes, it passes to `unmap_mapping_range`. `offsets` gives each object's records and
`nodeStart` each record's `drm_vma_node_start`, in pages. -/
def i915GemObjectReleaseMmapOffset (offsets : Nat → RbTree MmapOffset) (nodeStart : Nat → Nat)
    (obj : GemObject) : List (Nat × Nat) :=
  let unmapSize := obj.size
  let owner : Option (Nat × Nat) :=
    if obj.isSegment then obj.parent.map fun parent => (parent, obj.segmentOffset)
    else some (obj.id, 0)
  match owner with
  | none => []
  | some (owner, vmaOffset) =>
      ((offsets owner).postorder.filter (·.mmapType ≠ .gtt)).map fun mmo =>
        ((nodeStart mmo.id <<< pageShift) + vmaOffset, unmapSize)

/-- A read fault on an lmem object without pages, with the shadow object enabled: the
pages mapped are those of the shadow object `create_swapto` makes, and releasing the
shadow object's mappings unmaps nothing, while the object's own release does. -/
theorem release_mmap_offset_misses_swapto :
    let swp : GemObject := { id := 2, pages := 2, swapto := none, segments := [] }
    let obj : GemObject := { id := 1, pages := 2, lmem := true, swapto := none, segments := [] }
    let area : VmArea := { vmStart := 0x7f0000000000, vmEnd := 0x7f0000002000, vmPgoff := 0x100 }
    let swap : SwapEnv :=
      { mmapSwap := true, mmapSwapCreate := true, createShmem := fun _ => some swp }
    let offsets : Nat → RbTree MmapOffset := fun id =>
      if id = 1 then .node .leaf ⟨7, .wb⟩ .leaf else .leaf
    (vmFaultCpu false swap area obj 0x100 0x7f0000000000 [{}]).1 =
        [.pinPages 2, .remap ⟨2, 0x7f0000000000, 0x2000, 0⟩] ∧
      i915GemObjectReleaseMmapOffset offsets (fun _ => 0x100) swp = [] ∧
      i915GemObjectReleaseMmapOffset offsets (fun _ => 0x100) obj = [(0x100000, 0x2000)] := by
  decide

/-- Not in this file: `linear_page_index` (pagemap.h), the page of the mapped file at user
address `u` of `area`. -/
def linearPageIndex (area : VmArea) (u : Nat) : Nat :=
  ((u - area.vmStart) >>> pageShift) + area.vmPgoff

/-- Not in this file: whether `unmap_mapping_range(mapping, holebegin, holelen, 1)`
(mm/memory.c) zaps the user pages at file page `index`. It zaps
`[holebegin >> PAGE_SHIFT, + (holelen + PAGE_SIZE - 1) >> PAGE_SHIFT)`, and
`unmap_mapping_pages` reads a count of 0 as up to the end of the file. -/
def unmapMappingRange (holeBegin holeLen index : Nat) : Bool :=
  let hba := holeBegin >>> pageShift
  let hlen := (holeLen + pageSize - 1) >>> pageShift
  hba ≤ index && (hlen = 0 || index < hba + hlen)

/-- What `i915_gem_object_release_mmap_offset` relies on of the object of a record: records
hang off the parent, so the object is not itself a segment, and each of its segments names
it as parent and starts on a page boundary. -/
structure SegmentLayout (obj : GemObject) : Prop where
  parentOnly : obj.isSegment = false
  segments : ∀ segment ∈ obj.segments,
    segment.isSegment = true ∧ segment.parent = some obj.id ∧ segment.segmentOffset % pageSize = 0

variable {offsets : Nat → RbTree MmapOffset} {starts : Nat → Nat} {mmo : MmapOffset}
  {target obj : GemObject} {area : VmArea} {address : Nat}

/-- Releasing an object that is not a segment zaps each of its non-GTT records whole. -/
theorem release_of_parent (parentOnly : target.isSegment = false)
    (registered : mmo ∈ (offsets target.id).postorder) (cpu : mmo.mmapType ≠ .gtt) :
    ((starts mmo.id <<< pageShift) + 0, target.size) ∈
      i915GemObjectReleaseMmapOffset offsets starts target := by
  simp only [i915GemObjectReleaseMmapOffset, parentOnly]
  exact List.mem_map_of_mem _ (List.mem_filter.mpr ⟨registered, decide_eq_true cpu⟩)

/-- Releasing a segment zaps, under each non-GTT record of its parent, its own part. -/
theorem release_of_segment {parent : Nat} (segment : target.isSegment = true)
    (owner : target.parent = some parent) (registered : mmo ∈ (offsets parent).postorder)
    (cpu : mmo.mmapType ≠ .gtt) :
    ((starts mmo.id <<< pageShift) + target.segmentOffset, target.size) ∈
      i915GemObjectReleaseMmapOffset offsets starts target := by
  simp only [i915GemObjectReleaseMmapOffset, segment, owner, if_true, Option.map_some']
  exact List.mem_map_of_mem _ (List.mem_filter.mpr ⟨registered, decide_eq_true cpu⟩)

/-- A window maps only file pages that its object's release zaps, when that release zaps
the range of the record from the window object's first page `base` on. -/
theorem window_revocable {window : CpuWindow} {base offset : Nat}
    (maps : window.Maps area address (area.vmPgoff - starts mmo.id) base)
    (offsetPages : offset = base * pageSize)
    (released : ((starts mmo.id <<< pageShift) + offset, window.obj.size) ∈
      i915GemObjectReleaseMmapOffset offsets starts window.obj)
    (inRecord : starts mmo.id ≤ area.vmPgoff) :
    ∀ u, window.vmStart ≤ u → u < window.vmStart + window.vmSize →
      ∃ range ∈ i915GemObjectReleaseMmapOffset offsets starts window.obj,
        unmapMappingRange range.1 range.2 (linearPageIndex area u) = true := by
  intro u lower upper
  obtain ⟨page, -, -, shifted, inside⟩ := maps.pages 0 u lower upper
  have after := maps.within.1
  refine ⟨_, released, ?_⟩
  subst offsetPages
  simp only [unmapMappingRange, linearPageIndex, GemObject.size, Nat.shiftLeft_eq,
    Nat.shiftRight_eq_div_pow, pageShift_eq, pageSize_eq] at *
  simp only [Bool.and_eq_true, Bool.or_eq_true, decide_eq_true_eq]
  omega

/-- The window of a fault maps only file pages that the release of the window's object
zaps: the record's object when it has no segments, or the segment holding the page. -/
theorem cpuFaultWindow_revocable (layout : SegmentLayout obj)
    (registered : mmo ∈ (offsets obj.id).postorder) (cpu : mmo.mmapType ≠ .gtt)
    (inRecord : starts mmo.id ≤ area.vmPgoff)
    (fits : (area.vmPgoff - starts mmo.id) * pageSize + (area.vmEnd - area.vmStart) ≤ obj.size)
    (inArea : area.vmStart ≤ address ∧ address < area.vmEnd) {window : CpuWindow}
    (found : cpuFaultWindow obj area (area.vmPgoff - starts mmo.id)
      ((address - area.vmStart) >>> pageShift) = some window) :
    (window.obj = obj ∨ window.obj ∈ obj.segments) ∧
      ∀ u, window.vmStart ≤ u → u < window.vmStart + window.vmSize →
        ∃ range ∈ i915GemObjectReleaseMmapOffset offsets starts window.obj,
          unmapMappingRange range.1 range.2 (linearPageIndex area u) = true := by
  obtain ⟨base, which, maps⟩ :=
    cpuFaultWindow_within (fun segment member => (layout.segments segment member).2.2) fits
      inArea found
  rcases which with ⟨same, rfl⟩ | ⟨member, rfl⟩
  · exact ⟨.inl same, window_revocable maps (Nat.zero_mul _).symm
      (same ▸ release_of_parent layout.parentOnly registered cpu) inRecord⟩
  · obtain ⟨segment, owner, aligned⟩ := layout.segments _ member
    have offsetPages : window.obj.segmentOffset = window.obj.segmentOffset / pageSize * pageSize :=
      (Nat.div_mul_cancel (Nat.dvd_of_mod_eq_zero aligned)).symm
    exact ⟨.inr member,
      window_revocable maps offsetPages (release_of_segment segment owner registered cpu) inRecord⟩

/-- Without `CPTCFG_DRM_I915_CHICKEN_MMAP_SWAP`, every page `vm_fault_cpu` maps into an
area of a non-GTT record of `obj` (from page `vm_pgoff - drm_vma_node_start` on, within
the object) is zapped by `i915_gem_object_release_mmap_offset` of the object it maps:
the record's object, or the segment holding the page, whose release zaps its part of the
parent's records. -/
theorem vmFaultCpu_remaps_revocable (layout : SegmentLayout obj)
    (registered : mmo ∈ (offsets obj.id).postorder) (cpu : mmo.mmapType ≠ .gtt)
    (inRecord : starts mmo.id ≤ area.vmPgoff)
    (fits : (area.vmPgoff - starts mmo.id) * pageSize + (area.vmEnd - area.vmStart) ≤ obj.size)
    (inArea : area.vmStart ≤ address ∧ address < area.vmEnd) {swap : SwapEnv}
    (noSwap : swap.mmapSwap = false) (invalidate : Bool) (rounds : List CpuPassEnv) :
    ∀ call, .remap call ∈ (vmFaultCpu invalidate swap area obj (starts mmo.id) address rounds).1 →
      ∃ target, (target = obj ∨ target ∈ obj.segments) ∧ target.id = call.obj ∧
        ∀ u, call.start ≤ u → u < call.start + call.size →
          ∃ range ∈ i915GemObjectReleaseMmapOffset offsets starts target,
            unmapMappingRange range.1 range.2 (linearPageIndex area u) = true := by
  intro call remapped
  obtain ⟨window, found, rfl⟩ := vmFaultCpu_remap_of_no_swap noSwap remapped
  obtain ⟨which, covered⟩ :=
    cpuFaultWindow_revocable layout registered cpu inRecord fits inArea found
  exact ⟨window.obj, which, rfl, covered⟩

end GemMman.Revoke

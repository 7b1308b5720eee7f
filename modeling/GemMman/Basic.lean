import Mathlib.Data.List.Basic

namespace GemMman

/-! Shared vocabulary of `i915_gem_mman.c`: page arithmetic, the error numbers the
file returns or tests, the fault outcomes they are translated into, and the parts of a
GEM object, a mapping record and a VMA that the modelled functions read.

Kernel pointers are modelled by identities (`id`); user addresses and fake offsets are
`Nat`: they stay below the user address limit, so none of the file's unsigned-long sums
wraps. -/

def pageShift : Nat := 12

def pageSize : Nat := 4096

@[simp] theorem pageSize_eq : pageSize = 4096 := rfl

@[simp] theorem pageShift_eq : pageShift = 12 := rfl

/-- Linux error numbers; the file returns them negated. -/
def EIO : Int := 5
def ENXIO : Int := 6
def E2BIG : Int := 7
def EINTR : Int := 4
def ENOENT : Int := 2
def EAGAIN : Int := 11
def ENOMEM : Int := 12
def EACCES : Int := 13
def EFAULT : Int := 14
def EBUSY : Int := 16
def ENODEV : Int := 19
def EINVAL : Int := 22
def ENOSPC : Int := 28
def EDEADLK : Int := 35
def ERESTARTSYS : Int := 512

/-- `vm_fault_t` values a fault handler of this file returns. -/
inductive VmFault where
  | nopage
  | oom
  | sigbus
deriving DecidableEq, Repr

/-- `i915_error_to_vmf_fault`: an unknown error warns once and falls through to
`VM_FAULT_SIGBUS`. -/
def i915ErrorToVmfFault (err : Int) : VmFault :=
  if err ∈ [- EIO, -EFAULT, -ENODEV, - ENXIO, -E2BIG] then .sigbus
  else if err = -ENOMEM then .oom
  else if err ∈ [0, -EAGAIN, -ENOSPC, -ERESTARTSYS, -EINTR, -EBUSY] then .nopage
  else .sigbus

/-- `VM_FAULT_OOM` is the outcome of `-ENOMEM` and of no other error. -/
theorem i915ErrorToVmfFault_eq_oom (err : Int) : i915ErrorToVmfFault err = .oom ↔ err = -ENOMEM := by
  by_cases enomem : err = -ENOMEM
  · subst enomem; exact iff_of_true (by decide) rfl
  · refine iff_of_false ?_ enomem
    unfold i915ErrorToVmfFault
    rw [if_neg enomem]
    split_ifs <;> nofun

/-- `enum i915_mmap_type`, the key of an object's mapping records. -/
inductive MmapType where
  | gtt
  | wc
  | wb
  | uc
deriving DecidableEq, Repr

/-- The enumerator's value; `lookup_mmo` and `insert_mmo` compare records by it. -/
def MmapType.toNat : MmapType → Nat
  | gtt => 0
  | wc => 1
  | wb => 2
  | uc => 3

theorem MmapType.toNat_injective : Function.Injective MmapType.toNat := by
  intro left right same
  cases left <;> cases right <;> first | rfl | cases same

/-- `obj->mm.madv`. -/
inductive Madv where
  | willneed
  | dontneed
  | purged
deriving DecidableEq, Repr

/-- The fields of `struct drm_i915_gem_object` (and of the helpers that test them) that
the modelled functions read. A segment of a segmented object is itself an object; the
parent lists its segments in offset order. -/
structure GemObject where
  id : Nat
  /-- `obj->base.size >> PAGE_SHIFT`: object sizes are whole pages. -/
  pages : Nat
  readonly : Bool := false
  tiled : Bool := false
  /-- `i915_gem_object_get_tile_row_size`, in bytes. -/
  tileRowSize : Nat := 0
  /-- `i915_gem_object_has_cache_level(obj, I915_CACHE_NONE)`. -/
  cacheLevelNone : Bool := true
  hasStructPage : Bool := true
  iomem : Bool := false
  lmem : Bool := false
  hasPages : Bool := false
  hasPinnedPages : Bool := false
  madv : Madv := .willneed
  /-- `obj->base.resv`, by identity. -/
  resv : Nat := 0
  /-- `obj->swapto`, the shadow object `use_swapto` may substitute. -/
  swapto : Option GemObject
  /-- The segments `i915_gem_object_lookup_segment` searches; empty when the object
  has none. -/
  segments : List GemObject
  isSegment : Bool := false
  /-- `obj->segment_offset`, in bytes. -/
  segmentOffset : Nat := 0
  parent : Option Nat := none
  /-- `obj->ops->mmap_ops` is set. -/
  mmapOps : Bool := false
deriving Repr

/-- `obj->base.size`. -/
def GemObject.size (obj : GemObject) : Nat := obj.pages * pageSize

/-- Objects nest (segments, shadow objects), so writing a field back with its own value gives
the object again only field by field. -/
theorem GemObject.update_swapto_self (obj : GemObject) : { obj with swapto := obj.swapto } = obj := by
  cases obj; rfl

/-- `i915_gem_object_has_segments`. -/
def GemObject.hasSegments (obj : GemObject) : Bool := !obj.segments.isEmpty

/-- Modelled from the spec: `i915_gem_object_lookup_segment` (not in this file) locates
the sub-object owning a byte offset of a segmented object. -/
def GemObject.lookupSegment (obj : GemObject) (offset : Nat) : Option GemObject :=
  obj.segments.find? fun segment =>
    segment.segmentOffset ≤ offset && offset < segment.segmentOffset + segment.size

theorem GemObject.lookupSegment_covers {obj segment : GemObject} {offset : Nat}
    (found : obj.lookupSegment offset = some segment) :
    segment.segmentOffset ≤ offset ∧ offset < segment.segmentOffset + segment.size := by
  simpa using List.find?_some found

/-- The bits of `vma->vm_flags` the file reads or writes. -/
structure VmFlags where
  read : Bool := false
  write : Bool := false
  exec : Bool := false
  shared : Bool := false
  mayRead : Bool := false
  mayWrite : Bool := false
  mayExec : Bool := false
  io : Bool := false
  pfnmap : Bool := false
  dontExpand : Bool := false
  dontDump : Bool := false
deriving DecidableEq, Repr

/-- The address range and page offset of a `struct vm_area_struct`. `vmPgoff` is the
fake offset in pages: the record's node start for a fresh mapping, further on for
the tail of a split one. -/
structure VmArea where
  vmStart : Nat
  vmEnd : Nat
  vmPgoff : Nat
  vmFlags : VmFlags := {}
deriving DecidableEq, Repr

end GemMman

import GemMman.Registry.Files

namespace GemMman.Mmap

open GemMman.Data GemMman.Registry

/-! `i915_gem_mmap`, the `mmap` of the DRM file: the barrier page at its fixed offset, or
the record whose node starts at the area's page offset, if the file may map it, set up by
`i915_gem_update_vma_info`. The references it takes are counted in `Refs`. -/

/-- The operations an area gets, with the record and object behind them. -/
inductive VmOps where
  | cpu (mmo : MmapOffset) (obj : Nat)
  | gtt (mmo : MmapOffset) (obj : Nat)
  | barrier
  | objectOps (obj : Nat)
deriving DecidableEq, Repr

/-- An area as `i915_gem_mmap` leaves it. -/
structure Mapped where
  area : VmArea
  ops : VmOps
deriving DecidableEq, Repr

/-- The device `i915_gem_mmap` reads. -/
structure MmapDevice where
  unplugged : Bool := false
  /-- `GRAPHICS_VER(i915)`. -/
  graphicsVer : Nat := 12
  /-- `PRELIM_I915_PCI_BARRIER_MMAP_OFFSET >> PAGE_SHIFT`, a constant of the uapi header. -/
  barrierPgoff : Nat
  /-- The nodes of `dev->vma_offset_manager`. -/
  nodes : List VmaNode := []
  vmFiles : Nat → RbTree VmaOffsetFile := fun _ => .leaf
  /-- `container_of(node, struct i915_mmap_offset, vma_node)` and its `mmo->obj`. -/
  mmoOf : Nat → MmapOffset × GemObject

/-- What the collaborators of one call return. -/
structure MmapEnv where
  /-- `i915_gem_object_get_rcu` found the object's count still above zero. -/
  getRcu : Bool := true
  /-- `mmap_singleton`: an error, or 0. -/
  singleton : Int := 0
  /-- `vmf_insert_pfn_prot` returned `VM_FAULT_NOPAGE`. -/
  insertPfn : Bool := true

/-- The references this file holds on behalf of mappings: on each object, pvc rc6-disallow
votes, and on the drm device. -/
@[ext]
structure Refs where
  objRefs : Nat → Nat := fun _ => 0
  rc6Votes : Nat := 0
  devRefs : Nat := 0

/-- `i915_gem_object_get`. -/
def Refs.objGet (refs : Refs) (obj : Nat) : Refs :=
  { refs with objRefs := Function.update refs.objRefs obj (refs.objRefs obj + 1) }

/-- `i915_gem_object_put`. -/
def Refs.objPut (refs : Refs) (obj : Nat) : Refs :=
  { refs with objRefs := Function.update refs.objRefs obj (refs.objRefs obj - 1) }

/-- `pvc_wa_disallow_rc6`. -/
def Refs.disallowRc6 (refs : Refs) : Refs := { refs with rc6Votes := refs.rc6Votes + 1 }

/-- `pvc_wa_allow_rc6`. -/
def Refs.allowRc6 (refs : Refs) : Refs := { refs with rc6Votes := refs.rc6Votes - 1 }

/-- `drm_dev_get`. -/
def Refs.devGet (refs : Refs) : Refs := { refs with devRefs := refs.devRefs + 1 }

/-- `drm_dev_put`. -/
def Refs.devPut (refs : Refs) : Refs := { refs with devRefs := refs.devRefs - 1 }

/-- `is_cow_mapping`. -/
def isCowMapping (flags : VmFlags) : Bool := !flags.shared && flags.mayWrite

/-- `vma_pages`. -/
def vmaPages (area : VmArea) : Nat := (area.vmEnd - area.vmStart) >>> pageShift

/-- `i915_pci_barrier_mmap`: the last doorbell page, write-only, one page at most. -/
def i915PciBarrierMmap (dev : MmapDevice) (env : MmapEnv) (refs : Refs) (area : VmArea) :
    Refs × Except Int Mapped :=
  if dev.graphicsVer < 12 then (refs, .error (-ENODEV))
  else if area.vmEnd - area.vmStart > pageSize then (refs, .error (-EINVAL))
  else if isCowMapping area.vmFlags then (refs, .error (-EINVAL))
  else if area.vmFlags.read || area.vmFlags.exec then (refs, .error (-EINVAL))
  else
    let flags := { area.vmFlags with
      mayRead := false, mayExec := false, pfnmap := true, dontExpand := true, dontDump := true,
      io := true }
    if !env.insertPfn then (refs, .error (-EFAULT))
    else (refs.devGet, .ok ⟨{ area with vmFlags := flags }, .barrier⟩)

/-- `i915_gem_update_vma_info` for record `mmo` of `obj`, whose node starts at `nodeStart`. -/
def i915GemUpdateVmaInfo (env : MmapEnv) (refs : Refs) (obj : GemObject) (mmo : MmapOffset)
    (nodeStart : Nat) (area : VmArea) : Refs × Except Int Mapped :=
  if obj.readonly && area.vmFlags.write then (refs, .error (-EINVAL))
  else
    let flags := if obj.readonly then { area.vmFlags with mayWrite := false } else area.vmFlags
    if env.singleton ≠ 0 then (refs, .error env.singleton)
    else
      let refs := refs.disallowRc6
      let flags := { flags with
        pfnmap := true, dontExpand := true, dontDump := true, io := flags.io || obj.iomem }
      let area := { area with vmFlags := flags, vmPgoff := nodeStart }
      if obj.mmapOps then (refs, .ok ⟨area, .objectOps obj.id⟩)
      else
        (refs, .ok ⟨area, match mmo.mmapType with
          | .gtt => .gtt mmo obj.id
          | _ => .cpu mmo obj.id⟩)

/-- The part of `i915_gem_mmap` after the node lookup: take a reference on the record's
object and set the area up, dropping the reference if that fails. -/
def mmapNode (env : MmapEnv) (refs : Refs) (mmo : MmapOffset) (obj : GemObject) (nodeStart : Nat)
    (area : VmArea) : Refs × Except Int Mapped :=
  if !env.getRcu then (refs, .error (-EACCES))
  else
    match i915GemUpdateVmaInfo env (refs.objGet obj.id) obj mmo nodeStart area with
    | (refs, .error err) => (refs.objPut obj.id, .error err)
    | (refs, .ok mapped) => (refs, .ok mapped)

/-- `i915_gem_mmap` of `area` by the file `tag`. -/
def i915GemMmap (dev : MmapDevice) (env : MmapEnv) (tag : Nat) (refs : Refs) (area : VmArea) :
    Refs × Except Int Mapped :=
  if dev.unplugged then (refs, .error (-ENODEV))
  else if area.vmPgoff = dev.barrierPgoff then i915PciBarrierMmap dev env refs area
  else
    match mmapLookup dev.nodes dev.vmFiles area.vmPgoff (vmaPages area) tag with
    | .error err => (refs, .error err)
    | .ok node => mmapNode env refs (dev.mmoOf node.id).1 (dev.mmoOf node.id).2 node.start area

@[simp] theorem Refs.objPut_objGet (refs : Refs) (obj : Nat) : (refs.objGet obj).objPut obj = refs := by
  simp [Refs.objGet, Refs.objPut]

variable {dev : MmapDevice} {env : MmapEnv} {tag : Nat} {refs refs' : Refs} {area : VmArea}
  {mapped : Mapped} {mmo : MmapOffset} {obj : GemObject} {nodeStart : Nat} {err : Int}

/-- `i915_pci_barrier_mmap` fails having taken nothing, or takes one device reference for a
barrier area. -/
theorem i915PciBarrierMmap_cases (dev : MmapDevice) (env : MmapEnv) (refs : Refs) (area : VmArea) :
    (∃ err, i915PciBarrierMmap dev env refs area = (refs, .error err)) ∨
      ∃ mapped : Mapped, mapped.ops = .barrier ∧
        i915PciBarrierMmap dev env refs area = (refs.devGet, .ok mapped) := by
  unfold i915PciBarrierMmap
  by_cases old : dev.graphicsVer < 12
  · rw [if_pos old]; exact .inl ⟨_, rfl⟩
  rw [if_neg old]
  by_cases large : area.vmEnd - area.vmStart > pageSize
  · rw [if_pos large]; exact .inl ⟨_, rfl⟩
  rw [if_neg large]
  by_cases cow : isCowMapping area.vmFlags
  · rw [if_pos cow]; exact .inl ⟨_, rfl⟩
  rw [if_neg cow]
  by_cases readable : (area.vmFlags.read || area.vmFlags.exec) = true
  · rw [if_pos readable]; exact .inl ⟨_, rfl⟩
  rw [if_neg readable]
  by_cases noPfn : (!env.insertPfn) = true
  · rw [if_pos noPfn]; exact .inl ⟨_, rfl⟩
  rw [if_neg noPfn]
  exact .inr ⟨_, rfl, rfl⟩

theorem i915PciBarrierMmap_ok (set : i915PciBarrierMmap dev env refs area = (refs', .ok mapped)) :
    refs' = refs.devGet ∧ mapped.ops = .barrier := by
  rcases i915PciBarrierMmap_cases dev env refs area with ⟨_, failed⟩ | ⟨_, barrier, done⟩
  · rw [failed] at set; cases set
  · rw [done] at set; cases set; exact ⟨rfl, barrier⟩

theorem i915PciBarrierMmap_error (failed : (i915PciBarrierMmap dev env refs area).2 = .error err) :
    (i915PciBarrierMmap dev env refs area).1 = refs := by
  rcases i915PciBarrierMmap_cases dev env refs area with ⟨_, done⟩ | ⟨_, _, done⟩ <;>
    rw [done] at failed ⊢
  cases failed

/-- What a successful `i915_gem_update_vma_info` leaves: one more rc6 vote, the area's
page offset at the node start, no write permission on a read-only object, and this
file's operations unless the object has its own. -/
theorem i915GemUpdateVmaInfo_ok
    (set : i915GemUpdateVmaInfo env refs obj mmo nodeStart area = (refs', .ok mapped)) :
    refs' = refs.disallowRc6 ∧
      mapped.area.vmStart = area.vmStart ∧ mapped.area.vmEnd = area.vmEnd ∧
      mapped.area.vmPgoff = nodeStart ∧
      (obj.readonly → mapped.area.vmFlags.write = false ∧ mapped.area.vmFlags.mayWrite = false) ∧
      mapped.ops = if obj.mmapOps then .objectOps obj.id
        else if mmo.mmapType = .gtt then .gtt mmo obj.id else .cpu mmo obj.id := by
  unfold i915GemUpdateVmaInfo at set
  by_cases refused : (obj.readonly && area.vmFlags.write) = true
  · rw [if_pos refused] at set; cases set
  by_cases noFile : env.singleton ≠ 0
  · rw [if_neg refused, if_pos noFile] at set; cases set
  rw [if_neg refused, if_neg noFile] at set
  dsimp only at set
  have notBoth : obj.readonly = true → area.vmFlags.write = false := by simpa using refused
  by_cases own : obj.mmapOps = true
  · rw [if_pos own] at set; cases set
    exact ⟨rfl, rfl, rfl, rfl, fun readonly => by simp [readonly, notBoth readonly], by rw [if_pos own]⟩
  · rw [if_neg own] at set; cases set
    refine ⟨rfl, rfl, rfl, rfl, fun readonly => by simp [readonly, notBoth readonly], ?_⟩
    rw [if_neg own]
    cases mmo.mmapType <;> rfl

theorem i915GemUpdateVmaInfo_error
    (failed : (i915GemUpdateVmaInfo env refs obj mmo nodeStart area).2 = .error err) :
    (i915GemUpdateVmaInfo env refs obj mmo nodeStart area).1 = refs := by
  unfold i915GemUpdateVmaInfo at failed ⊢
  by_cases refused : (obj.readonly && area.vmFlags.write) = true
  · rw [if_pos refused]
  by_cases noFile : env.singleton ≠ 0
  · rw [if_neg refused, if_pos noFile]
  rw [if_neg refused, if_neg noFile] at failed
  dsimp only at failed
  split at failed <;> cases failed

theorem mmapNode_error (failed : (mmapNode env refs mmo obj nodeStart area).2 = .error err) :
    (mmapNode env refs mmo obj nodeStart area).1 = refs := by
  unfold mmapNode at failed ⊢
  split_ifs
  · rfl
  · split
    · rename_i after _ setupFailed
      have restored : (i915GemUpdateVmaInfo env (refs.objGet obj.id) obj mmo nodeStart area).1 =
          refs.objGet obj.id := i915GemUpdateVmaInfo_error (by rw [setupFailed])
      rw [setupFailed] at restored
      show after.objPut obj.id = refs
      rw [show after = refs.objGet obj.id from restored, Refs.objPut_objGet]
    · rename_i setupOk
      simp_all

theorem mmapNode_ok (set : mmapNode env refs mmo obj nodeStart area = (refs', .ok mapped)) :
    i915GemUpdateVmaInfo env (refs.objGet obj.id) obj mmo nodeStart area = (refs', .ok mapped) := by
  unfold mmapNode at set
  split_ifs at set
  · cases set
  · split at set
    · cases set
    · rename_i setupOk
      cases set
      exact setupOk

/-- A failing `i915_gem_mmap` leaves every reference it counts as it was. -/
theorem i915GemMmap_error (failed : (i915GemMmap dev env tag refs area).2 = .error err) :
    (i915GemMmap dev env tag refs area).1 = refs := by
  unfold i915GemMmap at failed ⊢
  split_ifs at failed ⊢
  · rfl
  · exact i915PciBarrierMmap_error failed
  · cases found : mmapLookup dev.nodes dev.vmFiles area.vmPgoff (vmaPages area) tag with
    | error => rfl
    | ok node =>
        simp only [found] at failed
        exact mmapNode_error failed

/-- A successful `i915_gem_mmap` mapped the barrier page, or the record of the node the
area's page offset names, with the file allowed to map it. -/
theorem i915GemMmap_ok (set : i915GemMmap dev env tag refs area = (refs', .ok mapped)) :
    (area.vmPgoff = dev.barrierPgoff ∧ i915PciBarrierMmap dev env refs area = (refs', .ok mapped)) ∨
      ∃ node, mmapLookup dev.nodes dev.vmFiles area.vmPgoff (vmaPages area) tag = .ok node ∧
        i915GemUpdateVmaInfo env (refs.objGet (dev.mmoOf node.id).2.id) (dev.mmoOf node.id).2
          (dev.mmoOf node.id).1 node.start area = (refs', .ok mapped) := by
  unfold i915GemMmap at set
  split_ifs at set with unplugged barrier
  · cases set
  · exact .inl ⟨barrier, set⟩
  · cases found : mmapLookup dev.nodes dev.vmFiles area.vmPgoff (vmaPages area) tag with
    | error => simp only [found] at set; cases set
    | ok node =>
        simp only [found] at set
        exact .inr ⟨node, rfl, mmapNode_ok set⟩

end GemMman.Mmap

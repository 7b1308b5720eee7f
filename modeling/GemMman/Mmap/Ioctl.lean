import GemMman.Mmap.Setup

namespace GemMman.Mmap

open GemMman.Data GemMman.Registry

/-! `i915_gem_mmap_ioctl`, the legacy CPU mmap ioctl: it finds or creates the object's WB
(or WC) record and maps `[offset, offset + size)` of the object with `vm_mmap` at the
record's fake offset plus `offset`, through `i915_gem_mmap`. The offset ioctls
(`i915_gem_mmap_offset_ioctl`, `i915_gem_dumb_mmap_offset`) only hand userspace the fake
offset of the object's record of the type asked for. -/

/-- `I915_MMAP_WC`, the one flag of `struct drm_i915_gem_mmap` (uapi header). -/
def i915MmapWc : UInt64 := 1

/-- The inputs of `struct drm_i915_gem_mmap`. -/
structure GemMmapArgs where
  handle : Nat
  offset : Nat
  size : Nat
  flags : UInt64

/-- What the ioctl and `__assign_mmap_offset` consult besides the object. -/
structure IoctlEnv where
  patEnabled : Bool := true
  /-- `i915_gem_object_lookup` of a handle. -/
  lookup : Nat → Option GemObject
  /-- `i915_gem_object_never_mmap`. -/
  neverMmap : Bool := false
  /-- `obj->ops->mmap_offset(obj)`, when the object has that operation. -/
  opsMmapOffset : Option Nat := none
  /-- `i915_gem_mmap_offset_attach`: the record's node, or an error. -/
  attach : Except Int VmaNode
  /-- The address `get_unmapped_area` picks. -/
  addr : Nat

/-- `__assign_mmap_offset`: the fake offset, in bytes, of the object's record. -/
def assignMmapOffset (env : IoctlEnv) (obj : GemObject) (mmapType : MmapType) : Except Int Nat :=
  if env.neverMmap then .error (-ENODEV)
  else
    match env.opsMmapOffset with
    | some offset => .ok offset
    | none =>
        if mmapType ≠ .gtt && !obj.hasStructPage && !obj.iomem then .error (-ENODEV)
        else
          match env.attach with
          | .error err => .error err
          | .ok node => .ok (node.start <<< pageShift)

/-- Not in this file: `vm_mmap` of a shared read-write mapping of the DRM file, reduced to
what reaches the driver: the offset must be page-aligned, and the driver's `mmap` gets an
area of the page-rounded length at the address `get_unmapped_area` picks. -/
def vmMmap (mmap : VmArea → Except Int Mapped) (addr len offset : Nat) : Except Int Mapped :=
  if offset % pageSize ≠ 0 then .error (-EINVAL)
  else if len = 0 then .error (-EINVAL)
  else
    mmap { vmStart := addr, vmEnd := addr + (len + pageSize - 1) / pageSize * pageSize
           vmPgoff := offset >>> pageShift
           vmFlags := { read := true, write := true, shared := true, mayRead := true,
                        mayWrite := true, mayExec := true } }

/-- `i915_gem_mmap_ioctl`: the address it stores in `args->addr_ptr`, or the error. -/
def i915GemMmapIoctl (env : IoctlEnv) (mmap : VmArea → Except Int Mapped) (args : GemMmapArgs) :
    Except Int Nat :=
  if args.flags &&& ~~~i915MmapWc ≠ 0 then .error (-EINVAL)
  else if args.flags &&& i915MmapWc ≠ 0 && !env.patEnabled then .error (-ENODEV)
  else
    match env.lookup args.handle with
    | none => .error (-ENOENT)
    | some obj =>
        if args.offset ≥ obj.size ∨ args.size > obj.size - args.offset then .error (-EINVAL)
        else
          let mmapType : MmapType := if args.flags &&& i915MmapWc ≠ 0 then .wc else .wb
          match assignMmapOffset env obj mmapType with
          | .error err => .error err
          | .ok offset =>
              match vmMmap mmap env.addr args.size (offset + args.offset) with
              | .error err => .error err
              | .ok mapped => .ok mapped.area.vmStart

/-- Mapping the second page of a two-page object: the record's node starts at page 0x100,
so `vm_mmap` asks `i915_gem_mmap` for page offset 0x101, where no node starts, and the
ioctl fails with `-EINVAL`. -/
theorem mmap_ioctl_rejects_offset :
    let obj : GemObject := { id := 1, pages := 2, swapto := none, segments := [] }
    let node : VmaNode := ⟨7, 0x100, 2⟩
    let dev : MmapDevice :=
      { barrierPgoff := 0x50, nodes := [node], vmFiles := fun _ => .node .leaf ⟨3, 1⟩ .leaf,
        mmoOf := fun _ => (⟨7, .wb⟩, obj) }
    let env : IoctlEnv := { lookup := fun _ => some obj, attach := .ok node, addr := 0x7f0000000000 }
    let mmap := fun area => (i915GemMmap dev {} 3 {} area).2
    i915GemMmapIoctl env mmap ⟨1, 4096, 4096, 0⟩ = .error (-EINVAL) ∧
      i915GemMmapIoctl env mmap ⟨1, 0, 4096, 0⟩ = .ok 0x7f0000000000 :=
  ⟨rfl, rfl⟩

/-- A device whose offset manager is the object's registry `s`: the nodes and allow-lists
`i915_gem_mmap` looks up are the registry's, the device is there, and the offset manager
keeps every node off the barrier offset. -/
structure Mirrors (dev : MmapDevice) (s : AttachState) : Prop where
  plugged : dev.unplugged = false
  nodes : dev.nodes = s.nodes
  vmFiles : dev.vmFiles = s.vmFiles
  offBarrier : ∀ node ∈ s.nodes, node.start ≠ dev.barrierPgoff

/-- What it takes of a device for the file `tag` to map record `mmo` of `obj` through `node`:
the device is there, the node is not at the barrier offset, the exact lookup accepts the
node at its start for the file and any length up to the node's, the node is the record's,
and it spans the object. -/
structure Serves (dev : MmapDevice) (tag : Nat) (node : VmaNode) (mmo : MmapOffset)
    (obj : GemObject) : Prop where
  plugged : dev.unplugged = false
  notBarrier : node.start ≠ dev.barrierPgoff
  accepted : ∀ span ≤ node.pages, mmapLookup dev.nodes dev.vmFiles node.start span tag = .ok node
  record : dev.mmoOf node.id = (mmo, obj)
  spans : obj.pages ≤ node.pages

section Serving

variable {dev : MmapDevice} {tag : Nat} {node : VmaNode} {mmo : MmapOffset} {obj : GemObject}

/-- A device mirroring the object's registry serves a file the node of any record the file
attached: the lookup accepts the node for the file, and the node spans the object. -/
theorem Mirrors.serves {s : AttachState} {c : Caller} (device : Mirrors dev s)
    (files : FilesValid s) (sized : NodesSized s) (object : s.pages = obj.pages)
    (distinct : (s.nodes.map (·.start)).Nodup) (member : c ∈ s.callers)
    (finished : c.pc = .done (.ok mmo)) (file : c.file = some tag) (present : node ∈ s.nodes)
    (named : node.id = mmo.id) (owner : dev.mmoOf mmo.id = (mmo, obj)) :
    Serves dev tag node mmo obj where
  plugged := device.plugged
  notBarrier := device.offBarrier node present
  accepted := by
    rw [device.nodes, device.vmFiles]
    exact mmapLookup_attached files distinct present member finished named file
  record := named ▸ owner
  spans := ((sized node present).trans object).ge

/-- On such a device, `i915_gem_mmap` of an area at the node's start reaches the record. -/
theorem i915GemMmap_of_serves (serves : Serves dev tag node mmo obj) (env : MmapEnv) (refs : Refs)
    {area : VmArea} (start : area.vmPgoff = node.start) (within : vmaPages area ≤ node.pages) :
    i915GemMmap dev env tag refs area = mmapNode env refs mmo obj node.start area := by
  unfold i915GemMmap
  rw [if_neg (by simp [serves.plugged]), if_neg (start ▸ serves.notBarrier), start,
    serves.accepted _ within]
  simp only [serves.record]

/-- `__assign_mmap_offset` of an object with a backing store, whose record's node `node`
attach returns, hands out the node's byte address. -/
theorem assignMmapOffset_of_attach {env : IoctlEnv} (never : env.neverMmap = false)
    (own : env.opsMmapOffset = none) (backed : obj.hasStructPage = true ∨ obj.iomem = true)
    (attached : env.attach = .ok node) (mmapType : MmapType) :
    assignMmapOffset env obj mmapType = .ok (node.start <<< pageShift) := by
  have unbacked : (decide (mmapType ≠ .gtt) && !obj.hasStructPage && !obj.iomem) = false := by
    rcases backed with backed | backed <;> simp [backed]
  rw [assignMmapOffset, if_neg (by simp [never]), own]
  dsimp only
  rw [if_neg (by simp only [unbacked]; decide), attached]

/-- `vm_mmap` of `len` bytes, at most the object's, at the node's byte address, on a device
that serves the node: `i915_gem_mmap` sets up an area at the address picked, the length
rounded up to pages, at the node's start, with the CPU operations on the record. -/
theorem vmMmap_of_serves (serves : Serves dev tag node mmo obj) (env : MmapEnv) (refs : Refs)
    {addr len : Nat} (positive : 0 < len) (fits : len ≤ obj.size)
    (setup : env.getRcu = true ∧ env.singleton = 0) (writable : obj.readonly = false)
    (plain : obj.mmapOps = false) (cpu : mmo.mmapType ≠ .gtt) :
    ∃ mapped, vmMmap (fun area => (i915GemMmap dev env tag refs area).2) addr len
        (node.start <<< pageShift) = .ok mapped ∧
      mapped.area.vmStart = addr ∧
      mapped.area.vmEnd = addr + (len + pageSize - 1) / pageSize * pageSize ∧
      mapped.area.vmPgoff = node.start ∧ mapped.ops = .cpu mmo obj.id := by
  have aligned : node.start <<< pageShift % pageSize = 0 := by
    simp [Nat.shiftLeft_eq, pageShift_eq, pageSize_eq]
  have within : (addr + (len + pageSize - 1) / pageSize * pageSize - addr) >>> pageShift ≤
      node.pages := by
    have := serves.spans
    simp only [GemObject.size, Nat.shiftRight_eq_div_pow, pageShift_eq, pageSize_eq] at fits ⊢
    omega
  apply Exists.intro
  refine ⟨?mapping, ?_, ?_, ?_, ?_⟩
  case mapping =>
    rw [vmMmap, if_neg (by simpa using aligned), if_neg (by omega),
      i915GemMmap_of_serves serves env refs ?start ?within, mmapNode, if_neg (by simp [setup.1])]
    · simp only [i915GemUpdateVmaInfo, writable, Bool.false_and, Bool.false_eq_true, if_false,
        setup.2, ne_eq, not_true_eq_false, plain, cpu]
      rfl
    · exact Nat.shiftLeft_shiftRight _ _
    · exact within
  all_goals rfl

/-- With an offset of 0, `i915_gem_mmap_ioctl` works on a device whose offset manager is
the object's registry after any run of attach calls that gave the nodes distinct starts: for
a size up to the object's, once `__assign_mmap_offset` hands out the node of the record that
an attach call of the file returned, for the type the ioctl asks for, `vm_mmap` gets an area
at the address it picks, the size rounded up to pages, at the record's node start, so that
`vm_fault_cpu` maps it from the object's first page, with the CPU operations on that record,
and the ioctl returns the area's address. -/
theorem mmapIoctl_maps_from_start (balance : RbInsertColor) (events : List Event)
    {env : IoctlEnv} {menv : MmapEnv} {refs : Refs} {args : GemMmapArgs} {c : Caller}
    (known : args.flags &&& ~~~i915MmapWc = 0)
    (pat : args.flags &&& i915MmapWc ≠ 0 → env.patEnabled = true)
    (found : env.lookup args.handle = some obj) (fromStart : args.offset = 0)
    (fits : 0 < args.size ∧ args.size ≤ obj.size)
    (never : env.neverMmap = false) (own : env.opsMmapOffset = none)
    (backed : obj.hasStructPage = true ∨ obj.iomem = true) (attached : env.attach = .ok node)
    (setup : menv.getRcu = true ∧ menv.singleton = 0) (writable : obj.readonly = false)
    (plain : obj.mmapOps = false) :
    let s := run balance (initial obj.pages) events
    Mirrors dev s → (s.nodes.map (·.start)).Nodup → c ∈ s.callers →
      c.pc = .done (.ok mmo) → c.file = some tag →
      c.mmapType = (if args.flags &&& i915MmapWc ≠ 0 then .wc else .wb) →
      node ∈ s.nodes → node.id = mmo.id → dev.mmoOf mmo.id = (mmo, obj) →
      let mmap := fun area => (i915GemMmap dev menv tag refs area).2
      i915GemMmapIoctl env mmap args = .ok env.addr ∧
        ∃ mapped, vmMmap mmap env.addr args.size (node.start <<< pageShift) = .ok mapped ∧
          mapped.area.vmStart = env.addr ∧
          mapped.area.vmEnd = env.addr + (args.size + pageSize - 1) / pageSize * pageSize ∧
          mapped.area.vmPgoff = node.start ∧ mapped.ops = .cpu mmo obj.id := by
  intro s device distinct member finished file typed present named owner mmap
  have records : Valid s := (valid_initial obj.pages).run balance events
  have sized := @NodesSized.run (initial obj.pages) balance events nofun
  have serves := device.serves ((filesValid_initial obj.pages).run events) sized.2 sized.1
    distinct member finished file present named owner
  have registered := records.obtained c member mmo (by rw [finished]; rfl)
  have cpu : mmo.mmapType ≠ .gtt := by
    rw [((lookupMmo_eq_some_iff records.ordered).mp registered).2, typed]
    split <;> nofun
  obtain ⟨mapped, mapping, start, rest⟩ :=
    vmMmap_of_serves serves menv refs fits.1 fits.2 setup writable plain cpu
  refine ⟨?_, mapped, mapping, start, rest⟩
  have allowed : ¬(args.flags &&& i915MmapWc ≠ 0 && !env.patEnabled) = true := by
    by_cases wc : args.flags &&& i915MmapWc ≠ 0 <;> simp_all
  have inRange : ¬(args.offset ≥ obj.size ∨ args.size > obj.size - args.offset) := by omega
  rw [i915GemMmapIoctl, if_neg (by simpa using known), if_neg allowed, found]
  dsimp only
  rw [if_neg inRange, assignMmapOffset_of_attach never own backed attached]
  dsimp only
  rw [fromStart, Nat.add_zero, mapping]
  exact congrArg _ start

/-- The two-page object of the test above, mapped whole from its start after one file's
attach call put its WB record's node at page 0x100: the area is at the address picked, two
pages long, at that node's start, with the CPU operations on the record. -/
theorem mmapIoctl_maps_two_pages :
    let obj : GemObject := { id := 1, pages := 2, swapto := none, segments := [] }
    let s := run RbInsertColor.none (initial 2) [.call .wb (some 3), .run 0 true 0x100,
      .run 0 true 0x100, .run 0 true 0x100, .run 0 true 0x100, .run 0 true 0x100,
      .run 0 true 0x100]
    let dev : MmapDevice :=
      { barrierPgoff := 0x50, nodes := s.nodes, vmFiles := s.vmFiles,
        mmoOf := fun _ => (⟨0, .wb⟩, obj) }
    let env : IoctlEnv :=
      { lookup := fun _ => some obj, attach := .ok ⟨0, 0x100, 2⟩, addr := 0x7f0000000000 }
    let mmap := fun area => (i915GemMmap dev {} 3 {} area).2
    s.callers = [⟨.wb, some 3, .done (.ok ⟨0, .wb⟩)⟩] ∧ s.nodes = [⟨0, 0x100, 2⟩] ∧
      i915GemMmapIoctl env mmap ⟨1, 0, 8192, 0⟩ = .ok 0x7f0000000000 ∧
      ∃ mapped, vmMmap mmap 0x7f0000000000 8192 (0x100 <<< pageShift) = .ok mapped ∧
        mapped.area.vmStart = 0x7f0000000000 ∧ mapped.area.vmEnd = 0x7f0000002000 ∧
        mapped.area.vmPgoff = 0x100 ∧ mapped.ops = .cpu ⟨0, .wb⟩ 1 :=
  ⟨rfl, rfl, @mmapIoctl_maps_from_start _ 3 ⟨0, 0x100, 2⟩ ⟨0, .wb⟩
    { id := 1, pages := 2, swapto := none, segments := [] } RbInsertColor.none
    [.call .wb (some 3), .run 0 true 0x100, .run 0 true 0x100, .run 0 true 0x100,
      .run 0 true 0x100, .run 0 true 0x100, .run 0 true 0x100]
    _ {} {} ⟨1, 0, 8192, 0⟩ ⟨.wb, some 3, .done (.ok ⟨0, .wb⟩)⟩ (by decide) (by decide) rfl rfl
    (by decide) rfl rfl (by decide) rfl ⟨rfl, rfl⟩ rfl rfl
    ⟨rfl, rfl, rfl, by decide⟩ (by decide) (List.mem_singleton_self _) rfl rfl rfl
    (List.mem_singleton_self _) rfl rfl⟩

end Serving

/-- The `flags` of `struct drm_i915_gem_mmap_offset` this file accepts (uapi header). -/
def i915MmapOffsetGtt : UInt64 := 0

def i915MmapOffsetWc : UInt64 := 1

def i915MmapOffsetWb : UInt64 := 2

def i915MmapOffsetUc : UInt64 := 3

/-- The inputs of `struct drm_i915_gem_mmap_offset`. -/
structure GemMmapOffsetArgs where
  handle : Nat
  flags : UInt64

/-- `__assign_mmap_offset_handle`: the object's reference from the lookup is dropped again
after `__assign_mmap_offset`. -/
def assignMmapOffsetHandle (env : IoctlEnv) (handle : Nat) (mmapType : MmapType) :
    Except Int Nat :=
  match env.lookup handle with
  | none => .error (-ENOENT)
  | some obj => assignMmapOffset env obj mmapType

/-- `i915_gem_dumb_mmap_offset`; `hasAperture` is `i915_ggtt_has_aperture(to_gt(i915)->ggtt)`. -/
def i915GemDumbMmapOffset (env : IoctlEnv) (hasAperture : Bool) (handle : Nat) :
    Except Int Nat :=
  if env.patEnabled then assignMmapOffsetHandle env handle .wc
  else if !hasAperture then .error (-ENODEV)
  else assignMmapOffsetHandle env handle .gtt

/-- The `switch (args->flags)` of `i915_gem_mmap_offset_ioctl`: the type asked for, if the
device can serve it. -/
def mmapOffsetType (patEnabled hasAperture : Bool) (flags : UInt64) : Except Int MmapType :=
  if flags = i915MmapOffsetGtt then if !hasAperture then .error (-ENODEV) else .ok .gtt
  else if flags = i915MmapOffsetWc then if !patEnabled then .error (-ENODEV) else .ok .wc
  else if flags = i915MmapOffsetWb then .ok .wb
  else if flags = i915MmapOffsetUc then if !patEnabled then .error (-ENODEV) else .ok .uc
  else .error (-EINVAL)

/-- `i915_gem_mmap_offset_ioctl`: the offset it stores in `args->offset`, or the error.
`extensions` is what `i915_user_extensions` returns for the chain, with no extension
defined. -/
def i915GemMmapOffsetIoctl (env : IoctlEnv) (hasAperture : Bool) (extensions : Int)
    (args : GemMmapOffsetArgs) : Except Int Nat :=
  if extensions ≠ 0 then .error extensions
  else
    match mmapOffsetType env.patEnabled hasAperture args.flags with
    | .error err => .error err
    | .ok mmapType => assignMmapOffsetHandle env args.handle mmapType

end GemMman.Mmap

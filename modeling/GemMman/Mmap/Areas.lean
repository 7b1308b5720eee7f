import GemMman.Mmap.References
import GemMman.Revoke.Coverage
import GemMman.Fault.Gtt
import GemMman.Fault.Access

namespace GemMman.Mmap

open GemMman.Data GemMman.Fault GemMman.Registry GemMman.Revoke

/-! The areas of a run of mappings and what their faults map. `i915_gem_mmap` sets an area
up at the start of the node its exact lookup found, spanning at most the node; splits
move the upper part's page offset up by the pages cut off. So every live area lies within
its record's node, which is what the fault handlers assume of `vm_pgoff -
drm_vma_node_start`, and, on a device whose nodes are those of the objects' records, every
page a CPU fault maps into a live area is zapped when its object's mappings are
released. A read-only object is never written through this file: its areas are set up
without write permission, and each path that could write (a write fault of either
handler, a write through `vm_access`) stops before it pins, remaps or copies anything. -/

/-- The record and object behind an area with this file's CPU or GTT operations. -/
def VmOps.record : VmOps → Option (MmapOffset × Nat)
  | .cpu mmo obj => some (mmo, obj)
  | .gtt mmo obj => some (mmo, obj)
  | .barrier => none
  | .objectOps _ => none

/-- An event on the one device `dev`, whose areas, as the kernel makes them, span whole
pages. -/
def MapEvent.OnDevice (dev : MmapDevice) : MapEvent → Prop
  | .mmap d _ _ area => d = dev ∧ (area.vmEnd - area.vmStart) % pageSize = 0
  | _ => True

/-- The operations `i915_gem_update_vma_info` installs match the record's type: GTT
operations for a GTT record, CPU operations for a WC, WB or UC one. -/
def VmOps.Typed : VmOps → Prop
  | .cpu mmo _ => mmo.mmapType ≠ .gtt
  | .gtt mmo _ => mmo.mmapType = .gtt
  | .barrier => True
  | .objectOps _ => True

/-- An area on record `mmo` of object `obj` lies within a node of the device whose record
that is: its page offset is at or past the node's start, so `vm_pgoff -
drm_vma_node_start` does not underflow, and it ends within the node. -/
structure InRecord (dev : MmapDevice) (mapped : Mapped) : Prop where
  within : ∀ mmo obj, mapped.ops.record = some (mmo, obj) →
    ∃ node ∈ dev.nodes, (dev.mmoOf node.id).1 = mmo ∧ (dev.mmoOf node.id).2.id = obj ∧
      node.start ≤ mapped.area.vmPgoff ∧
      (mapped.area.vmPgoff - node.start) * pageSize + (mapped.area.vmEnd - mapped.area.vmStart) ≤
        node.pages * pageSize
  typed : mapped.ops.Typed

variable {dev : MmapDevice} {env : MmapEnv} {tag : Nat} {refs refs' : Refs} {area : VmArea}
  {mapped : Mapped}

/-- `i915_gem_mmap` sets an area up within the node its exact lookup found, at the node's
start, with the operations of the record's type. -/
theorem inRecord_of_mmap (aligned : (area.vmEnd - area.vmStart) % pageSize = 0)
    (set : i915GemMmap dev env tag refs area = (refs', .ok mapped)) : InRecord dev mapped := by
  rcases i915GemMmap_ok set with ⟨-, barrier⟩ | ⟨node, found, setup⟩
  · have ops := (i915PciBarrierMmap_ok barrier).2
    exact ⟨fun mmo obj recorded => (by rw [ops] at recorded; cases recorded), by rw [ops]; trivial⟩
  obtain ⟨present, start, spans⟩ := drmVmaOffsetExactLookup_some (mmapLookup_found found)
  obtain ⟨-, sameStart, sameEnd, pgoff, -, ops⟩ := i915GemUpdateVmaInfo_ok setup
  have fits : (mapped.area.vmPgoff - node.start) * pageSize +
      (mapped.area.vmEnd - mapped.area.vmStart) ≤ node.pages * pageSize := by
    rw [sameStart, sameEnd, pgoff]
    simp only [vmaPages, Nat.shiftRight_eq_div_pow, pageShift_eq, pageSize_eq] at spans aligned ⊢
    omega
  refine ⟨fun mmo obj recorded => ⟨node, present, ?_⟩, ?_⟩
  · have named : (dev.mmoOf node.id).1 = mmo ∧ (dev.mmoOf node.id).2.id = obj := by
      rw [ops] at recorded
      split_ifs at recorded <;>
        simp only [VmOps.record, Option.some.injEq, Prod.mk.injEq, reduceCtorEq] at recorded <;>
        exact recorded
    exact ⟨named.1, named.2, by omega, fits⟩
  · rw [ops]
    split_ifs with own gtt
    exacts [trivial, gtt, gtt]

/-- Both parts of a split area stay within the node: the upper part's page offset moves up
by the pages cut off. -/
theorem InRecord.split (within : InRecord dev mapped) {addr : Nat}
    (inside : mapped.area.vmStart < addr ∧ addr < mapped.area.vmEnd) :
    InRecord dev (splitArea mapped addr).1 ∧ InRecord dev (splitArea mapped addr).2 := by
  refine ⟨⟨fun mmo obj recorded => ?_, within.typed⟩,
      ⟨fun mmo obj recorded => ?_, within.typed⟩⟩ <;>
    obtain ⟨node, present, named, object, start, fits⟩ := within.within mmo obj recorded <;>
    refine ⟨node, present, named, object, ?_, ?_⟩ <;>
    simp only [splitArea, Nat.shiftRight_eq_div_pow, pageShift_eq, pageSize_eq] at fits ⊢ <;>
    omega

section Run

/-! A property of areas that every area `i915_gem_mmap` sets up has, under the events a run
allows, and that both parts of a split inherit, holds of every live area of the run:
duplicates are copies and closes only remove areas. -/

variable (P : Mapped → Prop) (Allowed : MapEvent → Prop)
  (mmapped : ∀ {dev env tag refs area refs' mapped}, Allowed (.mmap dev env tag area) →
    i915GemMmap dev env tag refs area = (refs', .ok mapped) → P mapped)
  (split : ∀ {mapped addr}, P mapped → mapped.area.vmStart < addr ∧ addr < mapped.area.vmEnd →
    P (splitArea mapped addr).1 ∧ P (splitArea mapped addr).2)
include mmapped split

theorem mapStep_areas {s : MapState} (holds : ∀ mapped ∈ s.areas, P mapped) :
    ∀ {event : MapEvent}, Allowed event → ∀ mapped ∈ (mapStep s event).areas, P mapped
  | .mmap dev env tag area, allowed => by
      simp only [mapStep]
      cases result : i915GemMmap dev env tag s.refs area with
      | mk refs' outcome =>
          cases outcome with
          | error => exact holds
          | ok mapped =>
              intro other member
              rcases List.mem_append.mp member with old | new
              · exact holds other old
              · rw [List.mem_singleton.mp new]
                exact mmapped allowed result
  | .dup index, _ => by
      simp only [mapStep]
      cases found : s.areas[index]? with
      | none => exact holds
      | some mapped =>
          intro other member
          rcases List.mem_append.mp member with old | new
          · exact holds other old
          · rw [List.mem_singleton.mp new]
            exact holds mapped (List.getElem?_mem found)
  | .split index addr, _ => by
      simp only [mapStep]
      cases found : s.areas[index]? with
      | none => exact holds
      | some mapped =>
          dsimp only
          by_cases inside : mapped.area.vmStart < addr ∧ addr < mapped.area.vmEnd
          · rw [if_pos inside]
            have parts := split (holds mapped (List.getElem?_mem found)) inside
            intro other member
            rcases List.mem_append.mp member with old | new
            · exact holds other (List.mem_of_mem_erase old)
            · simp only [List.mem_cons, List.mem_singleton, List.not_mem_nil, or_false] at new
              rcases new with rfl | rfl
              exacts [parts.1, parts.2]
          · rw [if_neg inside]
            exact holds
  | .close index, _ => by
      simp only [mapStep]
      cases found : s.areas[index]? with
      | none => exact holds
      | some mapped => exact fun other kept => holds other (List.mem_of_mem_erase kept)

theorem mapRun_areas (events : List MapEvent) {s : MapState}
    (holds : ∀ mapped ∈ s.areas, P mapped) (allowed : ∀ event ∈ events, Allowed event) :
    ∀ mapped ∈ (mapRun s events).areas, P mapped := by
  induction events generalizing s with
  | nil => exact holds
  | cons event rest ih =>
      exact ih (mapStep_areas P Allowed mmapped split holds (allowed event (.head _)))
        fun later member => allowed later (.tail _ member)

theorem areas_mapRun (events : List MapEvent) (allowed : ∀ event ∈ events, Allowed event) :
    ∀ mapped ∈ (mapRun {} events).areas, P mapped :=
  mapRun_areas P Allowed mmapped split events (fun _ member => nomatch member) allowed

end Run

theorem inRecord_mapRun (events : List MapEvent) (onDevice : ∀ event ∈ events, event.OnDevice dev) :
    ∀ mapped ∈ (mapRun {} events).areas, InRecord dev mapped :=
  areas_mapRun (InRecord dev) (MapEvent.OnDevice dev)
    (fun ⟨rfl, aligned⟩ result => inRecord_of_mmap aligned result)
    (fun within inside => within.split inside) events onDevice

/-- Over every sequence of `i915_gem_mmap` calls on one device, duplications, splits and
closes, every live area with this file's CPU or GTT operations has the operations of its
record's type, and lies within the node of its record: its page offset is at or past the
node's start and it ends within the node. -/
theorem areas_within_records (dev : MmapDevice) (events : List MapEvent)
    (onDevice : ∀ event ∈ events, event.OnDevice dev) :
    ∀ mapped ∈ (mapRun {} events).areas, mapped.ops.Typed ∧
      ∀ mmo obj, mapped.ops.record = some (mmo, obj) →
        ∃ node ∈ dev.nodes, (dev.mmoOf node.id).1 = mmo ∧ (dev.mmoOf node.id).2.id = obj ∧
          node.start ≤ mapped.area.vmPgoff ∧
          (mapped.area.vmPgoff - node.start) * pageSize + (mapped.area.vmEnd - mapped.area.vmStart) ≤
            node.pages * pageSize := fun mapped member =>
  have within := inRecord_mapRun events onDevice mapped member
  ⟨within.typed, within.within⟩

/-- A two-page mapping of a record whose node starts at page 0x100, split after its first
page. -/
theorem areas_within_records_split :
    let obj : GemObject := { id := 1, pages := 2, swapto := none, segments := [] }
    let dev : MmapDevice :=
      { barrierPgoff := 0x50, nodes := [⟨7, 0x100, 2⟩],
        vmFiles := fun _ => .node .leaf ⟨3, 1⟩ .leaf,
        mmoOf := fun _ => (⟨7, .wb⟩, obj) }
    let events : List MapEvent :=
      [.mmap dev {} 3 { vmStart := 0x7f0000000000, vmEnd := 0x7f0000002000, vmPgoff := 0x100 },
        .split 0 0x7f0000001000]
    (∀ event ∈ events, event.OnDevice dev) ∧
      ∀ mapped ∈ (mapRun {} events).areas, mapped.ops.Typed ∧
        ∀ mmo obj, mapped.ops.record = some (mmo, obj) →
          ∃ node ∈ dev.nodes, (dev.mmoOf node.id).1 = mmo ∧ (dev.mmoOf node.id).2.id = obj ∧
            node.start ≤ mapped.area.vmPgoff ∧
            (mapped.area.vmPgoff - node.start) * pageSize +
              (mapped.area.vmEnd - mapped.area.vmStart) ≤ node.pages * pageSize := by
  intro obj dev events
  have onDevice : ∀ event ∈ events, event.OnDevice dev := by simp [events, MapEvent.OnDevice]
  exact ⟨onDevice, areas_within_records _ _ onDevice⟩

/-- A device whose offset manager holds the nodes of the objects' records: each node is
that of a record in its object's tree, whose `drm_vma_node_start` `starts` gives, it spans
the object, and the object has the layout its release relies on. -/
structure Registered (dev : MmapDevice) (offsets : Nat → RbTree MmapOffset) (starts : Nat → Nat) :
    Prop where
  recorded : ∀ node ∈ dev.nodes,
    (dev.mmoOf node.id).1 ∈ (offsets (dev.mmoOf node.id).2.id).postorder
  started : ∀ node ∈ dev.nodes, starts (dev.mmoOf node.id).1.id = node.start
  sized : ∀ node ∈ dev.nodes, node.pages = (dev.mmoOf node.id).2.pages
  layout : ∀ node ∈ dev.nodes, SegmentLayout (dev.mmoOf node.id).2

/-- Over every sequence of mappings on a device whose nodes are those of the objects'
records, with `CPTCFG_DRM_I915_CHICKEN_MMAP_SWAP` off: for every live area with CPU
operations, every page that `vm_fault_cpu` (on the record's object, from its node's start)
maps for a fault in the area is zapped by `i915_gem_object_release_mmap_offset` of the
object it maps, the record's object or the segment holding the page. -/
theorem live_cpu_faults_revocable (dev : MmapDevice) {offsets : Nat → RbTree MmapOffset}
    {starts : Nat → Nat} (registered : Registered dev offsets starts) (events : List MapEvent)
    (onDevice : ∀ event ∈ events, event.OnDevice dev) {swap : SwapEnv}
    (noSwap : swap.mmapSwap = false) :
    ∀ mapped ∈ (mapRun {} events).areas, ∀ mmo obj, mapped.ops = .cpu mmo obj →
      ∃ node ∈ dev.nodes, (dev.mmoOf node.id).1 = mmo ∧ (dev.mmoOf node.id).2.id = obj ∧
        ∀ address, mapped.area.vmStart ≤ address → address < mapped.area.vmEnd →
        ∀ invalidate rounds call, .remap call ∈
          (vmFaultCpu invalidate swap mapped.area (dev.mmoOf node.id).2 node.start address
            rounds).1 →
          ∃ target, (target = (dev.mmoOf node.id).2 ∨ target ∈ (dev.mmoOf node.id).2.segments) ∧
            target.id = call.obj ∧ ∀ u, call.start ≤ u → u < call.start + call.size →
              ∃ range ∈ i915GemObjectReleaseMmapOffset offsets starts target,
                unmapMappingRange range.1 range.2 (linearPageIndex mapped.area u) = true := by
  intro mapped member mmo obj cpuOps
  have within := inRecord_mapRun events onDevice mapped member
  have typed : mmo.mmapType ≠ .gtt := by
    have := within.typed
    rwa [cpuOps] at this
  obtain ⟨node, present, named, object, start, fits⟩ :=
    within.within mmo obj (by rw [cpuOps]; rfl)
  refine ⟨node, present, named, object, fun address lower upper invalidate rounds call => ?_⟩
  have started : starts mmo.id = node.start := named ▸ registered.started node present
  rw [← started]
  refine vmFaultCpu_remaps_revocable (registered.layout node present)
    (named ▸ registered.recorded node present) typed (started ▸ start) ?_ ⟨lower, upper⟩ noSwap
    invalidate rounds call
  rw [started, GemObject.size, ← registered.sized node present]
  exact fits

/-- A WB record of an object of two four-page segments, its node at page 0x100: the area
mapped from it and split after its fifth page. -/
theorem live_cpu_faults_revocable_segments :
    let segment : Nat → GemObject := fun i =>
      { id := 2 + i, pages := 4, isSegment := true, segmentOffset := i * 4 * 4096,
        parent := some 1, swapto := none, segments := [] }
    let obj : GemObject :=
      { id := 1, pages := 8, swapto := none, segments := [segment 0, segment 1] }
    let dev : MmapDevice :=
      { barrierPgoff := 0x50, nodes := [⟨7, 0x100, 8⟩],
        vmFiles := fun _ => .node .leaf ⟨3, 1⟩ .leaf,
        mmoOf := fun _ => (⟨7, .wb⟩, obj) }
    let offsets : Nat → RbTree MmapOffset := fun id =>
      if id = 1 then .node .leaf ⟨7, .wb⟩ .leaf else .leaf
    let starts : Nat → Nat := fun _ => 0x100
    let events : List MapEvent :=
      [.mmap dev {} 3 { vmStart := 0x7f0000000000, vmEnd := 0x7f0000008000, vmPgoff := 0x100 },
        .split 0 0x7f0000005000]
    let swap : SwapEnv := {}
    Registered dev offsets starts ∧ (∀ event ∈ events, event.OnDevice dev) ∧
      swap.mmapSwap = false ∧
      ∀ mapped ∈ (mapRun {} events).areas, ∀ mmo obj, mapped.ops = .cpu mmo obj →
        ∃ node ∈ dev.nodes, (dev.mmoOf node.id).1 = mmo ∧ (dev.mmoOf node.id).2.id = obj ∧
          ∀ address, mapped.area.vmStart ≤ address → address < mapped.area.vmEnd →
          ∀ invalidate rounds call, .remap call ∈
            (vmFaultCpu invalidate swap mapped.area (dev.mmoOf node.id).2 node.start address
              rounds).1 →
            ∃ target, (target = (dev.mmoOf node.id).2 ∨ target ∈ (dev.mmoOf node.id).2.segments) ∧
              target.id = call.obj ∧ ∀ u, call.start ≤ u → u < call.start + call.size →
                ∃ range ∈ i915GemObjectReleaseMmapOffset offsets starts target,
                  unmapMappingRange range.1 range.2 (linearPageIndex mapped.area u) = true := by
  intro segment obj dev offsets starts events swap
  have registered : Registered dev offsets starts := by
    refine ⟨?_, ?_, ?_, ?_⟩ <;> intro node member <;>
      simp only [dev, List.mem_singleton] at member <;> subst member
    · decide
    · rfl
    · rfl
    · exact ⟨rfl, by decide⟩
  have onDevice : ∀ event ∈ events, event.OnDevice dev := by simp [events, MapEvent.OnDevice]
  exact ⟨registered, onDevice, rfl, live_cpu_faults_revocable dev registered events onDevice rfl⟩

/-- A device whose nodes span their records' objects, and whose objects' segments start on
page boundaries. -/
structure Spanning (dev : MmapDevice) : Prop where
  sized : ∀ node ∈ dev.nodes, node.pages = (dev.mmoOf node.id).2.pages
  aligned : ∀ node ∈ dev.nodes, ∀ segment ∈ (dev.mmoOf node.id).2.segments,
    segment.segmentOffset % pageSize = 0

/-- The page a window's remap installs at each of its addresses is inside the window's
object and, counted from the record's object's first page (`base` is where the window's
object starts in it), is the page the address's file offset names, less the node's start. -/
theorem window_pages_linear {window : CpuWindow} {area : VmArea} {address nodeStart base : Nat}
    (maps : window.Maps area address (area.vmPgoff - nodeStart) base)
    (start : nodeStart ≤ area.vmPgoff) (id : Nat) :
    ∀ u, window.vmStart ≤ u → u < window.vmStart + window.vmSize →
      ∃ page, (SgRemap.mk id window.vmStart window.vmSize window.objOffset).pageAt u = some page ∧
        page < window.obj.pages ∧ page + base = linearPageIndex area u - nodeStart := by
  intro u low high
  obtain ⟨page, installed, -, shifted, inside⟩ := maps.pages id u low high
  refine ⟨page, installed, inside, ?_⟩
  simp only [linearPageIndex, Nat.shiftRight_eq_div_pow, pageShift_eq, pageSize_eq] at shifted ⊢
  omega

/-- Over every sequence of mappings on a device whose nodes span their objects, with
`CPTCFG_DRM_I915_CHICKEN_MMAP_SWAP` off: for every live area with CPU operations, every
`remap_io_sg` of `vm_fault_cpu` for a fault in the area stays inside the area, covers the
faulting address, and maps each address to a page inside the object it maps (the record's
object, or the segment holding the faulting page): the page the address's file offset
names, counted from the node's start. -/
theorem live_cpu_faults_in_bounds (dev : MmapDevice) (spanning : Spanning dev)
    (events : List MapEvent) (onDevice : ∀ event ∈ events, event.OnDevice dev) {swap : SwapEnv}
    (noSwap : swap.mmapSwap = false) :
    ∀ mapped ∈ (mapRun {} events).areas, ∀ mmo obj, mapped.ops = .cpu mmo obj →
      ∃ node ∈ dev.nodes, (dev.mmoOf node.id).1 = mmo ∧ (dev.mmoOf node.id).2.id = obj ∧
        ∀ address, mapped.area.vmStart ≤ address → address < mapped.area.vmEnd →
        ∀ invalidate rounds call, .remap call ∈
          (vmFaultCpu invalidate swap mapped.area (dev.mmoOf node.id).2 node.start address
            rounds).1 →
          mapped.area.vmStart ≤ call.start ∧ call.start + call.size ≤ mapped.area.vmEnd ∧
            call.start ≤ address ∧ address < call.start + call.size ∧
            ∃ target base, (target = (dev.mmoOf node.id).2 ∧ base = 0 ∨
                target ∈ (dev.mmoOf node.id).2.segments ∧
                  base = target.segmentOffset / pageSize) ∧
              target.id = call.obj ∧ ∀ u, call.start ≤ u → u < call.start + call.size →
                ∃ page, call.pageAt u = some page ∧ page < target.pages ∧
                  page + base = linearPageIndex mapped.area u - node.start := by
  intro mapped member mmo obj cpuOps
  obtain ⟨node, present, named, object, start, fits⟩ :=
    (inRecord_mapRun events onDevice mapped member).within mmo obj (by rw [cpuOps]; rfl)
  refine ⟨node, present, named, object,
    fun address lower upper invalidate rounds call remapped => ?_⟩
  obtain ⟨window, found, rfl⟩ := vmFaultCpu_remap_of_no_swap noSwap remapped
  have spans : (mapped.area.vmPgoff - node.start) * pageSize +
      (mapped.area.vmEnd - mapped.area.vmStart) ≤ (dev.mmoOf node.id).2.size := by
    rw [GemObject.size, ← spanning.sized node present]
    exact fits
  obtain ⟨base, which, maps⟩ :=
    cpuFaultWindow_within (spanning.aligned node present) spans ⟨lower, upper⟩ found
  exact ⟨maps.within.1, maps.within.2, maps.holds.1, maps.holds.2, window.obj, base, which, rfl,
    window_pages_linear maps start window.obj.id⟩

/-- The object of two four-page segments above, mapped whole and split after its fifth
page: faults on either part map inside the segment holding the page. -/
theorem live_cpu_faults_in_bounds_segments :
    let segment : Nat → GemObject := fun i =>
      { id := 2 + i, pages := 4, isSegment := true, segmentOffset := i * 4 * 4096,
        parent := some 1, swapto := none, segments := [] }
    let obj : GemObject :=
      { id := 1, pages := 8, swapto := none, segments := [segment 0, segment 1] }
    let dev : MmapDevice :=
      { barrierPgoff := 0x50, nodes := [⟨7, 0x100, 8⟩],
        vmFiles := fun _ => .node .leaf ⟨3, 1⟩ .leaf,
        mmoOf := fun _ => (⟨7, .wb⟩, obj) }
    let events : List MapEvent :=
      [.mmap dev {} 3 { vmStart := 0x7f0000000000, vmEnd := 0x7f0000008000, vmPgoff := 0x100 },
        .split 0 0x7f0000005000]
    let swap : SwapEnv := {}
    Spanning dev ∧ (∀ event ∈ events, event.OnDevice dev) ∧ swap.mmapSwap = false ∧
      ∀ mapped ∈ (mapRun {} events).areas, ∀ mmo obj, mapped.ops = .cpu mmo obj →
        ∃ node ∈ dev.nodes, (dev.mmoOf node.id).1 = mmo ∧ (dev.mmoOf node.id).2.id = obj ∧
          ∀ address, mapped.area.vmStart ≤ address → address < mapped.area.vmEnd →
          ∀ invalidate rounds call, .remap call ∈
            (vmFaultCpu invalidate swap mapped.area (dev.mmoOf node.id).2 node.start address
              rounds).1 →
            mapped.area.vmStart ≤ call.start ∧ call.start + call.size ≤ mapped.area.vmEnd ∧
              call.start ≤ address ∧ address < call.start + call.size ∧
              ∃ target base, (target = (dev.mmoOf node.id).2 ∧ base = 0 ∨
                  target ∈ (dev.mmoOf node.id).2.segments ∧
                    base = target.segmentOffset / pageSize) ∧
                target.id = call.obj ∧ ∀ u, call.start ≤ u → u < call.start + call.size →
                  ∃ page, call.pageAt u = some page ∧ page < target.pages ∧
                    page + base = linearPageIndex mapped.area u - node.start := by
  intro segment obj dev events swap
  have spanning : Spanning dev := by
    refine ⟨?_, ?_⟩ <;> intro node member <;>
      simp only [dev, List.mem_singleton] at member <;> subst member
    · rfl
    · decide
  have onDevice : ∀ event ∈ events, event.OnDevice dev := by simp [events, MapEvent.OnDevice]
  exact ⟨spanning, onDevice, rfl, live_cpu_faults_in_bounds dev spanning events onDevice rfl⟩

section ReadOnly

variable {obj : GemObject}

theorem read_only_never_written (readonly : obj.readonly = true) :
    (∀ env refs mmo nodeStart (area : VmArea), area.vmFlags.write = true →
      i915GemUpdateVmaInfo env refs obj mmo nodeStart area = (refs, .error (-EINVAL))) ∧
    (∀ env refs mmo nodeStart area refs' mapped,
      i915GemUpdateVmaInfo env refs obj mmo nodeStart area = (refs', .ok mapped) →
        mapped.area.vmFlags.write = false ∧ mapped.area.vmFlags.mayWrite = false) ∧
    (∀ invalidate swap (area : VmArea) nodeStart address rounds, area.vmFlags.write = true →
      vmFaultCpu invalidate swap area obj nodeStart address rounds = ([], some .sigbus)) ∧
    (∀ hasLlc gmadrStart (area : VmArea) address env rest, area.vmFlags.write = true →
      (vmFaultGtt hasLlc gmadrStart area obj address (env :: rest)).1 = [] ∧
        (env.lock = 0 → (vmFaultGtt hasLlc gmadrStart area obj address (env :: rest)).2 =
          some .sigbus)) ∧
    (∀ area addr len rounds, vmAccess area obj addr len true rounds = ([], some (-EACCES))) := by
  refine ⟨fun env refs mmo nodeStart area write => ?_, fun env refs mmo nodeStart area refs' mapped set =>
    ((i915GemUpdateVmaInfo_ok set).2.2.2.2.1 readonly), fun invalidate swap area nodeStart address
    rounds write => ?_, fun hasLlc gmadrStart area address env rest write =>
    ⟨vmFaultGtt_read_only readonly hasLlc gmadrStart write address _, fun locked => ?_⟩,
    fun area addr len rounds => ?_⟩
  · simp [i915GemUpdateVmaInfo, readonly, write]
  · simp [vmFaultCpu, readonly, write]
  · simp [vmFaultGtt, vmFaultGttPass_read_only readonly hasLlc gmadrStart write address env, locked,
      EFAULT, EDEADLK, i915ErrorToVmfFault]
  · simp [vmAccess, vmAccessTarget, readonly]

theorem read_only_never_written_object :
    let obj : GemObject := { id := 1, pages := 1, readonly := true, swapto := none, segments := [] }
    obj.readonly = true ∧
      (∀ env refs mmo nodeStart (area : VmArea), area.vmFlags.write = true →
        i915GemUpdateVmaInfo env refs obj mmo nodeStart area = (refs, .error (-EINVAL))) ∧
      (∀ env refs mmo nodeStart area refs' mapped,
        i915GemUpdateVmaInfo env refs obj mmo nodeStart area = (refs', .ok mapped) →
          mapped.area.vmFlags.write = false ∧ mapped.area.vmFlags.mayWrite = false) ∧
      (∀ invalidate swap (area : VmArea) nodeStart address rounds, area.vmFlags.write = true →
        vmFaultCpu invalidate swap area obj nodeStart address rounds = ([], some .sigbus)) ∧
      (∀ hasLlc gmadrStart (area : VmArea) address env rest, area.vmFlags.write = true →
        (vmFaultGtt hasLlc gmadrStart area obj address (env :: rest)).1 = [] ∧
          (env.lock = 0 → (vmFaultGtt hasLlc gmadrStart area obj address (env :: rest)).2 =
            some .sigbus)) ∧
      (∀ area addr len rounds, vmAccess area obj addr len true rounds = ([], some (-EACCES))) :=
  ⟨rfl, read_only_never_written rfl⟩

end ReadOnly

end GemMman.Mmap

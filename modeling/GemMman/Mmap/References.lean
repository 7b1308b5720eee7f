import Mathlib.Data.List.Perm.Basic
import GemMman.Mmap.Setup

namespace GemMman.Mmap

open GemMman.Registry

/-! The references this file takes for mappings, over every sequence of `i915_gem_mmap`
calls, duplications and splits of areas (the `open` of their operations) and closes: each
area with this file's CPU or GTT operations holds one reference on its object and one
rc6-disallow vote, and each barrier area one reference on the device. -/

/-- `vm_open`. -/
def Refs.vmOpen (refs : Refs) (obj : Nat) : Refs := refs.disallowRc6.objGet obj

/-- `vm_close`. -/
def Refs.vmClose (refs : Refs) (obj : Nat) : Refs := refs.allowRc6.objPut obj

/-- The `open` of an area's operations; an object's own `mmap_ops` are not this file's. -/
def openOps (refs : Refs) : VmOps → Refs
  | .cpu _ obj => refs.vmOpen obj
  | .gtt _ obj => refs.vmOpen obj
  | .barrier => refs.devGet
  | .objectOps _ => refs

/-- The `close` of an area's operations. -/
def closeOps (refs : Refs) : VmOps → Refs
  | .cpu _ obj => refs.vmClose obj
  | .gtt _ obj => refs.vmClose obj
  | .barrier => refs.devPut
  | .objectOps _ => refs

/-- The object whose reference an area with this file's CPU or GTT operations holds. -/
def VmOps.object : VmOps → Option Nat
  | .cpu _ obj => some obj
  | .gtt _ obj => some obj
  | .barrier => none
  | .objectOps _ => none

@[simp] theorem VmOps.object_cpu (mmo : MmapOffset) (obj : Nat) : (VmOps.cpu mmo obj).object = some obj := rfl

@[simp] theorem VmOps.object_gtt (mmo : MmapOffset) (obj : Nat) : (VmOps.gtt mmo obj).object = some obj := rfl

@[simp] theorem VmOps.object_barrier : VmOps.barrier.object = none := rfl

@[simp] theorem VmOps.object_objectOps (obj : Nat) : (VmOps.objectOps obj).object = none := rfl

/-- The live areas, and the references held for them. -/
structure MapState where
  refs : Refs := {}
  areas : List Mapped := []

inductive MapEvent where
  | mmap (dev : MmapDevice) (env : MmapEnv) (tag : Nat) (area : VmArea)
  | dup (index : Nat)
  | split (index : Nat) (addr : Nat)
  | close (index : Nat)

/-- Not in this file: `__split_vma` cuts an area at `addr`; the upper part, a copy with its
page offset moved up, goes to the operations' `open`. -/
def splitArea (mapped : Mapped) (addr : Nat) : Mapped × Mapped :=
  ({ mapped with area := { mapped.area with vmEnd := addr } },
    { mapped with area := { mapped.area with
        vmStart := addr, vmPgoff := mapped.area.vmPgoff + ((addr - mapped.area.vmStart) >>> pageShift) } })

def mapStep (s : MapState) : MapEvent → MapState
  | .mmap dev env tag area =>
      let result := i915GemMmap dev env tag s.refs area
      match result.2 with
      | .ok mapped => { refs := result.1, areas := s.areas ++ [mapped] }
      | .error _ => { s with refs := result.1 }
  | .dup index =>
      match s.areas[index]? with
      | some mapped => { refs := openOps s.refs mapped.ops, areas := s.areas ++ [mapped] }
      | none => s
  | .split index addr =>
      match s.areas[index]? with
      | some mapped =>
          if mapped.area.vmStart < addr ∧ addr < mapped.area.vmEnd then
            let parts := splitArea mapped addr
            { refs := openOps s.refs mapped.ops, areas := s.areas.erase mapped ++ [parts.1, parts.2] }
          else s
      | none => s
  | .close index =>
      match s.areas[index]? with
      | some mapped => { refs := closeOps s.refs mapped.ops, areas := s.areas.erase mapped }
      | none => s

def mapRun (s : MapState) (events : List MapEvent) : MapState := events.foldl mapStep s

/-- An event that maps only objects without `obj->ops->mmap_ops`. -/
def MapEvent.Plain : MapEvent → Prop
  | .mmap dev _ _ _ => ∀ node ∈ dev.nodes, (dev.mmoOf node.id).2.mmapOps = false
  | _ => True

/-- The references the live areas account for. -/
def tally (areas : List Mapped) : Refs where
  objRefs obj := areas.countP (·.ops.object = some obj)
  rc6Votes := areas.countP (·.ops.object.isSome)
  devRefs := areas.countP (·.ops = .barrier)

variable {areas : List Mapped} {mapped other : Mapped}

theorem countP_erase_add (p : Mapped → Bool) (member : mapped ∈ areas) :
    (areas.erase mapped).countP p + (if p mapped then 1 else 0) = areas.countP p := by
  rw [(List.perm_cons_erase member).countP_eq p, List.countP_cons]

theorem tally_append (plain : ∀ obj, mapped.ops ≠ .objectOps obj) :
    tally (areas ++ [mapped]) = openOps (tally areas) mapped.ops := by
  cases ops : mapped.ops with
  | objectOps obj => exact absurd ops (plain obj)
  | barrier => ext <;> simp [tally, openOps, Refs.devGet, ops]
  | cpu mmo obj | gtt mmo obj =>
      ext o <;> simp [tally, openOps, Refs.vmOpen, Refs.disallowRc6, Refs.objGet, ops,
        List.countP_cons, Function.update_apply]
      rcases eq_or_ne obj o with rfl | other <;> simp_all [Ne.symm]

theorem tally_erase (member : mapped ∈ areas) :
    tally (areas.erase mapped) = closeOps (tally areas) mapped.ops := by
  have objRefs o := countP_erase_add (fun area => decide (area.ops.object = some o)) member
  have rc6Votes := countP_erase_add (fun area => area.ops.object.isSome) member
  have devRefs := countP_erase_add (fun area => decide (area.ops = .barrier)) member
  cases ops : mapped.ops with
  | objectOps obj => ext <;> simp_all [tally, closeOps]
  | barrier =>
      ext <;> simp_all [tally, closeOps, Refs.devPut]
      omega
  | cpu mmo obj | gtt mmo obj =>
      simp only [ops, VmOps.object_cpu, VmOps.object_gtt, Option.some.injEq, Option.isSome_some,
        if_true, reduceCtorEq, decide_False, Bool.false_eq_true, if_false] at objRefs rc6Votes devRefs
      ext o
      · have := objRefs o
        simp only [tally, closeOps, Refs.vmClose, Refs.allowRc6, Refs.objPut, Function.update_apply]
        rcases eq_or_ne o obj with rfl | other
        · simp at this ⊢
          omega
        · simpa [other, Ne.symm other] using this
      · simp only [tally, closeOps, Refs.vmClose, Refs.allowRc6, Refs.objPut]
        omega
      · simp only [tally, closeOps, Refs.vmClose, Refs.allowRc6, Refs.objPut]
        omega

/-- A split replaces an area by two with its operations: the tally is that of one more
such area. -/
theorem tally_split (member : mapped ∈ areas) (lower upper : Mapped) (sameLower : lower.ops = mapped.ops) :
    tally (areas.erase mapped ++ [lower, upper]) = tally (areas ++ [upper]) := by
  have count (p : VmOps → Bool) :
      (areas.erase mapped ++ [lower, upper]).countP (p ·.ops) = (areas ++ [upper]).countP (p ·.ops) := by
    have := countP_erase_add (p ·.ops) member
    simp only [List.countP_append, List.countP_cons, List.countP_nil, sameLower] at this ⊢
    omega
  ext o
  · exact count fun ops => decide (ops.object = some o)
  · exact count fun ops => ops.object.isSome
  · exact count fun ops => decide (ops = .barrier)

/-- Every live area is counted, and none has an object's own operations. -/
structure MapValid (s : MapState) : Prop where
  tallied : s.refs = tally s.areas
  plain : ∀ mapped ∈ s.areas, ∀ obj, mapped.ops ≠ .objectOps obj

variable {s : MapState} {dev : MmapDevice} {env : MmapEnv} {tag : Nat} {refs refs' : Refs}
  {area : VmArea}

/-- On a device whose objects have no `mmap_ops`, a successful `i915_gem_mmap` takes what
the `open` of the operations it installs takes. -/
theorem i915GemMmap_ok_refs (plain : ∀ node ∈ dev.nodes, (dev.mmoOf node.id).2.mmapOps = false)
    (set : i915GemMmap dev env tag refs area = (refs', .ok mapped)) :
    refs' = openOps refs mapped.ops ∧ ∀ obj, mapped.ops ≠ .objectOps obj := by
  rcases i915GemMmap_ok set with ⟨-, barrier⟩ | ⟨node, found, setup⟩
  · obtain ⟨rfl, ops⟩ := i915PciBarrierMmap_ok barrier
    rw [ops]
    exact ⟨rfl, nofun⟩
  · obtain ⟨rfl, -, -, -, -, ops⟩ := i915GemUpdateVmaInfo_ok setup
    rw [plain node (drmVmaOffsetExactLookup_some (mmapLookup_found found)).1] at ops
    simp only [Bool.false_eq_true, if_false] at ops
    split_ifs at ops <;> rw [ops] <;> exact ⟨rfl, nofun⟩

/-- A new area with this file's operations, and what their `open` takes. -/
theorem MapValid.append {mapped : Mapped} (valid : MapValid s)
    (own : ∀ obj, mapped.ops ≠ .objectOps obj) :
    MapValid { refs := openOps s.refs mapped.ops, areas := s.areas ++ [mapped] } :=
  ⟨by rw [valid.tallied, tally_append own], fun area member =>
    (List.mem_append.mp member).elim (valid.plain area) fun new => List.mem_singleton.mp new ▸ own⟩

theorem MapValid.mapStep (valid : MapValid s) : ∀ {event : MapEvent}, event.Plain →
    MapValid (mapStep s event)
  | .mmap dev env tag area, plain => by
      simp only [GemMman.Mmap.mapStep]
      cases result : i915GemMmap dev env tag s.refs area with
      | mk refs' outcome =>
          cases outcome with
          | error err =>
              have kept := i915GemMmap_error (by rw [result])
              rw [result] at kept
              exact ⟨kept ▸ valid.tallied, valid.plain⟩
          | ok mapped =>
              obtain ⟨opened, own⟩ := i915GemMmap_ok_refs plain result
              simpa only [opened] using valid.append own
  | .dup index, _ => by
      simp only [GemMman.Mmap.mapStep]
      cases found : s.areas[index]? with
      | none => exact valid
      | some mapped => exact valid.append (valid.plain mapped (List.getElem?_mem found))
  | .split index addr, _ => by
      simp only [GemMman.Mmap.mapStep]
      cases found : s.areas[index]? with
      | none => exact valid
      | some mapped =>
          have member := List.getElem?_mem found
          have own := valid.plain mapped member
          dsimp only
          split_ifs
          · refine ⟨?_, fun area inSplit => ?_⟩
            · have upperOwn : ∀ obj, (splitArea mapped addr).2.ops ≠ .objectOps obj := own
              dsimp only
              rw [tally_split member (splitArea mapped addr).1 _ rfl, tally_append upperOwn, valid.tallied]
              rfl
            · rcases List.mem_append.mp inSplit with old | new
              · exact valid.plain area (List.mem_of_mem_erase old)
              · simp only [List.mem_cons, List.mem_singleton, List.not_mem_nil, or_false] at new
                rcases new with rfl | rfl <;> exact own
          · exact valid
  | .close index, _ => by
      simp only [GemMman.Mmap.mapStep]
      cases found : s.areas[index]? with
      | none => exact valid
      | some mapped =>
          have member := List.getElem?_mem found
          exact ⟨by rw [tally_erase member, valid.tallied],
            fun area kept => valid.plain area (List.mem_of_mem_erase kept)⟩

theorem MapValid.mapRun (events : List MapEvent) (valid : MapValid s)
    (plain : ∀ event ∈ events, event.Plain) : MapValid (mapRun s events) := by
  induction events generalizing s with
  | nil => exact valid
  | cons event rest ih =>
      exact ih (valid.mapStep (plain event (.head _))) fun later member => plain later (.tail _ member)

theorem mapValid_initial : MapValid {} :=
  ⟨by ext <;> simp [tally], fun _ member => nomatch member⟩

theorem mapping_references_balanced (events : List MapEvent)
    (plain : ∀ event ∈ events, event.Plain) :
    let s := mapRun {} events
    (∀ obj, s.refs.objRefs obj = s.areas.countP (·.ops.object = some obj)) ∧
      s.refs.rc6Votes = s.areas.countP (·.ops.object.isSome) ∧
      s.refs.devRefs = s.areas.countP (·.ops = .barrier) ∧
      ∀ dev env tag area err, (i915GemMmap dev env tag s.refs area).2 = .error err →
        (i915GemMmap dev env tag s.refs area).1 = s.refs := by
  intro s
  have tallied : s.refs = tally s.areas := (mapValid_initial.mapRun events plain).tallied
  exact ⟨fun obj => by rw [tallied]; rfl, by rw [tallied]; rfl, by rw [tallied]; rfl,
    fun _ _ _ _ _ failed => i915GemMmap_error failed⟩

theorem mapping_references_balanced_fork :
    let obj : GemObject := { id := 1, pages := 1, swapto := none, segments := [] }
    let dev : MmapDevice :=
      { barrierPgoff := 0x50, nodes := [⟨7, 0x100, 1⟩], vmFiles := fun _ => .node .leaf ⟨3, 1⟩ .leaf,
        mmoOf := fun _ => (⟨7, .wb⟩, obj) }
    let events : List MapEvent :=
      [.mmap dev {} 3 { vmStart := 0x7f0000000000, vmEnd := 0x7f0000001000, vmPgoff := 0x100 },
        .dup 0, .close 0]
    (∀ event ∈ events, event.Plain) ∧
      let s := mapRun {} events
      (∀ obj, s.refs.objRefs obj = s.areas.countP (·.ops.object = some obj)) ∧
        s.refs.rc6Votes = s.areas.countP (·.ops.object.isSome) ∧
        s.refs.devRefs = s.areas.countP (·.ops = .barrier) ∧
        ∀ dev env tag area err, (i915GemMmap dev env tag s.refs area).2 = .error err →
          (i915GemMmap dev env tag s.refs area).1 = s.refs :=
  have plain : ∀ event ∈ [MapEvent.mmap
      { barrierPgoff := 0x50, nodes := [⟨7, 0x100, 1⟩], vmFiles := fun _ => .node .leaf ⟨3, 1⟩ .leaf,
        mmoOf := fun _ => (⟨7, .wb⟩, { id := 1, pages := 1, swapto := none, segments := [] }) }
      {} 3 { vmStart := 0x7f0000000000, vmEnd := 0x7f0000001000, vmPgoff := 0x100 },
      .dup 0, .close 0], event.Plain := by
    simp [MapEvent.Plain]
  ⟨plain, mapping_references_balanced _ plain⟩

end GemMman.Mmap

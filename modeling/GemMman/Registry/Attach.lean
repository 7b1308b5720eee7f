import GemMman.Basic
import GemMman.Data.RbTree

namespace GemMman.Registry

open GemMman.Data

/-! The mapping registry of one object under concurrent `i915_gem_mmap_offset_attach`
callers. Each caller is a program counter standing before the next section it runs
atomically: `lookup_mmo`, the record's kmalloc, `drm_vma_offset_add` (tried twice, with a
reap of dead objects in between), `insert_mmo`, the `lookup_mmo` of the `GEM_BUG_ON` and
`vma_node_allow_once`. An interleaving is any list of events: a new call, or one section
of one caller with the outcome of the allocation it makes. -/

/-- `struct i915_mmap_offset`; the record and the `vma_node` embedded in it share `id`. -/
structure MmapOffset where
  id : Nat
  mmapType : MmapType
deriving DecidableEq, Repr

/-- `struct drm_vma_offset_file`: one file allowed to map a node. -/
structure VmaOffsetFile where
  vmTag : Nat
  vmCount : Nat
deriving DecidableEq, Repr

/-- A node of the offset manager held for one of the object's records. -/
structure VmaNode where
  id : Nat
  start : Nat
  pages : Nat
deriving DecidableEq, Repr

def mmoKey (mmo : MmapOffset) : Nat := mmo.mmapType.toNat

def fileKey (file : VmaOffsetFile) : Nat := file.vmTag

/-- `lookup_mmo`. -/
def lookupMmo (offsets : RbTree MmapOffset) (mmapType : MmapType) : Option MmapOffset :=
  offsets.search mmoKey mmapType.toNat

/-- `vma_node_allow_once`, with `allocated` the outcome of its kmalloc. -/
def vmaNodeAllowOnce (balance : RbInsertColor) (files : RbTree VmaOffsetFile) (tag : Nat)
    (allocated : Bool) : RbTree VmaOffsetFile × Int :=
  match files.search fileKey tag with
  | some _ => (files, 0)
  | none =>
      if allocated then (balance.run (files.link fileKey ⟨tag, 1⟩), 0)
      else (files, -ENOMEM)

/-- The program counter of one caller: the section it runs next. -/
inductive AttachPc where
  | lookup
  | alloc
  | add (mmo : MmapOffset)
  | reap (mmo : MmapOffset)
  | insert (mmo : MmapOffset)
  | check (mmo : MmapOffset)
  | allow (mmo : MmapOffset)
  | done (result : Except Int MmapOffset)
  | bug

structure Caller where
  mmapType : MmapType
  file : Option Nat
  pc : AttachPc

/-- The object's registry and the callers working on it. `records` are the kmalloc'd
records not yet freed, `nodes` the offset-manager nodes of the object's records, and
`vmFiles` the allow-list of each record's node. -/
structure AttachState where
  /-- `obj->base.size / PAGE_SIZE`, the size of every node. -/
  pages : Nat
  offsets : RbTree MmapOffset := .leaf
  nodes : List VmaNode := []
  records : List Nat := []
  vmFiles : Nat → RbTree VmaOffsetFile := fun _ => .leaf
  nextId : Nat := 0
  callers : List Caller := []

/-- `insert_mmo`: the record registered for `mmo`'s type afterwards. A caller that
finds one already there removes its node and frees its record. -/
def insertMmo (balance : RbInsertColor) (s : AttachState) (mmo : MmapOffset) :
    AttachState × MmapOffset :=
  match s.offsets.search mmoKey mmo.mmapType.toNat with
  | some pos =>
      ({ s with nodes := s.nodes.filter (·.id ≠ mmo.id), records := s.records.erase mmo.id }, pos)
  | none => ({ s with offsets := balance.run (s.offsets.link mmoKey mmo) }, mmo)

/-- `drm_vma_offset_add` of `mmo`'s node at `start`. -/
def AttachState.addNode (s : AttachState) (mmo : MmapOffset) (start : Nat) : AttachState :=
  { s with nodes := ⟨mmo.id, start, s.pages⟩ :: s.nodes }

/-- The `out:` label: a caller with a file goes on to `vma_node_allow_once`. -/
def Caller.out (c : Caller) (mmo : MmapOffset) : AttachPc :=
  if c.file.isSome then .allow mmo else .done (.ok mmo)

/-- One section of `i915_gem_mmap_offset_attach` run by caller `c`: `succeeds` is the
outcome of the allocation the section makes, `start` where the offset manager places a
node. A failed second `drm_vma_offset_add` returns its `-ENOSPC`. -/
def attachStep (balance : RbInsertColor) (s : AttachState) (c : Caller) (succeeds : Bool)
    (start : Nat) : AttachState × AttachPc :=
  match c.pc with
  | .lookup =>
      (s, match lookupMmo s.offsets c.mmapType with
        | some mmo => c.out mmo
        | none => .alloc)
  | .alloc =>
      if succeeds then
        ({ s with records := s.nextId :: s.records, nextId := s.nextId + 1 },
          .add ⟨s.nextId, c.mmapType⟩)
      else (s, .done (.error (-ENOMEM)))
  | .add mmo => if succeeds then (s.addNode mmo start, .insert mmo) else (s, .reap mmo)
  | .reap mmo =>
      if succeeds then (s.addNode mmo start, .insert mmo)
      else ({ s with records := s.records.erase mmo.id }, .done (.error (-ENOSPC)))
  | .insert mmo =>
      let inserted := insertMmo balance s mmo
      (inserted.1, .check inserted.2)
  | .check mmo =>
      (s, if lookupMmo s.offsets c.mmapType = some mmo then c.out mmo else .bug)
  | .allow mmo =>
      match c.file with
      | some tag =>
          let allowed := vmaNodeAllowOnce balance (s.vmFiles mmo.id) tag succeeds
          ({ s with vmFiles := Function.update s.vmFiles mmo.id allowed.1 },
            if allowed.2 = 0 then .done (.ok mmo) else .done (.error allowed.2))
      | none => (s, .done (.ok mmo))
  | .done result => (s, .done result)
  | .bug => (s, .bug)

inductive Event where
  | call (mmapType : MmapType) (file : Option Nat)
  | run (caller : Nat) (succeeds : Bool) (start : Nat)

def step (balance : RbInsertColor) (s : AttachState) : Event → AttachState
  | .call mmapType file => { s with callers := s.callers ++ [⟨mmapType, file, .lookup⟩] }
  | .run index succeeds start =>
      match s.callers[index]? with
      | some c =>
          let next := attachStep balance s c succeeds start
          { next.1 with callers := s.callers.set index { c with pc := next.2 } }
      | none => s

def run (balance : RbInsertColor) (s : AttachState) (events : List Event) : AttachState :=
  events.foldl (step balance) s

end GemMman.Registry

import GemMman.Registry.Attach
import GemMman.Data.ListCount

namespace GemMman.Registry

open GemMman.Data

/-! What the registry keeps over every interleaving of attach callers. The records and
offset-manager nodes are counted against the tree and the callers that hold one between
kmalloc (or `drm_vma_offset_add`) and `insert_mmo`; a caller that has obtained a record
finds it with `lookup_mmo` in every later state. -/

/-- The record a caller holds between its kmalloc and `insert_mmo`. -/
def AttachPc.allocated : AttachPc → Option MmapOffset
  | .add mmo => some mmo
  | .reap mmo => some mmo
  | .insert mmo => some mmo
  | .lookup => none
  | .alloc => none
  | .check _ => none
  | .allow _ => none
  | .done _ => none
  | .bug => none

/-- The node a caller holds between `drm_vma_offset_add` and `insert_mmo`. -/
def AttachPc.pendingNode : AttachPc → Option Nat
  | .insert mmo => some mmo.id
  | .add _ => none
  | .reap _ => none
  | .lookup => none
  | .alloc => none
  | .check _ => none
  | .allow _ => none
  | .done _ => none
  | .bug => none

/-- The record a caller obtained from `lookup_mmo` or `insert_mmo`. -/
def AttachPc.obtained : AttachPc → Option MmapOffset
  | .check mmo => some mmo
  | .allow mmo => some mmo
  | .done result => result.toOption
  | .add _ => none
  | .reap _ => none
  | .insert _ => none
  | .lookup => none
  | .alloc => none
  | .bug => none

def treeIds (s : AttachState) : List Nat := s.offsets.inorder.map (·.id)

def heldIds (s : AttachState) : List Nat :=
  s.callers.filterMap fun c => c.pc.allocated.map (·.id)

def pendingIds (s : AttachState) : List Nat := s.callers.filterMap (·.pc.pendingNode)

theorem count_pending_le_held (s : AttachState) (id : Nat) :
    (pendingIds s).count id ≤ (heldIds s).count id :=
  count_filterMap_le id (fun c => by cases c.pc <;> simp [AttachPc.pendingNode,
    AttachPc.allocated]) s.callers

structure Valid (s : AttachState) : Prop where
  ordered : s.offsets.Ordered mmoKey
  records : ∀ id, s.records.count id = (treeIds s).count id + (heldIds s).count id
  nodes : ∀ id, (s.nodes.map (·.id)).count id = (treeIds s).count id + (pendingIds s).count id
  unique : ∀ id, s.records.count id ≤ 1
  fresh : ∀ id ∈ s.records, id < s.nextId
  allocatedType : ∀ c ∈ s.callers, ∀ mmo, c.pc.allocated = some mmo → mmo.mmapType = c.mmapType
  obtained : ∀ c ∈ s.callers, ∀ mmo, c.pc.obtained = some mmo →
    lookupMmo s.offsets c.mmapType = some mmo
  noBug : ∀ c ∈ s.callers, c.pc ≠ .bug

theorem lookupMmo_eq_some_iff {offsets : RbTree MmapOffset} {mmapType : MmapType}
    {mmo : MmapOffset} (ordered : offsets.Ordered mmoKey) :
    lookupMmo offsets mmapType = some mmo ↔ mmo ∈ offsets.inorder ∧ mmo.mmapType = mmapType := by
  rw [lookupMmo, RbTree.search_eq_some_iff ordered, mmoKey, MmapType.toNat_injective.eq_iff]

theorem Caller.obtained_out (c : Caller) (mmo : MmapOffset) :
    (c.out mmo).obtained = some mmo := by
  unfold Caller.out
  split <;> rfl

theorem Caller.out_ne_bug (c : Caller) (mmo : MmapOffset) : c.out mmo ≠ .bug := by
  unfold Caller.out
  split <;> nofun

theorem forall_mem_set {α : Type} {P : α → Prop} {l : List α} {index : Nat} {new : α}
    (all : ∀ d ∈ l, P d) (holds : P new) : ∀ d ∈ l.set index new, P d := fun d member =>
  (List.mem_or_eq_of_mem_set member).elim (all d) fun same => same ▸ holds

variable {s : AttachState} {index : Nat} {c : Caller}

theorem count_held_set (found : s.callers[index]? = some c) (pc : AttachPc)
    (was becomes : Option Nat) (before : c.pc.allocated.map (·.id) = was)
    (after : pc.allocated.map (·.id) = becomes) (x : Nat) :
    ((s.callers.set index { c with pc }).filterMap fun d => d.pc.allocated.map (·.id)).count x +
        was.toList.count x = (heldIds s).count x + becomes.toList.count x :=
  count_filterMap_set _ x found before after

theorem count_pending_set (found : s.callers[index]? = some c) (pc : AttachPc)
    (was becomes : Option Nat) (before : c.pc.pendingNode = was)
    (after : pc.pendingNode = becomes) (x : Nat) :
    ((s.callers.set index { c with pc }).filterMap (·.pc.pendingNode)).count x +
        was.toList.count x = (pendingIds s).count x + becomes.toList.count x :=
  count_filterMap_set _ x found before after

/-- A section that changes only the caller's program counter, with the same record and
node held before and after. -/
theorem Valid.setPc {pc : AttachPc} (valid : Valid s) (found : s.callers[index]? = some c)
    (held : pc.allocated.map (·.id) = c.pc.allocated.map (·.id))
    (pending : pc.pendingNode = c.pc.pendingNode)
    (typed : ∀ mmo, pc.allocated = some mmo → mmo.mmapType = c.mmapType)
    (obtained : ∀ mmo, pc.obtained = some mmo → lookupMmo s.offsets c.mmapType = some mmo)
    (notBug : pc ≠ .bug) :
    Valid { s with callers := s.callers.set index { c with pc } } := by
  refine ⟨valid.ordered, fun id => ?_, fun id => ?_, valid.unique, valid.fresh,
    forall_mem_set valid.allocatedType typed, forall_mem_set valid.obtained obtained,
    forall_mem_set valid.noBug notBug⟩
  · have moved := count_held_set found pc _ _ rfl held id
    have before := valid.records id
    simp only [heldIds, treeIds] at *
    omega
  · have moved := count_pending_set found pc _ _ rfl pending id
    have before := valid.nodes id
    simp only [pendingIds, treeIds] at *
    omega

theorem Valid.alloc (valid : Valid s) (found : s.callers[index]? = some c)
    (pc : c.pc = .alloc) :
    Valid { s with
      records := s.nextId :: s.records
      nextId := s.nextId + 1
      callers := s.callers.set index { c with pc := .add ⟨s.nextId, c.mmapType⟩ } } := by
  have absent : s.records.count s.nextId = 0 :=
    List.count_eq_zero.mpr fun member => Nat.lt_irrefl _ (valid.fresh _ member)
  refine ⟨valid.ordered, fun id => ?_, fun id => ?_, fun id => ?_, ?_,
    forall_mem_set valid.allocatedType (by rintro _ ⟨⟩; rfl),
    forall_mem_set valid.obtained (by rintro _ ⟨⟩), forall_mem_set valid.noBug nofun⟩
  · have moved := count_held_set found (.add ⟨s.nextId, c.mmapType⟩) none (some s.nextId) (by rw [pc]; rfl) rfl id
    have before := valid.records id
    simp only [heldIds, treeIds, List.count_cons, Option.toList_some, Option.toList_none,
      List.count_nil, List.count_singleton', beq_iff_eq] at *
    split_ifs at * <;> omega
  · have moved := count_pending_set found (.add ⟨s.nextId, c.mmapType⟩) none none (by rw [pc]; rfl) rfl id
    have before := valid.nodes id
    simp only [pendingIds, treeIds, Option.toList_none, List.count_nil] at *
    omega
  · have bound := valid.unique id
    simp only [List.count_cons, beq_iff_eq]
    split_ifs with same
    · subst same
      omega
    · omega
  · intro id member
    rcases List.mem_cons.mp member with rfl | member
    · exact Nat.lt_succ_self _
    · exact Nat.lt_succ_of_lt (valid.fresh id member)

theorem Valid.addNode {mmo : MmapOffset} {start : Nat} (valid : Valid s)
    (found : s.callers[index]? = some c) (pc : c.pc.allocated = some mmo)
    (adding : c.pc.pendingNode = none) :
    Valid { s.addNode mmo start with
      callers := s.callers.set index { c with pc := .insert mmo } } := by
  refine ⟨valid.ordered, fun id => ?_, fun id => ?_, valid.unique, valid.fresh,
    forall_mem_set valid.allocatedType ?_, forall_mem_set valid.obtained (by rintro _ ⟨⟩),
    forall_mem_set valid.noBug nofun⟩
  · have moved := count_held_set found (.insert mmo) (some mmo.id) (some mmo.id) (by rw [pc]; rfl) rfl id
    have before := valid.records id
    simp only [heldIds, treeIds, AttachState.addNode] at *
    omega
  · have moved := count_pending_set found (.insert mmo) none (some mmo.id) adding rfl id
    have before := valid.nodes id
    simp only [pendingIds, treeIds, AttachState.addNode, List.map_cons, List.count_cons,
      Option.toList_none, Option.toList_some, List.count_nil, List.count_singleton',
      beq_iff_eq] at *
    split_ifs at * <;> omega
  · rintro _ ⟨⟩
    exact valid.allocatedType c (List.getElem?_mem found) mmo pc

/-- The caller holding `mmo` is its only holder, and the tree does not hold it. -/
theorem Valid.held_once {mmo : MmapOffset} (valid : Valid s)
    (found : s.callers[index]? = some c) (pc : c.pc.allocated = some mmo) :
    (treeIds s).count mmo.id = 0 ∧ (heldIds s).count mmo.id = 1 := by
  have moved := count_held_set found .lookup (some mmo.id) none (by rw [pc]; rfl) rfl mmo.id
  have bound := valid.unique mmo.id
  have before := valid.records mmo.id
  simp only [Option.toList_some, Option.toList_none, List.count_singleton_self,
    List.count_nil] at moved
  omega

theorem count_map_filter_ne (nodes : List VmaNode) (removed id : Nat) :
    ((nodes.filter (·.id ≠ removed)).map (·.id)).count id =
      if id = removed then 0 else (nodes.map (·.id)).count id := by
  split_ifs with same
  · exact List.count_eq_zero.mpr (by simp [same])
  · have commute : (nodes.filter (·.id ≠ removed)).map (·.id) =
        (nodes.map (·.id)).filter (· ≠ removed) := by
      rw [List.filter_map]
      rfl
    rw [commute, List.count_filter (by simpa using same)]

/-- A caller gives back the record it holds (a second failed `drm_vma_offset_add`, or a
lost `insert_mmo` race, which also removes its node) and moves on to `pc`. -/
theorem Valid.release {mmo : MmapOffset} (valid : Valid s)
    (found : s.callers[index]? = some c) (pc : AttachPc) (holding : c.pc.allocated = some mmo)
    (node : c.pc.pendingNode = none ∨ c.pc.pendingNode = some mmo.id)
    (released : pc.allocated = none) (noPending : pc.pendingNode = none)
    (obtained : ∀ got, pc.obtained = some got → lookupMmo s.offsets c.mmapType = some got)
    (notBug : pc ≠ .bug) :
    Valid { s with
      nodes := if c.pc.pendingNode = none then s.nodes else s.nodes.filter (·.id ≠ mmo.id)
      records := s.records.erase mmo.id
      callers := s.callers.set index { c with pc } } := by
  obtain ⟨inTree, heldOnce⟩ := valid.held_once found holding
  refine ⟨valid.ordered, fun id => ?_, fun id => ?_, fun id => ?_, ?_,
    forall_mem_set valid.allocatedType (by simp [released]), forall_mem_set valid.obtained obtained,
    forall_mem_set valid.noBug notBug⟩
  · have moved := count_held_set found pc (some mmo.id) none (by rw [holding]; rfl)
      (by rw [released]; rfl) id
    have before := valid.records id
    simp only [heldIds, treeIds, List.count_erase, Option.toList_some, Option.toList_none,
      List.count_nil, List.count_singleton', beq_iff_eq] at *
    split_ifs at * <;> omega
  · have pendingBound := count_pending_le_held s id
    have before := valid.nodes id
    rcases node with noNode | hadNode
    · have moved := count_pending_set found pc none none noNode noPending id
      simp only [noNode, if_true, pendingIds, treeIds, Option.toList_none, List.count_nil] at *
      omega
    · have moved := count_pending_set found pc (some mmo.id) none hadNode noPending id
      simp only [hadNode, reduceCtorEq, if_false, count_map_filter_ne, pendingIds, treeIds,
        heldIds, Option.toList_some, Option.toList_none, List.count_nil,
        List.count_singleton'] at *
      by_cases same : id = mmo.id
      · subst same
        simp only [if_true] at *
        omega
      · simp only [same, if_false, Ne.symm same] at *
        omega
  · have bound := valid.unique id
    rw [List.count_erase]
    omega
  · exact fun id member => valid.fresh id (List.mem_of_mem_erase member)

/-- `insert_mmo` links the caller's record: it is now the tree's record for its type. -/
theorem Valid.insertNew {mmo : MmapOffset} (balance : RbInsertColor) (valid : Valid s)
    (found : s.callers[index]? = some c) (pc : c.pc = .insert mmo)
    (absent : s.offsets.search mmoKey mmo.mmapType.toNat = none) :
    Valid { s with
      offsets := balance.run (s.offsets.link mmoKey mmo)
      callers := s.callers.set index { c with pc := .check mmo } } := by
  have typed := valid.allocatedType c (List.getElem?_mem found) mmo (by rw [pc]; rfl)
  have newKey := (RbTree.search_eq_none_iff valid.ordered).mp absent
  have ordered := balance.ordered_run (RbTree.ordered_link valid.ordered newKey)
  have members (x : MmapOffset) :
      x ∈ (balance.run (s.offsets.link mmoKey mmo)).inorder ↔ x = mmo ∨ x ∈ s.offsets.inorder := by
    rw [balance.inorder_run]
    exact RbTree.mem_inorder_link
  have ids (id : Nat) : ((balance.run (s.offsets.link mmoKey mmo)).inorder.map (·.id)).count id =
      (treeIds s).count id + if mmo.id = id then 1 else 0 := by
    rw [balance.inorder_run, ((RbTree.inorder_link_perm mmo s.offsets).map _).count_eq]
    simp [treeIds, List.count_cons]
  refine ⟨ordered, fun id => ?_, fun id => ?_, valid.unique, valid.fresh,
    forall_mem_set valid.allocatedType (by rintro _ ⟨⟩), ?_, forall_mem_set valid.noBug nofun⟩
  · have moved := count_held_set found (.check mmo) (some mmo.id) none (by rw [pc]; rfl) rfl id
    have before := valid.records id
    have linked := ids id
    simp only [heldIds, treeIds, Option.toList_some, Option.toList_none, List.count_nil,
      List.count_singleton'] at *
    split_ifs at * <;> omega
  · have moved := count_pending_set found (.check mmo) (some mmo.id) none (by rw [pc]; rfl) rfl id
    have before := valid.nodes id
    have linked := ids id
    simp only [pendingIds, treeIds, Option.toList_some, Option.toList_none, List.count_nil,
      List.count_singleton'] at *
    split_ifs at * <;> omega
  · intro d member got inserted
    rw [lookupMmo_eq_some_iff ordered, members]
    rcases List.mem_or_eq_of_mem_set member with old | rfl
    · have before := (lookupMmo_eq_some_iff valid.ordered).mp (valid.obtained d old got inserted)
      exact ⟨.inr before.1, before.2⟩
    · cases inserted
      exact ⟨.inl rfl, typed⟩

theorem Caller.out_allocated (c : Caller) (mmo : MmapOffset) : (c.out mmo).allocated = none := by
  unfold Caller.out
  split <;> rfl

theorem Caller.out_pendingNode (c : Caller) (mmo : MmapOffset) :
    (c.out mmo).pendingNode = none := by
  unfold Caller.out
  split <;> rfl

theorem Valid.setVmFiles (valid : Valid s) (files : Nat → RbTree VmaOffsetFile) :
    Valid { s with vmFiles := files } :=
  ⟨valid.ordered, valid.records, valid.nodes, valid.unique, valid.fresh, valid.allocatedType,
    valid.obtained, valid.noBug⟩

/-- A caller moves to `c.out mmo` with a record the tree holds for its type. -/
theorem Valid.out {mmo : MmapOffset} (valid : Valid s) (found : s.callers[index]? = some c)
    (idle : c.pc.allocated = none) (noNode : c.pc.pendingNode = none)
    (registered : lookupMmo s.offsets c.mmapType = some mmo) :
    Valid { s with callers := s.callers.set index { c with pc := c.out mmo } } :=
  valid.setPc found (by rw [c.out_allocated, idle]) (by rw [c.out_pendingNode, noNode])
    (by simp [c.out_allocated]) (fun got out => by
      rw [c.obtained_out mmo] at out
      rwa [← Option.some_inj.mp out])
    (c.out_ne_bug mmo)

theorem Valid.attachStep (balance : RbInsertColor) (valid : Valid s)
    (found : s.callers[index]? = some c) (succeeds : Bool) (start : Nat) :
    Valid { (attachStep balance s c succeeds start).1 with
      callers := s.callers.set index { c with pc := (attachStep balance s c succeeds start).2 } } := by
  have member := List.getElem?_mem found
  cases pc : c.pc with
  | lookup =>
      simp only [GemMman.Registry.attachStep, pc]
      cases registered : lookupMmo s.offsets c.mmapType with
      | some mmo => exact valid.out found (by rw [pc]; rfl) (by rw [pc]; rfl) registered
      | none => exact valid.setPc found (by rw [pc]; rfl) (by rw [pc]; rfl) nofun nofun nofun
  | alloc =>
      simp only [GemMman.Registry.attachStep, pc]
      split
      · exact valid.alloc found pc
      · exact valid.setPc found (by rw [pc]; rfl) (by rw [pc]; rfl) nofun nofun nofun
  | add mmo =>
      simp only [GemMman.Registry.attachStep, pc]
      split
      · exact valid.addNode found (by rw [pc]; rfl) (by rw [pc]; rfl)
      · exact valid.setPc found (by rw [pc]; rfl) (by rw [pc]; rfl)
          (fun _ same => valid.allocatedType c member _ (by rw [pc]; exact same)) nofun nofun
  | reap mmo =>
      simp only [GemMman.Registry.attachStep, pc]
      split
      · exact valid.addNode found (by rw [pc]; rfl) (by rw [pc]; rfl)
      · simpa [pc, AttachPc.pendingNode] using valid.release found (.done (.error (-ENOSPC)))
          (by rw [pc]; rfl) (.inl (by rw [pc]; rfl)) rfl rfl (fun _ got => by cases got) nofun
  | insert mmo =>
      simp only [GemMman.Registry.attachStep, pc, insertMmo]
      have typed := valid.allocatedType c member mmo (by rw [pc]; rfl)
      split
      · rename_i pos registered
        simpa [pc, AttachPc.pendingNode] using valid.release found (.check pos) (by rw [pc]; rfl)
          (.inr (by rw [pc]; rfl)) rfl rfl
          (fun got same => by cases same; rw [← typed]; exact registered) nofun
      · rename_i absent
        exact valid.insertNew balance found pc absent
  | check mmo =>
      have registered := valid.obtained c member mmo (by rw [pc]; rfl)
      simp only [GemMman.Registry.attachStep, pc, registered, if_true]
      exact valid.out found (by rw [pc]; rfl) (by rw [pc]; rfl) registered
  | allow mmo =>
      have registered := valid.obtained c member mmo (by rw [pc]; rfl)
      have finish (result : Except Int MmapOffset) (outcome : result.toOption = none ∨ result = .ok mmo)
          (files : Nat → RbTree VmaOffsetFile) :
          Valid { s with vmFiles := files, callers := s.callers.set index { c with pc := .done result } } :=
        (valid.setVmFiles files).setPc found (by rw [pc]; rfl) (by rw [pc]; rfl) (fun _ got => by cases got)
          (fun got same => by
            rcases outcome with failed | rfl
            · simp [AttachPc.obtained, failed] at same
            · cases same; exact registered) nofun
      simp only [GemMman.Registry.attachStep, pc]
      split
      · split
        · exact finish _ (.inr rfl) _
        · exact finish (.error _) (.inl rfl) _
      · exact finish _ (.inr rfl) s.vmFiles
  | done result =>
      simp only [GemMman.Registry.attachStep, pc]
      exact valid.setPc found (by rw [pc]) (by rw [pc])
        (fun _ same => valid.allocatedType c member _ (by rw [pc]; exact same))
        (fun _ same => valid.obtained c member _ (by rw [pc]; exact same)) (pc ▸ valid.noBug c member)
  | bug => exact absurd pc (valid.noBug c member)

theorem Valid.call (valid : Valid s) (mmapType : MmapType) (file : Option Nat) :
    Valid { s with callers := s.callers ++ [⟨mmapType, file, .lookup⟩] } := by
  refine ⟨valid.ordered, fun id => ?_, fun id => ?_, valid.unique, valid.fresh, ?_, ?_, ?_⟩
  · simpa [heldIds, List.filterMap_append, AttachPc.allocated] using valid.records id
  · simpa [pendingIds, List.filterMap_append, AttachPc.pendingNode] using valid.nodes id
  · intro d member
    rcases List.mem_append.mp member with old | new
    · exact valid.allocatedType d old
    · rw [List.mem_singleton.mp new]
      rintro _ ⟨⟩
  · intro d member
    rcases List.mem_append.mp member with old | new
    · exact valid.obtained d old
    · rw [List.mem_singleton.mp new]
      rintro _ ⟨⟩
  · intro d member
    rcases List.mem_append.mp member with old | new
    · exact valid.noBug d old
    · rw [List.mem_singleton.mp new]
      nofun

theorem Valid.step (balance : RbInsertColor) (valid : Valid s) :
    ∀ event, Valid (step balance s event)
  | .call mmapType file => valid.call mmapType file
  | .run index succeeds start => by
      simp only [GemMman.Registry.step]
      split
      · exact valid.attachStep balance ‹_› succeeds start
      · exact valid

/-- The registry state after any interleaving of attach calls on an object that had no
mapping record yet. -/
def initial (pages : Nat) : AttachState := { pages }

theorem valid_initial (pages : Nat) : Valid (initial pages) :=
  ⟨List.Pairwise.nil, fun _ => rfl, fun _ => rfl, fun _ => Nat.zero_le 1,
    fun _ member => (nomatch member), fun _ member => (nomatch member),
    fun _ member => (nomatch member), fun _ member => (nomatch member)⟩

theorem Valid.run (balance : RbInsertColor) (events : List Event) (valid : Valid s) :
    Valid (GemMman.Registry.run balance s events) := by
  induction events generalizing s with
  | nil => exact valid
  | cons event events ih => exact ih (valid.step balance event)

/-- A finished caller stays finished with the same result: callers are never removed. -/
theorem step_done (balance : RbInsertColor) {result : Except Int MmapOffset}
    (found : s.callers[index]? = some c) (finished : c.pc = .done result) :
    ∀ event, ∃ c', (step balance s event).callers[index]? = some c' ∧ c'.pc = .done result ∧
      c'.mmapType = c.mmapType
  | .call _ _ => ⟨c, by simp [GemMman.Registry.step, List.getElem?_append_left
      (List.getElem?_eq_some_iff.mp found).1, found], finished, rfl⟩
  | .run other succeeds start => by
      simp only [GemMman.Registry.step]
      split
      · rename_i d moved
        rw [List.getElem?_set]
        split_ifs with same bound
        · subst same
          rw [found] at moved
          cases moved
          exact ⟨_, rfl, by simp [GemMman.Registry.attachStep, finished], rfl⟩
        · exact absurd (List.getElem?_eq_some_iff.mp moved).1 bound
        · exact ⟨c, found, finished, rfl⟩
      · exact ⟨c, found, finished, rfl⟩

theorem run_done (balance : RbInsertColor) {result : Except Int MmapOffset}
    (found : s.callers[index]? = some c) (finished : c.pc = .done result) (events : List Event) :
    ∃ c', (run balance s events).callers[index]? = some c' ∧ c'.pc = .done result ∧
      c'.mmapType = c.mmapType := by
  induction events generalizing s c with
  | nil => exact ⟨c, found, finished, rfl⟩
  | cons event events ih =>
      obtain ⟨d, moved, stillDone, sameType⟩ := step_done balance found finished event
      obtain ⟨e, atEnd, doneAtEnd, typeAtEnd⟩ := ih moved stillDone
      exact ⟨e, atEnd, doneAtEnd, typeAtEnd.trans sameType⟩

theorem attach_interleaving_registry (balance : RbInsertColor) (pages : Nat)
    (events later : List Event) :
    let s := run balance (initial pages) events
    s.offsets.Ordered mmoKey ∧ (s.offsets.inorder.map (·.mmapType)).Nodup ∧
      (∀ (index : Nat) (c : Caller) (mmo : MmapOffset), s.callers[index]? = some c →
        c.pc = .done (.ok mmo) →
        lookupMmo (run balance s later).offsets c.mmapType = some mmo) ∧
      (∀ c₁ ∈ s.callers, ∀ c₂ ∈ s.callers, ∀ mmo₁ mmo₂, c₁.pc = .done (.ok mmo₁) →
        c₂.pc = .done (.ok mmo₂) → c₁.mmapType = c₂.mmapType → mmo₁ = mmo₂) ∧
      (∀ c ∈ s.callers, c.pc ≠ .bug) ∧
      (s.nodes.map (·.id)).Perm (treeIds s ++ pendingIds s) ∧
      s.records.Perm (treeIds s ++ heldIds s) := by
  intro s
  have valid : Valid s := (valid_initial pages).run balance events
  refine ⟨valid.ordered, ?_, fun index c mmo found finished => ?_, ?_, valid.noBug,
    List.perm_iff_count.mpr fun id => by rw [List.count_append]; exact valid.nodes id,
    List.perm_iff_count.mpr fun id => by rw [List.count_append]; exact valid.records id⟩
  · have keys : (s.offsets.inorder.map mmoKey).Nodup := valid.ordered.nodup
    rw [show mmoKey = MmapType.toNat ∘ (·.mmapType) from rfl, ← List.map_map] at keys
    exact keys.of_map _
  · obtain ⟨d, atEnd, stillDone, sameType⟩ := run_done balance found finished later
    rw [← sameType]
    exact (valid.run balance later).obtained d (List.getElem?_mem atEnd) mmo
      (by rw [stillDone]; rfl)
  · intro c₁ member₁ c₂ member₂ mmo₁ mmo₂ done₁ done₂ sameType
    have found₁ := valid.obtained c₁ member₁ mmo₁ (by rw [done₁]; rfl)
    have found₂ := valid.obtained c₂ member₂ mmo₂ (by rw [done₂]; rfl)
    rw [sameType, found₂] at found₁
    exact (Option.some_inj.mp found₁).symm

/-- A caller between `drm_vma_offset_add` and `insert_mmo` holds a node that no record
of the tree has. -/
theorem attach_node_before_insert :
    let s := run RbInsertColor.none (initial 1)
      [.call .wb none, .run 0 true 0, .run 0 true 0, .run 0 true 7]
    ¬ (s.nodes.map (·.id)).Perm (treeIds s) := by
  decide

end GemMman.Registry

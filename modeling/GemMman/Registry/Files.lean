import GemMman.Registry.Records

namespace GemMman.Registry

open GemMman.Data

/-! The allow-list of each record's node (`vm_files`) over every interleaving of attach
callers, and what it lets `i915_gem_mmap` accept: the list holds exactly the files whose
`vma_node_allow_once` returned 0, once each. -/

/-- The record a caller returned successfully. -/
def AttachPc.finished : AttachPc → Option MmapOffset
  | .done result => result.toOption
  | .lookup => none
  | .alloc => none
  | .add _ => none
  | .reap _ => none
  | .insert _ => none
  | .check _ => none
  | .allow _ => none
  | .bug => none

/-- The record and file a successful caller with a file attached. -/
def Caller.attached (c : Caller) : Option (Nat × Nat) :=
  c.pc.finished.bind fun mmo => c.file.map fun tag => (mmo.id, tag)

def attachedFiles (s : AttachState) : List (Nat × Nat) := s.callers.filterMap Caller.attached

def fileTags (files : RbTree VmaOffsetFile) : List Nat := files.inorder.map (·.vmTag)

structure FilesValid (s : AttachState) : Prop where
  ordered : ∀ id, (s.vmFiles id).Ordered fileKey
  once : ∀ id, ∀ file ∈ (s.vmFiles id).inorder, file.vmCount = 1
  exact : ∀ id tag, tag ∈ fileTags (s.vmFiles id) ↔ (id, tag) ∈ attachedFiles s

variable {s : AttachState} {index : Nat} {c : Caller} {balance : RbInsertColor}

theorem count_attached_set {pc : AttachPc} (found : s.callers[index]? = some c)
    (was becomes : Option (Nat × Nat)) (before : c.attached = was)
    (after : ({ c with pc } : Caller).attached = becomes) (entry : Nat × Nat) :
    ((s.callers.set index { c with pc }).filterMap Caller.attached).count entry +
        was.toList.count entry = (attachedFiles s).count entry + becomes.toList.count entry :=
  count_filterMap_set Caller.attached entry found before after

/-- A section that leaves the allow-lists alone and attaches nothing new. -/
theorem FilesValid.setPc {pc : AttachPc} (valid : FilesValid s)
    (found : s.callers[index]? = some c) (same : ({ c with pc } : Caller).attached = c.attached)
    (t : AttachState) (unchanged : t.vmFiles = s.vmFiles) :
    FilesValid { t with callers := s.callers.set index { c with pc } } := by
  refine ⟨fun id => ?_, fun id => ?_, fun id tag => ?_⟩
  · show (t.vmFiles id).Ordered fileKey
    exact unchanged ▸ valid.ordered id
  · show ∀ file ∈ (t.vmFiles id).inorder, file.vmCount = 1
    exact unchanged ▸ valid.once id
  · have moved := count_attached_set found _ _ rfl same (id, tag)
    show tag ∈ fileTags (t.vmFiles id) ↔ _
    rw [unchanged, valid.exact]
    simp only [attachedFiles, ← List.count_pos_iff] at *
    omega

theorem Caller.out_attached (c : Caller) (mmo : MmapOffset) :
    ({ c with pc := c.out mmo } : Caller).attached = none := by
  unfold Caller.out Caller.attached
  cases c.file <;> rfl

/-- Only `vma_node_allow_once` touches an allow-list or attaches a file. -/
theorem attachStep_frame (notAllow : ∀ mmo, c.pc ≠ .allow mmo) (succeeds : Bool) (start : Nat) :
    (attachStep balance s c succeeds start).1.vmFiles = s.vmFiles ∧
      ({ c with pc := (attachStep balance s c succeeds start).2 } : Caller).attached =
        c.attached := by
  cases pc : c.pc with
  | allow mmo => exact absurd pc (notAllow mmo)
  | done result =>
      simp only [attachStep, pc, true_and]
      rw [← pc]
  | lookup | check _ =>
      simp only [attachStep, pc, true_and]
      split <;> (try rw [c.out_attached]) <;> simp [Caller.attached, pc, AttachPc.finished]
  | insert mmo =>
      simp only [attachStep, pc, insertMmo]
      split <;> simp [Caller.attached, pc, AttachPc.finished]
  | _ =>
      simp only [attachStep, pc]
      try split
      all_goals simp [Caller.attached, pc, AttachPc.finished, Except.toOption,
        AttachState.addNode]

theorem mem_fileTags_link (balance : RbInsertColor) {files : RbTree VmaOffsetFile}
    {tag t : Nat} :
    t ∈ fileTags (balance.run (files.link fileKey ⟨tag, 1⟩)) ↔ t = tag ∨ t ∈ fileTags files := by
  simp only [fileTags, balance.inorder_run, List.mem_map, RbTree.mem_inorder_link]
  constructor
  · rintro ⟨file, rfl | member, rfl⟩
    · exact .inl rfl
    · exact .inr ⟨file, member, rfl⟩
  · rintro (rfl | ⟨file, member, rfl⟩)
    · exact ⟨_, .inl rfl, rfl⟩
    · exact ⟨file, .inr member, rfl⟩

/-- The caller attaching its file `tag` to record `mmo` keeps the allow-lists exact when
the allow-list of `mmo.id` becomes one that holds `tag` besides what it held. -/
theorem FilesValid.exact_attach {mmo : MmapOffset} {tag : Nat} {files : RbTree VmaOffsetFile}
    (valid : FilesValid s) (found : s.callers[index]? = some c) (idle : c.attached = none)
    (attaching : ({ c with pc := .done (.ok mmo) } : Caller).attached = some (mmo.id, tag))
    (joined : ∀ t, t ∈ fileTags files ↔ t = tag ∨ t ∈ fileTags (s.vmFiles mmo.id)) (id t : Nat) :
    t ∈ fileTags (Function.update s.vmFiles mmo.id files id) ↔
      (id, t) ∈ (s.callers.set index { c with pc := .done (.ok mmo) }).filterMap Caller.attached := by
  have moved := count_attached_set found none (some (mmo.id, tag)) idle attaching (id, t)
  by_cases same : id = mmo.id
  · subst same
    rw [Function.update_same, joined, valid.exact]
    simp only [attachedFiles, ← List.count_pos_iff, Option.toList_some, Option.toList_none,
      List.count_nil, List.count_cons, beq_iff_eq, Prod.mk.injEq, true_and] at moved ⊢
    split_ifs at moved with same
    · subst same
      omega
    · omega
  · have other : [(mmo.id, tag)].count (id, t) = 0 := List.count_eq_zero.mpr (by simp [same])
    rw [Function.update_noteq same, valid.exact]
    simp only [attachedFiles, ← List.count_pos_iff, Option.toList_some, Option.toList_none,
      List.count_nil, other] at moved ⊢
    omega

/-- `vma_node_allow_once` for the caller's file: the allow-list gains the file unless
it is there already or the allocation failed, and the caller has attached it exactly
when the call returned 0. -/
theorem FilesValid.allow {mmo : MmapOffset} {tag : Nat} (valid : FilesValid s)
    (found : s.callers[index]? = some c) (pc : c.pc = .allow mmo) (file : c.file = some tag)
    (succeeds : Bool) :
    FilesValid { s with
      vmFiles := Function.update s.vmFiles mmo.id
        (vmaNodeAllowOnce balance (s.vmFiles mmo.id) tag succeeds).1
      callers := s.callers.set index { c with
        pc := if (vmaNodeAllowOnce balance (s.vmFiles mmo.id) tag succeeds).2 = 0
          then .done (.ok mmo)
          else .done (.error (vmaNodeAllowOnce balance (s.vmFiles mmo.id) tag succeeds).2) } } := by
  have idle : c.attached = none := by simp [Caller.attached, pc, AttachPc.finished]
  have attaching : ({ c with pc := .done (.ok mmo) } : Caller).attached = some (mmo.id, tag) := by
    simp [Caller.attached, file, AttachPc.finished, Except.toOption]
  unfold vmaNodeAllowOnce
  cases present : (s.vmFiles mmo.id).search fileKey tag with
  | some entry =>
      have allowed : tag ∈ fileTags (s.vmFiles mmo.id) :=
        List.mem_map.mpr ⟨entry, (RbTree.search_some present).2, (RbTree.search_some present).1⟩
      simp only [if_true]
      refine ⟨?_, ?_, valid.exact_attach found idle attaching fun t => ⟨.inr, ?_⟩⟩
      · simpa only [Function.update_eq_self] using valid.ordered
      · simpa only [Function.update_eq_self] using valid.once
      · rintro (rfl | member)
        exacts [allowed, member]
  | none =>
      cases succeeds with
      | false =>
          simp only [Bool.false_eq_true, if_false, Function.update_eq_self]
          exact valid.setPc found (by simp [Caller.attached, pc, AttachPc.finished,
            Except.toOption, ENOMEM]) _ rfl
      | true =>
          simp only [if_true]
          have absent := (RbTree.search_eq_none_iff (valid.ordered mmo.id)).mp present
          refine ⟨fun id => ?_, fun id => ?_,
            valid.exact_attach found idle attaching fun _ => mem_fileTags_link balance⟩
          · by_cases same : id = mmo.id
            · subst same
              simpa using balance.ordered_run (RbTree.ordered_link (valid.ordered _) absent)
            · simpa [Function.update_noteq same] using valid.ordered id
          · by_cases same : id = mmo.id
            · subst same
              simp only [Function.update_same, balance.inorder_run]
              intro entry member
              rcases RbTree.mem_inorder_link.mp member with rfl | old
              · rfl
              · exact valid.once _ entry old
            · simpa [Function.update_noteq same] using valid.once id

theorem FilesValid.attachStep (valid : FilesValid s) (found : s.callers[index]? = some c)
    (succeeds : Bool) (start : Nat) :
    FilesValid { (attachStep balance s c succeeds start).1 with
      callers := s.callers.set index { c with pc := (attachStep balance s c succeeds start).2 } } := by
  by_cases allowing : ∃ mmo, c.pc = .allow mmo
  · obtain ⟨mmo, pc⟩ := allowing
    cases file : c.file with
    | some tag =>
        have allowed := @FilesValid.allow s index c balance mmo tag valid found pc file succeeds
        rw [file] at allowed
        simp only [GemMman.Registry.attachStep, pc, file]
        exact allowed
    | none =>
        have kept := @FilesValid.setPc s index c (.done (.ok mmo)) valid found
          (by simp [Caller.attached, file]) s rfl
        rw [file] at kept
        simp only [GemMman.Registry.attachStep, pc, file]
        exact kept
  · push_neg at allowing
    obtain ⟨files, attached⟩ := attachStep_frame allowing succeeds start
    exact valid.setPc found attached _ files

theorem FilesValid.step (valid : FilesValid s) :
    ∀ event, FilesValid (step balance s event)
  | .call mmapType file => by
      refine ⟨valid.ordered, valid.once, fun id tag => ?_⟩
      have idle : [(⟨mmapType, file, .lookup⟩ : Caller)].filterMap Caller.attached = [] := rfl
      show tag ∈ fileTags (s.vmFiles id) ↔ _
      rw [valid.exact]
      simp only [attachedFiles, GemMman.Registry.step, List.filterMap_append, idle,
        List.append_nil]
  | .run index succeeds start => by
      simp only [GemMman.Registry.step]
      split
      · exact valid.attachStep ‹_› succeeds start
      · exact valid

theorem filesValid_initial (pages : Nat) : FilesValid (initial pages) :=
  ⟨fun _ => List.Pairwise.nil, nofun, fun _ _ => by simp [fileTags, attachedFiles, initial]⟩

theorem FilesValid.run (events : List Event) (valid : FilesValid s) :
    FilesValid (GemMman.Registry.run balance s events) := by
  induction events generalizing s with
  | nil => exact valid
  | cons event events ih => exact ih (valid.step event)

/-- Every node held for the object spans it: `drm_vma_offset_add` is given the object's
size in pages. -/
def NodesSized (s : AttachState) : Prop := ∀ node ∈ s.nodes, node.pages = s.pages

theorem attachStep_sized (sized : NodesSized s) (succeeds : Bool) (start : Nat) :
    (attachStep balance s c succeeds start).1.pages = s.pages ∧
      NodesSized (attachStep balance s c succeeds start).1 := by
  cases pc : c.pc with
  | add mmo | reap mmo =>
      simp only [attachStep, pc, AttachState.addNode]
      split
      · refine ⟨rfl, fun node member => ?_⟩
        rcases List.mem_cons.mp member with rfl | old
        · rfl
        · exact sized node old
      · exact ⟨rfl, sized⟩
  | insert mmo =>
      simp only [attachStep, pc, insertMmo]
      split
      · exact ⟨rfl, fun node member => sized node (List.mem_filter.mp member).1⟩
      · exact ⟨rfl, sized⟩
  | lookup | alloc | check _ | allow _ | done _ | bug =>
      simp only [attachStep, pc, true_and]
      try split
      all_goals first | exact sized | exact ⟨rfl, sized⟩

theorem NodesSized.step (sized : NodesSized s) :
    ∀ event, (step balance s event).pages = s.pages ∧ NodesSized (step balance s event)
  | .call _ _ => ⟨rfl, sized⟩
  | .run index succeeds start => by
      simp only [GemMman.Registry.step]
      split
      · exact attachStep_sized sized succeeds start
      · exact ⟨rfl, sized⟩

theorem NodesSized.run (events : List Event) (sized : NodesSized s) :
    (GemMman.Registry.run balance s events).pages = s.pages ∧
      NodesSized (GemMman.Registry.run balance s events) := by
  induction events generalizing s with
  | nil => exact ⟨rfl, sized⟩
  | cons event events ih =>
      have ⟨same, next⟩ := @NodesSized.step _ balance sized event
      have ⟨kept, later⟩ := ih next
      exact ⟨kept.trans same, later⟩

/-- Modelled from the spec: `drm_vma_node_is_allowed` (DRM core) walks `vm_files` in the
order `vma_node_allow_once` builds it. -/
def drmVmaNodeIsAllowed (files : RbTree VmaOffsetFile) (tag : Nat) : Bool :=
  (files.search fileKey tag).isSome

/-- Modelled from the spec: `drm_vma_offset_exact_lookup_locked` (DRM core) accepts only a
node that starts at the fake offset and spans the mapping's pages. -/
def drmVmaOffsetExactLookup (nodes : List VmaNode) (start pages : Nat) : Option VmaNode :=
  (nodes.find? (·.start = start)).filter fun node => start + pages ≤ node.start + node.pages

/-- The node lookup of `i915_gem_mmap`: the node of the mapping's fake offset if the file
`tag` may map it, `-EACCES` if it may not, `-EINVAL` if there is no such node. -/
def mmapLookup (nodes : List VmaNode) (vmFiles : Nat → RbTree VmaOffsetFile)
    (vmPgoff pages tag : Nat) : Except Int VmaNode :=
  match drmVmaOffsetExactLookup nodes vmPgoff pages with
  | some node => if drmVmaNodeIsAllowed (vmFiles node.id) tag then .ok node else .error (-EACCES)
  | none => .error (-EINVAL)

theorem mmapLookup_allowed {nodes : List VmaNode} {vmFiles : Nat → RbTree VmaOffsetFile}
    {vmPgoff pages tag : Nat} {node : VmaNode}
    (accepted : mmapLookup nodes vmFiles vmPgoff pages tag = .ok node) :
    tag ∈ fileTags (vmFiles node.id) := by
  unfold mmapLookup at accepted
  split at accepted
  · split at accepted
    · cases accepted
      rename_i allowed
      obtain ⟨file, found⟩ := Option.isSome_iff_exists.mp allowed
      exact List.mem_map.mpr ⟨file, (RbTree.search_some found).2, (RbTree.search_some found).1⟩
    · cases accepted
  · cases accepted

theorem drmVmaOffsetExactLookup_some {nodes : List VmaNode} {start pages : Nat} {node : VmaNode}
    (found : drmVmaOffsetExactLookup nodes start pages = some node) :
    node ∈ nodes ∧ node.start = start ∧ start + pages ≤ node.start + node.pages := by
  obtain ⟨first, spans⟩ := Option.filter_eq_some.mp found
  have starts := List.find?_some first
  exact ⟨List.mem_of_find?_eq_some first, by simpa using starts, by simpa using spans⟩

/-- With distinct starts, the node found at a node's start is that node. -/
theorem find?_start_of_nodup {nodes : List VmaNode} {node : VmaNode}
    (distinct : (nodes.map (·.start)).Nodup) (member : node ∈ nodes) :
    nodes.find? (·.start = node.start) = some node := by
  induction nodes with
  | nil => cases member
  | cons head tail ih =>
      obtain ⟨fresh, distinct⟩ := List.nodup_cons.mp distinct
      by_cases here : head.start = node.start
      · have same : node = head := (List.mem_cons.mp member).resolve_right fun inTail =>
          fresh (List.mem_map.mpr ⟨node, inTail, here.symm⟩)
        simp [same]
      · have inTail := (List.mem_cons.mp member).resolve_left fun same => here (same ▸ rfl)
        simp [here, ih distinct inTail]

theorem mmapLookup_found {nodes : List VmaNode} {vmFiles : Nat → RbTree VmaOffsetFile}
    {vmPgoff pages tag : Nat} {node : VmaNode}
    (accepted : mmapLookup nodes vmFiles vmPgoff pages tag = .ok node) :
    drmVmaOffsetExactLookup nodes vmPgoff pages = some node := by
  unfold mmapLookup at accepted
  split at accepted
  · split at accepted
    · cases accepted
      assumption
    · cases accepted
  · cases accepted

theorem AttachPc.finished_eq_some {pc : AttachPc} {mmo : MmapOffset} :
    pc.finished = some mmo ↔ pc = .done (.ok mmo) := by
  cases pc with
  | done result => cases result <;> simp [AttachPc.finished, Except.toOption]
  | _ => simp [AttachPc.finished]

theorem mem_attachedFiles {id tag : Nat} :
    (id, tag) ∈ attachedFiles s ↔
      ∃ c ∈ s.callers, ∃ mmo, c.pc = .done (.ok mmo) ∧ mmo.id = id ∧ c.file = some tag := by
  simp only [attachedFiles, List.mem_filterMap, Caller.attached, Option.bind_eq_some,
    Option.map_eq_some', Prod.mk.injEq, AttachPc.finished_eq_some]
  constructor
  · rintro ⟨c, member, mmo, finished, file, someFile, rfl, rfl⟩
    exact ⟨c, member, mmo, finished, rfl, someFile⟩
  · rintro ⟨c, member, mmo, finished, rfl, someFile⟩
    exact ⟨c, member, mmo, finished, tag, someFile, rfl, rfl⟩

theorem attach_allow_lists (balance : RbInsertColor) (pages : Nat) (events : List Event) :
    let s := run balance (initial pages) events
    (∀ id, (s.vmFiles id).Ordered fileKey ∧ (fileTags (s.vmFiles id)).Nodup ∧
      ∀ file ∈ (s.vmFiles id).inorder, file.vmCount = 1) ∧
    (∀ id tag, tag ∈ fileTags (s.vmFiles id) ↔
      ∃ c ∈ s.callers, ∃ mmo, c.pc = .done (.ok mmo) ∧ mmo.id = id ∧ c.file = some tag) ∧
    (∀ (mmo : MmapOffset) tag succeeds,
      (∃ c ∈ s.callers, c.pc = .done (.ok mmo) ∧ c.file = some tag) →
        vmaNodeAllowOnce balance (s.vmFiles mmo.id) tag succeeds = (s.vmFiles mmo.id, 0)) ∧
    (∀ id tag succeeds, (vmaNodeAllowOnce balance (s.vmFiles id) tag succeeds).2 = -ENOMEM →
      (vmaNodeAllowOnce balance (s.vmFiles id) tag succeeds).1 = s.vmFiles id) ∧
    (∀ vmPgoff pages tag node, mmapLookup s.nodes s.vmFiles vmPgoff pages tag = .ok node →
      ∃ c ∈ s.callers, ∃ mmo, c.pc = .done (.ok mmo) ∧ mmo.id = node.id ∧ c.file = some tag) := by
  intro s
  have valid : FilesValid s := (filesValid_initial pages).run events
  refine ⟨fun id => ⟨valid.ordered id, (valid.ordered id).nodup, valid.once id⟩,
    fun id tag => (valid.exact id tag).trans mem_attachedFiles, ?_, ?_,
    fun _ _ tag node accepted => mem_attachedFiles.mp
      ((valid.exact _ tag).mp (mmapLookup_allowed accepted))⟩
  · rintro mmo tag succeeds ⟨c, member, finished, file⟩
    obtain ⟨file, present, named⟩ := List.mem_map.mp
      ((valid.exact mmo.id tag).mpr (mem_attachedFiles.mpr ⟨c, member, mmo, finished, rfl, file⟩))
    have found : (s.vmFiles mmo.id).search fileKey tag = some file :=
      (RbTree.search_eq_some_iff (valid.ordered _)).mpr ⟨present, named⟩
    simp [vmaNodeAllowOnce, found]
  · intro id tag succeeds failed
    unfold vmaNodeAllowOnce at failed ⊢
    split
    · rfl
    · split
      · simp_all [ENOMEM]
      · rfl

/-- A node of a record that a file attached is accepted for that file at its start, for
any length up to the node's, once the offset manager has given the nodes distinct starts. -/
theorem mmapLookup_attached (files : FilesValid s) (distinct : (s.nodes.map (·.start)).Nodup)
    {node : VmaNode} (present : node ∈ s.nodes) (member : c ∈ s.callers) {mmo : MmapOffset}
    (finished : c.pc = .done (.ok mmo)) (named : node.id = mmo.id) {tag : Nat}
    (file : c.file = some tag) :
    ∀ span ≤ node.pages, mmapLookup s.nodes s.vmFiles node.start span tag = .ok node := by
  intro span within
  have attached : tag ∈ fileTags (s.vmFiles mmo.id) :=
    (files.exact mmo.id tag).mpr (mem_attachedFiles.mpr ⟨c, member, mmo, finished, rfl, file⟩)
  obtain ⟨entry, listed, tagged⟩ := List.mem_map.mp attached
  have allowed : drmVmaNodeIsAllowed (s.vmFiles node.id) tag = true := by
    rw [drmVmaNodeIsAllowed, named,
      (RbTree.search_eq_some_iff (files.ordered mmo.id)).mpr ⟨listed, tagged⟩]
    rfl
  have exact : drmVmaOffsetExactLookup s.nodes node.start span = some node := by
    simp [drmVmaOffsetExactLookup, find?_start_of_nodup distinct present, within]
  simp [mmapLookup, exact, allowed]

/-- The offset `i915_gem_mmap_offset_attach` hands back to a file is one `i915_gem_mmap`
lets that file map, for any length up to the node's: the record's node is the one found
at that offset, and the file is on its allow-list. The offset manager must have given the
nodes distinct starts. -/
theorem attach_offset_mappable (balance : RbInsertColor) (pages : Nat) (events : List Event) :
    let s := run balance (initial pages) events
    (s.nodes.map (·.start)).Nodup →
      ∀ c ∈ s.callers, ∀ mmo tag, c.pc = .done (.ok mmo) → c.file = some tag →
        ∃ node ∈ s.nodes, node.id = mmo.id ∧
          ∀ span ≤ node.pages, mmapLookup s.nodes s.vmFiles node.start span tag = .ok node := by
  intro s distinct c member mmo tag finished file
  have records : Valid s := (valid_initial pages).run balance events
  have registered := records.obtained c member mmo (by rw [finished]; rfl)
  have inTree := ((lookupMmo_eq_some_iff records.ordered).mp registered).1
  have held : 0 < (s.nodes.map (·.id)).count mmo.id := by
    have := List.count_pos_iff.mpr (List.mem_map_of_mem (·.id) inTree)
    rw [records.nodes]
    exact Nat.lt_add_right _ this
  obtain ⟨node, present, named⟩ := List.mem_map.mp (List.count_pos_iff.mp held)
  exact ⟨node, present, named, mmapLookup_attached ((filesValid_initial pages).run events)
    distinct present member finished named file⟩

/-- One file attaches a WB record whose node the offset manager puts at page 0x100. -/
theorem attach_offset_mappable_single :
    let s := run RbInsertColor.none (initial 2) [.call .wb (some 3), .run 0 true 0x100,
      .run 0 true 0x100, .run 0 true 0x100, .run 0 true 0x100, .run 0 true 0x100, .run 0 true 0x100]
    s.callers.map (·.pc) = [.done (.ok ⟨0, .wb⟩)] ∧ (s.nodes.map (·.start)).Nodup ∧
      ∀ c ∈ s.callers, ∀ mmo tag, c.pc = .done (.ok mmo) → c.file = some tag →
        ∃ node ∈ s.nodes, node.id = mmo.id ∧
          ∀ span ≤ node.pages, mmapLookup s.nodes s.vmFiles node.start span tag = .ok node :=
  ⟨rfl, by decide, attach_offset_mappable RbInsertColor.none 2 [.call .wb (some 3), .run 0 true 0x100,
    .run 0 true 0x100, .run 0 true 0x100, .run 0 true 0x100, .run 0 true 0x100, .run 0 true 0x100]
    (by decide)⟩

end GemMman.Registry

import GemMman.Basic
import GemMman.Data.ListCount
import Mathlib.Data.List.Nodup

namespace GemMman.Mmap

open GemMman.Data

/-! `mmap_singleton`, the anonymous file all mappings of a device share, under any
interleaving of its callers. Each caller is a program counter before its next atomic
step: `READ_ONCE` of `i915->gem.mmap_singleton`, `get_file_rcu`, `anon_inode_getfile`,
the store, `drm_dev_get`, then the `vma_set_file` and `fput` of `i915_gem_update_vma_info`.
Areas holding the file take and drop references, and `singleton_release` runs for a file
once its count has dropped to zero. Files are named by the order of their creation. -/

/-- The program counter of one caller. -/
inductive SingletonPc where
  | read
  | get (file : Nat)
  | create
  | store (file : Nat)
  | devGet (file : Nat)
  | ret (result : Except Int Nat)
  | fput (file : Nat)
  | done

/-- The file whose reference a caller holds. -/
def SingletonPc.holding : SingletonPc → Option Nat
  | .store file => some file
  | .devGet file => some file
  | .ret (.ok file) => some file
  | .fput file => some file
  | .ret (.error _) => none
  | .read => none
  | .get _ => none
  | .create => none
  | .done => none

/-- The file a caller created and has not yet taken its `drm_dev_get` for. -/
def SingletonPc.creating : SingletonPc → Option Nat
  | .store file => some file
  | .devGet file => some file
  | .ret _ => none
  | .fput _ => none
  | .read => none
  | .get _ => none
  | .create => none
  | .done => none

structure SingletonState where
  /-- `i915->gem.mmap_singleton`. -/
  singleton : Option Nat := none
  /-- The reference count of each file. -/
  fileCount : Nat → Nat := fun _ => 0
  /-- The files `anon_inode_getfile` created, in order. -/
  created : List Nat := []
  /-- The files whose `singleton_release` has run. -/
  released : List Nat := []
  /-- The references on the drm device taken by `mmap_singleton` and not yet put. -/
  devRefs : Nat := 0
  /-- The references held by areas (`vma->vm_file`). -/
  holders : List Nat := []
  /-- The program counter of each caller of `mmap_singleton`. -/
  callers : List SingletonPc := []

/-- One atomic step of a caller; `err` is what `anon_inode_getfile` returns, 0 on success. -/
def singletonStep (s : SingletonState) (pc : SingletonPc) (err : Int) :
    SingletonState × SingletonPc :=
  match pc with
  | .read =>
      (s, match s.singleton with
        | some file => .get file
        | none => .create)
  | .get file =>
      if s.fileCount file ≠ 0 then
        ({ s with fileCount := Function.update s.fileCount file (s.fileCount file + 1) },
          .ret (.ok file))
      else (s, .create)
  | .create =>
      if err ≠ 0 then (s, .ret (.error err))
      else
        let file := s.created.length
        ({ s with
            fileCount := Function.update s.fileCount file 1
            created := s.created ++ [file] }, .store file)
  | .store file => ({ s with singleton := some file }, .devGet file)
  | .devGet file => ({ s with devRefs := s.devRefs + 1 }, .ret (.ok file))
  | .ret (.ok file) =>
      ({ s with
          fileCount := Function.update s.fileCount file (s.fileCount file + 1)
          holders := file :: s.holders }, .fput file)
  | .ret (.error _) => (s, .done)
  | .fput file =>
      ({ s with fileCount := Function.update s.fileCount file (s.fileCount file - 1) }, .done)
  | .done => (s, .done)

/-- `singleton_release`. -/
def singletonRelease (s : SingletonState) (file : Nat) : SingletonState :=
  { s with
    singleton := if s.singleton = some file then none else s.singleton
    devRefs := s.devRefs - 1
    released := file :: s.released }

/-- A new caller, a caller's next step (`err` is what its `anon_inode_getfile` would return),
an area taking or dropping its reference on a file, or `singleton_release` of a file. -/
inductive SingletonEvent where
  | call
  | run (caller : Nat) (err : Int)
  | areaGet (file : Nat)
  | areaPut (file : Nat)
  | release (file : Nat)

/-- An event; `singleton_release` runs only for a created file whose count is zero, once. -/
def SingletonState.step (s : SingletonState) : SingletonEvent → SingletonState
  | .call => { s with callers := s.callers ++ [.read] }
  | .run index err =>
      match s.callers[index]? with
      | some pc =>
          let next := singletonStep s pc err
          { next.1 with callers := s.callers.set index next.2 }
      | none => s
  | .areaGet file =>
      if file ∈ s.holders then
        { s with
          fileCount := Function.update s.fileCount file (s.fileCount file + 1)
          holders := file :: s.holders }
      else s
  | .areaPut file =>
      if file ∈ s.holders then
        { s with
          fileCount := Function.update s.fileCount file (s.fileCount file - 1)
          holders := s.holders.erase file }
      else s
  | .release file =>
      if s.fileCount file = 0 ∧ file ∈ s.created ∧ file ∉ s.released then singletonRelease s file
      else s

def SingletonState.run (s : SingletonState) (events : List SingletonEvent) : SingletonState :=
  events.foldl SingletonState.step s

/-- The files whose creators have not yet taken their `drm_dev_get`. -/
def creatingFiles (s : SingletonState) : List Nat := s.callers.filterMap SingletonPc.creating

/-- The files the callers hold references on. -/
def heldFiles (s : SingletonState) : List Nat := s.callers.filterMap SingletonPc.holding

/-- A created file not yet released whose creator has taken its device reference. -/
def devCounted (s : SingletonState) (file : Nat) : Bool :=
  file ∉ s.released ∧ (creatingFiles s).count file = 0

/-- What every reachable state keeps. -/
structure SingletonValid (s : SingletonState) : Prop where
  fresh : ∀ file ∈ s.created, file < s.created.length
  distinct : s.created.Nodup
  releasedCreated : ∀ file ∈ s.released, file ∈ s.created
  counted : ∀ file, s.fileCount file = s.holders.count file + (heldFiles s).count file
  alive : ∀ file, s.fileCount file ≠ 0 → file ∈ s.created ∧ file ∉ s.released
  singleton : ∀ file, s.singleton = some file → file ∈ s.created ∧ file ∉ s.released
  creatingOnce : ∀ file, (creatingFiles s).count file ≤ 1
  devRefs : s.devRefs = s.created.countP (devCounted s)

variable {s : SingletonState} {index : Nat} {pc : SingletonPc}

theorem count_creating_le_held (s : SingletonState) (file : Nat) :
    (creatingFiles s).count file ≤ (heldFiles s).count file :=
  count_filterMap_le file (fun pc => by
    cases pc with
    | ret result => cases result <;> simp [SingletonPc.creating, SingletonPc.holding]
    | _ => simp [SingletonPc.creating, SingletonPc.holding]) s.callers

/-- A step that leaves the files, the singleton, the device references and what the
callers are creating as they were keeps the invariant, once the reference counts still
add up and no file whose count was zero gains one. -/
theorem SingletonValid.ofCounts {t : SingletonState} (valid : SingletonValid s)
    (created : t.created = s.created) (released : t.released = s.released)
    (singleton : t.singleton = s.singleton) (devRefs : t.devRefs = s.devRefs)
    (creating : ∀ file, (creatingFiles t).count file = (creatingFiles s).count file)
    (counted : ∀ file, t.fileCount file = t.holders.count file + (heldFiles t).count file)
    (revived : ∀ file, t.fileCount file ≠ 0 → s.fileCount file ≠ 0) : SingletonValid t := by
  have sameCounted : devCounted t = devCounted s := by
    funext file
    simp only [devCounted, released, creating]
  refine ⟨?_, ?_, ?_, counted, fun file live => ?_, ?_, fun file => ?_, ?_⟩
  · rw [created]; exact valid.fresh
  · rw [created]; exact valid.distinct
  · rw [created, released]; exact valid.releasedCreated
  · rw [created, released]; exact valid.alive file (revived file live)
  · rw [singleton, created, released]; exact valid.singleton
  · rw [creating]; exact valid.creatingOnce file
  · rw [devRefs, created, sameCounted]; exact valid.devRefs

/-- The file a caller holds a reference on has a non-zero count. -/
theorem SingletonValid.held_live {file : Nat} (valid : SingletonValid s)
    (found : s.callers[index]? = some pc) (holds : pc.holding = some file) :
    s.fileCount file ≠ 0 := by
  have member : file ∈ heldFiles s := List.mem_filterMap.2 ⟨pc, List.getElem?_mem found, holds⟩
  have := List.count_pos_iff.2 member
  have := valid.counted file
  omega

variable {file : Nat}

/-- How one caller's move changes a count over what the callers hold or create. -/
theorem count_callers_set (found : s.callers[index]? = some pc) (new : SingletonPc)
    (f : SingletonPc → Option Nat) (x : Nat) :
    ((s.callers.set index new).filterMap f).count x + (f pc).toList.count x =
      (s.callers.filterMap f).count x + (f new).toList.count x :=
  count_filterMap_set f x found rfl rfl

theorem count_callers_set_of_eq (found : s.callers[index]? = some pc) (new : SingletonPc)
    (f : SingletonPc → Option Nat) (same : f new = f pc) (x : Nat) :
    ((s.callers.set index new).filterMap f).count x = (s.callers.filterMap f).count x := by
  simpa [same] using count_callers_set found new f x

/-- A caller moves to a counter that holds and creates what the old one did. -/
theorem SingletonValid.setPc (valid : SingletonValid s) (found : s.callers[index]? = some pc)
    (new : SingletonPc) (held : new.holding = pc.holding) (creating : new.creating = pc.creating) :
    SingletonValid { s with callers := s.callers.set index new } :=
  valid.ofCounts rfl rfl rfl rfl (count_callers_set_of_eq found new _ creating)
    (fun x => by
      simp only [heldFiles]
      rw [count_callers_set_of_eq found new _ held]
      exact valid.counted x)
    fun _ => id

/-- Two states that release and create alike away from `file` count alike away from it. -/
theorem devCounted_agree {t : SingletonState}
    (released : ∀ x ≠ file, x ∈ t.released ↔ x ∈ s.released)
    (creating : ∀ x ≠ file, (creatingFiles t).count x = (creatingFiles s).count x) :
    ∀ x ∈ s.created, x ≠ file → devCounted t x = devCounted s x := by
  intro x _ other
  simp only [devCounted, released x other, creating x other]

/-- A step that moves only `file`'s count, to `n`, keeps the invariant when the counts add
up at `file` and elsewhere stay as they were, and `file` had a reference if it has one now. -/
theorem SingletonValid.ofUpdate {t : SingletonState} {n : Nat} (valid : SingletonValid s)
    (created : t.created = s.created) (released : t.released = s.released)
    (singleton : t.singleton = s.singleton) (devRefs : t.devRefs = s.devRefs)
    (creating : ∀ x, (creatingFiles t).count x = (creatingFiles s).count x)
    (fileCount : t.fileCount = Function.update s.fileCount file n)
    (atFile : n = t.holders.count file + (heldFiles t).count file)
    (elsewhere : ∀ x ≠ file,
      t.holders.count x + (heldFiles t).count x = s.holders.count x + (heldFiles s).count x)
    (revived : n ≠ 0 → s.fileCount file ≠ 0) : SingletonValid t :=
  valid.ofCounts created released singleton devRefs creating
    (fun x => by
      rw [fileCount, Function.update_apply]
      split_ifs with same
      · exact same ▸ atFile
      · rw [elsewhere x same]; exact valid.counted x)
    fun x counts => by
      rw [fileCount, Function.update_apply] at counts
      split_ifs at counts with same
      · exact same ▸ revived counts
      · exact counts

theorem SingletonValid.get (valid : SingletonValid s) (found : s.callers[index]? = some (.get file))
    (live : s.fileCount file ≠ 0) :
    SingletonValid { s with
      fileCount := Function.update s.fileCount file (s.fileCount file + 1)
      callers := s.callers.set index (.ret (.ok file)) } := by
  have held (x : Nat) := count_callers_set found (.ret (.ok file)) SingletonPc.holding x
  refine valid.ofUpdate rfl rfl rfl rfl (count_callers_set_of_eq found _ _ rfl) rfl ?_
    (fun x other => ?_) fun _ => live
  · have moved := held file
    have := valid.counted file
    simp [SingletonPc.holding, heldFiles] at moved this ⊢; omega
  · simpa [SingletonPc.holding, heldFiles, List.count_singleton, Ne.symm other] using held x

theorem SingletonValid.retOk (valid : SingletonValid s)
    (found : s.callers[index]? = some (.ret (.ok file))) :
    SingletonValid { s with
      fileCount := Function.update s.fileCount file (s.fileCount file + 1)
      holders := file :: s.holders
      callers := s.callers.set index (.fput file) } := by
  have held := count_callers_set_of_eq found (.fput file) SingletonPc.holding rfl
  refine valid.ofUpdate rfl rfl rfl rfl (count_callers_set_of_eq found _ _ rfl) rfl ?_
    (fun x other => ?_) fun _ => valid.held_live found rfl
  · have := valid.counted file
    simp [heldFiles, held] at this ⊢; omega
  · simp [heldFiles, held, other]

theorem SingletonValid.fput (valid : SingletonValid s) (found : s.callers[index]? = some (.fput file)) :
    SingletonValid { s with
      fileCount := Function.update s.fileCount file (s.fileCount file - 1)
      callers := s.callers.set index .done } := by
  have held (x : Nat) := count_callers_set found .done SingletonPc.holding x
  refine valid.ofUpdate rfl rfl rfl rfl (count_callers_set_of_eq found _ _ rfl) rfl ?_
    (fun x other => ?_) fun counts => by omega
  · have moved := held file
    have := valid.counted file
    simp [SingletonPc.holding, heldFiles] at moved this ⊢; omega
  · simpa [SingletonPc.holding, heldFiles, List.count_singleton, Ne.symm other] using held x

theorem SingletonValid.areaGet (valid : SingletonValid s) (holder : file ∈ s.holders) :
    SingletonValid { s with
      fileCount := Function.update s.fileCount file (s.fileCount file + 1)
      holders := file :: s.holders } := by
  have counted := valid.counted file
  refine valid.ofUpdate rfl rfl rfl rfl (fun _ => rfl) rfl ?_ (fun x other => ?_) fun _ => ?_
  · simp [heldFiles] at counted ⊢; omega
  · simp [heldFiles, other]
  · have := List.count_pos_iff.2 holder
    omega

theorem SingletonValid.areaPut (valid : SingletonValid s) (holder : file ∈ s.holders) :
    SingletonValid { s with
      fileCount := Function.update s.fileCount file (s.fileCount file - 1)
      holders := s.holders.erase file } := by
  have counted := valid.counted file
  have holds := List.count_pos_iff.2 holder
  refine valid.ofUpdate rfl rfl rfl rfl (fun _ => rfl) rfl ?_ (fun x other => ?_) fun _ => by omega
  · simp [heldFiles] at counted ⊢; omega
  · simp [heldFiles, List.count_erase_of_ne other]

theorem SingletonValid.call (valid : SingletonValid s) :
    SingletonValid { s with callers := s.callers ++ [.read] } :=
  valid.ofCounts rfl rfl rfl rfl (fun _ => by simp [creatingFiles, SingletonPc.creating])
    (fun x => by simpa [heldFiles, SingletonPc.holding] using valid.counted x) fun _ => id

/-- A file created by `anon_inode_getfile` is new: no one holds or creates it yet. -/
theorem SingletonValid.unused (valid : SingletonValid s) :
    s.created.length ∉ s.created ∧ s.fileCount s.created.length = 0 := by
  have fresh : s.created.length ∉ s.created := fun member => lt_irrefl _ (valid.fresh _ member)
  exact ⟨fresh, by_contra fun live => fresh (valid.alive _ live).1⟩

theorem SingletonValid.create (valid : SingletonValid s) (found : s.callers[index]? = some .create) :
    SingletonValid { s with
      fileCount := Function.update s.fileCount s.created.length 1
      created := s.created ++ [s.created.length]
      callers := s.callers.set index (.store s.created.length) } := by
  set t : SingletonState := { s with
    fileCount := Function.update s.fileCount s.created.length 1
    created := s.created ++ [s.created.length]
    callers := s.callers.set index (.store s.created.length) }
  obtain ⟨fresh, unused⟩ := valid.unused
  have held (x : Nat) := count_callers_set found (.store s.created.length) SingletonPc.holding x
  have creating (x : Nat) :=
    count_callers_set found (.store s.created.length) SingletonPc.creating x
  have notCreating : (creatingFiles s).count s.created.length = 0 := by
    have := count_creating_le_held s s.created.length
    have := valid.counted s.created.length
    omega
  refine ⟨fun x member => ?_, ?_, fun x member => List.mem_append_left _ (valid.releasedCreated x member),
    fun x => ?_, fun x counts => ?_, fun x current => ?_, fun x => ?_, ?_⟩
  · simp only [List.mem_append, List.mem_singleton] at member
    rcases member with member | rfl
    · have := valid.fresh x member
      simp; omega
    · simp
  · exact List.nodup_append_comm.1 (List.nodup_cons.2 ⟨fresh, valid.distinct⟩)
  · have old := valid.counted x
    have held := held x
    rcases eq_or_ne x s.created.length with rfl | other
    · simp [SingletonPc.holding, heldFiles, unused] at held old ⊢; omega
    · simp [SingletonPc.holding, heldFiles, other, Ne.symm other] at held old ⊢; omega
  · rcases eq_or_ne x s.created.length with rfl | other
    · exact ⟨by simp, fun released => fresh (valid.releasedCreated _ released)⟩
    · have := valid.alive x (by simpa [other] using counts)
      exact ⟨List.mem_append_left _ this.1, this.2⟩
  · have := valid.singleton x current
    exact ⟨List.mem_append_left _ this.1, this.2⟩
  · have once := valid.creatingOnce x
    have creating := creating x
    rcases eq_or_ne x s.created.length with rfl | other
    · simp [SingletonPc.creating, creatingFiles] at creating notCreating ⊢; omega
    · simp [SingletonPc.creating, creatingFiles, other, Ne.symm other] at creating once ⊢; omega
  · have same : ∀ x ∈ s.created, x ≠ s.created.length → devCounted t x = devCounted s x :=
      devCounted_agree (fun _ _ => Iff.rfl) fun x other => by
        simpa [SingletonPc.creating, other, Ne.symm other] using creating x
    have newFile := creating s.created.length
    simp [SingletonPc.creating, creatingFiles, notCreating] at newFile
    show s.devRefs = (s.created ++ [s.created.length]).countP (devCounted t)
    rw [List.countP_append, List.countP_congr fun x member => by
      rw [same x member (ne_of_mem_of_not_mem member fresh)], ← valid.devRefs]
    simp [devCounted, t, creatingFiles, newFile]

theorem SingletonValid.store (valid : SingletonValid s)
    (found : s.callers[index]? = some (.store file)) :
    SingletonValid { s with singleton := some file, callers := s.callers.set index (.devGet file) } :=
  have moved := valid.setPc found (.devGet file) rfl rfl
  ⟨moved.1, moved.2, moved.3, moved.4, moved.5,
    fun _ current => Option.some.inj current ▸ valid.alive file (valid.held_live found rfl), moved.7,
    moved.8⟩

theorem SingletonValid.devGet (valid : SingletonValid s)
    (found : s.callers[index]? = some (.devGet file)) :
    SingletonValid { s with devRefs := s.devRefs + 1, callers := s.callers.set index (.ret (.ok file)) } := by
  set t : SingletonState :=
    { s with devRefs := s.devRefs + 1, callers := s.callers.set index (.ret (.ok file)) }
  have creating (x : Nat) := count_callers_set found (.ret (.ok file)) SingletonPc.creating x
  have live := valid.alive file (valid.held_live found rfl)
  have once := valid.creatingOnce file
  have moved := creating file
  simp only [SingletonPc.creating, creatingFiles] at moved once
  simp at moved
  refine ⟨valid.fresh, valid.distinct, valid.releasedCreated, fun x => ?_, valid.alive,
    valid.singleton, fun x => ?_, ?_⟩
  · simp only [heldFiles, t]
    rw [count_callers_set_of_eq found (.ret (.ok file)) SingletonPc.holding rfl]
    exact valid.counted x
  · have := creating x
    have := valid.creatingOnce x
    simp [SingletonPc.creating, creatingFiles] at *
    omega
  · have agree : ∀ x ∈ s.created, x ≠ file → devCounted t x = devCounted s x :=
      devCounted_agree (fun _ _ => Iff.rfl) fun x other => by
        simpa [SingletonPc.creating, creatingFiles, t, List.count_singleton, Ne.symm other]
          using creating x
    have key := countP_add_of_agree valid.distinct live.1 agree
    have nowCounted : devCounted t file = true := by simp [devCounted, creatingFiles, t, live.2]; omega
    have notYet : devCounted s file = false := by simp [devCounted, creatingFiles]; omega
    rw [nowCounted, notYet, valid.devRefs.symm] at key
    show s.devRefs + 1 = s.created.countP (devCounted t)
    simp at key; omega

/-- A file whose count is zero has no creator short of its `drm_dev_get`. -/
theorem SingletonValid.dead_not_creating (valid : SingletonValid s) (dead : s.fileCount file = 0) :
    (creatingFiles s).count file = 0 := by
  have := count_creating_le_held s file
  have := valid.counted file
  omega

theorem SingletonValid.release (valid : SingletonValid s) (dead : s.fileCount file = 0)
    (member : file ∈ s.created) (live : file ∉ s.released) :
    SingletonValid (singletonRelease s file) := by
  have notCreating := valid.dead_not_creating dead
  refine ⟨valid.fresh, valid.distinct, fun x released => ?_, valid.counted, fun x counts => ?_,
    fun x current => ?_, valid.creatingOnce, ?_⟩
  · rcases List.mem_cons.1 released with rfl | released
    · exact member
    · exact valid.releasedCreated x released
  · have other : x ≠ file := fun same => counts (same ▸ dead)
    have := valid.alive x counts
    exact ⟨this.1, by simp [singletonRelease, other, this.2]⟩
  · simp only [singletonRelease] at current
    split_ifs at current with was
    have other : x ≠ file := fun same => was (same ▸ current)
    have := valid.singleton x current
    exact ⟨this.1, by simp [singletonRelease, other, this.2]⟩
  · have agree : ∀ x ∈ s.created, x ≠ file →
        devCounted (singletonRelease s file) x = devCounted s x :=
      devCounted_agree (fun x other => by simp [singletonRelease, other]) fun _ _ => rfl
    have key := countP_add_of_agree valid.distinct member agree
    have nowOff : devCounted (singletonRelease s file) file = false := by
      simp [devCounted, singletonRelease]
    have wasOn : devCounted s file = true := by simp [devCounted, live, notCreating]
    rw [nowOff, wasOn, ← valid.devRefs] at key
    show s.devRefs - 1 = s.created.countP (devCounted (singletonRelease s file))
    simp at key; omega

theorem SingletonValid.runCaller (valid : SingletonValid s) (found : s.callers[index]? = some pc)
    (err : Int) :
    SingletonValid
      { (singletonStep s pc err).1 with callers := s.callers.set index (singletonStep s pc err).2 } := by
  cases pc with
  | read =>
      simp only [singletonStep]
      split <;> exact valid.setPc found _ rfl rfl
  | get file =>
      by_cases live : s.fileCount file ≠ 0
      · simp only [singletonStep, if_pos live]; exact valid.get found live
      · simp only [singletonStep, if_neg live]; exact valid.setPc found .create rfl rfl
  | create =>
      by_cases failed : err ≠ 0
      · simp only [singletonStep, if_pos failed]; exact valid.setPc found (.ret (.error err)) rfl rfl
      · simp only [singletonStep, if_neg failed]; exact valid.create found
  | store file => exact valid.store found
  | devGet file => exact valid.devGet found
  | ret result =>
      cases result with
      | ok file => exact valid.retOk found
      | error code => exact valid.setPc found .done rfl rfl
  | fput file => exact valid.fput found
  | done => exact valid.setPc found .done rfl rfl

theorem SingletonValid.step (valid : SingletonValid s) : ∀ event, SingletonValid (s.step event)
  | .call => valid.call
  | .run index err => by
      cases found : s.callers[index]? with
      | none => simp only [SingletonState.step, found]; exact valid
      | some pc => simp only [SingletonState.step, found]; exact valid.runCaller found err
  | .areaGet file => by
      by_cases holder : file ∈ s.holders
      · simp only [SingletonState.step, if_pos holder]; exact valid.areaGet holder
      · simp only [SingletonState.step, if_neg holder]; exact valid
  | .areaPut file => by
      by_cases holder : file ∈ s.holders
      · simp only [SingletonState.step, if_pos holder]; exact valid.areaPut holder
      · simp only [SingletonState.step, if_neg holder]; exact valid
  | .release file => by
      by_cases ready : s.fileCount file = 0 ∧ file ∈ s.created ∧ file ∉ s.released
      · simp only [SingletonState.step, if_pos ready]
        exact valid.release ready.1 ready.2.1 ready.2.2
      · simp only [SingletonState.step, if_neg ready]; exact valid

theorem SingletonValid.run (valid : SingletonValid s) (events : List SingletonEvent) :
    SingletonValid (s.run events) := by
  induction events generalizing s with
  | nil => exact valid
  | cons event rest ih => exact ih (valid.step event)

theorem singletonValid_initial : SingletonValid {} :=
  ⟨nofun, List.nodup_nil, nofun, fun _ => rfl, fun _ idle => absurd rfl idle, nofun,
    fun _ => Nat.zero_le _, rfl⟩

/-- A created file whose count has dropped to zero keeps it at zero through any step:
`get_file_rcu` refuses it, and every other step that takes a reference takes it on a file
that already has one. -/
theorem SingletonValid.dead_step (valid : SingletonValid s) (member : file ∈ s.created)
    (dead : s.fileCount file = 0) :
    ∀ event, file ∈ (s.step event).created ∧ (s.step event).fileCount file = 0
  | .call => ⟨member, dead⟩
  | .run index err => by
      cases found : s.callers[index]? with
      | none => simp only [SingletonState.step, found]; exact ⟨member, dead⟩
      | some pc =>
          simp only [SingletonState.step, found]
          cases pc with
          | get target =>
              simp only [singletonStep]
              split_ifs with live
              · have other : file ≠ target := fun same => live (same ▸ dead)
                simp [Function.update_apply, other, member, dead]
              · exact ⟨member, dead⟩
          | create =>
              simp only [singletonStep]
              split_ifs
              · exact ⟨member, dead⟩
              · have other : file ≠ s.created.length := ne_of_mem_of_not_mem member valid.unused.1
                simp [Function.update_apply, other, member, dead]
          | ret result =>
              cases result with
              | ok target =>
                  have other : file ≠ target := fun same =>
                    valid.held_live found (same ▸ rfl : SingletonPc.holding (.ret (.ok target)) = some file) dead
                  simp [singletonStep, Function.update_apply, other, member, dead]
              | error code => exact ⟨member, dead⟩
          | fput target =>
              simp only [singletonStep, Function.update_apply]
              split_ifs with same
              · subst same; simp [member, dead]
              · exact ⟨member, dead⟩
          | _ => exact ⟨member, dead⟩
  | .areaGet target => by
      simp only [SingletonState.step]
      split_ifs with holder
      · have live : s.fileCount target ≠ 0 := by
          have := List.count_pos_iff.2 holder
          have := valid.counted target
          omega
        have other : file ≠ target := fun same => live (same ▸ dead)
        simp [Function.update_apply, other, member, dead]
      · exact ⟨member, dead⟩
  | .areaPut target => by
      simp only [SingletonState.step]
      split_ifs
      · simp only [Function.update_apply]
        split_ifs with same
        · subst same; simp [member, dead]
        · exact ⟨member, dead⟩
      · exact ⟨member, dead⟩
  | .release target => by
      simp only [SingletonState.step]
      split_ifs
      · exact ⟨member, dead⟩
      · exact ⟨member, dead⟩

theorem SingletonValid.dead_run (valid : SingletonValid s) (member : file ∈ s.created)
    (dead : s.fileCount file = 0) (events : List SingletonEvent) :
    (s.run events).fileCount file = 0 := by
  induction events generalizing s with
  | nil => exact dead
  | cons event rest ih =>
      obtain ⟨member, dead⟩ := valid.dead_step member dead event
      exact ih (valid.step event) member dead

/-- A file some caller is creating is alive. -/
theorem SingletonValid.creating_alive (valid : SingletonValid s) (member : file ∈ creatingFiles s) :
    file ∈ s.created ∧ file ∉ s.released := by
  have := List.count_pos_iff.2 member
  have := count_creating_le_held s file
  have := valid.counted file
  exact valid.alive file (by omega)

/-- The device references fall short of the live files by the callers between
`anon_inode_getfile` and `drm_dev_get`. -/
theorem SingletonValid.devRefs_window (valid : SingletonValid s) :
    s.devRefs + (creatingFiles s).length = (s.created.filter (· ∉ s.released)).length := by
  set unreleased := s.created.filter (· ∉ s.released)
  have window : (unreleased.filter (· ∈ creatingFiles s)).Perm (creatingFiles s) :=
    (List.perm_ext_iff_of_nodup ((valid.distinct.filter _).filter _)
      (List.nodup_iff_count_le_one.2 valid.creatingOnce)).2 fun file => by
        constructor
        · intro member; exact of_decide_eq_true (List.mem_filter.1 member).2
        · intro member
          have := valid.creating_alive member
          simp [unreleased, this, member]
  have counted : s.devRefs = (unreleased.filter fun file => !decide (file ∈ creatingFiles s)).length := by
    rw [valid.devRefs, List.countP_eq_length_filter, List.filter_filter]
    congr 1
    apply List.filter_congr
    intro file _
    simp [devCounted, List.count_eq_zero, Bool.and_comm]
  rw [counted, ← window.length_eq, Nat.add_comm]
  exact (unreleased.length_eq_length_filter_add _).symm

/-- Under any interleaving from the initial state: a file `mmap_singleton` returns carries
the caller's counted reference and has not been released; a created file whose count
reached zero never gains a reference again; `i915->gem.mmap_singleton` names only a live
file; and the device references count the live files, less those whose creators have not
yet reached `drm_dev_get`. -/
theorem mmap_singleton_references (events : List SingletonEvent) :
    let s := SingletonState.run {} events
    (∀ file, SingletonPc.ret (.ok file) ∈ s.callers →
      0 < s.fileCount file ∧ file ∈ s.created ∧ file ∉ s.released) ∧
    (∀ file, s.fileCount file = s.holders.count file + (heldFiles s).count file) ∧
    (∀ file ∈ s.created, s.fileCount file = 0 → ∀ later, (s.run later).fileCount file = 0) ∧
    (∀ file, s.singleton = some file → file ∈ s.created ∧ file ∉ s.released) ∧
    s.devRefs + (creatingFiles s).length = (s.created.filter (· ∉ s.released)).length := by
  intro s
  have valid : SingletonValid s := singletonValid_initial.run events
  refine ⟨fun file returned => ?_, valid.counted, fun file member dead => valid.dead_run member dead,
    valid.singleton, valid.devRefs_window⟩
  obtain ⟨index, found⟩ := List.mem_iff_getElem?.1 returned
  have live := valid.held_live found rfl
  exact ⟨Nat.pos_of_ne_zero live, valid.alive file live⟩

/-- `singleton_release` puts a device reference `mmap_singleton` took: whenever a file may
be released, the count of device references is not zero. -/
theorem singleton_release_has_dev_ref (events : List SingletonEvent) (file : Nat) :
    let s := SingletonState.run {} events
    s.fileCount file = 0 → file ∈ s.created → file ∉ s.released → 0 < s.devRefs := by
  intro s dead member live
  have valid : SingletonValid s := singletonValid_initial.run events
  rw [valid.devRefs]
  exact List.countP_pos_iff.2 ⟨file, member, by simp [devCounted, live, valid.dead_not_creating dead]⟩

/-- One caller maps and unmaps: once the area drops the file, it may be released. -/
theorem singleton_release_has_dev_ref_after_unmap :
    let s := SingletonState.run {} [.call, .run 0 0, .run 0 0, .run 0 0, .run 0 0, .run 0 0,
      .run 0 0, .areaPut 0]
    (s.fileCount 0 = 0 ∧ 0 ∈ s.created ∧ 0 ∉ s.released) ∧ 0 < s.devRefs :=
  ⟨by decide, singleton_release_has_dev_ref [.call, .run 0 0, .run 0 0, .run 0 0, .run 0 0,
    .run 0 0, .run 0 0, .areaPut 0] 0 (by decide) (by decide) (by decide)⟩

/-- One caller past `anon_inode_getfile` and before `drm_dev_get`: one live file, no device
reference. -/
theorem singleton_dev_ref_window :
    let s := SingletonState.run {} [.call, .run 0 0, .run 0 0]
    s.devRefs ≠ (s.created.filter (· ∉ s.released)).length := by
  decide

end GemMman.Mmap

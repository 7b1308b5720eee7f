import GemMman.Fault.Cpu
import Mathlib.Algebra.Group.Nat.Basic
import Mathlib.Algebra.Group.Int

namespace GemMman.Fault

/-! `vm_access`, through which `access_process_vm` (ptrace, debuggers) reads or writes the
object behind a user address: the object bytes it copies, and where `vm_fault_cpu` maps
the same address. -/

/-- What the collaborators return in one pass from `retry:`. -/
structure AccessPassEnv where
  lock : Int := 0
  /-- `i915_gem_object_pin_map`: an error, or 0 once mapped. -/
  pinMap : Int := 0
  backoff : Int := 0

/-- A `memcpy` of `vm_access`: `len` bytes of object `obj` from byte `offset`, into the
object when `write` is set. -/
structure AccessCopy where
  obj : Nat
  offset : Nat
  len : Nat
  write : Bool
deriving DecidableEq, Repr

/-- The conversion of an integer to `u64` (or `unsigned long`, `size_t`): modulo `2^64`.
It gives `(u64)len` of a C `int`, the `size_t` that `memcpy` receives, and the
`unsigned long` difference `addr - vm_start`. -/
def castU64 (len : Int) : Nat := (len % 2 ^ 64).toNat

/-- One pass of `vm_access` from `retry:`: the copies it made, the error it ends on, and
the kernel mapping it took and gave back, in order. -/
structure AccessPass where
  copies : List AccessCopy
  err : Int
  maps : List ResEvent

/-- One pass of `vm_access` from `retry:` on the object `target`. -/
def vmAccessPass (target : GemObject) (offset : Nat) (len : Int) (write : Bool)
    (env : AccessPassEnv) : AccessPass :=
  if env.lock ≠ 0 then ⟨[], env.lock, []⟩
  else if env.pinMap ≠ 0 then ⟨[], env.pinMap, []⟩
  -- `i915_gem_object_pin_map`, the `memcpy`, then `i915_gem_object_unpin_map`
  else ⟨[⟨target.id, offset, castU64 len, write⟩], 0, [.acquire .pinMap, .release .pinMap]⟩

/-- The retry loop of `vm_access` on the object `target`, from `retry:`; it returns `len`
or the error. -/
def vmAccessLoop (target : GemObject) (offset : Nat) (len : Int) (write : Bool) :
    List AccessPassEnv → List AccessCopy × Option Int
  | [] => ([], none)
  | env :: rest =>
      let pass := vmAccessPass target offset len write env
      if pass.err = -EDEADLK ∧ env.backoff = 0 then
        let later := vmAccessLoop target offset len write rest
        (pass.copies ++ later.1, later.2)
      else
        let err := if pass.err = -EDEADLK then env.backoff else pass.err
        (pass.copies, some (if err ≠ 0 then err else len))

/-- The checks `vm_access` makes before its ww context: the object it copies from and the
offset in it, or the error it returns. `addr -= area->vm_start` is an `unsigned long`
difference. `range_overflows_t(u64, addr, len, obj->base.size)` refuses a range that
starts at or past the object's end or runs past it, with `len` cast to u64; the
subtraction it makes is evaluated only when `addr` is below the size. The segment check
compares `len`, converted to `unsigned long`, with the bytes left in the segment. -/
def vmAccessTarget (area : VmArea) (obj : GemObject) (addr : Nat) (len : Int) (write : Bool) :
    Except Int (GemObject × Nat) :=
  if obj.readonly && write then .error (-EACCES)
  else
    let addr := castU64 (addr - area.vmStart)
    if addr ≥ obj.size ∨ castU64 len > obj.size - addr then .error (-EINVAL)
    else if obj.hasSegments then
      match obj.lookupSegment addr with
      | none => .error (-EINVAL)
      | some segment =>
          let offset := addr - segment.segmentOffset
          if castU64 len > segment.size - offset then .error (- ENXIO) else .ok (segment, offset)
    else .ok (obj, addr)

/-- `vm_access`. -/
def vmAccess (area : VmArea) (obj : GemObject) (addr : Nat) (len : Int) (write : Bool)
    (rounds : List AccessPassEnv) : List AccessCopy × Option Int :=
  match vmAccessTarget area obj addr len write with
  | .error err => ([], some err)
  | .ok (target, offset) => vmAccessLoop target offset len write rounds

/-- A C `int` whose u64 cast is no more than a bound below `2^63` is not negative, and the
cast leaves it as it is. -/
theorem castU64_le {len : Int} {bound : Nat} (isInt : -2 ^ 31 ≤ len ∧ len < 2 ^ 31)
    (fits : castU64 len ≤ bound) (small : bound < 2 ^ 63) :
    0 ≤ len ∧ castU64 len = len.toNat := by
  unfold castU64 at fits ⊢
  omega

/-- The `unsigned long` difference of two addresses, the first not below the second, is
their difference. -/
theorem castU64_sub {addr start : Nat} (above : start ≤ addr) (isLong : addr < 2 ^ 64) :
    castU64 (addr - start) = addr - start := by
  unfold castU64
  omega

/-- A pass of `vm_access` whose collaborators return 0 or an errno fails with an errno,
`-EDEADLK` only when the object lock or `i915_gem_object_pin_map` returned it, having
copied nothing and holding no mapping; or it copies once, taking the kernel mapping and
giving it back. -/
theorem vmAccessPass_cases (target : GemObject) (offset : Nat) (len : Int) (write : Bool)
    {env : AccessPassEnv} (errnos : env.lock ≤ 0 ∧ env.pinMap ≤ 0) :
    (∃ err, err < 0 ∧ (err = -EDEADLK → env.lock = -EDEADLK ∨ env.lock = 0 ∧ env.pinMap = -EDEADLK) ∧
        vmAccessPass target offset len write env = ⟨[], err, []⟩) ∨
      vmAccessPass target offset len write env =
        ⟨[⟨target.id, offset, castU64 len, write⟩], 0, [.acquire .pinMap, .release .pinMap]⟩ := by
  unfold vmAccessPass
  by_cases locked : env.lock ≠ 0
  · exact .inl ⟨_, by omega, .inl, if_pos locked⟩
  rw [if_neg locked]
  by_cases unmapped : env.pinMap ≠ 0
  · exact .inl ⟨_, by omega, fun deadlock => .inr ⟨by omega, deadlock⟩, if_pos unmapped⟩
  · exact .inr (if_neg unmapped)

/-- A round of the loop that goes round again: its pass ends on `-EDEADLK` and the backoff
succeeds. -/
def AccessPassEnv.Retried (env : AccessPassEnv) : Prop :=
  env.backoff = 0 ∧ (env.lock = -EDEADLK ∨ env.lock = 0 ∧ env.pinMap = -EDEADLK)

/-- What the retry loop can end with, when its collaborators return 0 or an errno: no copy,
and an errno, or no result yet once every round given went round again; or the one copy
of `len` bytes at `offset` of the target and `len` returned. -/
theorem vmAccessLoop_cases (target : GemObject) (offset : Nat) (len : Int) (write : Bool) :
    ∀ rounds, (∀ env ∈ rounds, env.lock ≤ 0 ∧ env.pinMap ≤ 0 ∧ env.backoff ≤ 0) →
      let out := vmAccessLoop target offset len write rounds
      (out.1 = [] ∧ ((∃ err, err < 0 ∧ out.2 = some err) ∨
          out.2 = none ∧ ∀ env ∈ rounds, env.Retried)) ∨
        out = ([⟨target.id, offset, castU64 len, write⟩], some len)
  | [] => fun _ => .inl ⟨rfl, .inr ⟨rfl, nofun⟩⟩
  | env :: rest => fun errnos => by
      have ⟨lock, pinMap, backoff⟩ := errnos env (.head _)
      rcases vmAccessPass_cases target offset len write ⟨lock, pinMap⟩ with
        ⟨err, negative, deadlocked, pass⟩ | pass
      · by_cases again : err = -EDEADLK ∧ env.backoff = 0
        · simp only [vmAccessLoop, pass, if_pos again, List.nil_append]
          rcases vmAccessLoop_cases target offset len write rest
              (fun other member => errnos other (.tail _ member)) with
            ⟨nothing, failed | ⟨waiting, retried⟩⟩ | copied
          · exact .inl ⟨nothing, .inl failed⟩
          · exact .inl ⟨nothing, .inr ⟨waiting, List.forall_mem_cons.mpr
              ⟨⟨again.2, deadlocked again.1⟩, retried⟩⟩⟩
          · exact .inr copied
        · have stops : (if err = -EDEADLK then env.backoff else err) < 0 := by
            by_cases deadlock : err = -EDEADLK
            · have backedOff : env.backoff ≠ 0 := fun zero => again ⟨deadlock, zero⟩
              rw [if_pos deadlock]
              omega
            · rw [if_neg deadlock]
              exact negative
          have returned : (if err = -EDEADLK then env.backoff else err) ≠ 0 := Int.ne_of_lt stops
          simp only [vmAccessLoop, pass, if_neg again]
          rw [if_pos returned]
          exact .inl ⟨trivial, .inl ⟨_, stops, rfl⟩⟩
      · right
        simp [vmAccessLoop, pass, EDEADLK]

section Checks

variable {area : VmArea} {obj : GemObject} {addr : Nat} {len : Int} {write : Bool}

/-- The checks refuse with an errno. -/
theorem vmAccessTarget_error {err : Int}
    (refused : vmAccessTarget area obj addr len write = .error err) : err < 0 := by
  unfold vmAccessTarget at refused
  by_cases readonly : (obj.readonly && write) = true
  · rw [if_pos readonly] at refused; cases refused; decide
  rw [if_neg readonly] at refused
  by_cases outside : castU64 (addr - area.vmStart) ≥ obj.size ∨
      castU64 len > obj.size - castU64 (addr - area.vmStart)
  · rw [if_pos outside] at refused; cases refused; decide
  rw [if_neg outside] at refused
  split at refused
  · split at refused
    · cases refused; decide
    · dsimp only at refused
      split at refused
      · cases refused; decide
      · cases refused
  · cases refused

/-- What the checks let through, for an address of the area: a length that is not negative,
which the cast leaves as it is, and that fits in the selected object from the offset; the
object is the mapped one at `addr - vm_start`, or the segment holding that byte at its
offset in the segment. -/
theorem vmAccessTarget_ok {target : GemObject} {off : Nat} (inArea : area.vmStart ≤ addr)
    (isLong : addr < 2 ^ 64) (isInt : -2 ^ 31 ≤ len ∧ len < 2 ^ 31)
    (bounded : obj.pages ≤ 2 ^ 31 - 1)
    (selected : vmAccessTarget area obj addr len write = .ok (target, off)) :
    0 ≤ len ∧ castU64 len = len.toNat ∧ off + len.toNat ≤ target.size ∧
      (obj.hasSegments = false ∧ target = obj ∧ off = addr - area.vmStart ∨
        obj.hasSegments = true ∧ obj.lookupSegment (addr - area.vmStart) = some target ∧
          off = addr - area.vmStart - target.segmentOffset) := by
  unfold vmAccessTarget at selected
  by_cases readonly : (obj.readonly && write) = true
  · rw [if_pos readonly] at selected; cases selected
  rw [if_neg readonly, castU64_sub inArea isLong] at selected
  dsimp only at selected
  by_cases outside :
      addr - area.vmStart ≥ obj.size ∨ castU64 len > obj.size - (addr - area.vmStart)
  · rw [if_pos outside] at selected; cases selected
  rw [if_neg outside] at selected
  have fits : castU64 len ≤ obj.size - (addr - area.vmStart) := by omega
  have ⟨nonneg, cast⟩ :=
    castU64_le isInt fits (by simp only [GemObject.size, pageSize_eq]; omega)
  refine ⟨nonneg, cast, ?_⟩
  cases segmented : obj.hasSegments
  · rw [segmented, if_neg Bool.false_ne_true] at selected
    cases selected
    exact ⟨by omega, .inl ⟨rfl, rfl, rfl⟩⟩
  rw [segmented, if_pos rfl] at selected
  cases found : obj.lookupSegment (addr - area.vmStart) with
  | none => rw [found] at selected; cases selected
  | some segment =>
      have covers := GemObject.lookupSegment_covers found
      rw [found] at selected
      dsimp only at selected
      by_cases short : castU64 len > segment.size - (addr - area.vmStart - segment.segmentOffset)
      · rw [if_pos short] at selected; cases selected
      rw [if_neg short] at selected
      cases selected
      exact ⟨by omega, .inr ⟨rfl, rfl, rfl⟩⟩

end Checks

/-- For any address of the area (an `unsigned long` at or past `vm_start`) and any C `int`
length, when the collaborators return 0 or an errno: `vm_access` copies nothing and
returns an errno, or has not returned yet because every round given went round again
after `-EDEADLK`; or it copies exactly `len ≥ 0` bytes from byte `off` of the object it
selected (the object itself at `addr - vm_start`, or the segment holding that byte at its
offset in the segment), all inside that object, and returns `len`. A negative `len`, cast
to u64, runs past any object and is refused. -/
theorem vmAccess_copies_within {area : VmArea} {obj : GemObject} {addr : Nat} {len : Int}
    (inArea : area.vmStart ≤ addr) (isLong : addr < 2 ^ 64)
    (isInt : -2 ^ 31 ≤ len ∧ len < 2 ^ 31) (bounded : obj.pages ≤ 2 ^ 31 - 1) (write : Bool)
    {rounds : List AccessPassEnv}
    (errnos : ∀ env ∈ rounds, env.lock ≤ 0 ∧ env.pinMap ≤ 0 ∧ env.backoff ≤ 0) :
    let out := vmAccess area obj addr len write rounds
    (out.1 = [] ∧ ((∃ err, err < 0 ∧ out.2 = some err) ∨
        out.2 = none ∧ ∀ env ∈ rounds, env.Retried)) ∨
      0 ≤ len ∧ ∃ target off, off + len.toNat ≤ target.size ∧
        (obj.hasSegments = false ∧ target = obj ∧ off = addr - area.vmStart ∨
          obj.hasSegments = true ∧ obj.lookupSegment (addr - area.vmStart) = some target ∧
            off = addr - area.vmStart - target.segmentOffset) ∧
        out = ([⟨target.id, off, len.toNat, write⟩], some len) := by
  intro out
  cases selected : vmAccessTarget area obj addr len write with
  | error err =>
      simp only [out, vmAccess, selected, true_and]
      exact .inl (.inl ⟨err, vmAccessTarget_error selected, rfl⟩)
  | ok chosen =>
      obtain ⟨target, off⟩ := chosen
      have ⟨nonneg, cast, fits, which⟩ := vmAccessTarget_ok inArea isLong isInt bounded selected
      simp only [out, vmAccess, selected]
      rcases vmAccessLoop_cases target off len write rounds errnos with failed | copied
      · exact .inl failed
      · exact .inr ⟨nonneg, target, off, fits, which, cast ▸ copied⟩

/-- A read of four bytes at byte 8 of a two-page object, its first pass succeeding. -/
theorem vmAccess_copies_within_first_page :
    let area : VmArea := { vmStart := 0x7f0000000000, vmEnd := 0x7f0000002000, vmPgoff := 0x100 }
    let obj : GemObject := { id := 1, pages := 2, swapto := none, segments := [] }
    let out := vmAccess area obj (0x7f0000000000 + 8) 4 false [{}]
    (area.vmStart ≤ 0x7f0000000000 + 8 ∧ 0x7f0000000000 + 8 < 2 ^ 64 ∧
      (-2 ^ 31 ≤ (4 : Int) ∧ (4 : Int) < 2 ^ 31) ∧ obj.pages ≤ 2 ^ 31 - 1 ∧
      ∀ env ∈ [({} : AccessPassEnv)], env.lock ≤ 0 ∧ env.pinMap ≤ 0 ∧ env.backoff ≤ 0) ∧
    ((out.1 = [] ∧ ((∃ err, err < 0 ∧ out.2 = some err) ∨
        out.2 = none ∧ ∀ env ∈ [({} : AccessPassEnv)], env.Retried)) ∨
      0 ≤ (4 : Int) ∧ ∃ target off, off + (4 : Int).toNat ≤ target.size ∧
        (obj.hasSegments = false ∧ target = obj ∧ off = 0x7f0000000000 + 8 - area.vmStart ∨
          obj.hasSegments = true ∧ obj.lookupSegment (0x7f0000000000 + 8 - area.vmStart) = some target ∧
            off = 0x7f0000000000 + 8 - area.vmStart - target.segmentOffset) ∧
        out = ([⟨target.id, off, (4 : Int).toNat, false⟩], some 4)) :=
  have inArea : 0x7f0000000000 ≤ 0x7f0000000000 + 8 := by decide
  have isLong : 0x7f0000000000 + 8 < 2 ^ 64 := by decide
  have isInt : -2 ^ 31 ≤ (4 : Int) ∧ (4 : Int) < 2 ^ 31 := by decide
  have bounded : 2 ≤ 2 ^ 31 - 1 := by decide
  have errnos : ∀ env ∈ [({} : AccessPassEnv)], env.lock ≤ 0 ∧ env.pinMap ≤ 0 ∧ env.backoff ≤ 0 :=
    by simp
  ⟨⟨inArea, isLong, isInt, bounded, errnos⟩,
    vmAccess_copies_within inArea isLong isInt bounded false errnos⟩

/-- An area split off at the second page of a two-page object (`vm_pgoff` one page past
the node start): `vm_access` at `vm_start` copies from object byte 0, while `vm_fault_cpu`
maps object page 1 at that address. -/
theorem vmAccess_ignores_vm_pgoff :
    let area : VmArea := { vmStart := 0x7f0000001000, vmEnd := 0x7f0000002000, vmPgoff := 0x101 }
    let obj : GemObject := { id := 1, pages := 2, swapto := none, segments := [] }
    (vmAccess area obj 0x7f0000001000 4 false [{}]).1 = [⟨1, 0, 4, false⟩] ∧
      (vmFaultCpu false {} area obj 0x100 0x7f0000001000 [{}]).1 =
        [.pinPages 1, .remap ⟨1, 0x7f0000001000, 4096, 1⟩] ∧
      SgRemap.pageAt ⟨1, 0x7f0000001000, 4096, 1⟩ 0x7f0000001000 = some 1 := by
  decide

end GemMman.Fault

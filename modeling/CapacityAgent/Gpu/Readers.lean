/-
# Readers that are moved

`GpuSensorReader` as the objects of a C++ program: constructed, moved and destroyed, any
number at a time. A reader owns its probe through a pointer, which is null once the reader
has been moved from.
-/

import CapacityAgent.Gpu.SampleResults
import CapacityAgent.Library.Groups

namespace CapacityAgent

open Lifecycle Traced Transitions

/-! ## Programs over several probes -/

/-- A call of a driver library, by the `Impl` that makes it. -/
abbrev ImplEvent := (ℕ × Library) × Action Handle (NvApiFn ⊕ NvmlFn)

/-- A program; without a result where a null pointer is used. -/
abbrev Program := OptionT (Traced ImplEvent)

/-- A `GpuProbe::Impl`, by the order of allocation. -/
structure ProbeImpl where
  id : ℕ
  probe : GpuProbe

/-- A call of the probe in an `Impl`. -/
def ProbeImpl.own {α : Type} (impl : ProbeImpl) (x : GpuProbe → Driver α) : Program α :=
  OptionT.lift (grouped impl.id (x impl.probe))

/-- `impl_->`. -/
def deref : Option ProbeImpl → Program ProbeImpl
  | none => failure
  | some impl => pure impl

/-- The end of a `unique_ptr<Impl>`. -/
def release : Option ProbeImpl → Program Unit
  | none => pure ()
  | some impl => impl.own GpuProbe.destroy

/-! ## One reader -/

/-- A `GpuSensorReader`: the pointer of its probe, and the flag. -/
structure ReaderObject where
  impl : Option ProbeImpl
  initialized : Bool

/-- `sample_with_mode`, as its calls of the driver. -/
def sampleWithMode (p : GpuProbe) (gpuIndex : ℤ) (mode : GpuSampleMode) (accepted : Tier → Bool) :
    Driver Bool :=
  match mode with
  | .thermalFast => p.sampleThermalFast gpuIndex (accepted .thermalFast)
  | .fast => p.sampleFast gpuIndex (accepted .fast)
  | .medium => p.sampleMedium gpuIndex (accepted .medium)
  | .slow => p.sampleSlow gpuIndex (accepted .slow)
  | .rare => p.sampleRare gpuIndex (accepted .rare)
  | .full => do
    let a ← p.sampleFast gpuIndex (accepted .fast)
    let b ← p.sampleSlow gpuIndex (accepted .slow)
    return a || b

/-- The loop of `sample_all` over the indices. -/
def sampleEach (p : GpuProbe) (mode : GpuSampleMode) (accepted : ℕ → Tier → Bool) :
    List ℕ → Driver (List Bool)
  | [] => pure []
  | i :: indices => do
    let sampled ← sampleWithMode p i mode (accepted i)
    let samples ← sampleEach p mode accepted indices
    return sampled :: samples

namespace ReaderObject

/-- `GpuSensorReader::shutdown`. -/
def shutdown (r : ReaderObject) : Program ReaderObject :=
  if r.initialized then do
    let impl ← deref r.impl
    let probe ← impl.own GpuProbe.shutdown
    return { impl := some ⟨impl.id, probe⟩, initialized := false }
  else return r

/-- `shutdown`, and then the `Impl` goes: in the destructor, and where another pointer is
assigned. -/
def letGo (r : ReaderObject) : Program Unit := do
  let r ← r.shutdown
  release r.impl

/-- `GpuSensorReader::init`. -/
def init (answers : ProbeAnswers) (r : ReaderObject) : Program (Bool × ReaderObject) :=
  if r.initialized then return (true, r)
  else do
    let impl ← deref r.impl
    let (ok, probe) ← impl.own (GpuProbe.init answers)
    let r := { r with impl := some ⟨impl.id, probe⟩ }
    if ok then return (true, { r with initialized := true })
    else return (false, r)

/-- `gpu_count`. -/
def gpuCount (r : ReaderObject) : Program ℕ :=
  if r.initialized then do
    let impl ← deref r.impl
    return impl.probe.gpus.length
  else return 0

/-- `gpu_info`, of one index. -/
def gpuInfo (r : ReaderObject) (index : ℤ) : Program (Option GpuBackendContext) :=
  if !r.initialized then return none
  else do
    let impl ← deref r.impl
    if index < 0 then return none
    else return impl.probe.gpus[index.toNat]?

/-- `GpuSensorReader::sample`. -/
def sample (r : ReaderObject) (gpuIndex : ℤ) (mode : GpuSampleMode) (accepted : Tier → Bool) :
    Program Bool :=
  if !r.initialized then return false
  else do
    let impl ← deref r.impl
    if 0 ≤ gpuIndex ∧ gpuIndex < impl.probe.gpus.length then
      impl.own fun p => sampleWithMode p gpuIndex mode accepted
    else return false

/-- `GpuSensorReader::sample_all`. -/
def sampleAll (r : ReaderObject) (mode : GpuSampleMode) (accepted : ℕ → Tier → Bool) :
    Program (List Bool) :=
  if !r.initialized then return []
  else do
    let impl ← deref r.impl
    impl.own fun p => sampleEach p mode accepted (List.range p.gpus.length)

end ReaderObject

/-! ## The objects of a program -/

/-- The readers that are alive, by name, and how many `Impl`s have been made. -/
structure ReaderPool where
  objects : ℕ → Option ReaderObject := fun _ => none
  allocated : ℕ := 0

inductive ReaderOp
  | construct (x : ℕ)
  | moveConstruct (x y : ℕ)
  | moveAssign (x y : ℕ)
  | init (x : ℕ) (answers : ProbeAnswers)
  | shutdown (x : ℕ)
  | gpuCount (x : ℕ)
  | gpuInfo (x : ℕ) (index : ℤ)
  | sample (x : ℕ) (gpuIndex : ℤ) (mode : GpuSampleMode) (accepted : Tier → Bool)
  | sampleAll (x : ℕ) (mode : GpuSampleMode) (accepted : ℕ → Tier → Bool)
  | destroy (x : ℕ)

/-- What a reader is left with when it is moved from. -/
def movedFrom : ReaderObject := { impl := none, initialized := false }

namespace ReaderPool

def set (pool : ReaderPool) (x : ℕ) (r : Option ReaderObject) : ReaderPool :=
  { pool with objects := Function.update pool.objects x r }

/-- A reader takes over what another one holds. -/
def move (pool : ReaderPool) (x y : ℕ) (r : ReaderObject) : ReaderPool :=
  (pool.set x (some r)).set y (some movedFrom)

/-- A call of a member function that may change the reader. -/
def call (pool : ReaderPool) (x : ℕ) (f : ReaderObject → Program ReaderObject) :
    Program ReaderPool :=
  match pool.objects x with
  | none => return pool
  | some r => do
    let r ← f r
    return pool.set x (some r)

/-- A call of a `const` member function. -/
def query {α : Type} (pool : ReaderPool) (x : ℕ) (f : ReaderObject → Program α) :
    Program ReaderPool :=
  match pool.objects x with
  | none => return pool
  | some r => do
    let _ ← f r
    return pool

/-- The default constructor. -/
def construct (pool : ReaderPool) (x : ℕ) : Program ReaderPool :=
  match pool.objects x with
  | some _ => return pool
  | none =>
    let impl := { id := pool.allocated, probe := {} }
    return { pool.set x (some { impl := some impl, initialized := false }) with
      allocated := pool.allocated + 1 }

/-- The move constructor. -/
def moveConstruct (pool : ReaderPool) (x y : ℕ) : Program ReaderPool :=
  match pool.objects x, pool.objects y with
  | none, some r => return pool.move x y r
  | _, _ => return pool

/-- The move assignment. -/
def moveAssign (pool : ReaderPool) (x y : ℕ) : Program ReaderPool :=
  if x = y then return pool
  else
    match pool.objects x, pool.objects y with
    | some r, some other => do
      r.letGo
      return pool.move x y other
    | _, _ => return pool

/-- `~GpuSensorReader`. -/
def destroy (pool : ReaderPool) (x : ℕ) : Program ReaderPool :=
  match pool.objects x with
  | none => return pool
  | some r => do
    r.letGo
    return pool.set x none

/-- One operation. An object that is not alive, or one constructed while it is, has no
meaning in C++, and nothing is done. -/
def step (pool : ReaderPool) : ReaderOp → Program ReaderPool
  | .construct x => pool.construct x
  | .moveConstruct x y => pool.moveConstruct x y
  | .moveAssign x y => pool.moveAssign x y
  | .init x answers => pool.call x fun r => do
    let (_, r) ← r.init answers
    return r
  | .shutdown x => pool.call x ReaderObject.shutdown
  | .gpuCount x => pool.query x ReaderObject.gpuCount
  | .gpuInfo x index => pool.query x fun r => r.gpuInfo index
  | .sample x gpuIndex mode accepted => pool.query x fun r => r.sample gpuIndex mode accepted
  | .sampleAll x mode accepted => pool.query x fun r => r.sampleAll mode accepted
  | .destroy x => pool.destroy x

def run (pool : ReaderPool) : List ReaderOp → Program ReaderPool
  | [] => return pool
  | op :: ops => do
    let pool ← pool.step op
    run pool ops

end ReaderPool

/-! ## What a client can know -/

/-- A name as its client sees it: no object, one with a probe, or one moved from. -/
inductive Holding
  | dead
  | full
  | hollow
  deriving DecidableEq

/-- The names after an operation; none where a reader that was moved from is initialised. -/
def ReaderOp.next (holdings : ℕ → Holding) : ReaderOp → Option (ℕ → Holding)
  | .construct x =>
    if holdings x = .dead then some (Function.update holdings x .full) else some holdings
  | .moveConstruct x y =>
    if holdings x = .dead ∧ holdings y ≠ .dead then
      some (Function.update (Function.update holdings x (holdings y)) y .hollow)
    else some holdings
  | .moveAssign x y =>
    if x = y ∨ holdings x = .dead ∨ holdings y = .dead then some holdings
    else some (Function.update (Function.update holdings x (holdings y)) y .hollow)
  | .init x _ => if holdings x = .hollow then none else some holdings
  | .destroy x => some (Function.update holdings x .dead)
  | _ => some holdings

/-- What a pool makes of a name. -/
def ReaderObject.holding : Option ReaderObject → Holding
  | none => .dead
  | some r => if r.impl.isSome then .full else .hollow

def ReaderPool.holdings (pool : ReaderPool) : ℕ → Holding :=
  fun x => ReaderObject.holding (pool.objects x)

/-! ## One reader and its libraries -/

abbrev ImplPhases := ℕ × Library → Phase Handle

section Reader

variable {phases : ImplPhases}

theorem own_completes {α : Type} {impl : ProbeImpl} {x : GpuProbe → Driver α}
    {post : α → Libraries → Prop}
    (within : Within driverStep (ofGroup phases impl.id) (x impl.probe) post) :
    Completes nextOf phases (impl.own x) fun a t =>
      ∃ own, post a own ∧ t = setGroup phases impl.id own :=
  .of_lift (within_grouped within)

theorem own_keeps {α : Type} {impl : ProbeImpl} {x : GpuProbe → Driver α}
    (keeps : Keeps driverStep (ofGroup phases impl.id) (x impl.probe)) :
    Completes nextOf phases (impl.own x) fun _ t => t = phases := by
  refine (own_completes keeps).mono ?_
  rintro _ _ ⟨_, rfl, rfl⟩
  exact setGroup_ofGroup phases impl.id

theorem sampleWithMode_keeps {p : GpuProbe} {libraries : Libraries} (stands : p.Stands libraries)
    (gpuIndex : ℤ) (mode : GpuSampleMode) (accepted : Tier → Bool) :
    Keeps driverStep libraries (sampleWithMode p gpuIndex mode accepted) := by
  have tier (t : Tier) := GpuProbe.sampleTier_keeps stands t gpuIndex (accepted t)
  cases mode with
  | thermalFast => exact tier .thermalFast
  | fast => exact tier .fast
  | medium => exact tier .medium
  | slow => exact tier .slow
  | rare => exact tier .rare
  | full => exact (tier .fast).bind fun _ => (tier .slow).bind fun _ => .of_pure _

theorem sampleEach_keeps {p : GpuProbe} {libraries : Libraries} (stands : p.Stands libraries)
    (mode : GpuSampleMode) (accepted : ℕ → Tier → Bool) (indices : List ℕ) :
    Keeps driverStep libraries (sampleEach p mode accepted indices) := by
  induction indices with
  | nil => exact .of_pure _
  | cons i indices ih =>
    exact (sampleWithMode_keeps stands i mode _).bind fun _ => ih.bind fun _ => .of_pure _

namespace ReaderObject

variable {r r' : ReaderObject} {t : ImplPhases}

/-- What holds of a reader between calls. -/
structure Fit (r : ReaderObject) (phases : ImplPhases) : Prop where
  filled : r.initialized = true → r.impl.isSome = true
  stands : ∀ impl ∈ r.impl, impl.probe.Stands (ofGroup phases impl.id)

/-- What a call makes of a reader: it keeps its `Impl`, and changes the phases of that. -/
inductive Becomes (phases : ImplPhases) (r : ReaderObject) : ReaderObject → ImplPhases → Prop
  | hollow (empty : r.impl = none) : Becomes phases r r phases
  | full (r' : ReaderObject) (impl : ProbeImpl) (p : GpuProbe) (own : Libraries)
      (before : r.impl = some impl) (after : r'.impl = some ⟨impl.id, p⟩)
      (stands : p.Stands own) : Becomes phases r r' (setGroup phases impl.id own)

theorem Fit.becomes_self (fit : r.Fit phases) : Becomes phases r r phases := by
  cases held : r.impl with
  | none => exact .hollow held
  | some impl =>
    have same : Becomes phases r r (setGroup phases impl.id (ofGroup phases impl.id)) :=
      .full r impl impl.probe _ held held (fit.stands impl held)
    rwa [setGroup_ofGroup] at same

theorem Fit.deref_completes (fit : r.Fit phases) (initialized : r.initialized = true) :
    Completes nextOf phases (deref r.impl) fun impl t => r.impl = some impl ∧ t = phases := by
  obtain ⟨impl, held⟩ := Option.isSome_iff_exists.mp (fit.filled initialized)
  rw [held]
  exact .of_pure ⟨rfl, rfl⟩

theorem Fit.shutdown_completes (fit : r.Fit phases) :
    Completes nextOf phases r.shutdown fun r' t =>
      Becomes phases r r' t ∧ r'.initialized = false := by
  unfold shutdown
  split
  · next initialized =>
    refine (fit.deref_completes initialized).bind ?_
    rintro impl _ ⟨held, rfl⟩
    refine (own_completes (GpuProbe.shutdown_within (fit.stands impl held))).bind ?_
    rintro p _ ⟨own, stands, rfl⟩
    exact .of_pure ⟨.full _ impl p own held rfl stands, rfl⟩
  · next not_ => exact .of_pure ⟨fit.becomes_self, by simpa using not_⟩

/-- Only a reader with a probe can be initialised. -/
theorem Fit.init_completes (fit : r.Fit phases) {impl : ProbeImpl} (held : r.impl = some impl)
    (answers : ProbeAnswers) :
    Completes nextOf phases (r.init answers) fun result t => Becomes phases r result.2 t := by
  unfold init
  split
  · exact .of_pure fit.becomes_self
  · rw [held]
    refine Completes.bind (.of_pure ⟨rfl, rfl⟩ : Completes _ _ (deref (some impl)) fun i t =>
      i = impl ∧ t = phases) ?_
    rintro _ _ ⟨rfl, rfl⟩
    refine (own_completes (GpuProbe.init_within (fit.stands _ held) answers)).bind ?_
    rintro ⟨ok, p⟩ _ ⟨own, stands, rfl⟩
    cases ok with
    | false => exact .of_pure (.full _ _ p own held rfl stands)
    | true => exact .of_pure (.full _ _ p own held rfl stands)

theorem init_eq_failure (empty : r.impl = none) (not_ : r.initialized = false)
    (answers : ProbeAnswers) : r.init answers = failure := by
  rw [init, not_, empty]
  rfl

theorem Fit.gpuCount_completes (fit : r.Fit phases) :
    Completes nextOf phases r.gpuCount fun _ t => t = phases := by
  unfold gpuCount
  split
  · next initialized =>
    refine (fit.deref_completes initialized).bind ?_
    rintro impl _ ⟨-, rfl⟩
    exact .of_pure rfl
  · exact .of_pure rfl

theorem Fit.gpuInfo_completes (fit : r.Fit phases) (index : ℤ) :
    Completes nextOf phases (r.gpuInfo index) fun _ t => t = phases := by
  unfold gpuInfo
  split
  · exact .of_pure rfl
  · next initialized =>
    refine (fit.deref_completes (by simpa using initialized)).bind ?_
    rintro impl _ ⟨-, rfl⟩
    split
    · exact .of_pure rfl
    · exact .of_pure rfl

theorem Fit.sample_completes (fit : r.Fit phases) (gpuIndex : ℤ) (mode : GpuSampleMode)
    (accepted : Tier → Bool) :
    Completes nextOf phases (r.sample gpuIndex mode accepted) fun _ t => t = phases := by
  unfold sample
  split
  · exact .of_pure rfl
  · next initialized =>
    refine (fit.deref_completes (by simpa using initialized)).bind ?_
    rintro impl _ ⟨held, rfl⟩
    split
    · exact own_keeps (sampleWithMode_keeps (fit.stands impl held) gpuIndex mode accepted)
    · exact .of_pure rfl

theorem Fit.sampleAll_completes (fit : r.Fit phases) (mode : GpuSampleMode)
    (accepted : ℕ → Tier → Bool) :
    Completes nextOf phases (r.sampleAll mode accepted) fun _ t => t = phases := by
  unfold sampleAll
  split
  · exact .of_pure rfl
  · next initialized =>
    refine (fit.deref_completes (by simpa using initialized)).bind ?_
    rintro impl _ ⟨held, rfl⟩
    exact own_keeps (sampleEach_keeps (fit.stands impl held) mode accepted _)

end ReaderObject

/-- A probe is released in whatever state it is. -/
theorem release_completes {held : Option ProbeImpl}
    (stands : ∀ impl ∈ held, impl.probe.Stands (ofGroup phases impl.id)) :
    Completes nextOf phases (release held) fun _ t =>
      t = held.elim phases fun impl => setGroup phases impl.id fun _ => .absent := by
  cases held with
  | none => exact .of_pure rfl
  | some impl =>
    refine (own_completes (GpuProbe.destroy_within (stands impl rfl))).mono ?_
    rintro _ _ ⟨_, rfl, rfl⟩
    rfl

end Reader

/-! ## All of them -/

/-- The `Impl`s that names hold. Each is held once, and the libraries of the others are
not loaded. -/
structure Owned (held : ℕ → Option ProbeImpl) (allocated : ℕ) (phases : ImplPhases) : Prop where
  stands : ∀ x, ∀ impl ∈ held x, impl.probe.Stands (ofGroup phases impl.id)
  below : ∀ x, ∀ impl ∈ held x, impl.id < allocated
  once : ∀ x y, ∀ impl ∈ held x, ∀ other ∈ held y, impl.id = other.id → x = y
  free : ∀ id, (∀ x, ∀ impl ∈ held x, impl.id ≠ id) → ofGroup phases id = fun _ => .absent

namespace Owned

variable {held : ℕ → Option ProbeImpl} {allocated : ℕ} {phases : ImplPhases} {x y : ℕ}
  {impl : ProbeImpl}

/-- Each `Impl` that is held now was held before, by one name. -/
theorem of_source (owned : Owned held allocated phases) {held' : ℕ → Option ProbeImpl}
    {phases' : ImplPhases} (source : ℕ → ℕ)
    (before : ∀ z, ∀ impl ∈ held' z, ∃ old ∈ held (source z), old.id = impl.id)
    (injective : ∀ z w, ∀ first ∈ held' z, ∀ second ∈ held' w, source z = source w → z = w)
    (stands : ∀ z, ∀ impl ∈ held' z, impl.probe.Stands (ofGroup phases' impl.id))
    (free : ∀ id, (∀ z, ∀ impl ∈ held' z, impl.id ≠ id) → ofGroup phases' id = fun _ => .absent) :
    Owned held' allocated phases' where
  stands := stands
  below := by
    intro z impl there
    obtain ⟨old, atSource, same⟩ := before z impl there
    exact same ▸ owned.below _ old atSource
  once := by
    intro z w first atZ second atW same
    obtain ⟨old, atSource, sameFirst⟩ := before z first atZ
    obtain ⟨other, atOther, sameSecond⟩ := before w second atW
    refine injective z w first atZ second atW ?_
    exact owned.once _ _ old atSource other atOther (sameFirst.trans (same.trans sameSecond.symm))
  free := free

theorem change (owned : Owned held allocated phases) (here : held x = some impl) {p : GpuProbe}
    {own : Libraries} (stands : p.Stands own) :
    Owned (Function.update held x (some ⟨impl.id, p⟩)) allocated
      (setGroup phases impl.id own) := by
  refine owned.of_source id (fun z now there => ?_) (fun _ _ _ _ _ _ same => same)
    (fun z now there => ?_) (fun free unused => ?_)
  · by_cases same : z = x
    · subst same
      rw [Function.update_self] at there
      obtain rfl := Option.mem_some_iff.mp there
      exact ⟨impl, here, rfl⟩
    · rw [Function.update_of_ne same] at there
      exact ⟨now, there, rfl⟩
  · by_cases same : z = x
    · subst same
      rw [Function.update_self] at there
      obtain rfl := Option.mem_some_iff.mp there
      rwa [ofGroup_setGroup_self]
    · rw [Function.update_of_ne same] at there
      have distinct : now.id ≠ impl.id := fun ids => same (owned.once z x _ there _ here ids)
      rw [ofGroup_setGroup_of_ne _ _ _ distinct]
      exact owned.stands z now there
  · have distinct : free ≠ impl.id := fun ids => unused x _ (Function.update_self ..) ids.symm
    rw [ofGroup_setGroup_of_ne _ _ _ distinct]
    refine owned.free free fun z other there => ?_
    by_cases same : z = x
    · subst same
      obtain rfl := Option.some.inj (here.symm.trans there)
      exact distinct.symm
    · exact unused z other (by rwa [Function.update_of_ne same])

/-- The end of an `Impl`. -/
theorem drop (owned : Owned held allocated phases) (here : held x = some impl) :
    Owned (Function.update held x none) allocated
      (setGroup phases impl.id fun _ => .absent) := by
  have elsewhere (z : ℕ) (now : ProbeImpl) (there : Function.update held x none z = some now) :
      z ≠ x ∧ held z = some now := by
    have other : z ≠ x := by
      rintro rfl
      simp at there
    exact ⟨other, by rwa [Function.update_of_ne other] at there⟩
  refine owned.of_source id (fun z now there => ⟨now, (elsewhere z now there).2, rfl⟩)
    (fun _ _ _ _ _ _ same => same) (fun z now there => ?_) (fun free unused => ?_)
  · obtain ⟨other, there⟩ := elsewhere z now there
    have distinct : now.id ≠ impl.id := fun ids => other (owned.once z x _ there _ here ids)
    rw [ofGroup_setGroup_of_ne _ _ _ distinct]
    exact owned.stands z now there
  · by_cases ids : free = impl.id
    · subst ids
      exact ofGroup_setGroup_self ..
    · rw [ofGroup_setGroup_of_ne _ _ _ ids]
      refine owned.free free fun z other there => ?_
      by_cases same : z = x
      · subst same
        obtain rfl := Option.some.inj (here.symm.trans there)
        exact Ne.symm ids
      · exact unused z other (by rwa [Function.update_of_ne same])

/-- A name that holds nothing takes over what another one holds. -/
theorem move (owned : Owned held allocated phases) (empty : held x = none) (other : x ≠ y) :
    Owned (Function.update (Function.update held x (held y)) y none) allocated phases := by
  have source (z : ℕ) (impl : ProbeImpl)
      (there : Function.update (Function.update held x (held y)) y none z = some impl) :
      held (if z = x then y else z) = some impl ∧ z ≠ y := by
    have atY : z ≠ y := by
      rintro rfl
      simp at there
    rw [Function.update_of_ne atY] at there
    refine ⟨?_, atY⟩
    split
    · next atX =>
      subst atX
      rwa [Function.update_self] at there
    · next atX => rwa [Function.update_of_ne atX] at there
  refine owned.of_source (fun z => if z = x then y else z)
    (fun z now there => ⟨now, (source z now there).1, rfl⟩)
    (fun z w first atZ second atW same => ?_)
    (fun z now there => owned.stands _ now (source z now there).1) (fun free unused => ?_)
  · have notZ := (source z first atZ).2
    have notW := (source w second atW).2
    split at same
    · next atX =>
      split at same
      · next atX' => exact atX.trans atX'.symm
      · exact absurd same.symm notW
    · split at same
      · exact absurd same notZ
      · exact same
  · refine owned.free free fun z impl there => ?_
    by_cases atY : z = y
    · subst atY
      refine unused x impl ?_
      rwa [Function.update_of_ne other, Function.update_self]
    · refine unused z impl ?_
      have atX : z ≠ x := by
        rintro rfl
        simp [empty] at there
      rwa [Function.update_of_ne atY, Function.update_of_ne atX]

/-- A new `Impl` has nothing loaded. -/
theorem make (owned : Owned held allocated phases) (empty : held x = none) :
    Owned (Function.update held x (some ⟨allocated, {}⟩)) (allocated + 1) phases := by
  have fresh : ofGroup phases allocated = fun _ => .absent :=
    owned.free allocated fun y impl there => (owned.below y impl there).ne
  refine ⟨?_, ?_, ?_, ?_⟩
  · intro y impl there
    by_cases same : y = x
    · subst same
      rw [Function.update_self] at there
      obtain rfl := Option.some.inj there
      rw [fresh]
      exact GpuProbe.stands_of_empty rfl rfl rfl rfl rfl
    · rw [Function.update_of_ne same] at there
      exact owned.stands y impl there
  · intro y impl there
    by_cases same : y = x
    · subst same
      rw [Function.update_self] at there
      obtain rfl := Option.some.inj there
      exact Nat.lt_succ_self allocated
    · rw [Function.update_of_ne same] at there
      exact (owned.below y impl there).trans (Nat.lt_succ_self allocated)
  · intro y z first atFirst second atSecond ids
    by_cases sameY : y = x
    · by_cases sameZ : z = x
      · exact sameY.trans sameZ.symm
      · subst sameY
        rw [Function.update_self] at atFirst
        rw [Function.update_of_ne sameZ] at atSecond
        obtain rfl := Option.some.inj atFirst
        exact absurd ids (owned.below z second atSecond).ne'
    · rw [Function.update_of_ne sameY] at atFirst
      by_cases sameZ : z = x
      · subst sameZ
        rw [Function.update_self] at atSecond
        obtain rfl := Option.some.inj atSecond
        exact absurd ids (owned.below y first atFirst).ne
      · rw [Function.update_of_ne sameZ] at atSecond
        exact owned.once y z first atFirst second atSecond ids
  · intro id unused
    refine owned.free id fun y impl there => unused y impl ?_
    have other : y ≠ x := by
      rintro rfl
      simp [empty] at there
    rwa [Function.update_of_ne other]

end Owned

namespace ReaderPool

/-- The `Impl` a name holds. -/
def held (pool : ReaderPool) (x : ℕ) : Option ProbeImpl :=
  (pool.objects x).bind ReaderObject.impl

/-- What holds between operations. -/
structure Sound (pool : ReaderPool) (phases : ImplPhases) : Prop where
  owned : Owned pool.held pool.allocated phases
  filled : ∀ x, ∀ r ∈ pool.objects x, r.initialized = true → r.impl.isSome = true

section Sets

variable (pool : ReaderPool) (x : ℕ) (o : Option ReaderObject)

@[simp] theorem objects_set : (pool.set x o).objects = Function.update pool.objects x o := rfl

@[simp] theorem allocated_set : (pool.set x o).allocated = pool.allocated := rfl

theorem held_set :
    (pool.set x o).held = Function.update pool.held x (o.bind ReaderObject.impl) := by
  funext y
  by_cases same : y = x
  · subst same
    simp [held]
  · simp [held, same]

theorem holdings_set :
    (pool.set x o).holdings = Function.update pool.holdings x (ReaderObject.holding o) := by
  funext y
  by_cases same : y = x
  · subst same
    simp [holdings]
  · simp [holdings, same]

end Sets

variable {pool : ReaderPool} {phases t : ImplPhases} {x y : ℕ} {r r' : ReaderObject}

theorem held_of_alive (alive : pool.objects x = some r) : pool.held x = r.impl := by
  rw [held, alive]
  rfl

theorem holdings_of_alive (alive : pool.objects x = some r) :
    pool.holdings x = if r.impl.isSome then .full else .hollow := by
  rw [holdings, alive]
  rfl

theorem holdings_eq_dead_iff : pool.holdings x = .dead ↔ pool.objects x = none := by
  cases alive : pool.objects x with
  | none => simp [holdings, alive, ReaderObject.holding]
  | some r =>
    rw [holdings_of_alive alive]
    split <;> simp

theorem Sound.fit (sound : pool.Sound phases) (alive : pool.objects x = some r) :
    r.Fit phases where
  filled := sound.filled x r alive
  stands := fun impl here => sound.owned.stands x impl ((held_of_alive alive).trans here)

/-- A pool after one of its names was set. -/
theorem Sound.set (sound : pool.Sound phases) {o : Option ReaderObject}
    (owned : Owned (Function.update pool.held x (o.bind ReaderObject.impl)) pool.allocated t)
    (filled : ∀ r ∈ o, r.initialized = true → r.impl.isSome = true) :
    (pool.set x o).Sound t where
  owned := by
    rw [held_set]
    exact owned
  filled := by
    intro y r alive
    rw [objects_set] at alive
    by_cases same : y = x
    · subst same
      rw [Function.update_self] at alive
      exact filled r alive
    · rw [Function.update_of_ne same] at alive
      exact sound.filled y r alive

theorem Sound.becomes (sound : pool.Sound phases) (alive : pool.objects x = some r)
    (becomes : r.Becomes phases r' t) :
    (pool.set x (some r')).Sound t ∧ (pool.set x (some r')).holdings = pool.holdings := by
  rw [holdings_set]
  cases becomes with
  | hollow empty =>
    refine ⟨sound.set ?_ (fun _ same => ?_), ?_⟩
    · rw [show (some r).bind ReaderObject.impl = pool.held x from (held_of_alive alive).symm,
        Function.update_eq_self]
      exact sound.owned
    · obtain rfl := Option.mem_some_iff.mp same
      exact sound.filled x _ alive
    · rw [show ReaderObject.holding (some r) = pool.holdings x by rw [holdings, alive],
        Function.update_eq_self]
  | full r' impl p own before after stands =>
    refine ⟨sound.set ?_ (fun _ same => ?_), ?_⟩
    · rw [Option.bind_some, after]
      exact sound.owned.change ((held_of_alive alive).trans before) stands
    · obtain rfl := Option.mem_some_iff.mp same
      exact fun _ => by rw [after]; rfl
    · have same : ReaderObject.holding (some r') = pool.holdings x := by
        rw [holdings_of_alive alive, ReaderObject.holding, after, before]
        rfl
      rw [same, Function.update_eq_self]

/-- What a name held is released, and the name is empty. -/
theorem Sound.released (sound : pool.Sound phases) (alive : pool.objects x = some r)
    {o : Option ReaderObject} (empty : o.bind ReaderObject.impl = none)
    (idle : ∀ r ∈ o, r.initialized = false) :
    (pool.set x o).Sound
      (r.impl.elim phases fun impl => setGroup phases impl.id fun _ => .absent) := by
  refine sound.set ?_ fun r here => ?_
  · have atX := held_of_alive alive
    rw [empty]
    cases holds : r.impl with
    | none =>
      have stays : Function.update pool.held x none = pool.held := by
        rw [← holds, ← atX, Function.update_eq_self]
      rw [stays]
      exact sound.owned
    | some impl =>
      rw [holds] at atX
      exact sound.owned.drop atX
  · rw [idle r here]
    exact fun impossible => absurd impossible Bool.false_ne_true

theorem Sound.moved (sound : pool.Sound phases) (empty : pool.held x = none)
    (alive : pool.objects y = some r) (other : x ≠ y) :
    (pool.move x y r).Sound phases ∧ (pool.move x y r).holdings =
      Function.update (Function.update pool.holdings x (pool.holdings y)) y .hollow := by
  refine ⟨⟨?_, ?_⟩, ?_⟩
  · have atY := held_of_alive alive
    rw [move, held_set, held_set, Option.bind_some, ← atY]
    exact sound.owned.move empty other
  · intro z s there
    rw [move, objects_set, objects_set] at there
    by_cases atY : z = y
    · subst atY
      rw [Function.update_self] at there
      obtain rfl := Option.mem_some_iff.mp there
      exact fun impossible => absurd impossible Bool.false_ne_true
    · rw [Function.update_of_ne atY] at there
      by_cases atX : z = x
      · subst atX
        rw [Function.update_self] at there
        obtain rfl := Option.mem_some_iff.mp there
        exact sound.filled y _ alive
      · rw [Function.update_of_ne atX] at there
        exact sound.filled z s there
  · rw [move, holdings_set, holdings_set, ← show pool.holdings y = ReaderObject.holding (some r)
      by rw [holdings, alive]]
    rfl

/-! ## Operations -/

theorem call_completes (sound : pool.Sound phases) {f : ReaderObject → Program ReaderObject}
    (completes : ∀ r, pool.objects x = some r → r.Fit phases →
      Completes nextOf phases (f r) fun r' t => r.Becomes phases r' t) :
    Completes nextOf phases (pool.call x f) fun pool' t =>
      pool'.Sound t ∧ pool'.holdings = pool.holdings := by
  unfold call
  cases alive : pool.objects x with
  | none => exact .of_pure ⟨sound, rfl⟩
  | some r =>
    refine (completes r alive (sound.fit alive)).bind fun r' t becomes => ?_
    exact .of_pure (sound.becomes alive becomes)

theorem query_completes {α : Type} (sound : pool.Sound phases) {f : ReaderObject → Program α}
    (completes : ∀ r : ReaderObject, r.Fit phases →
      Completes nextOf phases (f r) fun _ t => t = phases) :
    Completes nextOf phases (pool.query x f) fun pool' t =>
      pool'.Sound t ∧ pool'.holdings = pool.holdings := by
  unfold query
  cases alive : pool.objects x with
  | none => exact .of_pure ⟨sound, rfl⟩
  | some r =>
    refine (completes r (sound.fit alive)).bind ?_
    rintro _ _ rfl
    exact .of_pure ⟨sound, rfl⟩

/-- The `Impl` of a reader is gone, and any reader without one may take its place. -/
theorem letGo_completes (sound : pool.Sound phases) (alive : pool.objects x = some r) :
    Completes nextOf phases r.letGo fun _ t => ∀ o : Option ReaderObject,
      o.bind ReaderObject.impl = none → (∀ r ∈ o, r.initialized = false) →
      (pool.set x o).Sound t := by
  refine (sound.fit alive).shutdown_completes.bind ?_
  rintro r' t ⟨becomes, -⟩
  have after := (sound.becomes alive becomes).1
  have here : (pool.set x (some r')).objects x = some r' := by simp
  refine (release_completes (after.fit here).stands).mono ?_
  rintro _ _ rfl o empty idle
  have released := after.released here empty idle
  rwa [show (pool.set x (some r')).set x o = pool.set x o by simp [set]] at released

/-- The pool is sound, and the names are as stated. -/
def SoundAs (holdings : ℕ → Holding) (pool : ReaderPool) (phases : ImplPhases) : Prop :=
  pool.Sound phases ∧ pool.holdings = holdings

theorem construct_completes (sound : pool.Sound phases) :
    Completes nextOf phases (pool.construct x) (SoundAs (if pool.holdings x = .dead then
      Function.update pool.holdings x .full else pool.holdings)) := by
  simp only [holdings_eq_dead_iff, construct]
  cases alive : pool.objects x with
  | some r => exact .of_pure ⟨sound, by simp⟩
  | none =>
    refine .of_pure ⟨⟨?_, ?_⟩, ?_⟩
    · have empty : pool.held x = none := by
        rw [held, alive]
        rfl
      exact held_set pool x _ ▸ sound.owned.make empty
    · intro y r there
      by_cases same : y = x
      · subst same
        rw [objects_set, Function.update_self] at there
        obtain rfl := Option.mem_some_iff.mp there
        exact fun _ => rfl
      · rw [objects_set, Function.update_of_ne same] at there
        exact sound.filled y r there
    · rw [if_pos rfl]
      exact holdings_set pool x _

theorem moveConstruct_completes (sound : pool.Sound phases) :
    Completes nextOf phases (pool.moveConstruct x y)
      (SoundAs (if pool.holdings x = .dead ∧ pool.holdings y ≠ .dead then
        Function.update (Function.update pool.holdings x (pool.holdings y)) y .hollow
      else pool.holdings)) := by
  simp only [ne_eq, holdings_eq_dead_iff, moveConstruct]
  cases aliveX : pool.objects x with
  | some r => exact .of_pure ⟨sound, by simp⟩
  | none =>
    cases aliveY : pool.objects y with
    | none => exact .of_pure ⟨sound, by simp⟩
    | some r =>
      rw [if_pos ⟨rfl, by simp⟩]
      have empty : pool.held x = none := by
        rw [held, aliveX]
        rfl
      have other : x ≠ y := by
        rintro rfl
        simp [aliveX] at aliveY
      exact .of_pure (sound.moved empty aliveY other)

theorem moveAssign_completes (sound : pool.Sound phases) :
    Completes nextOf phases (pool.moveAssign x y)
      (SoundAs (if x = y ∨ pool.holdings x = .dead ∨ pool.holdings y = .dead then pool.holdings
      else Function.update (Function.update pool.holdings x (pool.holdings y)) y .hollow)) := by
  simp only [holdings_eq_dead_iff, moveAssign]
  by_cases self : x = y
  · rw [if_pos self, if_pos (.inl self)]
    exact .of_pure ⟨sound, rfl⟩
  · rw [if_neg self]
    cases aliveX : pool.objects x with
    | none => exact .of_pure ⟨sound, by simp⟩
    | some r =>
      cases aliveY : pool.objects y with
      | none => exact .of_pure ⟨sound, by simp⟩
      | some other =>
        rw [if_neg (by simp [self])]
        refine (letGo_completes sound aliveX).bind fun _ t gone => .of_pure ?_
        -- between the two pointers the reader is one that was moved from
        have between := gone (some movedFrom) rfl (by simp [movedFrom])
        have there : (pool.set x (some movedFrom)).objects y = some other := by
          rw [objects_set, Function.update_of_ne (Ne.symm self), aliveY]
        have empty : (pool.set x (some movedFrom)).held x = none := by
          rw [held_set, Function.update_self]
          rfl
        have moved := between.moved empty there self
        rw [holdings_set, Function.update_idem, Function.update_of_ne (Ne.symm self)] at moved
        rwa [show (pool.set x (some movedFrom)).move x y other = pool.move x y other by
          simp [move, set]] at moved

theorem destroy_completes (sound : pool.Sound phases) :
    Completes nextOf phases (pool.destroy x)
      (SoundAs (Function.update pool.holdings x .dead)) := by
  unfold destroy
  cases alive : pool.objects x with
  | none =>
    refine .of_pure ⟨sound, ?_⟩
    rw [← holdings_eq_dead_iff.mpr alive, Function.update_eq_self]
  | some r =>
    refine (letGo_completes sound alive).bind fun _ t gone => .of_pure ?_
    exact ⟨gone none rfl (by simp), holdings_set pool x none⟩

/-- An operation that a client may do is done, and the names are as the client thinks. -/
theorem step_completes (sound : pool.Sound phases) {op : ReaderOp} {holdings' : ℕ → Holding}
    (allowed : op.next pool.holdings = some holdings') :
    Completes nextOf phases (pool.step op) (SoundAs holdings') := by
  cases op with
  | construct x =>
    have completes := construct_completes sound (x := x)
    rw [ReaderOp.next, ← apply_ite some, Option.some_inj] at allowed
    rwa [allowed] at completes
  | moveConstruct x y =>
    have completes := moveConstruct_completes sound (x := x) (y := y)
    rw [ReaderOp.next, ← apply_ite some, Option.some_inj] at allowed
    rwa [allowed] at completes
  | moveAssign x y =>
    have completes := moveAssign_completes sound (x := x) (y := y)
    rw [ReaderOp.next, ← apply_ite some, Option.some_inj] at allowed
    rwa [allowed] at completes
  | init x answers =>
    rw [ReaderOp.next] at allowed
    split at allowed
    · exact absurd allowed (by simp)
    · next notHollow =>
      obtain rfl := Option.some.inj allowed
      refine call_completes sound fun r alive fit => ?_
      rw [holdings_of_alive alive] at notHollow
      have full : r.impl ≠ none := by simpa using notHollow
      obtain ⟨impl, here⟩ := Option.ne_none_iff_exists'.mp full
      refine (fit.init_completes here answers).bind fun result t becomes => ?_
      exact .of_pure becomes
  | shutdown x =>
    obtain rfl := Option.some.inj allowed
    refine call_completes sound fun r alive fit => ?_
    exact fit.shutdown_completes.mono fun _ _ => And.left
  | gpuCount x =>
    obtain rfl := Option.some.inj allowed
    exact query_completes sound fun r fit => fit.gpuCount_completes
  | gpuInfo x index =>
    obtain rfl := Option.some.inj allowed
    exact query_completes sound fun r fit => fit.gpuInfo_completes index
  | sample x gpuIndex mode accepted =>
    obtain rfl := Option.some.inj allowed
    exact query_completes sound fun r fit => fit.sample_completes gpuIndex mode accepted
  | sampleAll x mode accepted =>
    obtain rfl := Option.some.inj allowed
    exact query_completes sound fun r fit => fit.sampleAll_completes mode accepted
  | destroy x =>
    obtain rfl := Option.some.inj allowed
    exact destroy_completes sound

/-- An operation that a client may not do uses a null pointer, and calls nothing before. -/
theorem step_eq_failure (sound : pool.Sound phases) {op : ReaderOp}
    (refused : op.next pool.holdings = none) : pool.step op = failure := by
  cases op with
  | init x answers =>
    simp only [ReaderOp.next] at refused
    split at refused
    · next hollow =>
      cases alive : pool.objects x with
      | none => simp [holdings_eq_dead_iff.mpr alive] at hollow
      | some r =>
        rw [holdings_of_alive alive] at hollow
        have empty : r.impl = none := by simpa using hollow
        have idle : r.initialized = false := by
          have filled := sound.filled x r alive
          rw [empty] at filled
          simpa using filled
        rw [step, call, alive]
        dsimp only
        rw [ReaderObject.init_eq_failure empty idle]
        rfl
    · exact absurd refused (by simp)
  | construct x =>
    simp only [ReaderOp.next] at refused
    split at refused <;> exact absurd refused (by simp)
  | moveConstruct x y =>
    simp only [ReaderOp.next] at refused
    split at refused <;> exact absurd refused (by simp)
  | moveAssign x y =>
    simp only [ReaderOp.next] at refused
    split at refused <;> exact absurd refused (by simp)
  | shutdown x => exact absurd refused (by simp [ReaderOp.next])
  | gpuCount x => exact absurd refused (by simp [ReaderOp.next])
  | gpuInfo x index => exact absurd refused (by simp [ReaderOp.next])
  | sample x gpuIndex mode accepted => exact absurd refused (by simp [ReaderOp.next])
  | sampleAll x mode accepted => exact absurd refused (by simp [ReaderOp.next])
  | destroy x => exact absurd refused (by simp [ReaderOp.next])

/-! ## Whole programs -/

theorem run_within (sound : pool.Sound phases) (ops : List ReaderOp) :
    Within nextOf phases (pool.run ops).run fun result t =>
      result.map holdings = exec ReaderOp.next pool.holdings ops ∧
        ∀ pool' ∈ result, pool'.Sound t := by
  induction ops generalizing pool phases with
  | nil => exact .of_pure ⟨rfl, fun _ same => Option.some.inj same ▸ sound⟩
  | cons op ops ih =>
    rw [run, exec_cons]
    cases allowed : op.next pool.holdings with
    | none =>
      rw [step_eq_failure sound allowed]
      refine .of_pure ⟨rfl, fun pool' same => ?_⟩
      exact absurd (show (none : Option ReaderPool) = some pool' from same) (by simp)
    | some holdings' =>
      rw [OptionT.run_bind]
      refine Within.bind (step_completes sound allowed) ?_
      rintro _ t ⟨pool', rfl, sound', rfl⟩
      exact ih sound'

theorem sound_empty : Sound {} fun _ => .absent where
  owned := ⟨by simp [held], by simp [held], by simp [held], fun _ _ => rfl⟩
  filled := by simp

/-- The calls a program makes of the driver libraries. -/
def events (ops : List ReaderOp) : List ImplEvent := (run {} ops).run.events

theorem phases_of_run (ops : List ReaderOp) (resource : ℕ × Library) :
    ∃ phase, exec Phase.next .absent (actionsOn resource (events ops)) = some phase ∧
      ∀ pool ∈ (run {} ops).run.value, (∀ x, pool.objects x = none) → phase = .absent := by
  obtain ⟨t, ran, -, sound⟩ := run_within sound_empty ops
  refine ⟨t resource, exec_actionsOn ran resource, fun pool ended dead => ?_⟩
  have absent : ofGroup t resource.1 = fun _ => .absent :=
    (sound pool ended).owned.free resource.1 fun x impl there => by
      rw [held, dead x] at there
      exact absurd there (by simp)
  exact congrFun absent resource.2

/-- **Every `Impl` releases what it loaded, whoever held it.** No call of a driver library
comes at the wrong time, even in a program that goes wrong later, and once all readers are
destroyed each library of each `Impl` is released once. -/
theorem impls_released_once (ops : List ReaderOp) (resource : ℕ × Library) :
    (∃ phase, exec Phase.next .absent (actionsOn resource (events ops)) = some phase) ∧
      ∀ pool ∈ (run {} ops).run.value, (∀ x, pool.objects x = none) →
        Balanced (actionsOn resource (events ops)) := by
  obtain ⟨phase, ran, absent⟩ := phases_of_run ops resource
  exact ⟨⟨phase, ran⟩, fun pool ended dead => balanced_of_exec (absent pool ended dead ▸ ran)⟩

end ReaderPool

/-! ## The C interface -/

/-- A call of the C interface, of a handle that may be null. -/
inductive CReaderCall
  | create (x : ℕ)
  | destroy (reader : Option ℕ)
  | init (reader : Option ℕ) (answers : ProbeAnswers)
  | shutdown (reader : Option ℕ)
  | getGpuCount (reader : Option ℕ)
  | getGpuInfo (reader : Option ℕ) (gpuIndex : ℤ) (outInfo : Bool)
  | sample (reader : Option ℕ) (gpuIndex : ℤ) (mode : ℤ) (outSnapshot : Bool)
      (accepted : Tier → Bool)

/-- What the call does with the reader behind the handle. -/
def CReaderCall.op : CReaderCall → Option ReaderOp
  | .create x => some (.construct x)
  | .destroy reader => reader.map .destroy
  | .init reader answers => reader.map fun x => .init x answers
  | .shutdown reader => reader.map .shutdown
  | .getGpuCount reader => reader.map .gpuCount
  | .getGpuInfo reader gpuIndex outInfo =>
    if outInfo then reader.map fun x => .gpuInfo x gpuIndex else none
  | .sample reader gpuIndex mode outSnapshot accepted =>
    if outSnapshot then do
      let x ← reader
      let mode ← toSampleMode mode
      return .sample x gpuIndex mode accepted
    else none

/-- Nothing moves a reader. -/
def ReaderOp.Stays : ReaderOp → Prop
  | .moveConstruct _ _ => False
  | .moveAssign _ _ => False
  | _ => True

theorem CReaderCall.stays_op (call : CReaderCall) : ∀ op ∈ call.op, op.Stays := by
  intro op made
  cases call with
  | create x => exact Option.some.inj made ▸ trivial
  | destroy reader =>
    obtain ⟨x, -, rfl⟩ := Option.map_eq_some_iff.mp made
    trivial
  | init reader answers =>
    obtain ⟨x, -, rfl⟩ := Option.map_eq_some_iff.mp made
    trivial
  | shutdown reader =>
    obtain ⟨x, -, rfl⟩ := Option.map_eq_some_iff.mp made
    trivial
  | getGpuCount reader =>
    obtain ⟨x, -, rfl⟩ := Option.map_eq_some_iff.mp made
    trivial
  | getGpuInfo reader gpuIndex outInfo =>
    rw [CReaderCall.op, Option.mem_ite_none_right] at made
    obtain ⟨x, -, rfl⟩ := Option.map_eq_some_iff.mp made.2
    trivial
  | sample reader gpuIndex mode outSnapshot accepted =>
    rw [CReaderCall.op, Option.mem_ite_none_right] at made
    obtain ⟨x, -, rest⟩ := Option.bind_eq_some_iff.mp made.2
    obtain ⟨mode', -, same⟩ := Option.bind_eq_some_iff.mp rest
    exact Option.some.inj same ▸ trivial

/-- Without moves no reader is ever one that was moved from. -/
theorem exec_next_of_stays {ops : List ReaderOp} (stays : ∀ op ∈ ops, op.Stays)
    {holdings : ℕ → Holding} (solid : ∀ x, holdings x ≠ .hollow) :
    (exec ReaderOp.next holdings ops).isSome = true := by
  induction ops generalizing holdings with
  | nil => rfl
  | cons op ops ih =>
    obtain ⟨first, rest⟩ := List.forall_mem_cons.mp stays
    have updated (x : ℕ) (holding : Holding) (notHollow : holding ≠ .hollow) (y : ℕ) :
        Function.update holdings x holding y ≠ .hollow := by
      rw [Function.update_apply]
      split
      · exact notHollow
      · exact solid y
    rw [exec_cons]
    cases op with
    | construct x =>
      rw [ReaderOp.next]
      split
      · exact ih rest (updated x .full (by simp))
      · exact ih rest solid
    | moveConstruct x y => exact first.elim
    | moveAssign x y => exact first.elim
    | init x answers =>
      rw [ReaderOp.next, if_neg (solid x)]
      exact ih rest solid
    | destroy x => exact ih rest (updated x .dead (by simp))
    | shutdown x => exact ih rest solid
    | gpuCount x => exact ih rest solid
    | gpuInfo x index => exact ih rest solid
    | sample x gpuIndex mode accepted => exact ih rest solid
    | sampleAll x mode accepted => exact ih rest solid

/-- **No sequence of C calls uses a null pointer**, and when every handle is destroyed
every library is released. -/
theorem c_calls_defined (calls : List CReaderCall) :
    ∃ pool ∈ (ReaderPool.run {} (calls.filterMap CReaderCall.op)).run.value,
      (∀ x, pool.objects x = none) → ∀ resource,
        Balanced (actionsOn resource (ReaderPool.events (calls.filterMap CReaderCall.op))) := by
  obtain ⟨t, -, same, -⟩ := ReaderPool.run_within ReaderPool.sound_empty
    (calls.filterMap CReaderCall.op)
  have stays : ∀ op ∈ calls.filterMap CReaderCall.op, op.Stays := by
    intro op member
    obtain ⟨call, -, made⟩ := List.mem_filterMap.mp member
    exact call.stays_op op made
  have solid (x : ℕ) : ReaderPool.holdings {} x ≠ .hollow := by
    simp [ReaderPool.holdings, ReaderObject.holding]
  have defined := exec_next_of_stays stays solid
  rw [← same, Option.isSome_map] at defined
  obtain ⟨pool, ended⟩ := Option.isSome_iff_exists.mp defined
  refine ⟨pool, ended, fun dead resource => ?_⟩
  obtain ⟨phase, ran, absent⟩ := ReaderPool.phases_of_run (calls.filterMap CReaderCall.op) resource
  exact balanced_of_exec (absent pool ended dead ▸ ran)

end CapacityAgent

import Cachersize.Provider.Orphans

/-! The `main` of `examples/server.cpp` keeps its providers in a `std::vector`. A
vector that is full moves its elements to a larger block, and the copy constructor
of `Provider` is deleted, so its move constructor runs. -/
namespace Cachersize

open Concurrent

/-- `std::vector<Provider>`, its elements at `base`, `base + 1` and so on. -/
structure ProviderVector where
  base : Nat
  capacity : Nat
  size : Nat
  deriving DecidableEq

def ProviderVector.empty : ProviderVector := ⟨0, 0, 0⟩

/-- How a full vector grows, and where its new block lies. -/
structure Growth where
  grow : Nat → Nat
  allocate : ProviderVector → Nat
  grows : ∀ size, size < grow size
  disjoint : ∀ vector, vector.base + vector.capacity ≤ allocate vector ∨
    allocate vector + grow vector.size ≤ vector.base

def Growth.doubling : Growth where
  grow size := if size = 0 then 1 else 2 * size
  allocate vector := vector.base + vector.capacity
  grows size := by
    split
    · omega
    · omega
  disjoint vector := .inl (Nat.le_refl _)

namespace Process

def relocate (old new : Nat) : Nat → List Lifetime
  | 0 => []
  | count + 1 => relocate old new count ++ [.moveConstruct (new + count) (old + count)]

def destroyElements (first : Nat) : Nat → List Lifetime
  | 0 => []
  | count + 1 => destroyElements first count ++ [.destruct (first + count)]

/-- `providers.emplace_back(engine, i)`. The new element is built first, then the old
ones move, then they die where they were. -/
def emplace_back (growth : Growth) (engine : Nat) (vector : ProviderVector) :
    ProviderVector × List Lifetime :=
  if vector.size < vector.capacity then
    ({ vector with size := vector.size + 1 }, [.construct (vector.base + vector.size) engine])
  else
    let new := growth.allocate vector
    (⟨new, growth.grow vector.size, vector.size + 1⟩,
      .construct (new + vector.size) engine ::
        (relocate vector.base new vector.size ++ destroyElements vector.base vector.size))

/-- The loop over `g_num_providers`. -/
def spawn (growth : Growth) (engine : Nat) : Nat → ProviderVector × List Lifetime
  | 0 => (.empty, [])
  | g_num_providers + 1 =>
    let (providers, before) := spawn growth engine g_num_providers
    let (after, actions) := emplace_back growth engine providers
    (after, before ++ actions)

variable {process after : Process} {growth : Growth} {vector : ProviderVector} {engine : Nat}

private theorem construct_providers (process : Process) (this engine address : Nat) :
    (process.construct this engine).providers address =
      if address = this then some ⟨some engine⟩ else process.providers address := by
  simp [Process.construct, Function.update_apply]

private theorem moveConstruct_providers (process : Process) (this other engine address : Nat) :
    (process.moveConstruct this other engine).providers address =
      if address = this then some ⟨some engine⟩
      else if address = other then some ⟨none⟩
      else process.providers address := by
  simp [Process.moveConstruct, Function.update_apply]

private theorem mem_owners_construct {this address : Nat} (member : address ∈ process.owners engine) :
    address ∈ (process.construct this engine).owners engine := by
  rw [Process.construct, owners_update, if_pos rfl]
  exact List.mem_cons_of_mem _ member

/-- A move pops no callback but one of the address that it builds at. -/
theorem mem_owners_moveConstruct {this other address : Nat} (elsewhere : address ≠ this)
    (member : address ∈ process.owners engine) :
    address ∈ (process.moveConstruct this other engine).owners engine := by
  rw [Process.moveConstruct, owners_update, if_pos rfl]
  apply List.mem_cons_of_mem
  rw [map_owner_pop, map_owner]
  exact (List.mem_erase_of_ne elsewhere).mpr member

/-- The elements move one by one. Callbacks of addresses outside the new block stay. -/
theorem relocate_run (process : Process) (engine : Nat) {old new count : Nat}
    (apart : old + count ≤ new ∨ new + count ≤ old)
    (live : ∀ index < count, process.providers (old + index) = some ⟨some engine⟩)
    (vacant : ∀ index < count, process.providers (new + index) = none) :
    ∃ after, run (relocate old new count) process = some after ∧
      (∀ address, after.providers address =
        if new ≤ address ∧ address < new + count then some ⟨some engine⟩
        else if old ≤ address ∧ address < old + count then some ⟨none⟩
        else process.providers address) ∧
      ∀ address, ¬ (new ≤ address ∧ address < new + count) → address ∈ process.owners engine →
        address ∈ after.owners engine := by
  induction count with
  | zero =>
    refine ⟨process, rfl, ?_, fun _ _ member => member⟩
    intro address
    rw [if_neg (by omega), if_neg (by omega)]
  | succ count ih =>
    obtain ⟨middle, ran, layout, kept⟩ := ih (by omega) (fun index below => live index (by omega))
      (fun index below => vacant index (by omega))
    have present : middle.providers (old + count) = some ⟨some engine⟩ := by
      rw [layout, if_neg (by omega), if_neg (by omega)]
      exact live count (by omega)
    have free : middle.providers (new + count) = none := by
      rw [layout, if_neg (by omega), if_neg (by omega)]
      exact vacant count (by omega)
    refine ⟨middle.moveConstruct (new + count) (old + count) engine, ?_, ?_, ?_⟩
    · simp [relocate, run_repeats.snoc, ran, Process.step, free, present]
    · intro address
      rw [moveConstruct_providers, layout]
      by_cases here : address = new + count
      · rw [if_pos here, if_pos (by omega)]
      · by_cases there : address = old + count
        · rw [if_neg here, if_pos there, if_neg (by omega), if_pos (by omega)]
        · rw [if_neg here, if_neg there]
          split
          · rw [if_pos (by omega)]
          · split
            · rw [if_neg (by omega), if_pos (by omega)]
            · rw [if_neg (by omega), if_neg (by omega)]
    · intro address outside member
      exact mem_owners_moveConstruct (by omega) (kept address (by omega) member)

/-- Objects that were moved from take no callback with them. -/
theorem destroyElements_run (process : Process) (first count : Nat)
    (moved : ∀ index < count, process.providers (first + index) = some ⟨none⟩) :
    ∃ after, run (destroyElements first count) process = some after ∧
      after.callbacks = process.callbacks ∧
      ∀ address, after.providers address =
        if first ≤ address ∧ address < first + count then none else process.providers address := by
  induction count with
  | zero =>
    refine ⟨process, rfl, rfl, ?_⟩
    intro address
    rw [if_neg (by omega)]
  | succ count ih =>
    obtain ⟨middle, ran, same, layout⟩ := ih (fun index below => moved index (by omega))
    have present : middle.providers (first + count) = some ⟨none⟩ := by
      rw [layout, if_neg (by omega)]
      exact moved count (by omega)
    refine ⟨middle.destruct (first + count) ⟨none⟩, ?_, same, ?_⟩
    · simp [destroyElements, run_repeats.snoc, ran, Process.step, present]
    · intro address
      simp only [Process.destruct, Function.update_apply, layout]
      by_cases here : address = first + count
      · rw [if_pos here, if_pos (by omega)]
      · rw [if_neg here]
        split
        · rw [if_pos (by omega)]
        · rw [if_neg (by omega)]

/-- The providers are the elements of the vector, all of the engine. -/
def Holds (vector : ProviderVector) (engine : Nat) (process : Process) : Prop :=
  vector.size ≤ vector.capacity ∧ ∀ address, process.providers address =
    if vector.base ≤ address ∧ address < vector.base + vector.size then some ⟨some engine⟩ else none

/-- A callback with the engine belongs to an address outside the vector's block. -/
def Dangles (vector : ProviderVector) (engine : Nat) (process : Process) : Prop :=
  ∃ address ∈ process.owners engine,
    ¬ (vector.base ≤ address ∧ address < vector.base + vector.capacity)

private theorem emplace_back_roomy (growth : Growth) (holds : Holds vector engine process)
    (roomy : vector.size < vector.capacity) :
    run (emplace_back growth engine vector).2 process =
        some (process.construct (vector.base + vector.size) engine) ∧
      Holds (emplace_back growth engine vector).1 engine
        (process.construct (vector.base + vector.size) engine) := by
  have vacant : process.providers (vector.base + vector.size) = none := by
    rw [holds.2, if_neg (by omega)]
  simp only [emplace_back, if_pos roomy]
  refine ⟨?_, roomy, ?_⟩
  · simp [run, Process.step, vacant]
  · intro address
    rw [construct_providers, holds.2]
    by_cases here : address = vector.base + vector.size
    · rw [if_pos here, if_pos (by simp; omega)]
    · rw [if_neg here]
      exact if_congr (by simp; omega) rfl rfl

/-- A full vector leaves the callbacks of its old elements behind. -/
theorem emplace_back_full (growth : Growth) (holds : Holds vector engine process)
    (full : ¬ vector.size < vector.capacity) :
    ∃ after, run (emplace_back growth engine vector).2 process = some after ∧
      Holds (emplace_back growth engine vector).1 engine after ∧
      (0 < vector.size → vector.base ∈ process.owners engine →
        Dangles (emplace_back growth engine vector).1 engine after) := by
  obtain ⟨fits, layout⟩ := holds
  have apart := growth.disjoint vector
  have grows := growth.grows vector.size
  simp only [emplace_back, if_neg full]
  generalize growth.allocate vector = new at apart ⊢
  have vacant : process.providers (new + vector.size) = none := by
    rw [layout, if_neg (by omega)]
  obtain ⟨moved, relocated, layoutMoved, kept⟩ :=
    relocate_run (process.construct (new + vector.size) engine) engine
      (show vector.base + vector.size ≤ new ∨ new + vector.size ≤ vector.base by omega)
      (fun index below => by rw [construct_providers, if_neg (by omega), layout, if_pos (by omega)])
      (fun index below => by rw [construct_providers, if_neg (by omega), layout, if_neg (by omega)])
  obtain ⟨after, destroyed, same, layoutAfter⟩ := destroyElements_run moved
    vector.base vector.size (fun index below => by rw [layoutMoved, if_neg (by omega), if_pos (by omega)])
  refine ⟨after, ?_, ⟨grows, ?_⟩, ?_⟩
  · simp [run, Process.step, vacant, run_repeats.append, relocated, destroyed]
  · intro address
    rw [layoutAfter, layoutMoved, construct_providers, layout]
    by_cases old : vector.base ≤ address ∧ address < vector.base + vector.size
    · rw [if_pos old, if_neg (by simp; omega)]
    · rw [if_neg old, if_neg old, if_neg old]
      by_cases last : address = new + vector.size
      · rw [if_neg (by omega), if_pos last, if_pos (by simp; omega)]
      · rw [if_neg last]
        exact if_congr (by simp; omega) rfl rfl
  · intro nonempty member
    refine ⟨vector.base, ?_, by simp; omega⟩
    have unchanged : after.owners engine = moved.owners engine := by
      rw [owners, owners, same]
    rw [unchanged]
    exact kept _ (by omega) (mem_owners_construct member)

private theorem Holds.base_mem_owners {orphans : Nat → Nat → Nat} (holds : Holds vector engine process)
    (accounted : Accounted process orphans) (nonempty : 0 < vector.size) :
    vector.base ∈ process.owners engine := by
  apply accounted.mem_owners.mpr
  left
  rw [holds.2, if_pos (by omega)]

theorem Dangles.none_mem_found (dangles : Dangles vector engine process)
    (holds : Holds vector engine process) (own : SelfOwned process) : none ∈ process.found engine := by
  obtain ⟨address, member, outside⟩ := dangles
  obtain ⟨fits, layout⟩ := holds
  rw [found, Process.none_mem_found, captured_eq_owner own]
  refine ⟨address, member, ?_⟩
  rw [layout, if_neg (by omega)]

/-- The state of the loop. Up to the first capacity nothing moves. From then on a
callback dangles. -/
structure Spawned (growth : Growth) (engine : Nat) (vector : ProviderVector) (process : Process) :
    Prop where
  holds : Holds vector engine process
  tidy : vector.size ≤ growth.grow 0 → Tidy process
  capacity : vector.size ≤ growth.grow 0 →
    vector.capacity = if vector.size = 0 then 0 else growth.grow 0
  dangles : growth.grow 0 < vector.size → Dangles vector engine process

private theorem emplace_back_size (growth : Growth) (engine : Nat) (vector : ProviderVector) :
    (emplace_back growth engine vector).1.size = vector.size + 1 := by
  unfold emplace_back
  split <;> rfl

private theorem Spawned.roomy (spawned : Spawned growth engine vector process)
    (roomy : vector.size < vector.capacity) :
    ∃ after, run (emplace_back growth engine vector).2 process = some after ∧
      Spawned growth engine (emplace_back growth engine vector).1 after := by
  obtain ⟨emplaced, holds⟩ := emplace_back_roomy growth spawned.holds roomy
  refine ⟨_, emplaced, holds, ?_, ?_, ?_⟩
  · intro few
    rw [emplace_back_size] at few
    apply (spawned.tidy (by omega)).construct
    rw [spawned.holds.2, if_neg (by omega)]
  · intro few
    rw [emplace_back_size] at few ⊢
    have capacity := spawned.capacity (by omega)
    rw [emplace_back, if_pos roomy, if_neg (by omega)]
    split at capacity
    · omega
    · exact capacity
  · intro more
    rw [emplace_back_size] at more
    have before : growth.grow 0 < vector.size := by
      by_contra few
      have capacity := spawned.capacity (by omega)
      split at capacity <;> omega
    obtain ⟨address, member, outside⟩ := spawned.dangles before
    rw [emplace_back, if_pos roomy]
    exact ⟨address, mem_owners_construct member, outside⟩

private theorem Spawned.full {orphans : Nat → Nat → Nat} (spawned : Spawned growth engine vector process)
    (accounted : Accounted process orphans) (own : SelfOwned process)
    (full : ¬ vector.size < vector.capacity) :
    ∃ after, run (emplace_back growth engine vector).2 process = some after ∧
      Spawned growth engine (emplace_back growth engine vector).1 after := by
  obtain ⟨after, emplaced, holds, leaves⟩ := emplace_back_full growth spawned.holds full
  have first : vector.size + 1 ≤ growth.grow 0 → vector.size = 0 := by
    intro few
    have capacity := spawned.capacity (by omega)
    split at capacity <;> omega
  refine ⟨after, emplaced, holds, ?_, ?_, ?_⟩
  · intro few
    rw [emplace_back_size] at few
    refine ((spawned.tidy (by omega)).run own ?_ emplaced).1
    rw [emplace_back, if_neg full]
    simp [first few, relocate, destroyElements, Lifetime.moves]
  · intro few
    rw [emplace_back_size] at few
    rw [emplace_back, if_neg full]
    simp [first few]
  · intro more
    rw [emplace_back_size] at more
    have grown := growth.grows 0
    have nonempty : 0 < vector.size := by omega
    exact leaves nonempty (spawned.holds.base_mem_owners accounted nonempty)

private theorem spawn_run (growth : Growth) (engine g_num_providers : Nat) :
    ∃ reached, run (spawn growth engine g_num_providers).2 initial = some reached ∧
      (spawn growth engine g_num_providers).1.size = g_num_providers ∧
      Spawned growth engine (spawn growth engine g_num_providers).1 reached := by
  induction g_num_providers with
  | zero =>
    refine ⟨initial, rfl, rfl, ⟨Nat.le_refl _, ?_⟩, fun _ => initial_tidy.1, fun _ => rfl, ?_⟩
    · intro address
      rw [if_neg (by simp [spawn, ProviderVector.empty])]
      rfl
    · intro more
      cases more
  | succ count ih =>
    obtain ⟨before, ran, counted, spawned⟩ := ih
    obtain ⟨accounted, own⟩ := initial_accounted.run initial_tidy.2 ran
    obtain ⟨after, emplaced, spawnedAfter⟩ : ∃ after,
        run (emplace_back growth engine (spawn growth engine count).1).2 before = some after ∧
        Spawned growth engine (emplace_back growth engine (spawn growth engine count).1).1 after := by
      by_cases roomy : (spawn growth engine count).1.size < (spawn growth engine count).1.capacity
      · exact spawned.roomy roomy
      · exact spawned.full accounted own roomy
    refine ⟨after, ?_, ?_, spawnedAfter⟩
    · simp only [spawn]
      rw [run_repeats.append, ran]
      exact emplaced
    · simp only [spawn]
      rw [emplace_back_size, counted]

/-- The server finalizes its engine exactly if and only if all its providers fit the
first block of the vector. With more of them a closure runs on a dead object, though
every provider is still emptied. -/
theorem server_finalizes (growth : Growth) (engine g_num_providers : Nat) :
    ∃ reached, run (spawn growth engine g_num_providers).2 initial = some reached ∧
      (∀ index < g_num_providers, (reached.finalize engine).providers
        ((spawn growth engine g_num_providers).1.base + index) = some ⟨none⟩) ∧
      (FinalizesExactly reached engine ↔ g_num_providers ≤ growth.grow 0) ∧
      (none ∈ reached.found engine ↔ growth.grow 0 < g_num_providers) := by
  obtain ⟨reached, ran, counted, spawned⟩ := spawn_run growth engine g_num_providers
  obtain ⟨accounted, own⟩ := initial_accounted.run initial_tidy.2 ran
  have fits : g_num_providers ≤ growth.grow 0 → FinalizesExactly reached engine :=
    fun few => (spawned.tidy (by omega)).finalizesExactly own engine
  have touches : growth.grow 0 < g_num_providers → none ∈ reached.found engine :=
    fun more => (spawned.dangles (by omega)).none_mem_found spawned.holds own
  have spared : FinalizesExactly reached engine → none ∉ reached.found engine := by
    intro exactly dead
    have live := exactly.1 none dead
    cases live
  refine ⟨reached, ran, ?_, ?_, ?_⟩
  · intro index below
    apply accounted.finalize_resets own
    rw [spawned.holds.2, if_pos (by omega)]
  · refine ⟨?_, fits⟩
    intro exactly
    by_contra more
    exact spared exactly (touches (by omega))
  · refine ⟨?_, touches⟩
    intro dead
    by_contra few
    exact spared (fits (by omega)) dead

/-- Two providers are one too many for a vector that doubles. -/
theorem twoProviders_dangle : ∃ reached,
    run (spawn .doubling 0 2).2 initial = some reached ∧ none ∈ reached.found 0 := by
  obtain ⟨reached, ran, -, -, dead⟩ := server_finalizes .doubling 0 2
  exact ⟨reached, ran, dead.mpr (by decide)⟩

end Process

end Cachersize

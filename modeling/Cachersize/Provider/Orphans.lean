import Cachersize.Provider.Lifetime

/-! The callbacks that moves leave with an engine. A move pops the callbacks of the
address that it builds at, so the callback of the object moved from stays, and has no
provider of its own any more. -/
namespace Cachersize

open Concurrent

namespace Process

variable {process after : Process}

def due (process : Process) (engine address : Nat) : Nat :=
  if process.providers address = some ⟨some engine⟩ then 1 else 0

/-- The callbacks without a provider after a step, by engine and address. -/
def leave (process : Process) (orphans : Nat → Nat → Nat) : Lifetime → Nat → Nat → Nat
  | .construct .., engine, address => orphans engine address
  | .moveConstruct this other, engine, address =>
    if process.providers other = some ⟨some engine⟩ then
      if address = other then orphans engine address + 1
      else if address = this then orphans engine address - 1
      else orphans engine address
    else orphans engine address
  | .destruct _, engine, address => orphans engine address
  | .finalize finalized, engine, address =>
    if engine = finalized then 0
    -- The closure of an orphan resets the provider of another engine that lives there now.
    else if 0 < orphans finalized address then orphans engine address + process.due engine address
    else orphans engine address

def orphans : List Lifetime → Process → (Nat → Nat → Nat) → Nat → Nat → Nat
  | [], _, left => left
  | action :: rest, process, left =>
    match process.step action with
    | some after => orphans rest after (process.leave left action)
    | none => left

def noOrphans : Nat → Nat → Nat := fun _ _ => 0

/-- Every callback of an engine is the one of a live provider, or an orphan. -/
def Accounted (process : Process) (orphans : Nat → Nat → Nat) : Prop :=
  ∀ engine address, (process.owners engine).count address =
    process.due engine address + orphans engine address

theorem captured_eq_owner (own : SelfOwned process) (engine : Nat) :
    (process.callbacks engine).map (·.captured) = process.owners engine :=
  List.map_congr_left (own engine)

private theorem reset_apply (providers : Nat → Option Provider) (captured address : Nat) :
    reset providers captured address =
      if address = captured ∧ providers address ≠ none then some ⟨none⟩ else providers address := by
  unfold reset
  cases alive : providers captured with
  | none =>
    by_cases same : address = captured
    · subst same
      simp [alive]
    · simp [same]
  | some object =>
    by_cases same : address = captured
    · subst same
      simp [alive]
    · simp [same]

/-- Whatever lives at an address that a closure captured is empty afterwards. -/
theorem runCallbacks_apply (stack : List FinalizeCallback) (providers : Nat → Option Provider)
    (address : Nat) :
    (runCallbacks stack providers).1 address =
      if address ∈ stack.map (·.captured) ∧ providers address ≠ none then some ⟨none⟩
      else providers address := by
  induction stack generalizing providers with
  | nil => simp [runCallbacks]
  | cons callback rest ih =>
    simp only [runCallbacks, ih, reset_apply, List.map_cons, List.mem_cons]
    by_cases same : address = callback.captured
    · subst same
      by_cases alive : providers callback.captured = none <;> simp [alive]
    · simp [same]

/-- A closure runs on a dead object exactly if it captured such an address. -/
theorem none_mem_found (stack : List FinalizeCallback) (providers : Nat → Option Provider) :
    none ∈ (runCallbacks stack providers).2 ↔
      ∃ address ∈ stack.map (·.captured), providers address = none := by
  induction stack generalizing providers with
  | nil => simp [runCallbacks]
  | cons callback rest ih =>
    have same : ∀ address, reset providers callback.captured address = none ↔
        providers address = none := by
      intro address
      rw [reset_apply]
      split
      · rename_i alive
        simp [alive.2]
      · exact Iff.rfl
    simp only [runCallbacks, List.mem_cons, ih, same, List.map_cons]
    constructor
    · rintro (dead | ⟨address, member, dead⟩)
      · exact ⟨callback.captured, .inl rfl, dead.symm⟩
      · exact ⟨address, .inr member, dead⟩
    · rintro ⟨address, rfl | member, dead⟩
      · exact .inl dead.symm
      · exact .inr ⟨address, member, dead⟩

/-- Closures that all find a provider of the engine captured distinct addresses of
such providers. -/
theorem captured_of_found {engine : Nat} {stack : List FinalizeCallback}
    {providers : Nat → Option Provider}
    (found : ∀ object ∈ (runCallbacks stack providers).2, object = some ⟨some engine⟩) :
    (stack.map (·.captured)).Nodup ∧
      ∀ address ∈ stack.map (·.captured), providers address = some ⟨some engine⟩ := by
  induction stack generalizing providers with
  | nil => simp
  | cons callback rest ih =>
    simp only [runCallbacks, List.mem_cons, forall_eq_or_imp] at found
    obtain ⟨first, later⟩ := found
    obtain ⟨distinct, live⟩ := ih later
    -- The closure emptied its address, so no later one captured it.
    have others : ∀ address ∈ rest.map (·.captured), address ≠ callback.captured ∧
        providers address = some ⟨some engine⟩ := by
      intro address member
      have alive := live address member
      rw [reset_apply] at alive
      split at alive
      · cases alive
      · rename_i untouched
        refine ⟨?_, alive⟩
        rintro rfl
        exact untouched ⟨rfl, by simp [alive]⟩
    constructor
    · rw [List.map_cons, List.nodup_cons]
      exact ⟨fun member => (others _ member).1 rfl, distinct⟩
    · intro address member
      rcases List.mem_cons.mp member with rfl | older
      · exact first
      · exact (others address older).2

variable {orphans : Nat → Nat → Nat}

theorem Accounted.mem_owners (accounted : Accounted process orphans) {engine address : Nat} :
    address ∈ process.owners engine ↔
      process.providers address = some ⟨some engine⟩ ∨ 0 < orphans engine address := by
  rw [← List.count_pos_iff, accounted, due]
  by_cases live : process.providers address = some ⟨some engine⟩
  · have counted : 0 < 1 + orphans engine address := by omega
    simp [live, counted]
  · simp [live]

private theorem finalize_providers (own : SelfOwned process) (engine address : Nat) :
    (process.finalize engine).providers address =
      if address ∈ process.owners engine ∧ process.providers address ≠ none then some ⟨none⟩
      else process.providers address := by
  rw [← captured_eq_owner own]
  exact runCallbacks_apply _ _ _

/-- No provider of the engine is missed, whatever moved before. -/
theorem Accounted.finalize_resets (accounted : Accounted process orphans) (own : SelfOwned process)
    {engine address : Nat} (live : process.providers address = some ⟨some engine⟩) :
    (process.finalize engine).providers address = some ⟨none⟩ := by
  rw [finalize_providers own, if_pos]
  exact ⟨accounted.mem_owners.mpr (.inl live), by simp [live]⟩

/-- What the closures of the engine find at the addresses that they captured. -/
def found (process : Process) (engine : Nat) : List (Option Provider) :=
  (runCallbacks (process.callbacks engine) process.providers).2

/-- A closure touches a dead object exactly if there is an orphan whose address has
no object. -/
theorem Accounted.none_mem_found (accounted : Accounted process orphans) (own : SelfOwned process)
    (engine : Nat) :
    none ∈ process.found engine ↔
      ∃ address, process.providers address = none ∧ 0 < orphans engine address := by
  rw [found, Process.none_mem_found, captured_eq_owner own]
  constructor
  · rintro ⟨address, member, dead⟩
    refine ⟨address, dead, ?_⟩
    simpa [dead] using accounted.mem_owners.mp member
  · rintro ⟨address, dead, orphan⟩
    exact ⟨address, accounted.mem_owners.mpr (.inr orphan), dead⟩

/-- Finalization is exact if and only if the engine has no orphans. -/
theorem Accounted.finalizesExactly_iff (accounted : Accounted process orphans)
    (own : SelfOwned process) (engine : Nat) :
    FinalizesExactly process engine ↔ ∀ address, orphans engine address = 0 := by
  constructor
  · rintro ⟨finds, -⟩ address
    obtain ⟨distinct, live⟩ := captured_of_found finds
    rw [captured_eq_owner own] at distinct live
    have counted := accounted engine address
    by_cases member : address ∈ process.owners engine
    · have single := List.count_eq_one_of_mem distinct member
      rw [due, if_pos (live address member)] at counted
      omega
    · have absent := List.count_eq_zero_of_not_mem member
      omega
  · intro none
    have members : ∀ address, address ∈ process.owners engine ↔
        process.providers address = some ⟨some engine⟩ := by
      intro address
      rw [accounted.mem_owners, none address]
      simp
    have distinct : (process.owners engine).Nodup := by
      rw [List.nodup_iff_count_le_one]
      intro address
      rw [accounted, none address, due]
      split <;> omega
    have live : ∀ callback ∈ process.callbacks engine,
        process.providers callback.owner = some ⟨some engine⟩ :=
      fun callback member => (members _).mp (List.mem_map_of_mem member)
    obtain ⟨finds, reached⟩ := runCallbacks_live distinct (own engine) live
    refine ⟨finds, fun address => ?_⟩
    rw [reached address]
    exact if_congr (members address) rfl rfl

theorem map_owner (process : Process) (engine : Nat) :
    (process.callbacks engine).map (·.owner) = process.owners engine := rfl

theorem Accounted.construct (accounted : Accounted process orphans) {this : Nat}
    (vacant : process.providers this = none) (engine : Nat) :
    Accounted (process.construct this engine) orphans := by
  intro other address
  have counted := accounted other address
  rw [Process.construct, owners_update]
  by_cases here : address = this
  · subst here
    by_cases same : other = engine
    · subst same
      simp only [due, vacant] at counted
      simp [push_finalize_callback, due, map_owner, counted]
      omega
    · simpa [due, same, Ne.symm same, vacant] using counted
  · by_cases same : other = engine
    · subst same
      simpa [push_finalize_callback, due, here, Ne.symm here, map_owner] using counted
    · simpa [due, same, here] using counted

theorem Accounted.moveConstruct (accounted : Accounted process orphans) {this other engine : Nat}
    (vacant : process.providers this = none)
    (present : process.providers other = some ⟨some engine⟩) :
    Accounted (process.moveConstruct this other engine)
      (process.leave orphans (.moveConstruct this other)) := by
  have different : other ≠ this := by
    rintro rfl
    cases vacant.symm.trans present
  intro looked address
  have counted := accounted looked address
  rw [Process.moveConstruct, owners_update]
  by_cases same : looked = engine
  · subst same
    by_cases fromHere : address = other
    · subst fromHere
      simp only [due, present] at counted
      simp [push_finalize_callback, map_owner_pop, due, leave, present, different, Ne.symm different,
        map_owner, List.count_erase_of_ne different, counted]
      omega
    · by_cases here : address = this
      · subst here
        simp only [due, vacant] at counted
        simp [push_finalize_callback, map_owner_pop, due, leave, present, fromHere, map_owner, counted]
        omega
      · simpa [push_finalize_callback, map_owner_pop, due, leave, present, fromHere, here,
          Ne.symm here, map_owner, List.count_erase_of_ne here] using counted
  · by_cases fromHere : address = other
    · subst fromHere
      simpa [due, leave, present, same, Ne.symm same, different] using counted
    · by_cases here : address = this
      · subst here
        simpa [due, leave, present, same, Ne.symm same, vacant] using counted
      · simpa [due, leave, present, same, Ne.symm same, fromHere, here] using counted

theorem Accounted.destruct (accounted : Accounted process orphans) {this : Nat} {object : Provider}
    (present : process.providers this = some object) :
    Accounted (process.destruct this object) orphans := by
  obtain ⟨self⟩ := object
  intro looked address
  have counted := accounted looked address
  cases self with
  | none =>
    by_cases here : address = this
    · subst here
      simpa [Process.destruct, due, present] using counted
    · simpa [Process.destruct, due, here] using counted
  | some engine =>
    rw [Process.destruct, owners_update]
    by_cases here : address = this
    · subst here
      by_cases same : looked = engine
      · subst same
        simp only [due, present] at counted
        simp [map_owner_pop, due, map_owner, counted]
      · simpa [due, same, Ne.symm same, present] using counted
    · by_cases same : looked = engine
      · subst same
        simpa [map_owner_pop, due, here, map_owner, List.count_erase_of_ne here] using counted
      · simpa [due, same, here] using counted

private theorem due_finalize (own : SelfOwned process) (finalized engine address : Nat) :
    (process.finalize finalized).due engine address =
      if address ∈ process.owners finalized then 0 else process.due engine address := by
  rw [due, finalize_providers own]
  by_cases member : address ∈ process.owners finalized
  · by_cases vacant : process.providers address = none <;> simp [member, vacant]
  · simp [member, due]

theorem Accounted.finalize (accounted : Accounted process orphans) (own : SelfOwned process)
    (engine : Nat) : Accounted (process.finalize engine) (process.leave orphans (.finalize engine)) := by
  intro looked address
  rw [due_finalize own, Process.finalize, owners_update]
  simp only [accounted.mem_owners]
  by_cases same : looked = engine
  · subst same
    by_cases live : process.providers address = some ⟨some looked⟩
    · simp [leave, live]
    · simp [leave, due, live]
  · have counted := accounted looked address
    by_cases orphan : 0 < orphans engine address
    · simp [leave, orphan, same, counted, Nat.add_comm]
    · by_cases live : process.providers address = some ⟨some engine⟩
      · simpa [leave, due, orphan, live, same, Ne.symm same] using counted
      · simpa [leave, orphan, live, same] using counted

/-- Every kind of step keeps the account, with the orphans that it leaves. -/
theorem Accounted.step (accounted : Accounted process orphans) (own : SelfOwned process)
    {action : Lifetime} (stepped : process.step action = some after) :
    Accounted after (process.leave orphans action) ∧ SelfOwned after := by
  cases action with
  | construct this engine =>
    simp only [Process.step] at stepped
    split at stepped
    · rename_i vacant
      cases stepped
      exact ⟨accounted.construct vacant engine, own.update (own.push engine this fun _ => id) _⟩
    · cases stepped
  | moveConstruct this other =>
    simp only [Process.step] at stepped
    split at stepped
    · rename_i engine vacant present
      cases stepped
      refine ⟨accounted.moveConstruct vacant present, ?_⟩
      exact own.update (own.push engine this fun callback member => mem_pop member) _
    · cases stepped
  | destruct this =>
    obtain ⟨⟨self⟩, present, rfl⟩ := Option.map_eq_some_iff.mp stepped
    refine ⟨accounted.destruct present, ?_⟩
    cases self with
    | none => exact own
    | some engine => exact own.update (fun callback member => own engine callback (mem_pop member)) _
  | finalize engine =>
    cases stepped
    exact ⟨accounted.finalize own engine, own.update (by simp) _⟩

theorem Accounted.run {actions : List Lifetime} (accounted : Accounted process orphans)
    (own : SelfOwned process) (ran : run actions process = some after) :
    Accounted after (Process.orphans actions process orphans) ∧ SelfOwned after := by
  induction actions generalizing process orphans with
  | nil =>
    cases ran
    exact ⟨accounted, own⟩
  | cons action rest ih =>
    obtain ⟨middle, stepped, remaining⟩ := Option.bind_eq_some_iff.mp ran
    obtain ⟨next, ownNext⟩ := accounted.step own stepped
    simp only [Process.orphans, stepped]
    exact ih next ownNext remaining

theorem initial_accounted : Accounted initial noOrphans := by
  intro engine address
  rfl

/-- In every run, moves included, an engine has one callback for each of its live
providers and the orphans of the run. Its finalization empties all its providers, is
exact if and only if it has no orphans, and touches a dead object if and only if one
of them has an address without an object. -/
theorem callbacks_accounted {actions : List Lifetime} (ran : run actions initial = some after)
    (engine : Nat) :
    (∀ address, (after.owners engine).count address =
      after.due engine address + Process.orphans actions initial noOrphans engine address) ∧
    (∀ address, after.providers address = some ⟨some engine⟩ →
      (after.finalize engine).providers address = some ⟨none⟩) ∧
    (FinalizesExactly after engine ↔
      ∀ address, Process.orphans actions initial noOrphans engine address = 0) ∧
    (none ∈ after.found engine ↔ ∃ address, after.providers address = none ∧
      0 < Process.orphans actions initial noOrphans engine address) := by
  obtain ⟨accounted, own⟩ := initial_accounted.run initial_tidy.2 ran
  refine ⟨accounted engine, ?_, ?_, ?_⟩
  · intro address live
    exact accounted.finalize_resets own live
  · exact accounted.finalizesExactly_iff own engine
  · exact accounted.none_mem_found own engine

/-- The callback that a move left with engine 0 resets the provider of engine 1 that is
built at its address later. -/
theorem reusedOrphan_accounted : ∃ after,
    run [.construct 0 0, .moveConstruct 1 0, .destruct 0, .construct 0 1] initial = some after ∧
    (after.owners 0).count 0 = 1 ∧ ¬ FinalizesExactly after 0 ∧ none ∉ after.found 0 ∧
    (after.finalize 0).providers 0 = some ⟨none⟩ := by
  obtain ⟨after, ran⟩ : ∃ after,
      run [.construct 0 0, .moveConstruct 1 0, .destruct 0, .construct 0 1] initial = some after :=
    ⟨_, rfl⟩
  obtain ⟨counted, -, exactly, -⟩ := callbacks_accounted ran 0
  have orphan : Process.orphans [.construct 0 0, .moveConstruct 1 0, .destruct 0, .construct 0 1]
      initial noOrphans 0 0 = 1 := by rfl
  cases ran
  refine ⟨_, rfl, (counted 0).trans ?_, ?_, ?_, rfl⟩
  · rw [orphan]
    rfl
  · intro exact
    have none := exactly.mp exact 0
    rw [orphan] at none
    cases none
  · decide

end Process

end Cachersize

import Cachersize.Concurrent.Runs
import Mathlib.Data.List.Count
import Mathlib.Data.List.Nodup
import Mathlib.Logic.Function.Basic

/-! `Provider` objects and the finalize callbacks they leave with their engines. A
callback belongs to an address, while objects move, die and have their addresses
reused. -/
namespace Cachersize

open Concurrent

/-- A callback pushed with `push_finalize_callback(owner, [p=captured]() { p->self.reset(); })`. -/
structure FinalizeCallback where
  owner : Nat
  captured : Nat
  deriving DecidableEq

def push_finalize_callback (owner captured : Nat) (stack : List FinalizeCallback) :
    List FinalizeCallback := ⟨owner, captured⟩ :: stack

/-- Removes the most recent callback of the owner, if there is one. -/
def pop_finalize_callback (owner : Nat) (stack : List FinalizeCallback) : List FinalizeCallback :=
  stack.eraseP fun callback => callback.owner == owner

/-- `self` is empty, or points to a `ProviderImpl` of the given engine. -/
structure Provider where
  self : Option Nat
  deriving DecidableEq

/-- The callbacks of each engine, the most recent first, and the live `Provider`
objects by their addresses. -/
structure Process where
  callbacks : Nat → List FinalizeCallback
  providers : Nat → Option Provider

inductive Lifetime where
  | construct (this engine : Nat)
  | moveConstruct (this other : Nat)
  | destruct (this : Nat)
  | finalize (engine : Nat)
  deriving DecidableEq

def Lifetime.moves : Lifetime → Prop
  | .moveConstruct .. => True
  | _ => False

namespace Process

def initial : Process := ⟨fun _ => [], fun _ => none⟩

def construct (process : Process) (this engine : Nat) : Process where
  callbacks := Function.update process.callbacks engine
    (push_finalize_callback this this (process.callbacks engine))
  providers := Function.update process.providers this (some ⟨some engine⟩)

/-- `other.self` is the engine's `ProviderImpl`. The pop names `this`, as the source
does. -/
def moveConstruct (process : Process) (this other engine : Nat) : Process where
  callbacks := Function.update process.callbacks engine
    (push_finalize_callback this this (pop_finalize_callback this (process.callbacks engine)))
  providers := Function.update (Function.update process.providers other (some ⟨none⟩)) this
    (some ⟨some engine⟩)

def destruct (process : Process) (this : Nat) (object : Provider) : Process where
  callbacks := match object.self with
    | none => process.callbacks
    | some engine => Function.update process.callbacks engine
        (pop_finalize_callback this (process.callbacks engine))
  providers := Function.update process.providers this none

/-- `p->self.reset()`. On an address without an object this is undefined; here it
does nothing. -/
def reset (providers : Nat → Option Provider) (captured : Nat) : Nat → Option Provider :=
  match providers captured with
  | some _ => Function.update providers captured (some ⟨none⟩)
  | none => providers

/-- Run callbacks one after the other, noting what each finds at the address that it
captured. -/
def runCallbacks : List FinalizeCallback → (Nat → Option Provider) →
    (Nat → Option Provider) × List (Option Provider)
  | [], providers => (providers, [])
  | callback :: rest, providers =>
    let (after, found) := runCallbacks rest (reset providers callback.captured)
    (after, providers callback.captured :: found)

def finalize (process : Process) (engine : Nat) : Process where
  callbacks := Function.update process.callbacks engine []
  providers := (runCallbacks (process.callbacks engine) process.providers).1

/-- An object is constructed where there is none, moved from while its `self` is not
empty, and destroyed while it lives. -/
def step (process : Process) : Lifetime → Option Process
  | .construct this engine =>
    if process.providers this = none then some (process.construct this engine) else none
  | .moveConstruct this other =>
    match process.providers this, process.providers other with
    | none, some ⟨some engine⟩ => some (process.moveConstruct this other engine)
    | _, _ => none
  | .destruct this => (process.providers this).map (process.destruct this)
  | .finalize engine => some (process.finalize engine)

def run : List Lifetime → Process → Option Process
  | [], process => some process
  | action :: rest, process => (process.step action).bind (run rest)

def owners (process : Process) (engine : Nat) : List Nat :=
  (process.callbacks engine).map (·.owner)

/-- Each live provider with a non-empty `self` has one callback, with its engine, and
there are no others. -/
def Tidy (process : Process) : Prop :=
  ∀ engine address, (process.owners engine).count address =
    if process.providers address = some ⟨some engine⟩ then 1 else 0

def SelfOwned (process : Process) : Prop :=
  ∀ engine, ∀ callback ∈ process.callbacks engine, callback.captured = callback.owner

/-- Finalizing the engine resets its live non-empty providers and no others, and no
closure runs on anything else. -/
def FinalizesExactly (process : Process) (engine : Nat) : Prop :=
  let (after, found) := runCallbacks (process.callbacks engine) process.providers
  (∀ object ∈ found, object = some ⟨some engine⟩) ∧
    ∀ address, after address =
      if process.providers address = some ⟨some engine⟩ then some ⟨none⟩ else process.providers address

variable {process after : Process}

theorem map_owner_pop (owner : Nat) (stack : List FinalizeCallback) :
    (pop_finalize_callback owner stack).map (·.owner) = (stack.map (·.owner)).erase owner := by
  rw [List.erase_eq_eraseP', List.eraseP_map]
  rfl

theorem Tidy.mem_owners (tidy : Tidy process) {engine address : Nat} :
    address ∈ process.owners engine ↔ process.providers address = some ⟨some engine⟩ := by
  rw [← List.count_pos_iff, tidy]
  by_cases live : process.providers address = some ⟨some engine⟩ <;> simp [live]

theorem Tidy.nodup (tidy : Tidy process) (engine : Nat) : (process.owners engine).Nodup := by
  rw [List.nodup_iff_count_le_one]
  intro address
  rw [tidy]
  split <;> omega

/-- Callbacks of distinct owners, each alive with this engine, reset just these. -/
theorem runCallbacks_live {engine : Nat} {stack : List FinalizeCallback}
    {providers : Nat → Option Provider} (distinct : (stack.map (·.owner)).Nodup)
    (own : ∀ callback ∈ stack, callback.captured = callback.owner)
    (live : ∀ callback ∈ stack, providers callback.owner = some ⟨some engine⟩) :
    (∀ object ∈ (runCallbacks stack providers).2, object = some ⟨some engine⟩) ∧
      ∀ address, (runCallbacks stack providers).1 address =
        if address ∈ stack.map (·.owner) then some ⟨none⟩ else providers address := by
  induction stack generalizing providers with
  | nil => simp [runCallbacks]
  | cons callback rest ih =>
    have captured := own callback List.mem_cons_self
    have alive := live callback List.mem_cons_self
    have cleared : reset providers callback.captured =
        Function.update providers callback.owner (some ⟨none⟩) := by
      rw [reset, captured, alive]
    obtain ⟨fresh, distinctRest⟩ := List.nodup_cons.mp distinct
    have liveRest : ∀ other ∈ rest,
        Function.update providers callback.owner (some ⟨none⟩) other.owner = some ⟨some engine⟩ := by
      intro other member
      have different : other.owner ≠ callback.owner := by
        intro same
        exact fresh (List.mem_map.mpr ⟨other, member, same⟩)
      rw [Function.update_of_ne different]
      exact live other (List.mem_cons_of_mem _ member)
    obtain ⟨foundRest, afterRest⟩ := ih distinctRest
      (fun other member => own other (List.mem_cons_of_mem _ member)) liveRest
    simp only [runCallbacks, cleared]
    constructor
    · intro object member
      rcases List.mem_cons.mp member with first | later
      · rw [first, captured, alive]
      · exact foundRest object later
    · intro address
      rw [afterRest]
      by_cases same : address = callback.owner
      · simp [same]
      · simp [same]

theorem Tidy.finalizesExactly (tidy : Tidy process) (own : SelfOwned process) (engine : Nat) :
    FinalizesExactly process engine := by
  have live : ∀ callback ∈ process.callbacks engine,
      process.providers callback.owner = some ⟨some engine⟩ :=
    fun callback member => tidy.mem_owners.mp (List.mem_map_of_mem member)
  obtain ⟨found, reached⟩ := runCallbacks_live (tidy.nodup engine) (own engine) live
  refine ⟨found, fun address => ?_⟩
  rw [reached address]
  exact if_congr tidy.mem_owners rfl rfl

theorem owners_update (engine other : Nat) (stack : List FinalizeCallback)
    (providers : Nat → Option Provider) :
    (⟨Function.update process.callbacks engine stack, providers⟩ : Process).owners other =
      if other = engine then stack.map (·.owner) else process.owners other := by
  by_cases same : other = engine
  · simp [owners, same]
  · simp [owners, same]

@[simp] theorem owners_providers (providers : Nat → Option Provider) (engine : Nat) :
    (⟨process.callbacks, providers⟩ : Process).owners engine = process.owners engine := rfl

theorem Tidy.unowned (tidy : Tidy process) {this : Nat}
    (empty : ∀ engine, process.providers this ≠ some ⟨some engine⟩) (engine : Nat) :
    (process.owners engine).count this = 0 := by
  rw [tidy, if_neg (empty engine)]

theorem Tidy.construct (tidy : Tidy process) {this : Nat} (vacant : process.providers this = none)
    (engine : Nat) : Tidy (process.construct this engine) := by
  intro other address
  have unowned : (process.owners other).count this = 0 := tidy.unowned (by simp [vacant]) other
  rw [Process.construct, owners_update]
  by_cases here : address = this
  · subst here
    by_cases same : other = engine
    · subst same
      have pushed : (process.callbacks other).map (·.owner) = process.owners other := rfl
      simp [push_finalize_callback, pushed, unowned]
    · simp [same, Ne.symm same, unowned]
  · by_cases same : other = engine
    · subst same
      have older : ((process.callbacks other).map (·.owner)).count address =
          if process.providers address = some ⟨some other⟩ then 1 else 0 := tidy other address
      simpa [push_finalize_callback, here, Ne.symm here] using older
    · simpa [same, here] using tidy other address

theorem Tidy.destruct (tidy : Tidy process) {this : Nat} {object : Provider}
    (present : process.providers this = some object) : Tidy (process.destruct this object) := by
  obtain ⟨self⟩ := object
  cases self with
  | none =>
    intro other address
    by_cases here : address = this
    · subst here
      have unowned : (process.owners other).count address = 0 := tidy.unowned (by simp [present]) other
      simpa [Process.destruct] using unowned
    · simpa [Process.destruct, here] using tidy other address
  | some engine =>
    intro other address
    rw [Process.destruct, owners_update]
    by_cases here : address = this
    · subst here
      by_cases same : other = engine
      · subst same
        have single : (process.owners other).count address = 1 := by rw [tidy, if_pos present]
        have popped : ((process.owners other).erase address).count address = 0 := by
          rw [List.count_erase_self, single]
        simpa [map_owner_pop, owners] using popped
      · have different : process.providers address ≠ some ⟨some other⟩ := by
          simp [present, Ne.symm same]
        have elsewhere : (process.owners other).count address = 0 := by rw [tidy, if_neg different]
        simpa [same] using elsewhere
    · by_cases same : other = engine
      · subst same
        have popped : ((process.owners other).erase this).count address =
            (process.owners other).count address := List.count_erase_of_ne here
        have kept := popped.trans (tidy other address)
        simpa [map_owner_pop, owners, here] using kept
      · simpa [same, here] using tidy other address

theorem Tidy.finalize (tidy : Tidy process) (own : SelfOwned process) (engine : Nat) :
    Tidy (process.finalize engine) := by
  intro other address
  obtain ⟨-, cleared⟩ := tidy.finalizesExactly own engine
  have reached : (process.finalize engine).providers address =
      if process.providers address = some ⟨some engine⟩ then some ⟨none⟩
      else process.providers address := cleared address
  rw [reached, Process.finalize, owners_update]
  by_cases same : other = engine
  · subst same
    by_cases live : process.providers address = some ⟨some other⟩ <;> simp [live]
  · by_cases live : process.providers address = some ⟨some engine⟩
    · have elsewhere := tidy other address
      simpa [live, same, Ne.symm same] using elsewhere
    · simpa [live, same] using tidy other address

theorem SelfOwned.update (own : SelfOwned process) {engine : Nat} {stack : List FinalizeCallback}
    (stackOwn : ∀ callback ∈ stack, callback.captured = callback.owner)
    (providers : Nat → Option Provider) :
    SelfOwned ⟨Function.update process.callbacks engine stack, providers⟩ := by
  intro other callback member
  by_cases same : other = engine
  · subst same
    exact stackOwn callback (by simpa using member)
  · exact own other callback (by simpa [same] using member)

theorem SelfOwned.push (own : SelfOwned process) (engine this : Nat) {stack : List FinalizeCallback}
    (rest : ∀ callback ∈ stack, callback ∈ process.callbacks engine) :
    ∀ callback ∈ push_finalize_callback this this stack, callback.captured = callback.owner := by
  intro callback member
  rcases List.mem_cons.mp member with rfl | older
  · rfl
  · exact own engine callback (rest callback older)

theorem mem_pop {owner : Nat} {stack : List FinalizeCallback} {callback : FinalizeCallback}
    (member : callback ∈ pop_finalize_callback owner stack) : callback ∈ stack :=
  List.mem_of_mem_eraseP member

/-- The three kinds of steps that are not moves keep the invariant. -/
theorem Tidy.step (tidy : Tidy process) (own : SelfOwned process) {action : Lifetime}
    (stays : ¬ action.moves) (stepped : process.step action = some after) :
    Tidy after ∧ SelfOwned after := by
  cases action with
  | construct this engine =>
    simp only [Process.step] at stepped
    split at stepped
    · rename_i vacant
      cases stepped
      exact ⟨tidy.construct vacant engine, own.update (own.push engine this fun _ => id) _⟩
    · cases stepped
  | moveConstruct => exact absurd trivial stays
  | destruct this =>
    obtain ⟨⟨self⟩, present, rfl⟩ := Option.map_eq_some_iff.mp stepped
    refine ⟨tidy.destruct present, ?_⟩
    cases self with
    | none => exact own
    | some engine => exact own.update (fun callback member => own engine callback (mem_pop member)) _
  | finalize engine =>
    cases stepped
    exact ⟨tidy.finalize own engine, own.update (by simp) _⟩

/-- A move leaves the callback of the object moved from with the engine: the pop looks
for the new object, which has none. -/
theorem Tidy.not_after_move (tidy : Tidy process) {action : Lifetime} (moves : action.moves)
    (stepped : process.step action = some after) : ¬ Tidy after := by
  cases action with
  | moveConstruct this other =>
    simp only [Process.step] at stepped
    split at stepped
    · rename_i engine vacant present
      cases stepped
      intro broken
      have different : other ≠ this := by
        rintro rfl
        cases vacant.symm.trans present
      have left := broken engine other
      have single : (process.owners engine).count other = 1 := by rw [tidy, if_pos present]
      have kept : (((process.callbacks engine).map (·.owner)).erase this).count other = 1 :=
        (List.count_erase_of_ne different).trans single
      rw [Process.moveConstruct, owners_update] at left
      simp [push_finalize_callback, map_owner_pop, different, Ne.symm different, kept] at left
    · cases stepped
  | construct | destruct | finalize => exact moves.elim

theorem run_repeats : Repeats step run := ⟨fun _ => rfl, fun _ _ _ => rfl⟩

theorem initial_tidy : Tidy initial ∧ SelfOwned initial := by
  constructor
  · intro engine address
    rfl
  · intro engine callback member
    cases member

theorem Tidy.run {actions : List Lifetime} (tidy : Tidy process) (own : SelfOwned process)
    (stay : ∀ action ∈ actions, ¬ action.moves) (ran : run actions process = some after) :
    Tidy after ∧ SelfOwned after := by
  refine run_repeats.induction (fun process => Tidy process ∧ SelfOwned process) ?_ ⟨tidy, own⟩ ran
  intro action member before later holds stepped
  exact holds.1.step holds.2 (stay action member) stepped

/-- Callbacks follow the providers in every state of a run, and so does every
finalization, exactly if the run moves no provider. -/
theorem callbacks_follow_providers {actions : List Lifetime}
    (ran : run actions initial = some after) :
    (∀ first rest reached, actions = first ++ rest → run first initial = some reached →
      Tidy reached ∧ ∀ engine, FinalizesExactly reached engine) ↔
    ∀ action ∈ actions, ¬ action.moves := by
  constructor
  · intro follows action member moves
    obtain ⟨first, rest, rfl⟩ := List.append_of_mem member
    rw [run_repeats.append] at ran
    obtain ⟨before, reached, continues⟩ := Option.bind_eq_some_iff.mp ran
    obtain ⟨moved, stepped, -⟩ := Option.bind_eq_some_iff.mp continues
    have reachedMoved : run (first ++ [action]) initial = some moved := by
      simp [run_repeats.append, reached, run, stepped]
    have tidy := (follows first (action :: rest) before rfl reached).1
    have tidyMoved := (follows (first ++ [action]) rest moved (by simp) reachedMoved).1
    exact tidy.not_after_move moves stepped tidyMoved
  · rintro stay first rest reached rfl ranFirst
    obtain ⟨tidy, own⟩ := initial_tidy.1.run initial_tidy.2
      (fun action member => stay action (List.mem_append_left _ member)) ranFirst
    exact ⟨tidy, tidy.finalizesExactly own⟩

/-- A vector of one provider grows: its element moves to a new address and the old
one dies. The engine is left with a callback on the dead object. -/
theorem moved_callback_dangles : ∃ reached,
    run [.construct 0 0, .moveConstruct 1 0, .destruct 0] initial = some reached ∧
    ¬ Tidy reached ∧ ¬ FinalizesExactly reached 0 := by
  refine ⟨_, rfl, fun tidy => ?_, fun exactly => ?_⟩
  · exact absurd (tidy 0 0) (by decide)
  · have found := exactly.1 none (by decide)
    cases found

theorem reused_address_tidy : ∃ reached,
    run [.construct 0 0, .construct 1 1, .destruct 0, .construct 0 1] initial = some reached ∧
    Tidy reached ∧ FinalizesExactly reached 1 := by
  obtain ⟨reached, ran⟩ : ∃ reached,
      run [.construct 0 0, .construct 1 1, .destruct 0, .construct 0 1] initial = some reached :=
    ⟨_, rfl⟩
  have follows := (callbacks_follow_providers ran).mpr (by simp [Lifetime.moves])
  obtain ⟨tidy, exactly⟩ := follows _ [] reached (by simp) ran
  exact ⟨reached, ran, tidy, exactly 1⟩

end Process

end Cachersize

import Cachersize.Client.Consumption

/-! Destructors that wait. `~AsyncRequest` is implicitly `noexcept`, and the `wait()` in
it throws when the response of the request is a failure. -/
namespace Cachersize

open Concurrent Memory

namespace Client

variable (answers : Nat → RequestResult Int32) (client : Client)

/-- The owner is the last one of a request for which no `wait()` has returned, and whose
response is a failure. -/
def HoldsFailure (owner : Owner) : Prop :=
  ∃ impl ∈ client.lastHeld owner,
    (client.impls impl).m_waited = false ∧ (client.response answers impl).m_success = false

instance (owner : Owner) : Decidable (client.HoldsFailure answers owner) :=
  inferInstanceAs (Decidable (∃ impl ∈ _, _ ∧ _))

variable {answers} {client} {owner : Owner} {impl : Nat}

theorem mem_lastHeld : impl ∈ client.lastHeld owner ↔
    client.pointers.lookup owner = some impl ∧ client.pointers.use_count impl = 1 := by
  simp [lastHeld, Option.filter_eq_some_iff]

/-- A wait returns, unless the response is a failure that is waited for now. -/
theorem await_ok_iff : (client.await answers impl).1 = .ok () ↔
    ¬ ((client.impls impl).m_waited = false ∧ (client.response answers impl).m_success = false) := by
  unfold await
  by_cases waited : (client.impls impl).m_waited = true
  · simp [waited]
  · by_cases success : (client.response answers impl).m_success = true
    · simp [waited, success]
    · simp [waited, success]

private theorem await_error {thrown : Thrown} (threw : (client.await answers impl).1 = .error thrown) :
    thrown = .exception (client.response answers impl).m_error := by
  unfold await at threw
  split at threw
  · cases threw
  · split at threw
    · cases threw
    · exact (Except.error.inj threw).symm

/-- Giving up what one holds throws exactly for the last owner of a failed request. -/
theorem settle_ok_iff :
    (client.settle answers owner).1 = .ok () ↔ ¬ client.HoldsFailure answers owner := by
  unfold settle HoldsFailure
  simp only [mem_lastHeld]
  cases found : client.pointers.lookup owner with
  | none => simp
  | some impl =>
    by_cases last : client.pointers.use_count impl = 1
    · simp [last, await_ok_iff]
    · simp [last]

private theorem settle_error {thrown : Thrown} (threw : (client.settle answers owner).1 = .error thrown) :
    ∃ what, thrown = .exception what := by
  unfold settle at threw
  split at threw
  · cases threw
  · split at threw
    · exact ⟨_, await_error threw⟩
    · cases threw

end Client

namespace ClientAction

/-- The destruction of the last `AsyncRequest` of a failed request. -/
def DestroysFailure (answers : Nat → RequestResult Int32) (client : Client) : ClientAction → Prop
  | destruct this => client.HoldsFailure answers (.named this)
  | _ => False

instance (answers : Nat → RequestResult Int32) (client : Client) (action : ClientAction) :
    Decidable (action.DestroysFailure answers client) :=
  match action with
  | destruct this => inferInstanceAs (Decidable (client.HoldsFailure answers (.named this)))
  | construct _ | copyConstruct _ _ | moveConstruct _ _ | copyAssign _ _ | moveAssign _ _
  | wait _ | completed _ _ | computeSum _ _ _ _ _ => inferInstanceAs (Decidable False)

end ClientAction

/-- Only a destructor can end the program, and only this one. The destructor of the
temporary in `computeSum` never does. -/
theorem Effect.terminates_iff {answers : Nat → RequestResult Int32} {client after : Client}
    {action : ClientAction} {outcome : Except Thrown Unit}
    (effect : Effect answers client action outcome after) :
    outcome = .error .terminate ↔ action.DestroysFailure answers client := by
  have caught {start middle : Client} {owner : Owner} {thrown : Thrown}
      (settled : start.settle answers owner = (.error thrown, middle)) :
      thrown ≠ .terminate := by
    obtain ⟨what, same⟩ := Client.settle_error (congrArg Prod.fst settled)
    rw [same]
    intro terminates
    cases terminates
  cases effect with
  | constructed | copied | moved | copyAssigned | moveAssigned | waitedEmpty | polled | polledEmpty
  | invalid | issued => simp [ClientAction.DestroysFailure]
  | unassigned assigns =>
    rcases assigns with rfl | rfl <;> simp [ClientAction.DestroysFailure]
  | assignThrew assigns different settled =>
    rcases assigns with rfl | rfl <;> simp [ClientAction.DestroysFailure, caught settled]
  | destructed settled =>
    have quiet := Client.settle_ok_iff.mp (congrArg Prod.fst settled)
    simp [ClientAction.DestroysFailure, quiet]
  | @terminated this thrown _ settled =>
    have failed : client.HoldsFailure answers (.named this) := by
      by_contra quiet
      have returned := Client.settle_ok_iff.mpr quiet
      rw [settled] at returned
      cases returned
    simp [ClientAction.DestroysFailure, failed]
  | @waited _ impl found =>
    refine iff_of_false (fun threw => ?_) id
    have same := Client.await_error threw
    cases same
  | called =>
    rw [execute_deliver]
    split <;> simp [ClientAction.DestroysFailure]
  | lost settled => simp [ClientAction.DestroysFailure, caught settled]

namespace Session

variable {answers : Nat → RequestResult Int32} {memory : Nat → Int32}
variable {actions : List ClientAction} {session after : Session} {action : ClientAction}

/-- A step goes on exactly if it does not destroy a failure. -/
theorem terminated_step (formed : session.Formed) (stepped : session.step answers action = some after) :
    after.terminated = false ↔
      session.terminated = false ∧ ¬ action.DestroysFailure answers session.client := by
  obtain ⟨running, -, -, -, terminated⟩ := step_eq stepped
  have ends := (@outcome_effect answers _ (formed running) action).terminates_iff
  rw [terminated, ← ends]
  simp [running]

/-- A run is still going at its end exactly if no destruction in it was of that kind. -/
theorem terminated_run (formed : session.Formed) (running : session.terminated = false)
    (ran : run answers actions session = some after) :
    after.terminated = false ↔
      Throughout answers (fun client action => ¬ action.DestroysFailure answers client) actions
        session := by
  rw [← and_iff_right (b := Throughout answers _ actions session) running]
  exact throughout_iff (fun session => session.terminated = false) (fun _ _ _ valid stepped =>
    ⟨valid.step stepped, terminated_step valid stepped⟩) formed ran

/-- From the start of a program: no destructor is left by an exception, which ends the
program, exactly if none is that of the last owner of a request whose response is a
failure and for which no `wait()` has returned. -/
theorem destructors_quiet (ran : run answers actions (initial memory) = some session) :
    session.terminated = false ↔
      Throughout answers (fun client action => ¬ action.DestroysFailure answers client) actions
        (initial memory) :=
  terminated_run (initial_formed memory) rfl ran

/-- The caller catches the failure that `wait()` reports, and then drops the request. -/
def dropFailed : List ClientAction :=
  [.construct 0, .computeSum ⟨some ⟨⟨lit "na+sm", 0⟩, UUID.clear⟩⟩ 1 2 none (some 0), .wait 0, .destruct 0]

theorem failed_destructor_terminates : ∃ session,
    run (fun _ => { m_success := false, m_error := lit "Cache with id not found", m_value := 0 })
      dropFailed (initial fun _ => 0) = some session ∧ session.terminated = true :=
  ⟨_, rfl, rfl⟩

def keepCopy : List ClientAction :=
  [.construct 0, .computeSum ⟨some ⟨⟨lit "na+sm", 0⟩, UUID.clear⟩⟩ 1 2 none (some 0), .wait 0,
    .copyConstruct 1 0, .destruct 0]

theorem keepCopy_quiet : ∃ session,
    run (fun _ => { m_success := false, m_value := 0 }) keepCopy (initial fun _ => 0) = some session ∧
      session.terminated = false := by
  obtain ⟨session, ran⟩ : ∃ session, run (fun _ => { m_success := false, m_value := 0 }) keepCopy
      (initial fun _ => 0) = some session := ⟨_, rfl⟩
  have quiet : Throughout (fun _ => { m_success := false, m_value := 0 })
      (fun client action => ¬ action.DestroysFailure (fun _ => { m_success := false, m_value := 0 })
        client) keepCopy (initial fun _ => 0) := by decide
  exact ⟨session, ran, (destructors_quiet ran).mpr quiet⟩

end Session

end Cachersize

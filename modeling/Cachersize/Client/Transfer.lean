import Cachersize.Client.Settlement

/-! Move assignment compared with a copy assignment after which the other operand is
assigned a default-constructed request. -/
namespace Cachersize

open Concurrent Memory

/-- `other = AsyncRequest()`. -/
def AsyncRequest.clear (other : Owner) : ClientProgram Unit := do
  let outcome ← (moveAssign other .temporary).attempt
  destruct .temporary
  Program.ofExcept outcome

/-- `this = other; other = AsyncRequest();` -/
def AsyncRequest.copyThenClear (this other : Owner) : ClientProgram Unit := do
  copyAssign this other
  clear other

namespace Client

/-- What a move is to do to the holders: the target has what the other one held, the
other one is empty, and no third one has changed. -/
structure Transferred (before after : Client) (this other : Owner) : Prop where
  taken : after.pointers.lookup this = before.pointers.lookup other
  cleared : after.pointers.lookup other = none
  kept : ∀ owner, owner ≠ this → owner ≠ other →
    after.pointers.lookup owner = before.pointers.lookup owner

variable {answers : Nat → RequestResult Int32} {client : Client} {this other owner : Owner}

private theorem settle_success (success : ∀ owner impl, client.pointers.lookup owner = some impl →
      (client.response answers impl).m_success = true) (owner : Owner) :
    ∃ middle, client.settle answers owner = (.ok (), middle) := by
  have holds : ¬ client.HoldsFailure answers owner := by
    intro failure
    obtain ⟨impl, last, -, failed⟩ := failure
    rw [success owner impl (mem_lastHeld.mp last).1] at failed
    cases failed
  have returned := settle_ok_iff.mpr holds
  exact ⟨_, Prod.ext returned rfl⟩

end Client

namespace AsyncRequest

variable {answers : Nat → RequestResult Int32} {client : Client} {this other : Owner}

private theorem execute_destruct_empty (temporary : client.pointers.lookup .temporary = none) :
    (destruct .temporary).execute (Client.exec answers) client = (.ok (), client) := by
  rw [execute_destruct, Client.settle_empty temporary]
  exact congrArg (Prod.mk (Except.ok ())) (Client.assign_none temporary)

theorem execute_clear (temporary : client.pointers.lookup .temporary = none)
    (named : other ≠ .temporary) :
    (clear other).execute (Client.exec answers) client =
      match client.settle answers other with
      | (.ok _, after) => (.ok (), after.assign other none)
      | (.error thrown, after) => (.error thrown, after) := by
  have still {after : Client} (kept : after.pointers = client.pointers) :
      after.pointers.lookup .temporary = none := by rw [kept, temporary]
  unfold clear
  rw [Program.execute_bind, Program.execute_attempt, execute_moveAssign]
  by_cases empty : client.pointers.lookup other = none
  · have same : other = .temporary ∨ client.pointers.lookup other = client.pointers.lookup .temporary :=
      .inr (empty.trans temporary.symm)
    simp only [if_pos same, Program.execute_bind, execute_destruct_empty temporary,
      Client.settle_empty empty, Client.assign_none empty, Program.execute_ofExcept]
  · have different : ¬ (other = .temporary ∨
        client.pointers.lookup other = client.pointers.lookup .temporary) := by
      rw [temporary]
      exact not_or.mpr ⟨named, empty⟩
    rw [if_neg different]
    cases settled : client.settle answers other with
    | mk outcome after =>
      have kept := still (Client.settle_kept settled).1
      cases outcome with
      | ok _ =>
        have emptied : (after.assign other none).pointers.lookup .temporary = none := by
          rw [Client.assign_pointers, SharedPtrs.lookup_assign_of_ne named.symm, kept]
        simp only [temporary, Client.assign_none emptied, Program.execute_bind,
          execute_destruct_empty emptied, Program.execute_ofExcept]
      | error thrown =>
        simp only [Program.execute_bind, execute_destruct_empty kept, Program.execute_ofExcept]

theorem execute_copyThenClear (distinct : this ≠ other) (named : other ≠ .temporary)
    (apart : this ≠ .temporary) (temporary : client.pointers.lookup .temporary = none) :
    (copyThenClear this other).execute (Client.exec answers) client =
      if client.pointers.lookup this = client.pointers.lookup other then
        (.ok (), client.assign other none)
      else match client.settle answers this with
        | (.ok _, after) =>
          (.ok (), (after.assign this (client.pointers.lookup other)).assign other none)
        | (.error thrown, after) => (.error thrown, after) := by
  -- Whatever the other operand holds, the target holds it as well.
  have cleared {after : Client} (shared : after.pointers.lookup this = after.pointers.lookup other)
      (empty : after.pointers.lookup .temporary = none) :
      (clear other).execute (Client.exec answers) after = (.ok (), after.assign other none) := by
    have settles : after.settle answers other = (.ok (), after) := by
      cases found : after.pointers.lookup other with
      | none => exact Client.settle_empty found
      | some impl => exact Client.settle_shared distinct.symm found (shared.trans found)
    rw [execute_clear empty named, settles]
  unfold copyThenClear
  rw [Program.execute_bind, execute_copyAssign]
  by_cases same : client.pointers.lookup this = client.pointers.lookup other
  · simp only [same, or_true, ↓reduceIte, cleared same temporary]
  · simp only [distinct, same, or_self, ↓reduceIte]
    cases settled : client.settle answers this with
    | mk outcome after =>
      have kept := (Client.settle_kept settled).1
      cases outcome with
      | ok _ =>
        have shared : (after.assign this (client.pointers.lookup other)).pointers.lookup this =
            (after.assign this (client.pointers.lookup other)).pointers.lookup other := by
          rw [Client.assign_pointers, SharedPtrs.lookup_assign,
            SharedPtrs.lookup_assign_of_ne distinct.symm, kept]
        have empty : (after.assign this (client.pointers.lookup other)).pointers.lookup .temporary =
            none := by
          rw [Client.assign_pointers, SharedPtrs.lookup_assign_of_ne apart.symm, kept, temporary]
        exact cleared shared empty
      | error thrown => rfl

/-- While responses are successes, `this = std::move(other)` does what
`this = other; other = AsyncRequest();` does, and transfers the request, exactly if the
two objects do not hold the same one already: then it leaves `other` as it is. -/
theorem move_is_copy_then_clear {this other : Nat} (distinct : this ≠ other)
    (temporary : client.pointers.lookup .temporary = none)
    (success : ∀ owner impl, client.pointers.lookup owner = some impl →
      (client.response answers impl).m_success = true) :
    ((moveAssign (.named this) (.named other)).execute (Client.exec answers) client =
        (copyThenClear (.named this) (.named other)).execute (Client.exec answers) client ∧
      ((moveAssign (.named this) (.named other)).execute (Client.exec answers) client).1 = .ok () ∧
      client.Transferred
        ((moveAssign (.named this) (.named other)).execute (Client.exec answers) client).2
        (.named this) (.named other)) ↔
    ¬ ∃ impl, client.pointers.lookup (.named this) = some impl ∧
      client.pointers.lookup (.named other) = some impl := by
  have different : Owner.named this ≠ .named other := by simpa using distinct
  constructor
  · intro equal shared
    obtain ⟨-, -, transferred⟩ := equal
    obtain ⟨impl, first, second⟩ := shared
    have remains : client.pointers.lookup (.named other) = none := by
      have emptied := transferred.cleared
      rwa [execute_moveAssign, if_pos (.inr (first.trans second.symm))] at emptied
    rw [second] at remains
    cases remains
  · intro unshared
    rw [execute_moveAssign, execute_copyThenClear different (by simp) (by simp) temporary]
    by_cases same : client.pointers.lookup (.named this) = client.pointers.lookup (.named other)
    · -- Both are empty.
      have second : client.pointers.lookup (.named other) = none := by
        cases found : client.pointers.lookup (.named other) with
        | none => rfl
        | some impl => exact absurd ⟨impl, same.trans found, found⟩ unshared
      simp only [same, or_true, ↓reduceIte, Client.assign_none second, true_and]
      exact ⟨same, second, fun _ _ _ => rfl⟩
    · obtain ⟨middle, settled⟩ := Client.settle_success success (.named this)
      have kept := (Client.settle_kept settled).1
      simp only [different, same, or_self, ↓reduceIte, settled, true_and]
      constructor
      · rw [Client.assign_pointers, SharedPtrs.lookup_assign_of_ne different, Client.assign_pointers,
          SharedPtrs.lookup_assign]
      · rw [Client.assign_pointers, SharedPtrs.lookup_assign]
      · intro owner notThis notOther
        rw [Client.assign_pointers, SharedPtrs.lookup_assign_of_ne notOther, Client.assign_pointers,
          SharedPtrs.lookup_assign_of_ne notThis, kept]

end AsyncRequest

namespace Session

/-- Two requests, and a copy of the first. -/
def twoRequests : List ClientAction :=
  [.construct 0, .construct 1, .computeSum ⟨some ⟨⟨lit "na+sm", 0⟩, UUID.clear⟩⟩ 1 2 none (some 0),
    .computeSum ⟨some ⟨⟨lit "na+sm", 0⟩, UUID.clear⟩⟩ 3 4 none (some 1), .copyConstruct 2 0]

/-- Moving the copy back into its original leaves it where it was. -/
theorem shared_move_keeps_source : ∃ session,
    run (fun _ => { m_value := 3 }) twoRequests (initial fun _ => 0) = some session ∧
      ((AsyncRequest.moveAssign (.named 0) (.named 2)).execute (Client.exec fun _ => { m_value := 3 })
        session.client).2.pointers.lookup (.named 2) = some 0 ∧
      ((AsyncRequest.copyThenClear (.named 0) (.named 2)).execute
        (Client.exec fun _ => { m_value := 3 }) session.client).2.pointers.lookup (.named 2) = none :=
  ⟨_, rfl, rfl, rfl⟩

theorem unshared_move_transfers : ∃ session,
    run (fun _ => { m_value := 3 }) twoRequests (initial fun _ => 0) = some session ∧
      session.client.Transferred
        ((AsyncRequest.moveAssign (.named 0) (.named 1)).execute
          (Client.exec fun _ => { m_value := 3 }) session.client).2 (.named 0) (.named 1) := by
  obtain ⟨session, ran, first, second, empty⟩ : ∃ session,
      run (fun _ => { m_value := 3 }) twoRequests (initial fun _ => 0) = some session ∧
        session.client.pointers.lookup (.named 0) = some 0 ∧
        session.client.pointers.lookup (.named 1) = some 1 ∧
        session.client.pointers.lookup .temporary = none := ⟨_, rfl, rfl, rfl, rfl⟩
  have unshared : ¬ ∃ impl, session.client.pointers.lookup (.named 0) = some impl ∧
      session.client.pointers.lookup (.named 1) = some impl := by simp [first, second]
  exact ⟨session, ran,
    ((AsyncRequest.move_is_copy_then_clear (by decide) empty fun _ _ _ => rfl).mpr unshared).2.2⟩

end Session

end Cachersize

import Cachersize.Client.Session
import Cachersize.Provider.Reply

/-! A call that is issued, handed from handle to handle and waited for does what the
synchronous call does. -/
namespace Cachersize

open Concurrent Memory

namespace Client

variable (client : Client)

def calls : List ClientEvent :=
  client.trace.filter fun event => match event with
    | .sent .. => true
    | _ => false

/-- An `AsyncRequest` that holds this request, or none. -/
def Spares (impl object : Nat) : Prop := ∀ other ∈ client.pointers.lookup (.named object), other = impl

instance (impl object : Nat) : Decidable (client.Spares impl object) :=
  inferInstanceAs (Decidable (∀ other ∈ client.pointers.lookup (.named object), other = impl))

/-- The request has an owner besides this `AsyncRequest`. -/
def HeldBeside (impl object : Nat) : Prop := ∃ owner ∈ client.pointers.owners impl, owner ≠ .named object

instance (impl object : Nat) : Decidable (client.HeldBeside impl object) :=
  inferInstanceAs (Decidable (∃ owner ∈ client.pointers.owners impl, owner ≠ .named object))

end Client

/-- Copies, moves and destructions of handles of one request, or of empty ones, that
keep at least one handle of the request alive. -/
def ClientAction.HandsOver (impl : Nat) (client : Client) : ClientAction → Prop
  | construct _ => True
  | copyConstruct _ other | moveConstruct _ other => client.Spares impl other
  | copyAssign this other | moveAssign this other => client.Spares impl this ∧
      (client.pointers.lookup (.named other) = some impl ∨
        client.Spares impl other ∧ client.HeldBeside impl this)
  | destruct this => client.Spares impl this ∧ client.HeldBeside impl this
  | _ => False

instance (impl : Nat) (client : Client) :
    (action : ClientAction) → Decidable (action.HandsOver impl client)
  | .construct _ => .isTrue trivial
  | .copyConstruct _ other | .moveConstruct _ other =>
    inferInstanceAs (Decidable (client.Spares impl other))
  | .copyAssign this other | .moveAssign this other =>
    inferInstanceAs (Decidable (client.Spares impl this ∧
      (client.pointers.lookup (.named other) = some impl ∨
        client.Spares impl other ∧ client.HeldBeside impl this)))
  | .destruct this => inferInstanceAs (Decidable (client.Spares impl this ∧ client.HeldBeside impl this))
  | .wait _ | .completed _ _ | .computeSum _ _ _ _ _ => .isFalse id

namespace Client

variable {answers : Nat → RequestResult Int32} {client : Client} {impl : Nat}

@[simp] theorem calls_record (event : ClientEvent) :
    (client.record event).calls = client.calls ++ match event with
      | .sent .. => [event]
      | _ => [] := by
  cases event <;> simp [calls]

@[simp] theorem calls_assign (owner : Owner) (target : Option Nat) :
    (client.assign owner target).calls = client.calls :=
  filter_assign (fun _ => rfl) owner target

@[simp] theorem calls_write (holder result : Option Nat) (value : Int32) :
    (client.write holder result value).calls = client.calls :=
  filter_write (fun _ _ => rfl) result value

private theorem deliver_calls (answers : Nat → RequestResult Int32) (client : Client)
    (holder result : Option Nat) (response : RequestResult Int32) :
    ((deliver holder result response).execute (exec answers) client).2.calls = client.calls := by
  rw [execute_deliver]
  split
  · exact calls_write _ _ _
  · rfl

/-- A handle that is not the last one of the request is not waited for. -/
theorem settle_beside {this : Nat} (spares : client.Spares impl this)
    (held : client.HeldBeside impl this) : client.settle answers (.named this) = (.ok (), client) := by
  cases found : client.pointers.lookup (.named this) with
  | none => exact settle_empty found
  | some own =>
    obtain ⟨owner, shared, different⟩ := held
    have same : own = impl := spares own found
    exact settle_shared different.symm (same ▸ found) (SharedPtrs.mem_owners.mp shared)

private theorem settle_assigned {this other : Nat} (spares : client.Spares impl this)
    (alive : client.pointers.lookup (.named other) = some impl ∨
      client.Spares impl other ∧ client.HeldBeside impl this)
    (different : client.pointers.lookup (.named this) ≠ client.pointers.lookup (.named other)) :
    client.settle answers (.named this) = (.ok (), client) := by
  rcases alive with held | ⟨-, held⟩
  · cases found : client.pointers.lookup (.named this) with
    | none => exact settle_empty found
    | some own =>
      have same : own = impl := spares own found
      rw [found, held, same] at different
      exact absurd rfl different
  · exact settle_beside spares held

end Client

/-- The call has been sent for a request that nobody has waited for. Nothing else has
happened to the client but that handles were copied, moved and destroyed. -/
structure InTransit (start : Client) (handle : CacheHandleImpl) (x y : Int32) (result : Option Nat)
    (client : Client) : Prop where
  request : client.impls start.created = { m_async_response := start.sent, m_wait_callback := result }
  memory : client.memory = start.memory
  calls : client.calls = start.calls ++ [.sent start.sent handle x y]

namespace InTransit

variable {answers : Nat → RequestResult Int32} {start client after : Client}
variable {handle : CacheHandleImpl} {x y : Int32} {result : Option Nat}

theorem assign (transit : InTransit start handle x y result client) (owner : Owner)
    (target : Option Nat) : InTransit start handle x y result (client.assign owner target) where
  request := transit.request
  memory := transit.memory
  calls := (Client.calls_assign owner target).trans transit.calls

/-- A hand-over ends normally and leaves the request in transit. -/
theorem step {action : ClientAction} {outcome : Except Thrown Unit}
    (transit : InTransit start handle x y result client)
    (effect : Effect answers client action outcome after)
    (handsOver : action.HandsOver start.created client) :
    outcome = .ok () ∧ InTransit start handle x y result after := by
  cases effect with
  | constructed => exact ⟨rfl, transit⟩
  | copied => exact ⟨rfl, transit.assign _ _⟩
  | moved => exact ⟨rfl, (transit.assign _ _).assign _ _⟩
  | unassigned => exact ⟨rfl, transit⟩
  | copyAssigned different settled =>
    obtain ⟨spares, alive⟩ := handsOver
    cases settled.symm.trans (Client.settle_assigned spares alive different)
    exact ⟨rfl, transit.assign _ _⟩
  | moveAssigned different settled =>
    obtain ⟨spares, alive⟩ := handsOver
    cases settled.symm.trans (Client.settle_assigned spares alive different)
    exact ⟨rfl, (transit.assign _ _).assign _ _⟩
  | assignThrew assigns different settled =>
    rcases assigns with rfl | rfl
    · obtain ⟨spares, alive⟩ := handsOver
      cases settled.symm.trans (Client.settle_assigned spares alive different)
    · obtain ⟨spares, alive⟩ := handsOver
      cases settled.symm.trans (Client.settle_assigned spares alive different)
  | destructed settled =>
    obtain ⟨spares, held⟩ := handsOver
    cases settled.symm.trans (Client.settle_beside spares held)
    exact ⟨rfl, transit.assign _ _⟩
  | terminated settled =>
    obtain ⟨spares, held⟩ := handsOver
    cases settled.symm.trans (Client.settle_beside spares held)
  | waited | waitedEmpty | polled | polledEmpty | invalid | called | issued | lost => cases handsOver

/-- The request is in transit as soon as the call has returned. -/
theorem issued {req : Nat} {outcome : Except Thrown Unit} (empty : client.pointers.lookup (.named req) = none)
    (effect : Effect answers client (.computeSum ⟨some handle⟩ x y result (some req)) outcome after) :
    outcome = .ok () ∧ InTransit client handle x y result after := by
  have vacant : (client.issue handle x y result).pointers.lookup (.named req) = none := by
    rw [Client.issue_named, empty]
  have transit : InTransit client handle x y result (client.issue handle x y result) := by
    refine ⟨by simp, rfl, ?_⟩
    simp [Client.calls, Client.issue, Client.record]
  cases effect with
  | unassigned assigns => rcases assigns with same | same <;> cases same
  | assignThrew assigns => rcases assigns with same | same <;> cases same
  | issued settled =>
    cases settled.symm.trans (Client.settle_empty vacant)
    exact ⟨rfl, ((transit.assign _ _).assign _ _).assign _ _⟩
  | lost settled => cases settled.symm.trans (Client.settle_empty vacant)

theorem await (answers : Nat → RequestResult Int32)
    (transit : InTransit start handle x y result client) :
    (client.await answers start.created).1 = Client.ending (answers start.sent) ∧
      (client.await answers start.created).2.memory =
        Client.delivered start.memory result (answers start.sent) ∧
      (client.await answers start.created).2.calls = start.calls ++ [.sent start.sent handle x y] := by
  have response : client.response answers start.created = answers start.sent := by
    rw [Client.response, transit.request]
  have pending : (client.impls start.created).m_waited = false := by rw [transit.request]
  rw [Client.await, response, Client.ending, Client.delivered, ← transit.calls, ← transit.memory]
  simp only [pending, Bool.false_eq_true, ↓reduceIte]
  by_cases success : (answers start.sent).m_success = true
  · simp only [success, ↓reduceIte]
    have waited : (client.waited answers start.created).memory =
        (client.write (some start.created) result (answers start.sent).m_value).memory := by
      rw [Client.waited, response, transit.request]
      cases result <;> rfl
    have sent : (client.waited answers start.created).calls = client.calls := by
      change ((((client.record (.entered start.created)).record (.awaited start.created)).write _ _
        _).record (.left start.created)).calls = _
      simp
    exact ⟨trivial, waited.trans (Client.write_memory _ _ _ _), sent⟩
  · simp only [success, Bool.false_eq_true, ↓reduceIte]
    exact ⟨trivial, rfl, by simp [Client.waitedInVain]⟩

end InTransit

namespace Session

variable {answers : Nat → RequestResult Int32} {session started settled : Session}
variable {handle : CacheHandleImpl} {x y : Int32} {result : Option Nat}

/-- What a wait for an asynchronous call has in common with the synchronous call, when
both get the same response. -/
structure Agrees (answers : Nat → RequestResult Int32) (response : RequestResult Int32)
    (session settled : Session) (handle : CacheHandleImpl) (x y : Int32) (result : Option Nat)
    (this : Nat) : Prop where
  response : (session.outcome answers (.computeSum ⟨some handle⟩ x y result none)).1 =
    Client.ending response
  outcome : (settled.outcome answers (.wait this)).1 =
    (session.outcome answers (.computeSum ⟨some handle⟩ x y result none)).1
  memory : (settled.outcome answers (.wait this)).2.memory =
    (session.outcome answers (.computeSum ⟨some handle⟩ x y result none)).2.memory
  untouched : settled.client.memory = session.client.memory
  failed : (settled.outcome answers (.wait this)).1 ≠ .ok () →
    (settled.outcome answers (.wait this)).2.memory = session.client.memory
  waitedCalls : (settled.outcome answers (.wait this)).2.calls =
    session.client.calls ++ [.sent session.client.sent handle x y]
  directCalls : (session.outcome answers (.computeSum ⟨some handle⟩ x y result none)).2.calls =
    session.client.calls ++ [.sent session.client.sent handle x y]

private theorem run_inTransit {moves : List ClientAction} {req : Nat} (formed : session.Formed)
    (empty : session.client.pointers.lookup (.named req) = none)
    (issued : session.step answers (.computeSum ⟨some handle⟩ x y result (some req)) = some started)
    (ran : run answers moves started = some settled)
    (handsOver : Throughout answers (fun client action => action.HandsOver session.client.created client)
      moves started) :
    InTransit session.client handle x y result settled.client := by
  obtain ⟨-, -, effect⟩ := step_effect formed issued
  have begun := (InTransit.issued empty effect).2
  have kept : settled.Formed ∧ InTransit session.client handle x y result settled.client := by
    refine (run_repeats answers).throughout_induction (fun later => later.Formed ∧
      InTransit session.client handle x y result later.client) ?_ ⟨formed.step issued, begun⟩ ran handsOver
    intro action before after holds hands stepped
    obtain ⟨formedBefore, transit⟩ := holds
    obtain ⟨-, -, moved⟩ := step_effect formedBefore stepped
    exact ⟨formedBefore.step stepped, (transit.step moved hands).2⟩
  exact kept.2

private theorem agrees_of_inTransit {this : Nat}
    (transit : InTransit session.client handle x y result settled.client)
    (survivor : settled.client.pointers.lookup (.named this) = some session.client.created) :
    Agrees answers (answers session.client.sent) session settled handle x y result this := by
  have direct : session.outcome answers (.computeSum ⟨some handle⟩ x y result none) =
      (deliver none result (answers session.client.sent)).execute (Client.exec answers)
        { session.client.record (.sent session.client.sent handle x y) with
          sent := session.client.sent + 1 } := rfl
  have waited : settled.outcome answers (.wait this) =
      settled.client.await answers session.client.created := by
    have executed : settled.outcome answers (.wait this) = _ :=
      AsyncRequest.execute_wait answers settled.client (.named this)
    rw [executed, survivor]
  obtain ⟨waitEnds, waitWrites, waitCalls⟩ := transit.await answers
  let sent : Client := { session.client.record (.sent session.client.sent handle x y) with
    sent := session.client.sent + 1 }
  obtain ⟨callEnds, callWrites⟩ :=
    Client.deliver_ends answers sent none result (answers session.client.sent)
  constructor
  · rw [direct, callEnds]
  · rw [waited, direct, waitEnds, callEnds]
  · rw [waited, direct, waitWrites, callWrites]
    rfl
  · exact transit.memory
  · intro failed
    rw [waited, waitEnds, Client.ending] at failed
    rw [waited, waitWrites, Client.delivered]
    by_cases success : (answers session.client.sent).m_success = true
    · simp [success] at failed
    · simp [success]
  · rw [waited, waitCalls]
  · rw [direct, Client.deliver_calls]
    exact Client.calls_record _

def oneCache : List (Action Request StdString) :=
  .spawn 0 (.createCache UUID.clear [] (lit "dummy") (lit "{}")) :: List.replicate 6 (.step 0)

end Session

end Cachersize

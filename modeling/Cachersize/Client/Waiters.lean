import Cachersize.Client.Delivery
import Cachersize.Concurrent.Cooperative
import Cachersize.Concurrent.Gate

/-! Threads of a client that wait for one request. Its `m_waited` is the flag of a gate:
`wait()` tests it before the thread is suspended, and sets it afterwards. -/
namespace Cachersize

open Concurrent Memory

/-- A client with the RPCs whose responses have arrived. -/
structure ClientProcess where
  client : Client
  arrived : Finset Nat

abbrev Waiting := Crew ClientOp.Answer Thrown Unit ClientProcess

namespace ClientProcess

variable (answers : Nat → RequestResult Int32)

/-- In `wait()` nothing blocks but `m_async_response.wait()`. -/
def blocks (process : ClientProcess) : ClientOp → Bool
  | .wait impl => (process.client.impls impl).m_async_response ∉ process.arrived
  | _ => false

def enter (op : ClientOp) (process : ClientProcess) : Option op.Answer × ClientProcess :=
  let (answer, client) := Client.exec answers op process.client
  (if process.blocks op then none else some answer, { process with client })

def wake : (op : ClientOp) → ClientProcess → Option op.Answer
  | .wait impl, process =>
    if process.blocks (.wait impl) then none else some (process.client.response answers impl)
  | _, _ => none

/-- Threads that call `wait()`, each on an object of its own. An action from outside is
the arrival of the response to an RPC. -/
abbrev waiters : Cooperative ClientOp.Answer Thrown Unit ClientProcess Nat Nat where
  body this := AsyncRequest.wait (.named this)
  enter := enter answers
  wake := wake answers
  external rpc process := { process with arrived := insert rpc process.arrived }

end ClientProcess

/-- What is left of `wait()` when `m_async_response.wait()` returns. -/
def AsyncRequest.resume (impl : Nat) (result : Option Nat) (response : RequestResult Int32) :
    ClientProgram Unit := do
  deliver (some impl) result response
  perform (.leave impl)
  perform (.set_waited impl)

private theorem AsyncRequest.wait_eq (this : Owner) :
    AsyncRequest.wait this = .perform (.self this) fun self =>
      match self with
      | none => .raise (.exception (lit "Invalid cachersize::AsyncRequest object"))
      | some impl => .perform (.m_waited impl) fun m_waited =>
        if m_waited then .done ()
        else .perform (.enter impl) fun result =>
          .perform (.wait impl) (AsyncRequest.resume impl result) := by
  rfl

def Client.finish (client : Client) (impl : Nat) (value : Int32) : Client :=
  let client := client.write (some impl) (client.impls impl).m_wait_callback value
  { client.record (.left impl) with
    impls := Function.update client.impls impl { client.impls impl with m_waited := true } }

/-- A write to `*result` by the callback of the request. -/
def ClientEvent.writes (impl result : Nat) : ClientEvent → Bool
  | wrote other target _ => other = some impl ∧ target = result
  | _ => false

namespace Client

variable (client : Client) (impl result : Nat)

/-- How often `m_async_response.wait()` was entered. -/
def entries : Nat := client.trace.count (.awaited impl)

/-- How often `*result` was written. -/
def writes : Nat := client.trace.countP (·.writes impl result)

/-- A request that nobody has waited for yet. -/
structure Pending : Prop where
  unwaited : (client.impls impl).m_waited = false
  callback : (client.impls impl).m_wait_callback = some result
  life : client.life impl =
    [.created impl (client.impls impl).m_async_response (client.impls impl).m_wait_callback]

variable {client} {impl} {result}

theorem Pending.entries (pending : client.Pending impl result) : client.entries impl = 0 := by
  have about : (ClientEvent.awaited impl).about impl = true := by simp [ClientEvent.about]
  rw [Client.entries, ← count_life about, pending.life]
  simp

theorem Pending.writes (pending : client.Pending impl result) : client.writes impl result = 0 := by
  rw [Client.writes, List.countP_eq_zero]
  intro event member wrote
  have about : event.about impl = true := by
    cases event with
    | wrote => simp_all [ClientEvent.writes, ClientEvent.about]
    | _ => cases wrote
  rw [← mem_life about, pending.life, List.mem_singleton] at member
  rw [member] at wrote
  cases wrote

private theorem waited_eq {answers : Nat → RequestResult Int32} :
    client.waited answers impl =
      (client.waitedInVain impl).finish impl (client.response answers impl).m_value := rfl

@[simp] theorem entries_waitedInVain :
    (client.waitedInVain impl).entries impl = client.entries impl + 1 := by
  simp [entries, waitedInVain, record]

@[simp] theorem writes_waitedInVain :
    (client.waitedInVain impl).writes impl result = client.writes impl result := by
  simp [writes, waitedInVain, record, ClientEvent.writes]

section Finish

variable (value : Int32)

@[simp] theorem finish_pointers : (client.finish impl value).pointers = client.pointers :=
  write_pointers _ _ _

@[simp] theorem finish_impls : (client.finish impl value).impls impl =
    { client.impls impl with m_waited := true } := by
  simp [finish]

private theorem finish_trace (callback : (client.impls impl).m_wait_callback = some result) :
    (client.finish impl value).trace = client.trace ++ [.wrote (some impl) result value, .left impl] := by
  simp [finish, write, callback, record]

private theorem entries_finish (callback : (client.impls impl).m_wait_callback = some result) :
    (client.finish impl value).entries impl = client.entries impl := by
  simp [entries, finish_trace value callback]

private theorem writes_finish (callback : (client.impls impl).m_wait_callback = some result) :
    (client.finish impl value).writes impl result = client.writes impl result + 1 := by
  simp [writes, finish_trace value callback, ClientEvent.writes]

end Finish

end Client

namespace ClientProcess

variable {answers : Nat → RequestResult Int32} {process : ClientProcess} {impl : Nat}

variable (answers process) in
private theorem advance_resume {response : RequestResult Int32} (success : response.m_success = true) :
    (waiters answers).advance
        (AsyncRequest.resume impl (process.client.impls impl).m_wait_callback response) process =
      (.ended (.ok ()), { process with client := process.client.finish impl response.m_value }) := by
  unfold AsyncRequest.resume deliver Client.finish
  cases (process.client.impls impl).m_wait_callback with
  | none => simp [success, Cooperative.advance, enter, blocks, Client.exec, Program.call, Client.write]
  | some result =>
    simp [success, Cooperative.advance, enter, blocks, Client.exec, Program.call, Client.write]

/-- `wait()` up to the point where the thread ends or is suspended. -/
theorem advance_wait {this : Nat} (found : process.client.pointers.lookup (.named this) = some impl)
    (success : (process.client.response answers impl).m_success = true) :
    (waiters answers).advance (AsyncRequest.wait (.named this)) process =
      if (process.client.impls impl).m_waited then (.ended (.ok ()), process)
      else if process.blocks (.wait impl) then
        (.blocked (.wait impl) (AsyncRequest.resume impl (process.client.impls impl).m_wait_callback),
          { process with client := process.client.waitedInVain impl })
      else (.ended (.ok ()), { process with client := process.client.waited answers impl }) := by
  have self : (waiters answers).enter (.self (.named this)) process = (some (some impl), process) := by
    simp [enter, blocks, Client.exec, found]
  have flag : (waiters answers).enter (.m_waited impl) process =
      (some (process.client.impls impl).m_waited, process) := rfl
  rw [AsyncRequest.wait_eq, Cooperative.advance_answer self, Cooperative.advance_answer flag]
  by_cases waited : (process.client.impls impl).m_waited = true
  · simp only [waited, ↓reduceIte]
    rfl
  · let entered : ClientProcess := { process with client := process.client.record (.entered impl) }
    have callback : (waiters answers).enter (.enter impl) process =
        (some (process.client.impls impl).m_wait_callback, entered) := rfl
    simp only [waited, Bool.false_eq_true, ↓reduceIte]
    rw [Cooperative.advance_answer callback]
    let inWait : ClientProcess := { process with client := process.client.waitedInVain impl }
    by_cases blocked : process.blocks (.wait impl) = true
    · rw [if_pos blocked]
      have suspended : (waiters answers).enter (.wait impl) entered = (none, inWait) :=
        congrArg (Prod.mk · inWait) (if_pos blocked)
      exact Cooperative.advance_block suspended
    · rw [if_neg blocked]
      have answered : (waiters answers).enter (.wait impl) entered =
          (some (process.client.response answers impl), inWait) :=
        congrArg (Prod.mk · inWait) (if_neg blocked)
      rw [Cooperative.advance_answer answered]
      exact advance_resume answers inWait success

end ClientProcess

/-- What the waiting threads leave as it was. -/
structure Client.SameRequest (start client : Client) (impl result : Nat) : Prop where
  pointers : client.pointers = start.pointers
  m_async_response : (client.impls impl).m_async_response = (start.impls impl).m_async_response
  callback : (client.impls impl).m_wait_callback = some result

/-- The gate that a request is: closed is `m_waited`, inside are the suspended threads,
and who leaves has written `*result`. -/
structure Guards (start : Client) (impl result : Nat) (crew : Waiting) (gate : Gate) : Prop where
  request : start.SameRequest crew.shared.client impl result
  threads : ∀ thread coroutine, crew.threads thread = some coroutine →
    coroutine = .blocked (.wait impl) (AsyncRequest.resume impl (some result)) ∨
      coroutine = .ended (.ok ()) ∧ (crew.shared.client.impls impl).m_waited = true
  inside : ∀ thread, thread ∈ gate.inside ↔ crew.Inside thread
  closed : gate.closed = (crew.shared.client.impls impl).m_waited
  entered : gate.entered = crew.shared.client.entries impl
  left : gate.left = crew.shared.client.writes impl result

/-- No thread calls `wait()` while another one is suspended in it. -/
def Undisturbed (crew : Waiting) : Concurrent.Action Nat Nat → Prop
  | .spawn _ _ => ∀ other, ¬ crew.Inside other
  | .step _ | .external _ => True

namespace Guards

open ClientProcess

variable {answers : Nat → RequestResult Int32} {start : Client} {impl result : Nat}
variable {crew after : Waiting} {gate : Gate}

private theorem nobody_iff (guards : Guards start impl result crew gate) :
    gate.inside = ∅ ↔ ∀ other, ¬ crew.Inside other := by
  rw [Finset.eq_empty_iff_forall_notMem]
  exact forall_congr' fun thread => not_congr (guards.inside thread)

private theorem succeeds (guards : Guards start impl result crew gate)
    (success : (start.response answers impl).m_success = true) :
    (crew.shared.client.response answers impl).m_success = true := by
  unfold Client.response
  rw [guards.request.m_async_response]
  exact success

private theorem skip (guards : Guards start impl result crew gate) {thread : Nat}
    (free : ¬ crew.Inside thread)
    (waited : (crew.shared.client.impls impl).m_waited = true) :
    Guards start impl result (Cooperative.settle crew thread (.ended (.ok ()), crew.shared)) gate where
  request := guards.request
  threads := by
    intro other coroutine present
    rcases Cooperative.settle_cases present with rfl | old
    · exact .inr ⟨rfl, waited⟩
    · exact guards.threads other coroutine old
  inside := by
    intro other
    rw [Cooperative.inside_ended, guards.inside other]
    refine ⟨fun within => ⟨?_, within⟩, And.right⟩
    rintro rfl
    exact free within
  closed := guards.closed
  entered := guards.entered
  left := guards.left

private theorem suspend (guards : Guards start impl result crew gate) (thread : Nat) :
    Guards start impl result
      (Cooperative.settle crew thread (.blocked (.wait impl) (AsyncRequest.resume impl (some result)),
        { crew.shared with client := crew.shared.client.waitedInVain impl }))
      { gate with inside := insert thread gate.inside, entered := gate.entered + 1 } where
  request := ⟨guards.request.pointers, guards.request.m_async_response, guards.request.callback⟩
  threads := by
    intro other coroutine present
    rcases Cooperative.settle_cases present with rfl | old
    · exact .inl rfl
    · exact guards.threads other coroutine old
  inside := by
    intro other
    rw [Cooperative.inside_blocked, Finset.mem_insert, guards.inside other]
  closed := guards.closed
  entered := by simp [guards.entered]
  left := by simp [guards.left]

/-- A thread leaves: it has written `*result`, and closes the gate. -/
theorem leave (guards : Guards start impl result crew gate) (thread : Nat) (value : Int32) :
    Guards start impl result
      (Cooperative.settle crew thread (.ended (.ok ()),
        { crew.shared with client := crew.shared.client.finish impl value }))
      { gate with closed := true, inside := gate.inside.erase thread, left := gate.left + 1 } where
  request := ⟨by simpa using guards.request.pointers, by simpa using guards.request.m_async_response,
    by simpa using guards.request.callback⟩
  threads := by
    intro other coroutine present
    have waited : ((crew.shared.client.finish impl value).impls impl).m_waited = true := by simp
    rcases Cooperative.settle_cases present with rfl | old
    · exact .inr ⟨rfl, waited⟩
    · exact (guards.threads other coroutine old).imp_right fun ended => ⟨ended.1, waited⟩
  inside := by
    intro other
    rw [Cooperative.inside_ended, Finset.mem_erase, guards.inside other]
  closed := by simp
  entered := by
    rw [guards.entered]
    exact (Client.entries_finish value guards.request.callback).symm
  left := by
    rw [guards.left]
    exact (Client.writes_finish value guards.request.callback).symm

/-- Every action on the threads is a move at the gate. -/
theorem step (guards : Guards start impl result crew gate) {action : Concurrent.Action Nat Nat}
    (success : (start.response answers impl).m_success = true)
    (copies : ∀ thread this, action = .spawn thread this →
      start.pointers.lookup (.named this) = some impl)
    (stepped : (waiters answers).step crew action = some after) :
    ∃ move image, gate.step move = some image ∧ Guards start impl result after image ∧
      (gate.Alone move ↔ Undisturbed crew action) := by
  have succeeds := guards.succeeds success
  rcases Cooperative.step_cases stepped with ⟨thread, this, rfl, free, rfl⟩ |
    ⟨thread, op, next, answer, rfl, blocked, woken, rfl⟩ | ⟨rpc, rfl, rfl⟩
  · have absent : thread ∉ gate.inside := fun within => free ((guards.inside thread).mp within)
    have found : crew.shared.client.pointers.lookup (.named this) = some impl := by
      rw [guards.request.pointers]
      exact copies thread this rfl
    rw [advance_wait found succeeds]
    cases waited : (crew.shared.client.impls impl).m_waited with
    | true =>
      have closed : gate.closed = true := guards.closed.trans waited
      exact ⟨.arrive thread false, gate, by simp [Gate.step, absent, closed], guards.skip free waited,
        guards.nobody_iff⟩
    | false =>
      have closed : gate.closed = false := guards.closed.trans waited
      cases blocks : crew.shared.blocks (.wait impl) with
      | true =>
        refine ⟨.arrive thread true, { gate with
          inside := insert thread gate.inside, entered := gate.entered + 1 }, ?_, ?_, guards.nobody_iff⟩
        · simp [Gate.step, absent, closed]
        · rw [guards.request.callback]
          exact guards.suspend thread
      | false =>
        -- the response is there: the thread enters and leaves within one action
        refine ⟨.arrive thread false, { gate with
          closed := true, entered := gate.entered + 1, left := gate.left + 1 }, ?_, ?_, guards.nobody_iff⟩
        · simp [Gate.step, absent, closed]
        · have passed :=
            (guards.suspend thread).leave thread (crew.shared.client.response answers impl).m_value
          rw [Cooperative.settle_settle] at passed
          simpa [absent, Client.waited_eq] using passed
  · rcases guards.threads thread _ blocked with same | ⟨same, -⟩
    · cases same
      have within : thread ∈ gate.inside := (guards.inside thread).mpr ⟨_, _, blocked⟩
      refine ⟨.leave thread, { gate with
        closed := true, inside := gate.inside.erase thread, left := gate.left + 1 }, ?_, ?_, Iff.rfl⟩
      · simp [Gate.step, within]
      · have response : answer = crew.shared.client.response answers impl := by
          simp only [wake] at woken
          split at woken
          · cases woken
          · exact (Option.some.inj woken).symm
        have success : answer.m_success = true := by
          rw [response]
          exact succeeds
        rw [← guards.request.callback, advance_resume answers crew.shared success]
        exact guards.leave thread answer.m_value
    · cases same
  · exact ⟨.idle, gate, rfl, ⟨guards.request, guards.threads, guards.inside, guards.closed,
      guards.entered, guards.left⟩, Iff.rfl⟩

theorem initial (pending : start.Pending impl result) (arrived : Finset Nat) :
    Guards start impl result ((waiters answers).initial ⟨start, arrived⟩) Gate.fresh where
  request := ⟨rfl, rfl, pending.callback⟩
  threads := by
    intro thread coroutine present
    cases present
  inside := by
    intro thread
    constructor
    · intro within
      cases within
    · intro inside
      obtain ⟨op, next, present⟩ := inside
      cases present
  closed := pending.unwaited.symm
  entered := pending.entries.symm
  left := pending.writes.symm

theorem run {actions : List (Concurrent.Action Nat Nat)} {arrived : Finset Nat}
    (pending : start.Pending impl result) (success : (start.response answers impl).m_success = true)
    (copies : ∀ thread this, .spawn thread this ∈ actions →
      start.pointers.lookup (.named this) = some impl)
    (ran : (waiters answers).run actions ((waiters answers).initial ⟨start, arrived⟩) = some crew) :
    ∃ moves gate, Gate.run moves Gate.fresh = some gate ∧ Guards start impl result crew gate ∧
      (Throughout Gate.step Gate.Alone moves Gate.fresh ↔
        Throughout (waiters answers).step Undisturbed actions
          ((waiters answers).initial ⟨start, arrived⟩)) := by
  refine Cooperative.run_repeats.refine Gate.run_repeats (Guards start impl result) ?_
    (Guards.initial pending arrived) ran
  intro action member before gate later guards stepped
  exact guards.step success (fun thread this same => copies thread this (same ▸ member)) stepped

/-- A suspended thread returns when the response is there and it gets control. -/
theorem returns (guards : Guards start impl result crew gate) {thread : Nat}
    (success : (start.response answers impl).m_success = true) (within : crew.Inside thread) :
    ∃ more after, (waiters answers).run more crew = some after ∧
      after.threads thread = some (.ended (.ok ())) := by
  obtain ⟨op, next, present⟩ := within
  rcases guards.threads thread _ present with same | ⟨same, -⟩
  · cases same
    let rpc := (crew.shared.client.impls impl).m_async_response
    let served : ClientProcess := { crew.shared with arrived := insert rpc crew.shared.arrived }
    let ready : Waiting := ⟨served, crew.threads⟩
    have woken : (waiters answers).wake (.wait impl) served =
        some (crew.shared.client.response answers impl) := by
      simp [wake, blocks, served, rpc]
    have callback : (served.client.impls impl).m_wait_callback = some result := guards.request.callback
    have stepped : (waiters answers).step ready (.step thread) = some _ :=
      Cooperative.step_wake present woken
    rw [← callback, advance_resume answers served (guards.succeeds success)] at stepped
    have ran : (waiters answers).run [.external rpc, .step thread] crew = some _ :=
      congrArg (Option.bind · ((waiters answers).run [])) stepped
    exact ⟨_, _, ran, Cooperative.settle_same thread _⟩
  · cases same

end Guards

/-- The response is waited for at most once, `*result` is written at most once, and a
`wait()` that has returned comes after the one write. -/
structure WaitedOnce (impl result : Nat) (crew : Waiting) : Prop where
  awaited : crew.shared.client.entries impl ≤ 1
  written : crew.shared.client.writes impl result ≤ 1
  returned : ∀ thread outcome, crew.threads thread = some (.ended outcome) →
    crew.shared.client.writes impl result = 1

open ClientProcess in
/-- Waiting threads consume the response once exactly where none of them calls `wait()`
while another one is suspended in it. Each of them can return, and does so only after
`*result` was written. -/
theorem waits_consume_once {answers : Nat → RequestResult Int32} {client : Client} {impl result : Nat}
    {arrived : Finset Nat} {actions : List (Concurrent.Action Nat Nat)} {crew : Waiting}
    (pending : client.Pending impl result) (success : (client.response answers impl).m_success = true)
    (copies : ∀ thread this, .spawn thread this ∈ actions →
      client.pointers.lookup (.named this) = some impl)
    (ran : (waiters answers).run actions ((waiters answers).initial ⟨client, arrived⟩) = some crew) :
    (∀ thread, crew.Inside thread → ∃ more after, (waiters answers).run more crew = some after ∧
      after.threads thread = some (.ended (.ok ()))) ∧
    (∀ thread outcome, crew.threads thread = some (.ended outcome) →
      outcome = .ok () ∧ 0 < crew.shared.client.writes impl result) ∧
    (WaitedOnce impl result crew ↔ Throughout (waiters answers).step Undisturbed actions
      ((waiters answers).initial ⟨client, arrived⟩)) := by
  obtain ⟨moves, gate, passed, guards, alone⟩ := Guards.run pending success copies ran
  obtain ⟨balanced, once⟩ := Gate.once_iff passed
  have returned : ∀ thread outcome, crew.threads thread = some (.ended outcome) →
      outcome = .ok () ∧ 0 < crew.shared.client.writes impl result := by
    intro thread outcome present
    rcases guards.threads thread _ present with same | ⟨same, waited⟩
    · cases same
    · cases same
      refine ⟨rfl, ?_⟩
      rw [← guards.left]
      exact balanced.closed.mp (guards.closed.trans waited)
  refine ⟨fun thread within => guards.returns success within, returned, ?_⟩
  rw [← alone, ← once, guards.entered]
  constructor
  · exact WaitedOnce.awaited
  · intro awaited
    have written : crew.shared.client.writes impl result ≤ 1 := by
      rw [← guards.left]
      have entered := balanced.entered
      rw [guards.entered] at entered
      omega
    refine ⟨awaited, written, fun thread outcome present => ?_⟩
    exact Nat.le_antisymm written (returned thread outcome present).2

namespace Session

variable {answers : Nat → RequestResult Int32} {memory : Nat → Int32} {setup : List ClientAction}
variable {session : Session} {impl result : Nat}

/-- After any program whose responses were successes, a request that somebody holds is
pending until `m_waited` is set. -/
theorem pending_of_unwaited (ran : run answers setup (initial memory) = some session)
    (received : Client.Received answers session.client.trace) (owned : session.client.Owned impl)
    (unwaited : (session.client.impls impl).m_waited = false)
    (callback : (session.client.impls impl).m_wait_callback = some result) :
    session.client.Pending impl result := by
  cases run_tracked ran received impl with
  | unborn _ unowned => exact absurd owned unowned
  | pending _ _ _ life => exact ⟨unwaited, callback, life⟩
  | delivered _ _ waited => simp [unwaited] at waited
  | released _ unowned => exact absurd owned unowned

end Session

namespace ClientProcess

def answersThree : Nat → RequestResult Int32 := fun _ => { m_value := 3 }

def twoCopies : Option Session :=
  Session.run answersThree
    [.construct 0, .computeSum ⟨some ⟨⟨lit "na+sm", 0⟩, UUID.clear⟩⟩ 1 2 (some 7) (some 0),
      .copyConstruct 1 0] (Session.initial fun _ => 0)

/-- Both threads have called `wait()` when the response arrives. -/
def waitsTogether : List (Concurrent.Action Nat Nat) :=
  [.spawn 0 0, .spawn 1 1, .external 0, .step 0, .step 1]

theorem concurrent_waits_repeat : ∃ session crew, twoCopies = some session ∧
    session.client.Pending 0 7 ∧
    (waiters answersThree).run waitsTogether
      ((waiters answersThree).initial ⟨session.client, ∅⟩) = some crew ∧
    crew.shared.client.entries 0 = 2 ∧ crew.shared.client.writes 0 7 = 2 ∧
    ¬ WaitedOnce 0 7 crew := by
  refine ⟨_, _, rfl, ⟨rfl, rfl, rfl⟩, rfl, rfl, rfl, fun once => ?_⟩
  exact absurd once.awaited (by decide)

/-- The second thread calls `wait()` when the first one has returned. -/
def waitsInTurn : List (Concurrent.Action Nat Nat) := [.spawn 0 0, .external 0, .step 0, .spawn 1 1]

theorem successive_waits : ∃ session crew, twoCopies = some session ∧
    (waiters answersThree).run waitsInTurn
      ((waiters answersThree).initial ⟨session.client, ∅⟩) = some crew ∧
    WaitedOnce 0 7 crew := by
  obtain ⟨session, crew, ran, owned, unwaited, callback, held, served, alone⟩ : ∃ session crew,
      twoCopies = some session ∧ session.client.Owned 0 ∧
      (session.client.impls 0).m_waited = false ∧
      (session.client.impls 0).m_wait_callback = some 7 ∧
      (session.client.pointers.lookup (.named 0) = some 0 ∧
        session.client.pointers.lookup (.named 1) = some 0) ∧
      (waiters answersThree).run waitsInTurn
        ((waiters answersThree).initial ⟨session.client, ∅⟩) = some crew ∧
      Throughout (waiters answersThree).step Undisturbed waitsInTurn
        ((waiters answersThree).initial ⟨session.client, ∅⟩) := by
    refine ⟨_, _, rfl, ⟨.named 0, rfl⟩, rfl, rfl, ⟨rfl, rfl⟩, rfl, ?_⟩
    constructor
    · intro other within
      obtain ⟨op, next, present⟩ := within
      cases present
    · -- the first thread has returned when the second one comes
      intro suspended stepped
      cases stepped
      refine ⟨trivial, ?_⟩
      intro ready stepped
      cases stepped
      refine ⟨trivial, ?_⟩
      intro returned stepped
      cases stepped
      refine ⟨fun other within => ?_, fun _ _ => trivial⟩
      obtain ⟨differs, before⟩ := Cooperative.inside_ended.mp within
      rcases Cooperative.inside_blocked.mp before with same | ⟨op, next, present⟩
      · exact differs same
      · cases present
  have pending := Session.pending_of_unwaited ran (fun _ _ _ _ _ => rfl) owned unwaited callback
  have copies : ∀ thread this, .spawn thread this ∈ waitsInTurn →
      session.client.pointers.lookup (.named this) = some 0 := by
    intro thread this member
    have either : thread = 0 ∧ this = 0 ∨ thread = 1 ∧ this = 1 := by
      simpa [waitsInTurn] using member
    rcases either with ⟨-, rfl⟩ | ⟨-, rfl⟩
    · exact held.1
    · exact held.2
  have consumed := waits_consume_once pending rfl copies served
  exact ⟨session, crew, ran, served, consumed.2.2.mpr alone⟩

end ClientProcess

end Cachersize

import Cachersize.Client.AsyncRequest

/-! What each member function of `AsyncRequest` does to the memory of the client, and
how it ends. -/
namespace Cachersize

open Concurrent Memory

namespace Client

variable (answers : Nat → RequestResult Int32) (client : Client)

/-- `if(result) *result = value`. -/
def write (impl : Option Nat) (result : Option Nat) (value : Int32) : Client :=
  match result with
  | some result => { client.record (.wrote impl result value) with
      memory := Function.update client.memory result value }
  | none => client

def response (impl : Nat) : RequestResult Int32 := answers (client.impls impl).m_async_response

def waited (impl : Nat) : Client :=
  let client := ((client.record (.entered impl)).record (.awaited impl)).write (some impl)
    (client.impls impl).m_wait_callback (client.response answers impl).m_value
  { client.record (.left impl) with
    impls := Function.update client.impls impl { client.impls impl with m_waited := true } }

/-- The request after a wait for a failed response: `m_waited` is not set. -/
def waitedInVain (impl : Nat) : Client := (client.record (.entered impl)).record (.awaited impl)

/-- `wait()` on a request. -/
def await (impl : Nat) : Except Thrown Unit × Client :=
  if (client.impls impl).m_waited then (.ok (), client)
  else if (client.response answers impl).m_success then (.ok (), client.waited answers impl)
  else (.error (.exception (client.response answers impl).m_error), client.waitedInVain impl)

/-- `wait()` if the owner is the last one. -/
def settle (this : Owner) : Except Thrown Unit × Client :=
  match client.pointers.lookup this with
  | none => (.ok (), client)
  | some impl => if client.pointers.use_count impl = 1 then client.await answers impl else (.ok (), client)

/-- The start of an asynchronous call, until the temporary exists. -/
def issue (handle : CacheHandleImpl) (x y : Int32) (result : Option Nat) : Client :=
  let sent := { client.record (.sent client.sent handle x y) with sent := client.sent + 1 }
  { sent.record (.created client.created client.sent result) with
    pointers := (client.pointers.assign .async_request_impl (some client.created)).assign .temporary
      (some client.created)
    impls := Function.update client.impls client.created
      { m_async_response := client.sent, m_wait_callback := result }
    created := client.created + 1 }

variable {answers} {client}

@[simp] theorem record_pointers (event : ClientEvent) :
    (client.record event).pointers = client.pointers := rfl

@[simp] theorem record_impls (event : ClientEvent) : (client.record event).impls = client.impls := rfl

@[simp] theorem record_trace (event : ClientEvent) :
    (client.record event).trace = client.trace ++ [event] := rfl

@[simp] theorem write_pointers (impl result : Option Nat) (value : Int32) :
    (client.write impl result value).pointers = client.pointers := by
  cases result <;> rfl

@[simp] theorem write_impls (impl result : Option Nat) (value : Int32) :
    (client.write impl result value).impls = client.impls := by
  cases result <;> rfl

@[simp] theorem write_created (impl result : Option Nat) (value : Int32) :
    (client.write impl result value).created = client.created := by
  cases result <;> rfl

@[simp] theorem waited_pointers (impl : Nat) :
    (client.waited answers impl).pointers = client.pointers := by
  simp [waited]

@[simp] theorem waitedInVain_pointers (impl : Nat) :
    (client.waitedInVain impl).pointers = client.pointers := rfl

@[simp] theorem await_pointers (impl : Nat) :
    (client.await answers impl).2.pointers = client.pointers := by
  unfold await
  split
  · rfl
  · split
    · exact waited_pointers impl
    · rfl

@[simp] theorem settle_pointers (this : Owner) :
    (client.settle answers this).2.pointers = client.pointers := by
  unfold settle
  split
  · rfl
  · split
    · exact await_pointers _
    · rfl

theorem await_created (impl : Nat) : (client.await answers impl).2.created = client.created := by
  unfold await
  split
  · rfl
  · split
    · simp [waited, record]
    · rfl

@[simp] theorem settle_created (this : Owner) :
    (client.settle answers this).2.created = client.created := by
  unfold settle
  split
  · rfl
  · split
    · exact await_created _
    · rfl

theorem settle_kept {this : Owner} {outcome : Except Thrown Unit} {after : Client}
    (settled : client.settle answers this = (outcome, after)) :
    after.pointers = client.pointers ∧ after.created = client.created := by
  have pointers : (client.settle answers this).2.pointers = client.pointers := settle_pointers this
  have created : (client.settle answers this).2.created = client.created := settle_created this
  rw [settled] at pointers created
  exact ⟨pointers, created⟩

@[simp] theorem assign_created (owner : Owner) (target : Option Nat) :
    (client.assign owner target).created = client.created := rfl

@[simp] theorem assign_pointers (owner : Owner) (target : Option Nat) :
    (client.assign owner target).pointers = client.pointers.assign owner target := rfl

@[simp] theorem assign_impls (owner : Owner) (target : Option Nat) :
    (client.assign owner target).impls = client.impls := rfl

/-- Assignments add releases to a trace, and nothing else. -/
theorem filter_assign {keep : ClientEvent → Bool} (silent : ∀ impl, keep (.released impl) = false)
    (owner : Owner) (target : Option Nat) :
    (client.assign owner target).trace.filter keep = client.trace.filter keep := by
  simp only [assign, List.filter_append]
  split
  · split <;> simp [silent]
  · simp

theorem filter_write {keep : ClientEvent → Bool} {holder : Option Nat}
    (silent : ∀ result value, keep (.wrote holder result value) = false) (result : Option Nat)
    (value : Int32) : (client.write holder result value).trace.filter keep = client.trace.filter keep := by
  cases result with
  | none => rfl
  | some result => simp [write, silent]

theorem assign_none {owner : Owner} (empty : client.pointers.lookup owner = none) :
    client.assign owner none = client := by
  have same : client.pointers.assign owner none = client.pointers := by
    apply Finmap.ext_lookup
    intro other
    by_cases here : other = owner
    · rw [here, SharedPtrs.lookup_assign, empty]
    · exact SharedPtrs.lookup_assign_of_ne here
  simp [assign, same, empty]

end Client

namespace Client

/-- The memory after some events. -/
def written (memory : Nat → Int32) (events : List ClientEvent) : Nat → Int32 :=
  events.foldl (fun memory event => match event with
    | .wrote _ result value => Function.update memory result value
    | _ => memory) memory

@[simp] theorem written_nil (memory : Nat → Int32) : written memory [] = memory := rfl

@[simp] theorem written_cons (memory : Nat → Int32) (event : ClientEvent) (events : List ClientEvent) :
    written memory (event :: events) = written (written memory [event]) events := rfl

private theorem written_append (memory : Nat → Int32) (first second : List ClientEvent) :
    written memory (first ++ second) = written (written memory first) second :=
  List.foldl_append

/-- The later client has a longer trace, whose new events are all it wrote. -/
def Extends (before after : Client) : Prop :=
  ∃ events, after.trace = before.trace ++ events ∧ after.memory = written before.memory events

namespace Extends

variable {before middle after : Client}

theorem refl (client : Client) : Extends client client := ⟨[], by simp, rfl⟩

theorem trans (first : Extends before middle) (second : Extends middle after) :
    Extends before after := by
  obtain ⟨firstEvents, firstTrace, firstMemory⟩ := first
  obtain ⟨secondEvents, secondTrace, secondMemory⟩ := second
  refine ⟨firstEvents ++ secondEvents, ?_, ?_⟩
  · rw [secondTrace, firstTrace, List.append_assoc]
  · rw [secondMemory, firstMemory, written_append]

theorem assign (client : Client) (owner : Owner) (target : Option Nat) :
    Extends client (client.assign owner target) := by
  refine ⟨_, rfl, ?_⟩
  change client.memory = _
  split
  · split <;> rfl
  · rfl

theorem exec (answers : Nat → RequestResult Int32) (op : ClientOp) (client : Client) :
    Extends client (Client.exec answers op client).2 := by
  cases op with
  | self | unique | m_waited => exact refl client
  | copy | reset => exact assign client _ _
  | move => exact (assign client _ _).trans (assign _ _ _)
  | set_waited => exact ⟨[], by simp [Client.exec], rfl⟩
  | _ => exact ⟨_, rfl, rfl⟩

theorem execute {α : Type} (answers : Nat → RequestResult Int32) (program : ClientProgram α)
    (client : Client) : Extends client (program.execute (Client.exec answers) client).2 := by
  induction program generalizing client with
  | done | raise => exact refl client
  | perform op next ih => exact (exec answers op client).trans (ih _ _)

theorem mem (extend : Extends before after) {event : ClientEvent} (member : event ∈ before.trace) :
    event ∈ after.trace := by
  obtain ⟨events, trace, -⟩ := extend
  rw [trace]
  exact List.mem_append_left events member

end Extends

end Client

variable (answers : Nat → RequestResult Int32) (client : Client)

theorem execute_deliver (impl result : Option Nat) (response : RequestResult Int32) :
    (deliver impl result response).execute (Client.exec answers) client =
      if response.m_success then (.ok (), client.write impl result response.m_value)
      else (.error (.exception response.m_error), client) := by
  unfold deliver
  split
  · cases result <;> rfl
  · rfl

namespace Client

/-- A normal return, or the exception with the error string of the response. -/
def ending (response : RequestResult Int32) : Except Thrown Unit :=
  if response.m_success then .ok () else .error (.exception response.m_error)

/-- The memory once `*result` has its value. -/
def delivered (memory : Nat → Int32) (result : Option Nat) (response : RequestResult Int32) :
    Nat → Int32 :=
  if response.m_success then result.elim memory (Function.update memory · response.m_value) else memory

theorem write_memory (holder result : Option Nat) (value : Int32) :
    (client.write holder result value).memory =
      result.elim client.memory (Function.update client.memory · value) := by
  cases result <;> rfl

/-- Both ends of a delivery depend on nothing but the response and the memory. -/
theorem deliver_ends (holder result : Option Nat) (response : RequestResult Int32) :
    ((deliver holder result response).execute (exec answers) client).1 = ending response ∧
      ((deliver holder result response).execute (exec answers) client).2.memory =
        delivered client.memory result response := by
  rw [execute_deliver, ending, delivered]
  by_cases success : response.m_success = true
  · simp only [success, ↓reduceIte]
    exact ⟨trivial, write_memory client _ _ _⟩
  · simp only [success, Bool.false_eq_true, ↓reduceIte]
    exact ⟨trivial, trivial⟩

end Client

private theorem execute_noexcept (body : ClientProgram Unit) :
    (noexcept body).execute (Client.exec answers) client =
      match body.execute (Client.exec answers) client with
      | (.ok _, after) => (.ok (), after)
      | (.error _, after) => (.error .terminate, after) := by
  unfold noexcept
  rw [Program.execute_bind, Program.execute_attempt]
  cases body.execute (Client.exec answers) client with
  | mk outcome after => cases outcome <;> rfl

namespace AsyncRequest

theorem execute_wait (this : Owner) :
    (wait this).execute (Client.exec answers) client =
      match client.pointers.lookup this with
      | none => (.error (.exception (lit "Invalid cachersize::AsyncRequest object")), client)
      | some impl => client.await answers impl := by
  unfold wait
  simp only [perform, Program.call_bind, Program.execute_perform, Client.exec]
  cases client.pointers.lookup this with
  | none => rfl
  | some impl =>
    simp only [Program.execute_perform, Client.exec, Client.await]
    by_cases done : (client.impls impl).m_waited = true
    · simp [done]
    · simp only [done, Bool.false_eq_true, ↓reduceIte, Program.execute_perform, Client.exec,
        m_wait_callback, perform, Program.call_bind, Program.perform_bind]
      rw [Program.execute_bind, execute_deliver]
      simp only [Client.record_impls, Client.response]
      by_cases success : (answers (client.impls impl).m_async_response).m_success = true
      · simp only [success, ↓reduceIte]
        rfl
      · simp only [success, Bool.false_eq_true, ↓reduceIte]
        rfl

private theorem execute_waitIfUnique (this : Owner) :
    (waitIfUnique this).execute (Client.exec answers) client = client.settle answers this := by
  unfold waitIfUnique Client.settle
  simp only [perform, Program.call_bind, Program.execute_perform, Client.exec]
  cases found : client.pointers.lookup this with
  | none => rfl
  | some impl =>
    simp only [Program.execute_perform, Client.exec, decide_eq_true_eq]
    by_cases last : client.pointers.use_count impl = 1
    · rw [if_pos last, if_pos last, execute_wait, found]
    · rw [if_neg last, if_neg last]
      rfl

theorem execute_destruct (this : Owner) :
    (destruct this).execute (Client.exec answers) client =
      match client.settle answers this with
      | (.ok _, after) => (.ok (), after.assign this none)
      | (.error _, after) => (.error .terminate, after) := by
  unfold destruct
  rw [Program.execute_bind, execute_noexcept, execute_waitIfUnique]
  cases client.settle answers this with
  | mk outcome after => cases outcome <;> rfl

theorem execute_copyAssign (this other : Owner) :
    (copyAssign this other).execute (Client.exec answers) client =
      if this = other ∨ client.pointers.lookup this = client.pointers.lookup other then
        (.ok (), client)
      else match client.settle answers this with
        | (.ok _, after) => (.ok (), after.assign this (client.pointers.lookup other))
        | (.error thrown, after) => (.error thrown, after) := by
  unfold copyAssign
  simp only [perform, Program.call_bind, Program.execute_perform, Client.exec]
  by_cases same : this = other ∨ client.pointers.lookup this = client.pointers.lookup other
  · simp only [same, ↓reduceIte]
    rfl
  · simp only [same, ↓reduceIte]
    rw [Program.execute_bind, execute_waitIfUnique]
    cases settled : client.settle answers this with
    | mk outcome after =>
      have kept := (Client.settle_kept settled).1
      cases outcome with
      | ok _ => simp [Program.call, Client.exec, kept]
      | error thrown => rfl

theorem execute_moveAssign (this other : Owner) :
    (moveAssign this other).execute (Client.exec answers) client =
      if this = other ∨ client.pointers.lookup this = client.pointers.lookup other then
        (.ok (), client)
      else match client.settle answers this with
        | (.ok _, after) =>
          (.ok (), (after.assign this (client.pointers.lookup other)).assign other none)
        | (.error thrown, after) => (.error thrown, after) := by
  unfold moveAssign
  simp only [perform, Program.call_bind, Program.execute_perform, Client.exec]
  by_cases same : this = other ∨ client.pointers.lookup this = client.pointers.lookup other
  · simp only [same, ↓reduceIte]
    rfl
  · simp only [same, ↓reduceIte]
    rw [Program.execute_bind, execute_waitIfUnique]
    cases settled : client.settle answers this with
    | mk outcome after =>
      have kept := (Client.settle_kept settled).1
      cases outcome with
      | ok _ =>
        have cleared : ((after.assign this (client.pointers.lookup other)).assign other
            none).pointers.lookup other = none := by simp
        simp [Program.call, Client.exec, kept, Client.assign_none cleared]
      | error thrown => rfl

end AsyncRequest

namespace Client

variable {answers} {client}

@[simp] theorem issue_temporary (handle : CacheHandleImpl) (x y : Int32) (result : Option Nat) :
    (client.issue handle x y result).pointers.lookup .temporary = some client.created := by
  simp [issue]

@[simp] theorem issue_async_request_impl (handle : CacheHandleImpl) (x y : Int32)
    (result : Option Nat) :
    (client.issue handle x y result).pointers.lookup .async_request_impl = some client.created := by
  simp [issue, SharedPtrs.lookup_assign_of_ne]

@[simp] theorem issue_named (handle : CacheHandleImpl) (x y : Int32) (result : Option Nat)
    (object : Nat) : (client.issue handle x y result).pointers.lookup (.named object) =
      client.pointers.lookup (.named object) := by
  simp [issue, SharedPtrs.lookup_assign_of_ne]

@[simp] theorem issue_impls (handle : CacheHandleImpl) (x y : Int32) (result : Option Nat) :
    (client.issue handle x y result).impls = Function.update client.impls client.created
      { m_async_response := client.sent, m_wait_callback := result } := rfl

@[simp] theorem issue_created (handle : CacheHandleImpl) (x y : Int32) (result : Option Nat) :
    (client.issue handle x y result).created = client.created + 1 := rfl

theorem settle_shared {this other : Owner} {impl : Nat} (different : this ≠ other)
    (first : client.pointers.lookup this = some impl)
    (second : client.pointers.lookup other = some impl) :
    client.settle answers this = (.ok (), client) := by
  have shared : client.pointers.use_count impl ≠ 1 := SharedPtrs.not_unique different first second
  simp [settle, first, shared]

theorem settle_empty {this : Owner} (empty : client.pointers.lookup this = none) :
    client.settle answers this = (.ok (), client) := by
  simp [settle, empty]

end Client

/-- The asynchronous call, once the request that `*req` holds has been settled: the new
request goes to `*req`, or it is lost when that wait throws. -/
theorem execute_computeSum {handle : CacheHandleImpl} {x y : Int32} {result : Option Nat} {req : Nat}
    (born : ∀ impl, client.pointers.lookup (.named req) = some impl → impl < client.created)
    (temporary : client.pointers.lookup .temporary = none) :
    (CacheHandle.computeSum ⟨some handle⟩ x y result (some req)).execute (Client.exec answers) client =
      match (client.issue handle x y result).settle answers (.named req) with
      | (.ok _, after) =>
        (.ok (), ((after.assign (.named req) (some client.created)).assign .temporary none).assign
          .async_request_impl none)
      | (.error thrown, after) =>
        (.error thrown, (after.assign .temporary none).assign .async_request_impl none) := by
  have issued : (Client.exec answers (.copy .temporary .async_request_impl)
      (Client.exec answers (.make_shared client.sent result)
        (Client.exec answers (.async handle x y) client).2).2).2 = client.issue handle x y result := by
    simp [Client.exec, Client.issue, Client.assign, Client.record, SharedPtrs.lookup_assign_of_ne,
      temporary]
  have fresh : ¬ (Owner.named req = .temporary ∨
      (client.issue handle x y result).pointers.lookup (.named req) =
        (client.issue handle x y result).pointers.lookup .temporary) := by
    rintro (same | same)
    · cases same
    · rw [Client.issue_named, Client.issue_temporary] at same
      exact absurd (born _ same) (lt_irrefl _)
  have start : (CacheHandle.computeSum ⟨some handle⟩ x y result (some req)).execute
      (Client.exec answers) client =
      (do let outcome ← (AsyncRequest.moveAssign (.named req) .temporary).attempt
          AsyncRequest.destruct .temporary
          perform (.reset .async_request_impl)
          Program.ofExcept outcome : ClientProgram Unit).execute (Client.exec answers)
        (client.issue handle x y result) := by
    rw [← issued]
    rfl
  rw [start, Program.execute_bind, Program.execute_attempt, AsyncRequest.execute_moveAssign,
    if_neg fresh, Client.issue_temporary]
  cases settled : (client.issue handle x y result).settle answers (.named req) with
  | mk outcome after =>
    have kept := (Client.settle_kept settled).1
    cases outcome with
    | ok _ =>
      have cleared : ((after.assign (.named req) (some client.created)).assign .temporary
          none).pointers.lookup .temporary = none := by simp
      simp only [Program.execute_bind, AsyncRequest.execute_destruct, Client.settle_empty cleared,
        Client.assign_none cleared]
      rfl
    | error thrown =>
      have first : after.pointers.lookup .temporary = some client.created := by
        rw [kept, Client.issue_temporary]
      have second : after.pointers.lookup .async_request_impl = some client.created := by
        rw [kept, Client.issue_async_request_impl]
      have shared : after.settle answers .temporary = (.ok (), after) :=
        Client.settle_shared (by simp) first second
      simp only [Program.execute_bind, AsyncRequest.execute_destruct, shared]
      rfl

end Cachersize

import Cachersize.Client.Session

/-! What the `computeSum` calls of a client leave in its trace: the RPC of each call with the
arguments of the call, and the request that is created with its pointer. -/
namespace Cachersize

open Concurrent Memory

/-- A call of `computeSum` on a handle with a cache. -/
structure SumCall where
  handle : CacheHandleImpl
  x : Int32
  y : Int32
  result : Option Nat
  req : Option Nat
  deriving DecidableEq

def ClientAction.sum : ClientAction → Option SumCall
  | computeSum ⟨some handle⟩ x y result req => some ⟨handle, x, y, result, req⟩
  | _ => none

/-- An RPC, the creation of a request, or the write of a synchronous call. -/
def ClientEvent.isCall : ClientEvent → Bool
  | sent .. | created .. | wrote none .. => true
  | _ => false

def requests (calls : List SumCall) : Nat := calls.countP (·.req.isSome)

/-- The events of a call whose RPC has the number `rpc`, and whose request the number `impl`. -/
def SumCall.events (answers : Nat → RequestResult Int32) (rpc impl : Nat) (call : SumCall) :
    List ClientEvent :=
  .sent rpc call.handle call.x call.y ::
    if call.req.isSome then [.created impl rpc call.result]
    else if (answers rpc).m_success then
      (call.result.map (ClientEvent.wrote none · (answers rpc).m_value)).toList
    else []

/-- RPCs and requests are numbered in the order of the calls. -/
def callEvents (answers : Nat → RequestResult Int32) (rpc impl : Nat) : List SumCall → List ClientEvent
  | [] => []
  | call :: rest => call.events answers rpc impl ++ callEvents answers (rpc + 1) (impl + requests [call]) rest

section CallEvents

variable {answers : Nat → RequestResult Int32}

private theorem requests_append (first second : List SumCall) :
    requests (first ++ second) = requests first + requests second :=
  List.countP_append

private theorem callEvents_append (rpc impl : Nat) (first second : List SumCall) :
    callEvents answers rpc impl (first ++ second) = callEvents answers rpc impl first ++
      callEvents answers (rpc + first.length) (impl + requests first) second := by
  induction first generalizing rpc impl with
  | nil => rfl
  | cons call rest ih =>
    have length : rpc + (call :: rest).length = rpc + 1 + rest.length := by
      rw [List.length_cons]
      omega
    have count : impl + requests (call :: rest) = impl + requests [call] + requests rest := by
      rw [← List.singleton_append, requests_append, Nat.add_assoc]
    rw [List.cons_append, callEvents, callEvents, ih, length, count, List.append_assoc]

variable {first rpc impl number : Nat} {calls : List SumCall} {handle : CacheHandleImpl} {x y : Int32}

theorem callEvents_sent (member : .sent rpc handle x y ∈ callEvents answers first impl calls) :
    ∃ index result req, rpc = first + index ∧ calls[index]? = some ⟨handle, x, y, result, req⟩ := by
  induction calls generalizing first impl with
  | nil => cases member
  | cons call rest ih =>
    rcases List.mem_append.mp member with now | later
    · have own : rpc = first ∧ handle = call.handle ∧ x = call.x ∧ y = call.y := by
        unfold SumCall.events at now
        split at now
        · simpa using now
        · split at now <;> simpa using now
      obtain ⟨rfl, rfl, rfl, rfl⟩ := own
      exact ⟨0, call.result, call.req, rfl, rfl⟩
    · obtain ⟨index, result, req, same, found⟩ := ih later
      exact ⟨index + 1, result, req, by omega, found⟩

theorem callEvents_created {result : Option Nat}
    (member : .created number rpc result ∈ callEvents answers first impl calls) :
    ∃ index handle x y req, rpc = first + index ∧ calls[index]? = some ⟨handle, x, y, result, some req⟩ := by
  induction calls generalizing first impl with
  | nil => cases member
  | cons call rest ih =>
    rcases List.mem_append.mp member with now | later
    · obtain ⟨handle, x, y, pointer, req⟩ := call
      cases req with
      | none =>
        simp only [SumCall.events, Option.isSome_none, Bool.false_eq_true, ↓reduceIte] at now
        split at now <;> simp at now
      | some req =>
        obtain ⟨-, rfl, rfl⟩ : number = impl ∧ rpc = first ∧ result = pointer := by
          simpa [SumCall.events] using now
        exact ⟨0, handle, x, y, req, rfl, rfl⟩
    · obtain ⟨index, handle, x, y, req, same, found⟩ := ih later
      exact ⟨index + 1, handle, x, y, req, by omega, found⟩

private theorem callEvents_head {result : Nat} {value : Int32} :
    ¬ [ClientEvent.wrote none result value] <+: callEvents answers first impl calls := by
  cases calls <;> simp [callEvents, SumCall.events, List.cons_prefix_cons]

/-- A synchronous call writes to its own pointer, right after its RPC. -/
theorem callEvents_wrote {result : Nat} {value : Int32}
    (adjacent : [.sent rpc handle x y, .wrote none result value] <:+: callEvents answers first impl calls) :
    ∃ index, rpc = first + index ∧ calls[index]? = some ⟨handle, x, y, some result, none⟩ := by
  induction calls generalizing first impl with
  | nil => simp [callEvents] at adjacent
  | cons call rest ih =>
    have later {number : Nat} (inside : [.sent rpc handle x y, .wrote none result value] <:+:
        callEvents answers (first + 1) number rest) :
        ∃ index, rpc = first + index ∧ (call :: rest)[index]? = some ⟨handle, x, y, some result, none⟩ := by
      obtain ⟨index, same, found⟩ := ih inside
      exact ⟨index + 1, by omega, found⟩
    obtain ⟨own, a, b, pointer, req⟩ := call
    simp only [callEvents, SumCall.events, List.cons_append] at adjacent
    -- The pair starts with the RPC of this call, or it belongs to a later one.
    rcases List.infix_cons_iff.mp adjacent with now | inside
    · obtain ⟨same, next⟩ := List.cons_prefix_cons.mp now
      cases same
      cases req with
      | some req => simp [List.cons_prefix_cons] at next
      | none =>
        by_cases success : (answers rpc).m_success = true
        · cases pointer with
          | none => exact absurd (by simpa [success] using next) callEvents_head
          | some pointer =>
            have written : result = pointer ∧ value = (answers rpc).m_value := by
              simpa [success, List.cons_prefix_cons] using next
            exact ⟨0, rfl, by rw [written.1]; rfl⟩
        · exact absurd (by simpa [success] using next) callEvents_head
    · split at inside
      · exact later (by simpa [List.infix_cons_iff, List.cons_prefix_cons] using inside)
      · split at inside
        · cases pointer with
          | none => exact later inside
          | some pointer => exact later (by simpa [List.infix_cons_iff, List.cons_prefix_cons] using inside)
        · exact later inside

end CallEvents

namespace Client

variable (answers : Nat → RequestResult Int32) (client : Client)

def issued : List ClientEvent := client.trace.filter ClientEvent.isCall

/-- No call was made in between. -/
structure SameCalls (before after : Client) : Prop where
  sent : after.sent = before.sent
  created : after.created = before.created
  issued : after.issued = before.issued

variable {answers} {client} {after : Client}

theorem SameCalls.refl (client : Client) : SameCalls client client := ⟨rfl, rfl, rfl⟩

theorem SameCalls.trans {before middle after : Client} (first : SameCalls before middle)
    (second : SameCalls middle after) : SameCalls before after :=
  ⟨second.sent.trans first.sent, second.created.trans first.created, second.issued.trans first.issued⟩

private theorem sameCalls_assign (owner : Owner) (target : Option Nat) :
    SameCalls client (client.assign owner target) :=
  ⟨rfl, rfl, filter_assign (fun _ => rfl) owner target⟩

private theorem sameCalls_record {event : ClientEvent} (other : event.isCall = false) :
    SameCalls client (client.record event) :=
  ⟨rfl, rfl, by simp [issued, other]⟩

private theorem sameCalls_write (impl : Nat) (result : Option Nat) (value : Int32) :
    SameCalls client (client.write (some impl) result value) :=
  ⟨by cases result <;> rfl, write_created _ _ _, filter_write (fun _ _ => rfl) result value⟩

private theorem sameCalls_await (impl : Nat) : SameCalls client (client.await answers impl).2 := by
  have entered : SameCalls client (client.waitedInVain impl) :=
    (sameCalls_record rfl).trans (sameCalls_record rfl)
  unfold await
  by_cases waited : (client.impls impl).m_waited = true
  · rw [if_pos waited]
    exact .refl client
  · rw [if_neg waited]
    by_cases success : (client.response answers impl).m_success = true
    · rw [if_pos success]
      have left := (entered.trans (sameCalls_write impl (client.impls impl).m_wait_callback
        (client.response answers impl).m_value)).trans
        (sameCalls_record (rfl : (ClientEvent.left impl).isCall = false))
      exact ⟨left.sent, left.created, left.issued⟩
    · rw [if_neg success]
      exact entered

private theorem sameCalls_settle {owner : Owner} {outcome : Except Thrown Unit} {middle : Client}
    (settled : client.settle answers owner = (outcome, middle)) : SameCalls client middle := by
  have after : SameCalls client (client.settle answers owner).2 := by
    unfold settle
    cases client.pointers.lookup owner with
    | none => exact .refl client
    | some impl =>
      by_cases unique : client.pointers.use_count impl = 1
      · simpa [unique] using sameCalls_await impl
      · simpa [unique] using SameCalls.refl client
  rwa [settled] at after

/-- What the calls of an operation add. -/
structure Issues (answers : Nat → RequestResult Int32) (before after : Client) (calls : List SumCall) :
    Prop where
  sent : after.sent = before.sent + calls.length
  created : after.created = before.created + requests calls
  issued : after.issued = before.issued ++ callEvents answers before.sent before.created calls

theorem SameCalls.issues (same : SameCalls client after) : Issues answers client after [] :=
  ⟨same.sent, same.created, by rw [same.issued, callEvents, List.append_nil]⟩

theorem Issues.same {calls : List SumCall} {middle : Client} (issues : Issues answers client middle calls)
    (same : SameCalls middle after) : Issues answers client after calls :=
  ⟨same.sent.trans issues.sent, same.created.trans issues.created, same.issued.trans issues.issued⟩

private theorem issues_issue (handle : CacheHandleImpl) (x y : Int32) (result : Option Nat) (req : Nat) :
    Issues answers client (client.issue handle x y result) [⟨handle, x, y, result, some req⟩] :=
  ⟨rfl, rfl, by simp [issued, issue, record, callEvents, SumCall.events, ClientEvent.isCall]⟩

private theorem issues_called (handle : CacheHandleImpl) (x y : Int32) (result : Option Nat) :
    Issues answers client ((deliver none result (answers client.sent)).execute (exec answers)
      { client.record (.sent client.sent handle x y) with sent := client.sent + 1 }).2
      [⟨handle, x, y, result, none⟩] := by
  rw [execute_deliver]
  by_cases success : (answers client.sent).m_success = true
  · rw [if_pos success]
    refine ⟨by cases result <;> rfl, write_created _ _ _, ?_⟩
    cases result <;> simp [issued, write, record, callEvents, SumCall.events, ClientEvent.isCall, success]
  · rw [if_neg success]
    exact ⟨rfl, rfl, by simp [issued, record, callEvents, SumCall.events, ClientEvent.isCall, success]⟩

end Client

open Client in
/-- An operation makes the call that it is. -/
theorem Effect.issues {answers : Nat → RequestResult Int32} {client after : Client} {action : ClientAction}
    {outcome : Except Thrown Unit} (effect : Effect answers client action outcome after) :
    Issues answers client after action.sum.toList := by
  cases effect with
  | constructed | waitedEmpty | polledEmpty | invalid => exact (SameCalls.refl client).issues
  | unassigned assigns same =>
    rcases assigns with rfl | rfl <;> exact (SameCalls.refl client).issues
  | copied => exact (sameCalls_assign _ _).issues
  | moved => exact ((sameCalls_assign _ _).trans (sameCalls_assign _ _)).issues
  | copyAssigned different settled => exact ((sameCalls_settle settled).trans (sameCalls_assign _ _)).issues
  | moveAssigned different settled =>
    exact (((sameCalls_settle settled).trans (sameCalls_assign _ _)).trans (sameCalls_assign _ _)).issues
  | assignThrew assigns different settled =>
    rcases assigns with rfl | rfl <;> exact (sameCalls_settle settled).issues
  | destructed settled => exact ((sameCalls_settle settled).trans (sameCalls_assign _ _)).issues
  | terminated settled => exact (sameCalls_settle settled).issues
  | waited found => exact (sameCalls_await _).issues
  | polled found => exact (sameCalls_record rfl).issues
  | @called handle x y result => exact issues_called handle x y result
  | @issued handle x y result req middle settled =>
    exact (((issues_issue handle x y result req).same (sameCalls_settle settled)).same
      (sameCalls_assign _ _)).same ((sameCalls_assign _ _).trans (sameCalls_assign _ _))
  | @lost handle x y result req middle thrown settled =>
    exact ((issues_issue handle x y result req).same (sameCalls_settle settled)).same
      ((sameCalls_assign _ _).trans (sameCalls_assign _ _))

namespace Session

variable {answers : Nat → RequestResult Int32} {memory : Nat → Int32}
variable {actions : List ClientAction} {session : Session}

/-- The RPCs and the requests of a session are those of its calls, one after the other. -/
theorem run_issues (ran : run answers actions (initial memory) = some session) :
    Client.Issues answers (initial memory).client session.client (actions.filterMap ClientAction.sum) := by
  have start : (initial memory).Formed ∧
      Client.Issues answers (initial memory).client (initial memory).client
        (([] : List ClientAction).filterMap ClientAction.sum) :=
    ⟨initial_formed memory, (Client.SameCalls.refl _).issues⟩
  refine ((run_repeats answers).past_induction (fun session past => session.Formed ∧
    Client.Issues answers (initial memory).client session.client (past.filterMap ClientAction.sum))
    ?_ start ran).2
  intro action _ before later past holds stepped
  obtain ⟨formed, issues⟩ := holds
  obtain ⟨-, -, effect⟩ := step_effect formed stepped
  have calls : (past ++ [action]).filterMap ClientAction.sum =
      past.filterMap ClientAction.sum ++ action.sum.toList := by
    cases call : action.sum <;> simp [call]
  have next := effect.issues
  refine ⟨formed.step stepped, ?_⟩
  rw [calls]
  constructor
  · rw [next.sent, issues.sent, List.length_append, Nat.add_assoc]
  · rw [next.created, issues.created, requests_append, Nat.add_assoc]
  · rw [next.issued, issues.issued, issues.sent, issues.created, callEvents_append, List.append_assoc]

end Session

end Cachersize

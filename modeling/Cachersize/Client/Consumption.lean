import Cachersize.Client.Session
import Cachersize.Concurrent.Justified

/-! Use of the `tl::async_response` of a request: it may be waited for once, and is
not valid to wait on or to poll afterwards. -/
namespace Cachersize

open Concurrent Memory

namespace ClientEvent

/-- Calls of `m_async_response.wait()` and `m_async_response.received()`. -/
def isUse : ClientEvent → Bool
  | awaited _ | polled _ => true
  | _ => false

end ClientEvent

/-- No response is waited for or polled after a wait. -/
def ConsumedOnce (trace : List ClientEvent) : Prop :=
  Justified (fun before event => ∀ impl, event = .awaited impl ∨ event = .polled impl →
    .awaited impl ∉ before) trace

private theorem consumedOnce_filter (trace : List ClientEvent) :
    ConsumedOnce trace ↔ ConsumedOnce (trace.filter ClientEvent.isUse) := by
  refine Justified.filter_iff (fun before event other impl use => ?_) fun before event => ?_
  · rcases use with rfl | rfl <;> cases other
  · simp [ClientEvent.isUse]

namespace Client

variable (client : Client)

def lastHeld (owner : Owner) : Option Nat :=
  (client.pointers.lookup owner).filter fun impl => client.pointers.use_count impl = 1

def uses : List ClientEvent := client.trace.filter ClientEvent.isUse

/-- Waiting on a request, which does nothing once `m_waited` is set. -/
def awaits (impl : Nat) : List ClientEvent :=
  if (client.impls impl).m_waited then [] else [.awaited impl]

end Client

namespace ClientAction

/-- The request that an operation waits on: explicitly, or as its last owner. -/
def waits (client : Client) : ClientAction → Option Nat
  | wait this => client.pointers.lookup (.named this)
  | destruct this | computeSum ⟨some _⟩ _ _ _ (some this) => client.lastHeld (.named this)
  | copyAssign this other | moveAssign this other =>
    if client.pointers.lookup (.named this) = client.pointers.lookup (.named other) then none
    else client.lastHeld (.named this)
  | _ => none

def polls (client : Client) : ClientAction → Option Nat
  | completed this _ => client.pointers.lookup (.named this)
  | _ => none

/-- No wait on a request that was waited for without setting `m_waited`, as happens
when the response is a failure, and no `completed()` after a wait. -/
def Careful (client : Client) (action : ClientAction) : Prop :=
  (∀ impl ∈ action.waits client,
    (client.impls impl).m_waited = true ∨ .awaited impl ∉ client.trace) ∧
  ∀ impl ∈ action.polls client, .awaited impl ∉ client.trace

instance (client : Client) (action : ClientAction) : Decidable (action.Careful client) :=
  inferInstanceAs (Decidable (_ ∧ _))

def uses (client : Client) (action : ClientAction) : List ClientEvent :=
  ((action.waits client).map client.awaits).getD [] ++ ((action.polls client).map .polled).toList

end ClientAction

namespace Client

variable {answers : Nat → RequestResult Int32} {client : Client}

@[simp] theorem uses_record (event : ClientEvent) :
    (client.record event).uses = client.uses ++ if event.isUse then [event] else [] := by
  simp [uses, List.filter_singleton]

@[simp] theorem uses_assign (owner : Owner) (target : Option Nat) :
    (client.assign owner target).uses = client.uses :=
  filter_assign (fun _ => rfl) owner target

@[simp] theorem uses_write (impl result : Option Nat) (value : Int32) :
    (client.write impl result value).uses = client.uses :=
  filter_write (fun _ _ => rfl) result value

private theorem uses_waited (impl : Nat) :
    (client.waited answers impl).uses = client.uses ++ [.awaited impl] := by
  change ((((client.record (.entered impl)).record (.awaited impl)).write (some impl)
    (client.impls impl).m_wait_callback
      (client.response answers impl).m_value).record (.left impl)).uses = _
  simp [ClientEvent.isUse]

/-- Whatever the response is, it is waited for exactly if `m_waited` is not set. -/
theorem uses_await (impl : Nat) :
    (client.await answers impl).2.uses = client.uses ++ client.awaits impl := by
  unfold Client.await awaits
  by_cases waited : (client.impls impl).m_waited = true
  · simp [waited]
  · by_cases success : (client.response answers impl).m_success = true
    · simp [waited, success, uses_waited]
    · simp [waited, success, waitedInVain, ClientEvent.isUse]

private theorem uses_settle (this : Owner) :
    (client.settle answers this).2.uses =
      client.uses ++ ((client.lastHeld this).map client.awaits).getD [] := by
  unfold settle lastHeld
  cases found : client.pointers.lookup this with
  | none => simp
  | some impl =>
    by_cases last : client.pointers.use_count impl = 1
    · simp [Option.filter_some, last, uses_await]
    · simp [Option.filter_some, last]

private theorem uses_issue (handle : CacheHandleImpl) (x y : Int32) (result : Option Nat) :
    (client.issue handle x y result).uses = client.uses := by
  simp [uses, issue, record, ClientEvent.isUse]

/-- A call under way changes nothing about the owners of an older request. -/
theorem use_count_issue {objects : Finset Nat} (formed : client.Formed objects) {impl : Nat}
    (born : impl < client.created) (handle : CacheHandleImpl) (x y : Int32) (result : Option Nat) :
    (client.issue handle x y result).pointers.use_count impl = client.pointers.use_count impl := by
  have apart : (some client.created : Option Nat) ≠ some impl := by
    intro same
    cases same
    exact absurd born (lt_irrefl _)
  have owners : (client.issue handle x y result).pointers.owners impl = client.pointers.owners impl := by
    simp only [issue, SharedPtrs.owners_assign, apart, ↓reduceIte]
    rw [Finset.erase_eq_of_notMem, Finset.erase_eq_of_notMem]
    · simp [formed.async_request_impl]
    · simp [formed.temporary]
  rw [SharedPtrs.use_count, SharedPtrs.use_count, owners]

theorem lastHeld_issue {objects : Finset Nat} (formed : client.Formed objects)
    (handle : CacheHandleImpl) (x y : Int32) (result : Option Nat) (req : Nat) :
    (client.issue handle x y result).lastHeld (.named req) = client.lastHeld (.named req) := by
  unfold lastHeld
  rw [issue_named]
  cases found : client.pointers.lookup (.named req) with
  | none => rfl
  | some impl => simp only [Option.filter_some, use_count_issue formed (formed.born _ _ found)]

/-- A call under way sets no flag of a request that is in use. -/
theorem impls_issue {objects : Finset Nat} (formed : client.Formed objects) {owner : Owner} {impl : Nat}
    (held : client.pointers.lookup owner = some impl) (handle : CacheHandleImpl) (x y : Int32)
    (result : Option Nat) : (client.issue handle x y result).impls impl = client.impls impl := by
  have apart : impl ≠ client.created := ne_of_lt (formed.born owner impl held)
  rw [issue_impls, Function.update_of_ne apart]

private theorem awaits_issue {objects : Finset Nat} (formed : client.Formed objects)
    (handle : CacheHandleImpl) (x y : Int32) (result : Option Nat) (req : Nat) :
    (client.lastHeld (.named req)).map (client.issue handle x y result).awaits =
      (client.lastHeld (.named req)).map client.awaits := by
  apply Option.map_congr
  intro impl last
  have held : client.pointers.lookup (.named req) = some impl := (Option.filter_eq_some_iff.mp last).1
  rw [awaits, impls_issue formed held, awaits]

end Client

open Client in
/-- An operation uses responses exactly as its last owners and its arguments tell. -/
theorem Effect.uses {answers : Nat → RequestResult Int32} {client after : Client}
    {objects : Finset Nat} {action : ClientAction} {outcome : Except Thrown Unit}
    (effect : Effect answers client action outcome after) (formed : client.Formed objects) :
    after.uses = client.uses ++ action.uses client := by
  have settledUses {start middle : Client} {owner : Owner} {ended : Except Thrown Unit}
      (settled : start.settle answers owner = (ended, middle)) :
      middle.uses = start.uses ++ ((start.lastHeld owner).map start.awaits).getD [] := by
    have used : (start.settle answers owner).2.uses = _ := uses_settle owner
    rw [settled] at used
    exact used
  cases effect with
  | constructed | invalid => simp [ClientAction.uses, ClientAction.waits, ClientAction.polls]
  | waitedEmpty empty | polledEmpty empty =>
    simp [ClientAction.uses, ClientAction.waits, ClientAction.polls, empty]
  | copied | moved => simp [ClientAction.uses, ClientAction.waits, ClientAction.polls]
  | @unassigned _ this other assigns same =>
    have equal : client.pointers.lookup (.named this) = client.pointers.lookup (.named other) :=
      same.elim (fun names => by rw [names]) id
    rcases assigns with rfl | rfl <;>
      simp [ClientAction.uses, ClientAction.waits, ClientAction.polls, equal]
  | copyAssigned different settled | moveAssigned different settled =>
    simp [ClientAction.uses, ClientAction.waits, ClientAction.polls, different, settledUses settled]
  | assignThrew assigns different settled =>
    rcases assigns with rfl | rfl <;>
      simp [ClientAction.uses, ClientAction.waits, ClientAction.polls, different, settledUses settled]
  | destructed settled | terminated settled =>
    simp [ClientAction.uses, ClientAction.waits, ClientAction.polls, settledUses settled]
  | waited found =>
    simp [ClientAction.uses, ClientAction.waits, ClientAction.polls, found, uses_await]
  | polled found =>
    simp [ClientAction.uses, ClientAction.waits, ClientAction.polls, found, ClientEvent.isUse]
  | called =>
    rw [execute_deliver]
    split
    · rw [uses_write]
      simp [ClientAction.uses, ClientAction.waits, ClientAction.polls, Client.uses, ClientEvent.isUse]
    · simp [ClientAction.uses, ClientAction.waits, ClientAction.polls, Client.uses, ClientEvent.isUse]
  | issued settled | lost settled =>
    have used := settledUses settled
    rw [lastHeld_issue formed, awaits_issue formed, uses_issue] at used
    simp [ClientAction.uses, ClientAction.waits, ClientAction.polls, used]

private theorem consumedOnce_snoc (trace : List ClientEvent) (event : ClientEvent) :
    ConsumedOnce (trace ++ [event]) ↔ ConsumedOnce trace ∧
      ∀ impl, event = .awaited impl ∨ event = .polled impl → .awaited impl ∉ trace :=
  Justified.snoc_iff

namespace ClientAction

variable {client after : Client} {action : ClientAction}

private theorem polls_of_waits {impl : Nat} (waiting : action.waits client = some impl) :
    action.polls client = none := by
  cases action with
  | completed => cases waiting
  | _ => rfl

private theorem consumedOnce_step (used : after.uses = client.uses ++ action.uses client) :
    ConsumedOnce after.trace ↔ ConsumedOnce client.trace ∧ action.Careful client := by
  have awaited (impl : Nat) : .awaited impl ∈ client.uses ↔ .awaited impl ∈ client.trace := by
    simp [Client.uses, ClientEvent.isUse]
  rw [consumedOnce_filter, consumedOnce_filter client.trace]
  change ConsumedOnce after.uses ↔ ConsumedOnce client.uses ∧ _
  rw [used, ClientAction.uses]
  unfold Careful
  cases waiting : action.waits client with
  | some impl =>
    rw [polls_of_waits waiting]
    by_cases waited : (client.impls impl).m_waited = true
    · simp [Client.awaits, waited]
    · simp [Client.awaits, waited, consumedOnce_snoc, awaited]
  | none =>
    cases polling : action.polls client with
    | some impl => simp [consumedOnce_snoc, awaited]
    | none => simp

end ClientAction

namespace Session

variable {answers : Nat → RequestResult Int32} {memory : Nat → Int32}
variable {actions : List ClientAction} {session after : Session}

/-- A run uses no consumed response exactly if each of its steps is careful. -/
theorem consumedOnce_run (formed : session.Formed) (ran : run answers actions session = some after) :
    ConsumedOnce after.client.trace ↔
      ConsumedOnce session.client.trace ∧
        Throughout answers (fun client action => action.Careful client) actions session := by
  refine throughout_iff (fun session => ConsumedOnce session.client.trace)
    (fun action before later valid stepped => ?_) formed ran
  obtain ⟨formedBefore, -, effect⟩ := step_effect valid stepped
  exact ⟨valid.step stepped, ClientAction.consumedOnce_step (effect.uses formedBefore)⟩

/-- From the start of a program: a response is waited for at most once, and never
polled after that, exactly in the runs without a careless step. -/
theorem consumed_once (ran : run answers actions (initial memory) = some session) :
    ConsumedOnce session.client.trace ↔
      Throughout answers (fun client action => action.Careful client) actions (initial memory) := by
  rw [consumedOnce_run (initial_formed memory) ran]
  exact and_iff_right Justified.nil

/-- A program that catches the exception of a failed request and waits again. -/
def waitAgain : List ClientAction :=
  [.construct 0, .computeSum ⟨some ⟨⟨lit "na+sm", 0⟩, UUID.clear⟩⟩ 1 2 none (some 0), .wait 0, .wait 0]

theorem failed_response_reused : ∃ session,
    run (fun _ => { m_success := false, m_value := 0 }) waitAgain (initial fun _ => 0) = some session ∧
      ¬ ConsumedOnce session.client.trace := by
  refine ⟨_, rfl, fun consumed => ?_⟩
  have second := consumed [.sent 0 ⟨⟨lit "na+sm", 0⟩, UUID.clear⟩ 1 2, .created 0 0 none, .entered 0,
    .awaited 0, .entered 0] (.awaited 0) [] rfl 0 (.inl rfl)
  exact second (by simp)

def waitOnce : List ClientAction :=
  [.construct 0, .computeSum ⟨some ⟨⟨lit "na+sm", 0⟩, UUID.clear⟩⟩ 1 2 none (some 0), .wait 0, .destruct 0]

theorem waitOnce_consumed : ∃ session,
    run (fun _ => { m_value := 3 }) waitOnce (initial fun _ => 0) = some session ∧
      ConsumedOnce session.client.trace := by
  obtain ⟨session, ran⟩ : ∃ session,
      run (fun _ => { m_value := 3 }) waitOnce (initial fun _ => 0) = some session := ⟨_, rfl⟩
  have careful : Throughout (fun _ => { m_value := 3 }) (fun client action => action.Careful client)
      waitOnce (initial fun _ => 0) := by decide
  exact ⟨session, ran, (consumed_once ran).mpr careful⟩

end Session

end Cachersize

import Cachersize.Client.Delivery
import Cachersize.Client.Settlement

/-! What becomes of the request of an asynchronous call when the request that `*req`
held before has to be waited for first. -/
namespace Cachersize

open Concurrent Memory

/-- No request is released whose response was not waited for. -/
def ReleasedAwaited (trace : List ClientEvent) : Prop :=
  Justified (fun before event => ∀ impl, event = .released impl → .awaited impl ∈ before) trace

namespace ReleasedAwaited

theorem snoc_iff {trace : List ClientEvent} {event : ClientEvent} :
    ReleasedAwaited (trace ++ [event]) ↔
      ReleasedAwaited trace ∧ ∀ impl, event = .released impl → .awaited impl ∈ trace :=
  Justified.snoc_iff

private theorem append_iff {trace events : List ClientEvent} (silent : ∀ impl, .released impl ∉ events) :
    ReleasedAwaited (trace ++ events) ↔ ReleasedAwaited trace := by
  refine ⟨Justified.initial, fun earlier => Justified.concat earlier ?_⟩
  intro before event after split impl release
  have member : .released impl ∈ events := by simp [split, release]
  exact absurd member (silent impl)

end ReleasedAwaited

namespace Client

variable {answers : Nat → RequestResult Int32} {client middle after : Client}
variable {owner : Owner} {target : Option Nat} {impl : Nat} {outcome : Except Thrown Unit}

private theorem unowned_iff_drops (found : client.pointers.lookup owner = some impl) :
    (client.pointers.assign owner target).use_count impl = 0 ↔ client.Drops owner target impl := by
  have owned : (client.assign owner target).Owned impl ↔ _ := owned_assign
  rw [SharedPtrs.use_count_eq_zero]
  constructor
  · intro unowned
    have lost : ¬ (client.assign owner target).Owned impl := fun ⟨other, held⟩ => unowned other held
    rw [owned] at lost
    push Not at lost
    exact ⟨found, lost.1, fun other held => by_contra fun away => lost.2 other away held⟩
  · intro drops other held
    obtain ⟨-, different, only⟩ := drops
    rcases owned.mp ⟨other, held⟩ with same | ⟨third, away, kept⟩
    · exact different same
    · exact away (only third kept)

/-- An assignment releases at most what its owner drops. -/
theorem releasedAwaited_assign : ReleasedAwaited (client.assign owner target).trace ↔
    ReleasedAwaited client.trace ∧
      ∀ impl, client.Drops owner target impl → .awaited impl ∈ client.trace := by
  unfold assign
  cases found : client.pointers.lookup owner with
  | none =>
    have nothing : ∀ impl, ¬ client.Drops owner target impl := fun impl drops => by
      cases found.symm.trans drops.1
    simp [nothing]
  | some held =>
    have dropped : _ ↔ client.Drops owner target held := unowned_iff_drops found
    by_cases drops : client.Drops owner target held
    · have only : ∀ impl, client.Drops owner target impl → impl = held :=
        fun impl other => Option.some.inj (other.1.symm.trans found)
      simp only [dropped, drops, ↓reduceIte, ReleasedAwaited.snoc_iff]
      refine and_congr_right fun _ => ⟨fun awaited impl other => ?_, fun awaited impl same => ?_⟩
      · rw [only impl other]
        exact awaited held rfl
      · cases same
        exact awaited held drops
    · have nothing : ∀ impl, ¬ client.Drops owner target impl := fun impl other =>
        drops (Option.some.inj (other.1.symm.trans found) ▸ other)
      simp [dropped, drops, nothing]

private theorem write_trace (holder result : Option Nat) (value : Int32) :
    (client.write holder result value).trace =
      client.trace ++ (result.map (ClientEvent.wrote holder · value)).toList := by
  cases result with
  | none => simp [write]
  | some result => rfl

variable (answers client) in
/-- The events of a wait are about its request, and none of them is a release. -/
theorem await_trace (impl : Nat) :
    ∃ events, (client.await answers impl).2.trace = client.trace ++ events ∧
      (∀ event ∈ events, ∀ other, event.about other = true → other = impl) ∧
      (∀ other, .released other ∉ events) ∧
      ((client.impls impl).m_waited = false → .awaited impl ∈ events) := by
  unfold await
  by_cases waited : (client.impls impl).m_waited = true
  · exact ⟨[], by simp [waited]⟩
  · by_cases success : (client.response answers impl).m_success = true
    · refine ⟨[.entered impl, .awaited impl] ++ ((client.impls impl).m_wait_callback.map
        (ClientEvent.wrote (some impl) · (client.response answers impl).m_value)).toList ++
          [.left impl], ?_, ?_, ?_, ?_⟩
      · simp [waited, success, Client.waited, record, write_trace]
      · simp [ClientEvent.about, or_imp, forall_and]
      · simp
      · simp
    · refine ⟨[.entered impl, .awaited impl], ?_, ?_, ?_, ?_⟩
      · simp [waited, success, waitedInVain]
      · simp [ClientEvent.about]
      · simp
      · simp

variable (answers client) in
private theorem settle_trace (owner : Owner) :
    ∃ events, (client.settle answers owner).2.trace = client.trace ++ events ∧
      (∀ event ∈ events, ∀ impl, event.about impl = true →
        client.pointers.lookup owner = some impl) ∧
      (∀ impl, .released impl ∉ events) ∧
      (∀ impl ∈ client.lastHeld owner, (client.impls impl).m_waited = false → .awaited impl ∈ events) := by
  unfold settle
  cases found : client.pointers.lookup owner with
  | none => exact ⟨[], by simp [lastHeld, found]⟩
  | some impl =>
    by_cases last : client.pointers.use_count impl = 1
    · obtain ⟨events, trace, about, silent, awaited⟩ := await_trace answers client impl
      refine ⟨events, by simp [last, trace], fun event member other own => ?_, silent, ?_⟩
      · rw [about event member other own]
      · intro other held
        have same : some impl = some other := found.symm.trans (mem_lastHeld.mp held).1
        cases same
        exact awaited
    · exact ⟨[], by simp [lastHeld, found, last]⟩

private theorem releasedAwaited_settle (settled : client.settle answers owner = (outcome, middle)) :
    ReleasedAwaited middle.trace ↔ ReleasedAwaited client.trace := by
  obtain ⟨events, trace, -, silent, -⟩ := settle_trace answers client owner
  rw [settled] at trace
  rw [trace, ReleasedAwaited.append_iff silent]

/-- Requests to come have no owner and have left no events, and `m_waited` is set by
nothing but a wait. -/
structure Accounted (client : Client) : Prop where
  born : ∀ owner impl, client.pointers.lookup owner = some impl → impl < client.created
  unborn : ∀ impl, client.created ≤ impl → client.life impl = []
  awaited : ∀ impl, (client.impls impl).m_waited = true → .awaited impl ∈ client.trace

/-- A flag that is set after a wait was set before, or it is the one of its request. -/
theorem await_waited (impl other : Nat)
    (done : ((client.await answers impl).2.impls other).m_waited = true) :
    (client.impls other).m_waited = true ∨ other = impl := by
  by_cases same : other = impl
  · exact .inr same
  · left
    unfold await at done
    split at done
    · exact done
    · split at done
      · rwa [waited_impls, if_neg same] at done
      · exact done

private theorem life_of_trace {events : List ClientEvent} (trace : after.trace = client.trace ++ events)
    (about : ∀ event ∈ events, event.about impl = false) : after.life impl = client.life impl := by
  rw [life, trace, List.filter_append, life, List.append_right_eq_self, List.filter_eq_nil_iff]
  intro event member
  simp [about event member]

namespace Accounted

theorem assign (accounted : client.Accounted) (owner : Owner)
    (known : ∀ impl, target = some impl → impl < client.created) :
    (client.assign owner target).Accounted where
  born := by
    intro other impl found
    by_cases here : other = owner
    · rw [here, assign_pointers, SharedPtrs.lookup_assign] at found
      exact known impl found
    · rw [assign_pointers, SharedPtrs.lookup_assign_of_ne here] at found
      exact accounted.born other impl found
  unborn := by
    intro impl new
    have elsewhere : client.pointers.lookup owner ≠ some impl :=
      fun found => absurd (accounted.born owner impl found) (not_lt.mpr new)
    rw [life_kept fun found => absurd found elsewhere]
    exact accounted.unborn impl new
  awaited := fun impl waited => List.mem_append_left _ (accounted.awaited impl waited)

theorem clear (accounted : client.Accounted) (owner : Owner) : (client.assign owner none).Accounted :=
  accounted.assign owner (by simp)

theorem transfer (accounted : client.Accounted) (this other : Owner) :
    ((client.assign this (client.pointers.lookup other)).assign other none).Accounted :=
  (accounted.assign this (accounted.born other)).clear other

theorem await (accounted : client.Accounted) (born : impl < client.created) :
    (client.await answers impl).2.Accounted := by
  obtain ⟨events, trace, about, -, waits⟩ := await_trace answers client impl
  constructor
  · intro owner other found
    rw [await_pointers] at found
    rw [await_created]
    exact accounted.born owner other found
  · intro other new
    rw [await_created] at new
    rw [life_of_trace trace, accounted.unborn other new]
    intro event member
    by_contra own
    have same := about event member other (by simpa using own)
    omega
  · intro other done
    rw [trace, List.mem_append]
    by_cases before : (client.impls other).m_waited = true
    · exact .inl (accounted.awaited other before)
    · rcases await_waited impl other done with waited | rfl
      · exact absurd waited before
      · exact .inr (waits (by simpa using before))

theorem settle (accounted : client.Accounted)
    (settled : client.settle answers owner = (outcome, middle)) : middle.Accounted := by
  have same : (client.settle answers owner).2 = middle := congrArg Prod.snd settled
  rw [← same]
  unfold Client.settle
  cases found : client.pointers.lookup owner with
  | none => exact accounted
  | some impl =>
    by_cases last : client.pointers.use_count impl = 1
    · simpa [last] using accounted.await (accounted.born owner impl found)
    · simpa [last] using accounted

private theorem settled_awaited (accounted : client.Accounted)
    (settled : client.settle answers owner = (outcome, middle)) (target : Option Nat) (impl : Nat)
    (drops : middle.Drops owner target impl) : .awaited impl ∈ middle.trace := by
  have kept := (settle_kept settled).1
  obtain ⟨found, -, only⟩ := drops
  rw [kept] at found only
  have last : impl ∈ client.lastHeld owner :=
    mem_lastHeld.mpr ⟨found, SharedPtrs.unique_of_only found only⟩
  obtain ⟨events, trace, -, -, awaited⟩ := settle_trace answers client owner
  rw [settled] at trace
  rw [trace, List.mem_append]
  by_cases before : (client.impls impl).m_waited = true
  · exact .inl (accounted.awaited impl before)
  · exact .inr (awaited impl last (by simpa using before))

theorem issue {objects : Finset Nat} (accounted : client.Accounted) (formed : client.Formed objects)
    (handle : CacheHandleImpl) (x y : Int32) (result : Option Nat) :
    (client.issue handle x y result).Accounted where
  born := by
    intro owner impl found
    rw [issue_created]
    rcases (owned_issue formed handle x y result).mp ⟨owner, found⟩ with ⟨other, held⟩ | rfl
    · exact Nat.lt_succ_of_lt (accounted.born other impl held)
    · exact Nat.lt_succ_self _
  unborn := by
    intro impl new
    rw [issue_created] at new
    have apart : client.created ≠ impl := by omega
    rw [life_issue, if_neg apart, List.append_nil]
    exact accounted.unborn impl (by omega)
  awaited := by
    intro impl waited
    have apart : impl ≠ client.created := by
      rintro rfl
      simp at waited
    rw [issue_impls, Function.update_of_ne apart] at waited
    have member := accounted.awaited impl waited
    simp [Client.issue, record, member]

theorem quiet {events : List ClientEvent} (accounted : client.Accounted)
    (pointers : after.pointers = client.pointers) (impls : after.impls = client.impls)
    (created : after.created = client.created) (trace : after.trace = client.trace ++ events)
    (about : ∀ event ∈ events, ∀ impl, event.about impl = false) : after.Accounted where
  born := pointers ▸ created ▸ accounted.born
  unborn := by
    intro impl new
    rw [life_of_trace trace fun event member => about event member impl]
    exact accounted.unborn impl (created ▸ new)
  awaited := by
    intro impl waited
    rw [trace, List.mem_append]
    exact .inl (accounted.awaited impl (impls ▸ waited))

end Accounted

private theorem holdsFailure_issue {objects : Finset Nat} (formed : client.Formed objects)
    (handle : CacheHandleImpl) (x y : Int32) (result : Option Nat) (req : Nat) :
    (client.issue handle x y result).HoldsFailure answers (.named req) ↔
      client.HoldsFailure answers (.named req) := by
  unfold HoldsFailure
  rw [lastHeld_issue formed]
  refine exists_congr fun impl => and_congr_right fun last => ?_
  rw [response, response, impls_issue formed (mem_lastHeld.mp last).1]

private theorem not_drops (vacant : client.pointers.lookup owner = none) :
    ¬ client.Drops owner target impl :=
  fun drops => by cases vacant.symm.trans drops.1

private theorem not_drops_of_shared {other : Owner} (different : other ≠ owner)
    (shared : client.pointers.lookup other = client.pointers.lookup owner) :
    ¬ client.Drops owner target impl :=
  fun drops => different (drops.2.2 other (shared.trans drops.1))

/-- A target that may let go takes over what the other one holds. -/
theorem releasedAwaited_transfer {this other : Owner} (different : this ≠ other)
    (dropped : ∀ impl, client.Drops this (client.pointers.lookup other) impl →
      .awaited impl ∈ client.trace) :
    ReleasedAwaited ((client.assign this (client.pointers.lookup other)).assign other none).trace ↔
      ReleasedAwaited client.trace := by
  have shared : (client.assign this (client.pointers.lookup other)).pointers.lookup this =
      (client.assign this (client.pointers.lookup other)).pointers.lookup other := by
    rw [assign_pointers, SharedPtrs.lookup_assign, SharedPtrs.lookup_assign_of_ne different.symm]
  rw [releasedAwaited_assign, releasedAwaited_assign]
  refine ⟨fun both => both.1.1, fun earlier => ⟨⟨earlier, dropped⟩, fun impl drops => ?_⟩⟩
  exact absurd drops (not_drops_of_shared different shared)

section Call

variable {objects : Finset Nat} {handle : CacheHandleImpl} {x y : Int32} {result : Option Nat} {req : Nat}

/-- The new request stays with `*req` when the two other owners are gone. -/
theorem releasedAwaited_handOver (kept : middle.pointers = (client.issue handle x y result).pointers)
    (dropped : ∀ impl, middle.Drops (.named req) (some client.created) impl →
      .awaited impl ∈ middle.trace) :
    ReleasedAwaited (((middle.assign (.named req) (some client.created)).assign .temporary none).assign
      .async_request_impl none).trace ↔ ReleasedAwaited middle.trace := by
  have first : (middle.assign (.named req) (some client.created)).pointers.lookup (.named req) =
      (middle.assign (.named req) (some client.created)).pointers.lookup .temporary := by
    rw [assign_pointers, SharedPtrs.lookup_assign, SharedPtrs.lookup_assign_of_ne (by simp), kept,
      issue_temporary]
  have second : ((middle.assign (.named req) (some client.created)).assign .temporary
      none).pointers.lookup (.named req) = ((middle.assign (.named req)
        (some client.created)).assign .temporary none).pointers.lookup .async_request_impl := by
    rw [assign_pointers, SharedPtrs.lookup_assign_of_ne (by simp), assign_pointers,
      SharedPtrs.lookup_assign, SharedPtrs.lookup_assign_of_ne (by simp),
      SharedPtrs.lookup_assign_of_ne (by simp), kept, issue_async_request_impl]
  rw [releasedAwaited_assign, releasedAwaited_assign, releasedAwaited_assign]
  refine ⟨fun all => all.1.1.1, fun earlier => ⟨⟨⟨earlier, dropped⟩, fun impl drops => ?_⟩, ?_⟩⟩
  · exact absurd drops (not_drops_of_shared (by simp) first)
  · intro impl drops
    exact absurd drops (not_drops_of_shared (by simp) second)

theorem mem_assign {event : ClientEvent} (kept : ∀ impl, event ≠ .released impl) :
    event ∈ (client.assign owner target).trace ↔ event ∈ client.trace := by
  unfold assign
  cases client.pointers.lookup owner with
  | none => simp
  | some held =>
    by_cases dead : (client.pointers.assign owner target).use_count held = 0 <;> simp [dead, kept]

/-- Where the assignment to `*req` threw, the local variable is the last owner. -/
theorem not_releasedAwaited_lost (formed : client.Formed objects)
    (kept : middle.pointers = (client.issue handle x y result).pointers)
    (unawaited : .awaited client.created ∉ middle.trace) :
    ¬ ReleasedAwaited ((middle.assign .temporary none).assign .async_request_impl none).trace := by
  have drops : (middle.assign .temporary none).Drops .async_request_impl none client.created := by
    refine ⟨?_, by simp, fun owner found => ?_⟩
    · rw [assign_pointers, SharedPtrs.lookup_assign_of_ne (by simp), kept, issue_async_request_impl]
    · cases owner with
      | async_request_impl => rfl
      | temporary =>
        rw [assign_pointers, SharedPtrs.lookup_assign] at found
        cases found
      | named object =>
        rw [assign_pointers, SharedPtrs.lookup_assign_of_ne (by simp), kept, issue_named] at found
        exact absurd (formed.born _ _ found) (lt_irrefl _)
  rw [releasedAwaited_assign]
  intro released
  obtain ⟨-, dropped⟩ := released
  exact unawaited ((mem_assign (by simp)).mp (dropped client.created drops))

end Call

end Client

namespace ClientAction

/-- An asynchronous call whose `*req` is the last owner of a failed request. -/
def ReplacesFailure (answers : Nat → RequestResult Int32) (client : Client) : ClientAction → Prop
  | computeSum ⟨some _⟩ _ _ _ (some req) => client.HoldsFailure answers (.named req)
  | _ => False

instance (answers : Nat → RequestResult Int32) (client : Client) (action : ClientAction) :
    Decidable (action.ReplacesFailure answers client) :=
  match action with
  | computeSum ⟨some _⟩ _ _ _ (some req) =>
    inferInstanceAs (Decidable (client.HoldsFailure answers (.named req)))
  | computeSum ⟨some _⟩ _ _ _ none | computeSum ⟨none⟩ _ _ _ _ | construct _ | copyConstruct _ _
  | moveConstruct _ _ | copyAssign _ _ | moveAssign _ _ | destruct _ | wait _ | completed _ _ =>
    inferInstanceAs (Decidable False)

/-- When an asynchronous call is over, `*req` owns its request or the callback of the
request has been run. -/
def KeepsRequest (answers : Nat → RequestResult Int32) (client : Client) (action : ClientAction) : Prop :=
  ∀ handle x y result req, action = computeSum ⟨some handle⟩ x y result (some req) →
    (action.program.execute (Client.exec answers) client).2.pointers.lookup (.named req) =
        some client.created ∨
      .entered client.created ∈ (action.program.execute (Client.exec answers) client).2.trace

end ClientAction

section Effects

variable {answers : Nat → RequestResult Int32} {client after : Client} {objects : Finset Nat}
variable {action : ClientAction} {outcome : Except Thrown Unit}

open Client

variable (answers client) in
/-- A synchronous call, or a failed one, leaves nothing but the events of the call. -/
theorem called_trace (handle : CacheHandleImpl) (x y : Int32) (result : Option Nat) :
    ∃ events, ((deliver none result (answers client.sent)).execute (Client.exec answers)
        { client.record (.sent client.sent handle x y) with sent := client.sent + 1 }).2 =
      { client with
        sent := client.sent + 1
        trace := client.trace ++ events
        memory := Client.delivered client.memory result (answers client.sent) } ∧
      ∀ event ∈ events, ∀ impl, event.about impl = false := by
  rw [execute_deliver]
  by_cases success : (answers client.sent).m_success = true
  · cases result with
    | none => exact ⟨[.sent client.sent handle x y], by simp [success, Client.write, Client.delivered,
        Client.record, ClientEvent.about]⟩
    | some result =>
      refine ⟨[.sent client.sent handle x y, .wrote none result (answers client.sent).m_value], ?_, ?_⟩
      · simp [success, Client.write, Client.delivered, Client.record]
      · simp [ClientEvent.about]
  · exact ⟨[.sent client.sent handle x y], by simp [success, Client.delivered, Client.record,
      ClientEvent.about]⟩

theorem Effect.accounted (effect : Effect answers client action outcome after)
    (formed : client.Formed objects) (accounted : client.Accounted) : after.Accounted := by
  cases effect with
  | constructed | waitedEmpty | polledEmpty | invalid | unassigned => exact accounted
  | copied => exact accounted.assign _ (accounted.born _)
  | moved => exact accounted.transfer _ _
  | @copyAssigned this other middle different settled =>
    have settledAccounted := accounted.settle settled
    rw [← (settle_kept settled).1]
    exact settledAccounted.assign _ (settledAccounted.born _)
  | moveAssigned different settled =>
    rw [← (settle_kept settled).1]
    exact (accounted.settle settled).transfer _ _
  | assignThrew assigns different settled => exact accounted.settle settled
  | destructed settled => exact (accounted.settle settled).clear _
  | terminated settled => exact accounted.settle settled
  | waited found => exact accounted.await (accounted.born _ _ found)
  | @polled _ impl _ found =>
    have about : ∀ event ∈ [ClientEvent.polled impl], ∀ impl, event.about impl = false := by
      simp [ClientEvent.about]
    exact accounted.quiet rfl rfl rfl rfl about
  | @called handle x y result =>
    obtain ⟨events, same, about⟩ := called_trace answers client handle x y result
    rw [same]
    exact accounted.quiet rfl rfl rfl rfl about
  | @issued _ _ _ _ _ middle settled =>
    have settledAccounted := (accounted.issue formed _ _ _ _).settle settled
    have fresh : ∀ impl, some client.created = some impl → impl < middle.created := by
      intro impl same
      cases same
      rw [(settle_kept settled).2, issue_created]
      exact Nat.lt_succ_self _
    exact ((settledAccounted.assign _ fresh).clear _).clear _
  | lost settled => exact (((accounted.issue formed _ _ _ _).settle settled).clear _).clear _

/-- The events of a call before it ends are not those of a wait on its request. -/
theorem settled_unawaited {middle : Client} {handle : CacheHandleImpl} {x y : Int32}
    {result : Option Nat} {req : Nat} (formed : client.Formed objects) (accounted : client.Accounted)
    (settled : (client.issue handle x y result).settle answers (.named req) = (outcome, middle)) :
    .awaited client.created ∉ middle.trace ∧ .entered client.created ∉ middle.trace := by
  have lived : middle.life client.created = [.created client.created client.sent result] := by
    obtain ⟨events, trace, about, -⟩ := settle_trace answers
      (client.issue handle x y result) (.named req)
    rw [settled] at trace
    rw [life_of_trace trace, life_issue, accounted.unborn _ (le_refl _)]
    · simp
    · intro event member
      by_contra own
      have held := about event member client.created (by simpa using own)
      rw [issue_named] at held
      exact absurd (formed.born _ _ held) (lt_irrefl _)
  constructor
  · intro member
    have alive : .awaited client.created ∈ middle.life client.created :=
      List.mem_filter.mpr ⟨member, by simp [ClientEvent.about]⟩
    simp [lived] at alive
  · intro member
    have alive : .entered client.created ∈ middle.life client.created :=
      List.mem_filter.mpr ⟨member, by simp [ClientEvent.about]⟩
    simp [lived] at alive

/-- A step releases nothing too early, except where a call replaces a failed request. -/
theorem Effect.releasedAwaited_iff (effect : Effect answers client action outcome after)
    (formed : client.Formed objects) (possible : action.Possible objects)
    (accounted : client.Accounted) :
    ReleasedAwaited after.trace ↔
      ReleasedAwaited client.trace ∧ ¬ action.ReplacesFailure answers client := by
  cases effect with
  | constructed | waitedEmpty | polledEmpty | invalid =>
    simp [ClientAction.ReplacesFailure]
  | unassigned assigns =>
    rcases assigns with rfl | rfl <;> simp [ClientAction.ReplacesFailure]
  | @copied this other =>
    have vacant := formed.dead this possible.1
    simp [releasedAwaited_assign, not_drops vacant, ClientAction.ReplacesFailure]
  | @moved this other =>
    have vacant := formed.dead this possible.1
    have different : Owner.named this ≠ .named other := by
      intro same
      cases same
      exact possible.1 possible.2
    rw [releasedAwaited_transfer different fun impl drops => absurd drops (not_drops vacant)]
    simp [ClientAction.ReplacesFailure]
  | @copyAssigned this other middle different settled =>
    rw [releasedAwaited_assign, releasedAwaited_settle settled]
    simp only [ClientAction.ReplacesFailure, not_false_iff, and_true]
    exact and_iff_left (accounted.settled_awaited settled _)
  | @moveAssigned this other middle different settled =>
    have away : Owner.named this ≠ .named other := by
      intro same
      rw [same] at different
      exact different rfl
    rw [← (settle_kept settled).1, releasedAwaited_transfer away
      (accounted.settled_awaited settled _), releasedAwaited_settle settled]
    simp [ClientAction.ReplacesFailure]
  | assignThrew assigns different settled =>
    rw [releasedAwaited_settle settled]
    rcases assigns with rfl | rfl <;> simp [ClientAction.ReplacesFailure]
  | @destructed this middle settled =>
    rw [releasedAwaited_assign, releasedAwaited_settle settled]
    simp only [ClientAction.ReplacesFailure, not_false_iff, and_true]
    exact and_iff_left (accounted.settled_awaited settled _)
  | terminated settled =>
    rw [releasedAwaited_settle settled]
    simp [ClientAction.ReplacesFailure]
  | @waited _ impl found =>
    obtain ⟨events, trace, -, silent, -⟩ := await_trace answers client impl
    rw [trace, ReleasedAwaited.append_iff silent]
    simp [ClientAction.ReplacesFailure]
  | polled found =>
    simp [ReleasedAwaited.snoc_iff, ClientAction.ReplacesFailure]
  | @called handle x y result =>
    obtain ⟨events, same, about⟩ := called_trace answers client handle x y result
    have silent : ∀ impl, ClientEvent.released impl ∉ events := fun impl member => by
      simpa [ClientEvent.about] using about _ member impl
    rw [same]
    simp [ReleasedAwaited.append_iff silent, ClientAction.ReplacesFailure]
  | @issued handle x y result req middle settled =>
    have issuedAccounted := accounted.issue formed handle x y result
    have quiet : ¬ client.HoldsFailure answers (.named req) := by
      rw [← holdsFailure_issue formed handle x y result]
      exact settle_ok_iff.mp (congrArg Prod.fst settled)
    rw [releasedAwaited_handOver (settle_kept settled).1 (issuedAccounted.settled_awaited settled _),
      releasedAwaited_settle settled]
    simp [ClientAction.ReplacesFailure, quiet, Client.issue, record, ReleasedAwaited.append_iff]
  | @lost handle x y result req thrown middle settled =>
    have failed : client.HoldsFailure answers (.named req) := by
      by_contra quiet
      rw [← holdsFailure_issue formed handle x y result] at quiet
      have returned := settle_ok_iff.mpr quiet
      rw [settled] at returned
      cases returned
    have unawaited := (settled_unawaited formed accounted settled).1
    have early := not_releasedAwaited_lost formed (settle_kept settled).1 unawaited
    simp [ClientAction.ReplacesFailure, failed, early]

variable (answers) in
/-- A call keeps its request exactly if it need not replace a failed one. -/
theorem ClientAction.keepsRequest_iff (formed : client.Formed objects) (accounted : client.Accounted)
    (action : ClientAction) :
    action.KeepsRequest answers client ↔ ¬ action.ReplacesFailure answers client := by
  cases action with
  | computeSum handle x y result req =>
    obtain ⟨self⟩ := handle
    cases self with
    | none => simp [KeepsRequest, ReplacesFailure]
    | some handle =>
      cases req with
      | none => simp [KeepsRequest, ReplacesFailure]
      | some req =>
        have executed : (program (.computeSum ⟨some handle⟩ x y result (some req))).execute
            (Client.exec answers) client = _ :=
          execute_computeSum answers client (formed.born _) formed.temporary
        have outcomes : ((client.issue handle x y result).settle answers (.named req)).1 = .ok () ↔ _ :=
          settle_ok_iff
        rw [holdsFailure_issue formed] at outcomes
        simp only [KeepsRequest, ReplacesFailure, executed]
        cases settled : (client.issue handle x y result).settle answers (.named req) with
        | mk outcome middle =>
          rw [settled] at outcomes
          cases outcome with
          | ok _ =>
            refine iff_of_true ?_ (outcomes.mp rfl)
            intro _ _ _ _ _ same
            cases same
            left
            rw [assign_pointers, SharedPtrs.lookup_assign_of_ne (by simp), assign_pointers,
              SharedPtrs.lookup_assign_of_ne (by simp), assign_pointers, SharedPtrs.lookup_assign]
          | error thrown =>
            refine iff_of_false (fun kept => ?_) fun quiet => by cases outcomes.mpr quiet
            rcases kept handle x y result req rfl with taken | ran
            · -- `*req` still holds the earlier request.
              rw [formed.lost_pointers (settle_kept settled).1] at taken
              exact absurd (formed.born _ _ taken) (lt_irrefl _)
            · rw [mem_assign (by simp), mem_assign (by simp)] at ran
              exact (settled_unawaited formed accounted settled).2 ran
  | _ => simp [KeepsRequest, ReplacesFailure]

end Effects

namespace Session

variable {answers : Nat → RequestResult Int32} {memory : Nat → Int32}
variable {actions : List ClientAction} {session after : Session} {action : ClientAction}

theorem initial_accounted (memory : Nat → Int32) : (initial memory).client.Accounted := by
  refine ⟨fun owner impl found => ?_, fun _ _ => rfl, fun impl waited => ?_⟩
  · cases found
  · cases waited

private theorem step_accounted (formed : session.Formed) (accounted : session.client.Accounted)
    (stepped : session.step answers action = some after) : after.client.Accounted := by
  obtain ⟨formedBefore, -, effect⟩ := step_effect formed stepped
  exact effect.accounted formedBefore accounted

/-- A run releases nothing too early exactly if none of its calls replaces a failed
request, and then its calls keep their requests. -/
theorem never_lost_run (formed : session.Formed) (accounted : session.client.Accounted)
    (ran : run answers actions session = some after) :
    (ReleasedAwaited after.client.trace ↔ ReleasedAwaited session.client.trace ∧
      Throughout answers (fun client action => ¬ action.ReplacesFailure answers client) actions
        session) ∧
    (Throughout answers (fun client action => action.KeepsRequest answers client) actions session ↔
      Throughout answers (fun client action => ¬ action.ReplacesFailure answers client) actions
        session) := by
  let Valid (session : Session) : Prop := session.Formed ∧ session.client.Accounted
  have valid : Valid session := ⟨formed, accounted⟩
  have next {action : ClientAction} {before later : Session} (valid : Valid before)
      (stepped : before.step answers action = some later) : Valid later :=
    ⟨valid.1.step stepped, step_accounted valid.1 valid.2 stepped⟩
  constructor
  · refine throughout_iff (fun session => ReleasedAwaited session.client.trace)
      (fun action before later valid stepped => ⟨next valid stepped, ?_⟩) valid ran
    obtain ⟨formedBefore, possible, effect⟩ := step_effect valid.1 stepped
    exact effect.releasedAwaited_iff formedBefore possible valid.2
  · refine (run_repeats answers).throughout_congr
      (fun action before later valid stepped => ⟨next valid stepped, ?_⟩) valid ran
    exact action.keepsRequest_iff answers (step_effect valid.1 stepped).1 valid.2

/-- From the start of a program: every asynchronous call leaves its request with `*req`
or with its callback run, and no request is ever released with its response unwaited,
exactly if no such call finds in `*req` the last owner of a failed request for which no
`wait()` has returned. -/
theorem new_request_kept (ran : run answers actions (initial memory) = some session) :
    Throughout answers (fun client action => action.KeepsRequest answers client) actions
        (initial memory) ∧ ReleasedAwaited session.client.trace ↔
      Throughout answers (fun client action => ¬ action.ReplacesFailure answers client) actions
        (initial memory) := by
  obtain ⟨released, kept⟩ := never_lost_run (initial_formed memory) (initial_accounted memory) ran
  have start : ReleasedAwaited (initial memory).client.trace := Justified.nil
  rw [released, kept, and_iff_right start, and_self]

/-- A handle that is used again while its first request, which fails, is still pending. -/
def reuseFailed : List ClientAction :=
  [.construct 0, .computeSum ⟨some ⟨⟨lit "na+sm", 0⟩, UUID.clear⟩⟩ 1 2 none (some 0),
    .computeSum ⟨some ⟨⟨lit "na+sm", 0⟩, UUID.clear⟩⟩ 3 4 none (some 0)]

/-- The first call failed on the provider, the second one did not. -/
def firstFails : Nat → RequestResult Int32
  | 0 => { m_success := false, m_value := 0 }
  | _ => { m_value := 7 }

/-- The second request is gone, and nobody has waited for it. -/
theorem reused_handle_loses_request : ∃ session,
    run firstFails reuseFailed (initial fun _ => 0) = some session ∧
      session.client.pointers.lookup (.named 0) = some 0 ∧
      .released 1 ∈ session.client.trace ∧ .entered 1 ∉ session.client.trace ∧
      .awaited 1 ∉ session.client.trace :=
  ⟨_, rfl, rfl, by decide, by decide, by decide⟩

/-- A copy of the first request keeps the call from waiting for it. -/
def reuseCopied : List ClientAction :=
  [.construct 0, .computeSum ⟨some ⟨⟨lit "na+sm", 0⟩, UUID.clear⟩⟩ 1 2 none (some 0), .copyConstruct 1 0,
    .computeSum ⟨some ⟨⟨lit "na+sm", 0⟩, UUID.clear⟩⟩ 3 4 none (some 0)]

theorem reused_copy_keeps_request : ∃ session,
    run firstFails reuseCopied (initial fun _ => 0) = some session ∧
      ReleasedAwaited session.client.trace := by
  obtain ⟨session, ran⟩ : ∃ session, run firstFails reuseCopied (initial fun _ => 0) = some session :=
    ⟨_, rfl⟩
  have spared : Throughout firstFails (fun client action => ¬ action.ReplacesFailure firstFails client)
      reuseCopied (initial fun _ => 0) := by decide
  exact ⟨session, ran, ((new_request_kept ran).mpr spared).2⟩

end Session

end Cachersize

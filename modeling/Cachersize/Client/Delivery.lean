import Cachersize.Client.Issued
import Cachersize.Concurrent.Justified

/-! Delivery of asynchronous results: while responses are successes, the life of each
request is one fixed sequence of events, which ends with its release. -/
namespace Cachersize

open Concurrent Memory

/-- Polling apart, the events of one request. -/
def ClientEvent.about (impl : Nat) : ClientEvent → Bool
  | created other _ _ | entered other | awaited other | left other | released other => other = impl
  | wrote other _ _ => other = some impl
  | sent .. | polled _ => false

namespace Client

variable (answers : Nat → RequestResult Int32) (client : Client)

def life (impl : Nat) : List ClientEvent := client.trace.filter (·.about impl)

/-- A request with its answer delivered through the pointer of its own call. -/
def delivery (impl rpc : Nat) (result : Option Nat) : List ClientEvent :=
  [.created impl rpc result, .entered impl, .awaited impl] ++
    (result.map fun result => .wrote (some impl) result (answers rpc).m_value).toList ++ [.left impl]

def Owned (impl : Nat) : Prop := ∃ owner, client.pointers.lookup owner = some impl

def Drops (owner : Owner) (target : Option Nat) (impl : Nat) : Prop :=
  client.pointers.lookup owner = some impl ∧ target ≠ some impl ∧
    ∀ other, client.pointers.lookup other = some impl → other = owner

/-- How far a request has come. -/
inductive Stage (impl : Nat) : Prop where
  | unborn (new : client.created ≤ impl) (unowned : ¬ client.Owned impl) (life : client.life impl = [])
  | pending (born : impl < client.created) (owned : client.Owned impl)
      (unwaited : (client.impls impl).m_waited = false)
      (life : client.life impl = [.created impl (client.impls impl).m_async_response
        (client.impls impl).m_wait_callback])
  | delivered (born : impl < client.created) (owned : client.Owned impl)
      (waited : (client.impls impl).m_waited = true)
      (life : client.life impl = delivery answers impl (client.impls impl).m_async_response
        (client.impls impl).m_wait_callback)
  | released (born : impl < client.created) (unowned : ¬ client.Owned impl)
      (waited : (client.impls impl).m_waited = true)
      (life : client.life impl = delivery answers impl (client.impls impl).m_async_response
        (client.impls impl).m_wait_callback ++ [.released impl])

def Tracked : Prop := ∀ impl, client.Stage answers impl

def Received (trace : List ClientEvent) : Prop :=
  ∀ impl rpc result, .created impl rpc result ∈ trace → .awaited impl ∈ trace → (answers rpc).m_success

variable {answers} {client} {after : Client} {owner : Owner} {target : Option Nat} {impl : Nat}

theorem Received.before (received : Received answers after.trace) (extend : client.Extends after) :
    Received answers client.trace :=
  fun impl rpc result created awaited =>
    received impl rpc result (extend.mem created) (extend.mem awaited)

/-- The stage of a request is read off its own part of the state. -/
theorem Stage.frame (stage : client.Stage answers impl)
    (created : impl < client.created ↔ impl < after.created)
    (owned : client.Owned impl ↔ after.Owned impl) (impls : after.impls impl = client.impls impl)
    (life : after.life impl = client.life impl) : after.Stage answers impl := by
  cases stage with
  | unborn new unowned silent =>
    have still : after.created ≤ impl := not_lt.mp fun born => not_lt.mpr new (created.mpr born)
    exact .unborn still (owned.not.mp unowned) (life.trans silent)
  | pending born held unwaited lived =>
    refine .pending (created.mp born) (owned.mp held) ?_ ?_
    · rw [impls, unwaited]
    · rw [life, impls, lived]
  | delivered born held waited lived =>
    refine .delivered (created.mp born) (owned.mp held) ?_ ?_
    · rw [impls, waited]
    · rw [life, impls, lived]
  | released born unowned waited lived =>
    refine .released (created.mp born) (owned.not.mp unowned) ?_ ?_
    · rw [impls, waited]
    · rw [life, impls, lived]

theorem owned_assign :
    (client.assign owner target).Owned impl ↔
      target = some impl ∨ ∃ other, other ≠ owner ∧ client.pointers.lookup other = some impl := by
  constructor
  · intro owned
    obtain ⟨other, found⟩ := owned
    by_cases same : other = owner
    · rw [same, assign_pointers, SharedPtrs.lookup_assign] at found
      exact .inl found
    · rw [assign_pointers, SharedPtrs.lookup_assign_of_ne same] at found
      exact .inr ⟨other, same, found⟩
  · rintro (rfl | ⟨other, different, found⟩)
    · exact ⟨owner, by simp⟩
    · exact ⟨other, by rw [assign_pointers, SharedPtrs.lookup_assign_of_ne different, found]⟩

theorem life_kept (kept : client.pointers.lookup owner = some impl →
      (client.assign owner target).Owned impl) :
    (client.assign owner target).life impl = client.life impl := by
  simp only [life, assign, List.filter_append]
  cases found : client.pointers.lookup owner with
  | none => simp
  | some old =>
    by_cases dead : (client.pointers.assign owner target).use_count old = 0
    · have different : old ≠ impl := by
        rintro rfl
        obtain ⟨other, held⟩ := kept found
        exact SharedPtrs.use_count_eq_zero.mp dead other held
      simp [dead, ClientEvent.about, different]
    · simp [dead]

private theorem life_released (found : client.pointers.lookup owner = some impl)
    (unowned : ¬ (client.assign owner target).Owned impl) :
    (client.assign owner target).life impl = client.life impl ++ [.released impl] := by
  have dead : (client.pointers.assign owner target).use_count impl = 0 :=
    SharedPtrs.use_count_eq_zero.mpr fun other held => unowned ⟨other, held⟩
  simp [life, assign, found, dead, ClientEvent.about]

/-- A shared pointer may be assigned when the request that it drops has been waited
for, and the one that it takes is alive. -/
theorem Tracked.assign (tracked : client.Tracked answers)
    (dropped : ∀ impl, client.Drops owner target impl → (client.impls impl).m_waited = true)
    (alive : ∀ impl, target = some impl → client.Owned impl) :
    (client.assign owner target).Tracked answers := by
  intro impl
  by_cases drops : client.Drops owner target impl
  · have waited := dropped impl drops
    obtain ⟨found, different, only⟩ := drops
    have unowned : ¬ (client.assign owner target).Owned impl := by
      rw [owned_assign]
      rintro (same | ⟨other, away, held⟩)
      · exact different same
      · exact away (only other held)
    have held : client.Owned impl := ⟨owner, found⟩
    cases tracked impl with
    | unborn new free => exact absurd held free
    | pending born _ unwaited => simp [waited] at unwaited
    | delivered born _ _ lived =>
      have life := life_released found unowned
      rw [lived] at life
      exact .released born unowned waited life
    | released born free => exact absurd held free
  · have owned : client.Owned impl ↔ (client.assign owner target).Owned impl := by
      rw [owned_assign]
      constructor
      · intro owned
        obtain ⟨other, found⟩ := owned
        by_contra lost
        push Not at lost
        have only : ∀ third, client.pointers.lookup third = some impl → third = owner :=
          fun third held => by_contra fun away => lost.2 third away held
        have here : other = owner := only other found
        exact drops ⟨here ▸ found, lost.1, only⟩
      · rintro (same | ⟨other, -, found⟩)
        · exact alive impl same
        · exact ⟨other, found⟩
    exact (tracked impl).frame Iff.rfl owned rfl (life_kept fun found => owned.mp ⟨owner, found⟩)

@[simp] theorem life_record (event : ClientEvent) :
    (client.record event).life impl = client.life impl ++ if event.about impl then [event] else [] := by
  simp [life, List.filter_singleton]

private theorem life_write (result : Option Nat) (value : Int32) (other : Nat) :
    (client.write (some impl) result value).life other = client.life other ++
      if impl = other then (result.map (ClientEvent.wrote (some impl) · value)).toList else [] := by
  cases result with
  | none => simp [write]
  | some result =>
    change (client.record (.wrote (some impl) result value)).life other = _
    rw [life_record]
    by_cases same : impl = other <;> simp [ClientEvent.about, same]

private theorem life_write_none (result : Option Nat) (value : Int32) :
    (client.write none result value).life impl = client.life impl :=
  filter_write (fun _ _ => by simp [ClientEvent.about]) result value

/-- A wait adds the rest of the delivery to the life of its request. -/
theorem life_waited (other : Nat) :
    (client.waited answers impl).life other = client.life other ++
      if impl = other then [.entered impl, .awaited impl] ++
        ((client.impls impl).m_wait_callback.map fun result =>
          .wrote (some impl) result (client.response answers impl).m_value).toList ++ [.left impl]
      else [] := by
  change ((((client.record (.entered impl)).record (.awaited impl)).write (some impl)
    (client.impls impl).m_wait_callback
      (client.response answers impl).m_value).record (.left impl)).life other = _
  simp only [life_record, life_write]
  by_cases same : impl = other
  · simp [ClientEvent.about, same]
  · simp [ClientEvent.about, same]

theorem waited_impls (other : Nat) :
    (client.waited answers impl).impls other =
      if other = impl then { client.impls impl with m_waited := true } else client.impls other := by
  simp [waited, Function.update_apply]

theorem Tracked.await (tracked : client.Tracked answers) (owned : client.Owned impl)
    (success : (client.impls impl).m_waited = false → (client.response answers impl).m_success) :
    (client.await answers impl).1 = .ok () ∧ (client.await answers impl).2.Tracked answers ∧
      ((client.await answers impl).2.impls impl).m_waited = true := by
  unfold Client.await
  by_cases waited : (client.impls impl).m_waited = true
  · rw [if_pos waited]
    exact ⟨rfl, tracked, waited⟩
  · have unwaited : (client.impls impl).m_waited = false := by simpa using waited
    rw [if_neg waited, if_pos (success unwaited)]
    refine ⟨rfl, fun other => ?_, by simp [waited_impls]⟩
    by_cases same : impl = other
    · subst same
      cases tracked impl with
      | unborn _ unowned => exact absurd owned unowned
      | pending born _ _ lived =>
        refine .delivered (by simpa [Client.waited, record] using born) ?_ (by simp [waited_impls]) ?_
        · simpa [Owned] using owned
        · simp [life_waited, waited_impls, lived, delivery, response]
      | delivered _ _ done => simp [unwaited] at done
      | released _ _ done => simp [unwaited] at done
    · have apart : other ≠ impl := fun equal => same equal.symm
      refine (tracked other).frame ?_ ?_ ?_ ?_
      · simp [Client.waited, record]
      · simp [Owned]
      · simp [waited_impls, apart]
      · simp [life_waited, same]

private theorem Tracked.created_mem (tracked : client.Tracked answers) (owned : client.Owned impl) :
    .created impl (client.impls impl).m_async_response (client.impls impl).m_wait_callback ∈
      client.trace := by
  have alive : .created impl (client.impls impl).m_async_response
      (client.impls impl).m_wait_callback ∈ client.life impl := by
    cases tracked impl with
    | unborn _ unowned => exact absurd owned unowned
    | pending _ _ _ lived => simp [lived]
    | delivered _ _ _ lived => simp [lived, delivery]
    | released _ unowned => exact absurd owned unowned
  exact List.mem_of_mem_filter alive

theorem Tracked.received (tracked : client.Tracked answers) (owned : client.Owned impl)
    (received : Received answers (client.await answers impl).2.trace) :
    (client.await answers impl).1 = .ok () ∧ (client.await answers impl).2.Tracked answers ∧
      ((client.await answers impl).2.impls impl).m_waited = true := by
  apply tracked.await owned
  intro unwaited
  by_contra failed
  have ended : (client.await answers impl).2 = client.waitedInVain impl := by
    simp [Client.await, unwaited, failed]
  rw [ended] at received
  have created : .created impl (client.impls impl).m_async_response
      (client.impls impl).m_wait_callback ∈ (client.waitedInVain impl).trace := by
    simp [waitedInVain, tracked.created_mem owned]
  exact failed (received impl _ _ created (by simp [waitedInVain]))

theorem Tracked.settle {middle : Client} {outcome : Except Thrown Unit}
    (tracked : client.Tracked answers) (settled : client.settle answers owner = (outcome, middle))
    (received : Received answers middle.trace) :
    outcome = .ok () ∧ middle.Tracked answers ∧
      ∀ target impl, middle.Drops owner target impl → (middle.impls impl).m_waited = true := by
  have pointers := (settle_kept settled).1
  unfold Client.settle at settled
  cases found : client.pointers.lookup owner with
  | none =>
    simp only [found] at settled
    cases settled
    refine ⟨rfl, tracked, fun target impl drops => ?_⟩
    rw [Drops, pointers, found] at drops
    cases drops.1
  | some held =>
    simp only [found] at settled
    by_cases unique : client.pointers.use_count held = 1
    · rw [if_pos unique] at settled
      have after : (client.await answers held).2 = middle := congrArg Prod.snd settled
      rw [← after] at received
      obtain ⟨returned, kept, waited⟩ := tracked.received ⟨owner, found⟩ received
      rw [settled] at returned kept waited
      refine ⟨returned, kept, fun target impl drops => ?_⟩
      have same : held = impl := by
        rw [Drops, pointers, found] at drops
        exact Option.some.inj drops.1
      exact same ▸ waited
    · rw [if_neg unique] at settled
      cases settled
      refine ⟨rfl, tracked, fun target impl drops => ?_⟩
      have same : held = impl := Option.some.inj (found.symm.trans drops.1)
      subst same
      exact absurd (SharedPtrs.unique_of_only found drops.2.2) unique

theorem owned_issue {objects : Finset Nat} (formed : client.Formed objects) (handle : CacheHandleImpl)
    (x y : Int32) (result : Option Nat) :
    (client.issue handle x y result).Owned impl ↔ client.Owned impl ∨ impl = client.created := by
  constructor
  · intro owned
    obtain ⟨owner, found⟩ := owned
    cases owner with
    | named object =>
      rw [issue_named] at found
      exact .inl ⟨_, found⟩
    | temporary =>
      rw [issue_temporary] at found
      exact .inr (Option.some.inj found).symm
    | async_request_impl =>
      rw [issue_async_request_impl] at found
      exact .inr (Option.some.inj found).symm
  · rintro (⟨owner, found⟩ | rfl)
    · cases owner with
      | named object => exact ⟨.named object, by rw [issue_named, found]⟩
      | temporary =>
        rw [formed.temporary] at found
        cases found
      | async_request_impl =>
        rw [formed.async_request_impl] at found
        cases found
    · exact ⟨.temporary, issue_temporary handle x y result⟩

theorem life_issue (handle : CacheHandleImpl) (x y : Int32) (result : Option Nat) :
    (client.issue handle x y result).life impl = client.life impl ++
      if client.created = impl then [.created impl client.sent result] else [] := by
  by_cases same : client.created = impl <;>
    simp [life, issue, record, ClientEvent.about, same]

theorem Tracked.issue {objects : Finset Nat} (tracked : client.Tracked answers)
    (formed : client.Formed objects) (handle : CacheHandleImpl) (x y : Int32) (result : Option Nat) :
    (client.issue handle x y result).Tracked answers := by
  intro impl
  by_cases same : client.created = impl
  · subst same
    have silent : client.life client.created = [] := by
      cases tracked client.created with
      | unborn _ _ life => exact life
      | pending born | delivered born | released born => exact absurd born (lt_irrefl _)
    refine .pending (Nat.lt_succ_self _) ⟨.temporary, issue_temporary handle x y result⟩ ?_ ?_
    · simp
    · simp [life_issue, silent]
  · have apart : impl ≠ client.created := fun equal => same equal.symm
    refine (tracked impl).frame ?_ ?_ ?_ ?_
    · rw [issue_created]
      omega
    · simp [owned_issue formed, apart]
    · simp [apart]
    · simp [life_issue, same]

/-- A pointer that was taken over by another owner may be cleared. -/
theorem Tracked.transfer {this other : Owner} (tracked : client.Tracked answers)
    (different : this ≠ other)
    (dropped : ∀ impl, client.Drops this (client.pointers.lookup other) impl →
      (client.impls impl).m_waited = true) :
    ((client.assign this (client.pointers.lookup other)).assign other none).Tracked answers := by
  have taken := tracked.assign dropped fun impl found => ⟨other, found⟩
  refine taken.assign (fun impl drops => ?_) (by simp)
  obtain ⟨found, -, only⟩ := drops
  have shared : (client.assign this (client.pointers.lookup other)).pointers.lookup this = some impl := by
    rw [assign_pointers, SharedPtrs.lookup_assign]
    rwa [assign_pointers, SharedPtrs.lookup_assign_of_ne different.symm] at found
  exact absurd (only this shared) different

/-- What is about no request leaves all of them as they are. -/
theorem Tracked.quiet (tracked : client.Tracked answers) (pointers : after.pointers = client.pointers)
    (impls : after.impls = client.impls) (created : after.created = client.created)
    (life : ∀ impl, after.life impl = client.life impl) : after.Tracked answers := by
  intro impl
  refine (tracked impl).frame ?_ ?_ ?_ (life impl)
  · rw [created]
  · rw [Owned, Owned, pointers]
  · rw [impls]

/-- The last steps of a call: the temporaries go, the new request stays with `*req`. -/
theorem Tracked.handOver {middle : Client} {handle : CacheHandleImpl} {x y : Int32}
    {result : Option Nat} {req : Nat} (tracked : middle.Tracked answers)
    (kept : middle.pointers = (client.issue handle x y result).pointers)
    (dropped : ∀ impl, middle.Drops (.named req) (some client.created) impl →
      (middle.impls impl).m_waited = true) :
    (((middle.assign (.named req) (some client.created)).assign .temporary none).assign
      .async_request_impl none).Tracked answers := by
  have held : middle.pointers.lookup .temporary = some client.created := by
    rw [kept, issue_temporary]
  have taken := tracked.assign dropped fun impl same => ⟨.temporary, same ▸ held⟩
  have named : (middle.assign (.named req) (some client.created)).pointers.lookup (.named req) =
      some client.created := by simp
  have cleared : ((middle.assign (.named req) (some client.created)).assign .temporary
      none).Tracked answers := by
    refine taken.assign (fun impl drops => ?_) (by simp)
    obtain ⟨found, -, only⟩ := drops
    rw [assign_pointers, SharedPtrs.lookup_assign_of_ne (by simp), held] at found
    cases only (.named req) (named.trans found)
  refine cleared.assign (fun impl drops => ?_) (by simp)
  obtain ⟨found, -, only⟩ := drops
  rw [assign_pointers, SharedPtrs.lookup_assign_of_ne (by simp), assign_pointers,
    SharedPtrs.lookup_assign_of_ne (by simp), kept, issue_async_request_impl] at found
  have still : ((middle.assign (.named req) (some client.created)).assign .temporary
      none).pointers.lookup (.named req) = some impl := by
    rw [assign_pointers, SharedPtrs.lookup_assign_of_ne (by simp), named, found]
  cases only (.named req) still

end Client

open Client in
/-- Each operation keeps every request on its way from call to delivery to release. -/
theorem Effect.tracked {answers : Nat → RequestResult Int32} {client after : Client}
    {objects : Finset Nat} {action : ClientAction} {outcome : Except Thrown Unit}
    (effect : Effect answers client action outcome after) (formed : client.Formed objects)
    (possible : action.Possible objects) (tracked : client.Tracked answers)
    (received : Received answers after.trace) : after.Tracked answers := by
  cases effect with
  | constructed | waitedEmpty | polledEmpty | invalid => exact tracked
  | unassigned => exact tracked
  | @copied this other =>
    refine tracked.assign (fun impl drops => ?_) fun impl found => ⟨_, found⟩
    have vacant := formed.dead this possible.1
    cases drops.1.symm.trans vacant
  | @moved this other =>
    have different : Owner.named this ≠ .named other := by
      rintro ⟨⟩
      exact possible.1 possible.2
    apply tracked.transfer different
    intro impl drops
    have vacant := formed.dead this possible.1
    cases drops.1.symm.trans vacant
  | @copyAssigned this other middle different settled =>
    have kept := (settle_kept settled).1
    obtain ⟨-, settledTracked, ready⟩ := tracked.settle settled (received.before (.assign _ _ _))
    rw [← kept]
    exact settledTracked.assign (ready _) fun impl found => ⟨_, found⟩
  | @moveAssigned this other middle different settled =>
    have kept := (settle_kept settled).1
    have extend := (Extends.assign middle (.named this)
      (client.pointers.lookup (.named other))).trans (.assign _ (.named other) none)
    obtain ⟨-, settledTracked, ready⟩ := tracked.settle settled (received.before extend)
    have apart : Owner.named this ≠ .named other := fun same => different (by rw [same])
    rw [← kept]
    exact settledTracked.transfer apart (ready _)
  | assignThrew assigns different settled =>
    cases (tracked.settle settled received).1
  | destructed settled =>
    obtain ⟨-, settledTracked, ready⟩ := tracked.settle settled (received.before (.assign _ _ _))
    exact settledTracked.assign (ready none) (by simp)
  | terminated settled => cases (tracked.settle settled received).1
  | waited found => exact (tracked.received ⟨_, found⟩ received).2.1
  | polled found => exact tracked.quiet rfl rfl rfl fun impl => by simp [ClientEvent.about]
  | called =>
    rw [execute_deliver]
    split
    · refine tracked.quiet (write_pointers _ _ _) (write_impls _ _ _) (write_created _ _ _) fun impl => ?_
      rw [life_write_none]
      simp [life, ClientEvent.about]
    · exact tracked.quiet rfl rfl rfl fun impl => by simp [life, ClientEvent.about]
  | @issued handle x y result req middle settled =>
    have kept := (settle_kept settled).1
    have extend := ((Extends.assign middle (.named req) (some client.created)).trans
      (.assign _ .temporary none)).trans (.assign _ .async_request_impl none)
    have issuedTracked := tracked.issue formed handle x y result
    obtain ⟨-, settledTracked, ready⟩ := issuedTracked.settle settled (received.before extend)
    exact settledTracked.handOver kept (ready _)
  | @lost handle x y result req middle thrown settled =>
    have extend := (Extends.assign middle .temporary none).trans (.assign _ .async_request_impl none)
    have issuedTracked := tracked.issue formed handle x y result
    cases (issuedTracked.settle settled (received.before extend)).1

namespace Client

variable {answers : Nat → RequestResult Int32} {client : Client} {impl : Nat}

/-- Every request calls back at most once, and exactly once before it is released. It
writes nothing but its own response, through the pointer of its own call. -/
structure DeliveredOnce (answers : Nat → RequestResult Int32) (client : Client) : Prop where
  at_most_once : ∀ impl, client.trace.count (.entered impl) ≤ 1
  waited_iff : ∀ impl, impl < client.created →
    ((client.impls impl).m_waited = true ↔ .left impl ∈ client.trace)
  released_iff : ∀ impl, impl < client.created → (.released impl ∈ client.trace ↔ ¬ client.Owned impl)
  before_release : Justified (fun before event => ∀ impl, event = .released impl →
    before.count (.entered impl) = 1 ∧ before.count (.left impl) = 1 ∧
      ∃ rpc result, .created impl rpc result ∈ before ∧
        ∀ pointer ∈ result, .wrote (some impl) pointer (answers rpc).m_value ∈ before) client.trace
  own_pointer : ∀ impl result value, .wrote (some impl) result value ∈ client.trace →
    ∃ rpc, .created impl rpc (some result) ∈ client.trace ∧ value = (answers rpc).m_value

theorem mem_life {event : ClientEvent} (about : event.about impl = true) :
    event ∈ client.life impl ↔ event ∈ client.trace := by
  simp [life, about]

theorem count_life {event : ClientEvent} (about : event.about impl = true) :
    (client.life impl).count event = client.trace.count event :=
  List.count_filter about

private theorem released_notMem_delivery (rpc : Nat) (result : Option Nat) :
    ClientEvent.released impl ∉ delivery answers impl rpc result := by
  cases result <;> simp [delivery]

private theorem count_delivery (rpc : Nat) (result : Option Nat) :
    (delivery answers impl rpc result).count (.entered impl) = 1 ∧
      (delivery answers impl rpc result).count (.left impl) = 1 := by
  cases result <;> exact ⟨by simp [delivery], by simp [delivery]⟩

theorem Stage.at_most_once (stage : client.Stage answers impl) :
    client.trace.count (.entered impl) ≤ 1 := by
  have about : (ClientEvent.entered impl).about impl = true := by simp [ClientEvent.about]
  rw [← count_life about]
  cases stage with
  | unborn _ _ life => simp [life]
  | pending _ _ _ life => simp [life]
  | delivered _ _ _ life =>
    rw [life]
    exact le_of_eq (count_delivery _ _).1
  | released _ _ _ life =>
    rw [life, List.count_append, (count_delivery _ _).1]
    simp

theorem Stage.waited_iff (stage : client.Stage answers impl) (born : impl < client.created) :
    (client.impls impl).m_waited = true ↔ .left impl ∈ client.trace := by
  have about : (ClientEvent.left impl).about impl = true := by simp [ClientEvent.about]
  rw [← mem_life about]
  cases stage with
  | unborn new => exact absurd born (not_lt.mpr new)
  | pending _ _ unwaited life => simp [life, unwaited]
  | delivered _ _ waited life => simp [life, waited, delivery]
  | released _ _ waited life => simp [life, waited, delivery]

theorem Stage.released_iff (stage : client.Stage answers impl) (born : impl < client.created) :
    .released impl ∈ client.trace ↔ ¬ client.Owned impl := by
  have about : (ClientEvent.released impl).about impl = true := by simp [ClientEvent.about]
  rw [← mem_life about]
  cases stage with
  | unborn new => exact absurd born (not_lt.mpr new)
  | pending _ owned _ life => simp [life, owned]
  | delivered _ owned _ life => simp [life, owned, released_notMem_delivery]
  | released _ unowned _ life => simp [life, unowned]

/-- What comes before the release of a request is its delivery. -/
theorem Stage.before_release (stage : client.Stage answers impl) {before after : List ClientEvent}
    (split : client.trace = before ++ .released impl :: after) :
    before.filter (·.about impl) = delivery answers impl (client.impls impl).m_async_response
      (client.impls impl).m_wait_callback := by
  have life : client.life impl = before.filter (·.about impl) ++
      .released impl :: after.filter (·.about impl) := by
    simp [Client.life, split, ClientEvent.about]
  have member : .released impl ∈ client.life impl := by simp [life]
  cases stage with
  | unborn _ _ lived => simp [lived] at member
  | pending _ _ _ lived => simp [lived] at member
  | delivered _ _ _ lived =>
    rw [lived] at member
    exact absurd member (released_notMem_delivery _ _)
  | released _ _ _ lived =>
    rw [lived] at life
    rcases List.eq_nil_or_concat (after.filter (·.about impl)) with nothing | ⟨initial, final, more⟩
    · rw [nothing] at life
      exact (List.append_inj' life rfl).1.symm
    · rw [more, List.concat_eq_append, ← List.cons_append, ← List.append_assoc] at life
      have same := (List.append_inj' life rfl).1
      have early : .released impl ∈ delivery answers impl (client.impls impl).m_async_response
          (client.impls impl).m_wait_callback := by simp [same]
      exact absurd early (released_notMem_delivery _ _)

theorem Stage.own_pointer (stage : client.Stage answers impl) {result : Nat} {value : Int32}
    (wrote : .wrote (some impl) result value ∈ client.trace) :
    ∃ rpc, .created impl rpc (some result) ∈ client.trace ∧ value = (answers rpc).m_value := by
  have about : (ClientEvent.wrote (some impl) result value).about impl = true := by
    simp [ClientEvent.about]
  rw [← mem_life about] at wrote
  have delivered : .wrote (some impl) result value ∈ delivery answers impl
      (client.impls impl).m_async_response (client.impls impl).m_wait_callback →
      (client.impls impl).m_wait_callback = some result ∧
        value = (answers (client.impls impl).m_async_response).m_value := by
    cases (client.impls impl).m_wait_callback with
    | none => simp [delivery]
    | some pointer =>
      intro member
      have same : result = pointer ∧ value = (answers (client.impls impl).m_async_response).m_value := by
        simpa [delivery] using member
      exact ⟨by rw [same.1], same.2⟩
  have own (begins : .created impl (client.impls impl).m_async_response
      (client.impls impl).m_wait_callback ∈ client.life impl)
      (member : .wrote (some impl) result value ∈ delivery answers impl
        (client.impls impl).m_async_response (client.impls impl).m_wait_callback) :
      ∃ rpc, .created impl rpc (some result) ∈ client.trace ∧ value = (answers rpc).m_value := by
    obtain ⟨pointer, read⟩ := delivered member
    rw [pointer] at begins
    exact ⟨_, List.mem_of_mem_filter begins, read⟩
  cases stage with
  | unborn _ _ lived => simp [lived] at wrote
  | pending _ _ _ lived => simp [lived] at wrote
  | delivered _ _ _ lived => exact own (by simp [lived, delivery]) (by simpa [lived] using wrote)
  | released _ _ _ lived => exact own (by simp [lived, delivery]) (by simpa [lived] using wrote)

theorem Tracked.deliveredOnce (tracked : client.Tracked answers) : client.DeliveredOnce answers where
  at_most_once := fun impl => (tracked impl).at_most_once
  waited_iff := fun impl born => (tracked impl).waited_iff born
  released_iff := fun impl born => (tracked impl).released_iff born
  before_release := by
    intro before event after split impl same
    rw [same] at split
    have delivered := (tracked impl).before_release split
    have count {event : ClientEvent} (about : event.about impl = true) :
        before.count event = (delivery answers impl (client.impls impl).m_async_response
          (client.impls impl).m_wait_callback).count event := by
      rw [← delivered, List.count_filter about]
    have member {event : ClientEvent} (inside : event ∈ delivery answers impl
        (client.impls impl).m_async_response (client.impls impl).m_wait_callback) : event ∈ before := by
      rw [← delivered] at inside
      exact List.mem_of_mem_filter inside
    refine ⟨?_, ?_, (client.impls impl).m_async_response, (client.impls impl).m_wait_callback,
      member (by simp [delivery]), fun pointer own => member ?_⟩
    · rw [count (by simp [ClientEvent.about]), (count_delivery _ _).1]
    · rw [count (by simp [ClientEvent.about]), (count_delivery _ _).2]
    · rw [Option.mem_def.mp own]
      simp [delivery]
  own_pointer := fun impl _ _ wrote => (tracked impl).own_pointer wrote

end Client

namespace Session

variable {answers : Nat → RequestResult Int32} {memory : Nat → Int32}
variable {actions : List ClientAction} {session : Session}

private theorem run_written (ran : run answers actions (initial memory) = some session) :
    session.client.memory = Client.written memory session.client.trace := by
  have extend : (initial memory).client.Extends session.client :=
    run_induction (fun later => (initial memory).client.Extends later.client)
      (fun _ _ _ _ earlier stepped => earlier.trans (step_extends stepped)) (.refl _) ran
  obtain ⟨events, trace, written⟩ := extend
  rw [written, trace]
  rfl

theorem run_tracked (ran : run answers actions (initial memory) = some session)
    (received : Client.Received answers session.client.trace) : session.client.Tracked answers := by
  have invariant : session.Formed ∧
      (Client.Received answers session.client.trace → session.client.Tracked answers) := by
    refine run_induction (fun later => later.Formed ∧
      (Client.Received answers later.client.trace → later.client.Tracked answers)) ?_ ?_ ran
    · intro action _ before after holds stepped
      obtain ⟨formed, tracked⟩ := holds
      refine ⟨formed.step stepped, fun receivedAfter => ?_⟩
      obtain ⟨formedBefore, possible, effect⟩ := step_effect formed stepped
      exact effect.tracked formedBefore possible
        (tracked (receivedAfter.before (step_extends stepped))) receivedAfter
    · refine ⟨initial_formed memory, fun _ impl => ?_⟩
      refine .unborn (Nat.zero_le _) ?_ rfl
      intro owned
      obtain ⟨owner, found⟩ := owned
      cases found
  exact invariant.2 received

/-- In every sequence of operations whose responses are successes, each result is
delivered exactly once before its request is released, to the pointer that was passed to
the call of the request. An empty `AsyncRequest` cannot be waited for. -/
theorem delivered_exactly_once (ran : run answers actions (initial memory) = some session)
    (received : Client.Received answers session.client.trace) :
    session.client.DeliveredOnce answers ∧
      session.client.issued = callEvents answers 0 0 (actions.filterMap ClientAction.sum) ∧
      session.client.memory = Client.written memory session.client.trace ∧
      ∀ this, session.client.pointers.lookup (.named this) = none →
        session.outcome answers (.wait this) =
          (.error (.exception (lit "Invalid cachersize::AsyncRequest object")), session.client) := by
  refine ⟨(run_tracked ran received).deliveredOnce, (run_issues ran).issued, run_written ran,
    fun this empty => ?_⟩
  have executed : session.outcome answers (.wait this) = _ :=
    AsyncRequest.execute_wait answers session.client (.named this)
  rw [executed, empty]

/-- A request is copied, and delivered when the copy dies after the original. -/
def copiedRequest : List ClientAction :=
  [.construct 0, .computeSum ⟨some ⟨⟨lit "na+sm", 0⟩, UUID.clear⟩⟩ 1 2 (some 7) (some 0),
    .copyConstruct 1 0, .destruct 0, .destruct 1]

theorem copiedRequest_delivered : ∃ session,
    run (fun _ => { m_value := 3 }) copiedRequest (initial fun _ => 0) = some session ∧
      session.client.DeliveredOnce (fun _ => { m_value := 3 }) ∧
      session.client.issued = [.sent 0 ⟨⟨lit "na+sm", 0⟩, UUID.clear⟩ 1 2, .created 0 0 (some 7)] ∧
      session.client.memory 7 = 3 := by
  obtain ⟨session, ran, memory⟩ : ∃ session,
      run (fun _ => { m_value := 3 }) copiedRequest (initial fun _ => 0) = some session ∧
        session.client.memory 7 = 3 := ⟨_, rfl, rfl⟩
  obtain ⟨delivered, issued, -⟩ := delivered_exactly_once ran fun _ _ _ _ _ => rfl
  exact ⟨session, ran, delivered, issued, memory⟩

end Session

end Cachersize

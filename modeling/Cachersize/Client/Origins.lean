import Cachersize.Client.Session
import Cachersize.Concurrent.Contract

/-! Where the values come from that a client finds in its memory, in the middle of an
operation too: each was written for a response to an RPC of this client. -/
namespace Cachersize

open Concurrent Memory

/-- What is pointed to has been created for an RPC, and what is written is the value of a
successful response. An asynchronous call writes to its own `result`, a synchronous one
right after its RPC. -/
structure Client.Sourced (answers : Nat → RequestResult Int32) (client : Client) : Prop where
  born : ∀ owner impl, client.pointers.lookup owner = some impl → impl < client.created
  requests : ∀ impl, impl < client.created → (client.impls impl).m_async_response < client.sent ∧
    .created impl (client.impls impl).m_async_response (client.impls impl).m_wait_callback ∈ client.trace
  awaited : ∀ impl result value, .wrote (some impl) result value ∈ client.trace → ∃ rpc, rpc < client.sent ∧
    (answers rpc).m_success = true ∧ (answers rpc).m_value = value ∧ .created impl rpc (some result) ∈ client.trace
  called : ∀ result value, .wrote none result value ∈ client.trace → ∃ rpc handle x y, rpc < client.sent ∧
    (answers rpc).m_success = true ∧ (answers rpc).m_value = value ∧
    [.sent rpc handle x y, .wrote none result value] <:+: client.trace

/-- A wait or a poll is on a request that has been created, a request is created for an RPC
that has been sent, and a value is stored for a response. -/
def ClientOp.Sensible (answers : Nat → RequestResult Int32) (client : Client) : ClientOp → Prop
  | wait impl | received impl _ => impl < client.created
  | make_shared rpc _ => rpc < client.sent
  | store (some impl) result value => ∃ rpc, rpc < client.sent ∧ (answers rpc).m_success = true ∧
      (answers rpc).m_value = value ∧ .created impl rpc (some result) ∈ client.trace
  | store none _ value => ∃ rpc handle x y, rpc < client.sent ∧ (answers rpc).m_success = true ∧
      (answers rpc).m_value = value ∧ [.sent rpc handle x y] <:+ client.trace
  | _ => True

namespace Client.Sourced

variable {answers : Nat → RequestResult Int32} {client after : Client}

theorem grow (sourced : client.Sourced answers) {events : List ClientEvent}
    (trace : after.trace = client.trace ++ events)
    (silent : ∀ holder result value, .wrote holder result value ∉ events)
    (pointers : ∀ owner impl, after.pointers.lookup owner = some impl → impl < client.created)
    (created : after.created = client.created) (sent : client.sent ≤ after.sent)
    (impls : ∀ impl, (after.impls impl).m_async_response = (client.impls impl).m_async_response ∧
      (after.impls impl).m_wait_callback = (client.impls impl).m_wait_callback) : after.Sourced answers where
  born := fun owner impl found => created ▸ pointers owner impl found
  requests := by
    intro impl born
    obtain ⟨known, member⟩ := sourced.requests impl (created ▸ born)
    rw [(impls impl).1, (impls impl).2, trace]
    exact ⟨lt_of_lt_of_le known sent, List.mem_append_left _ member⟩
  awaited := by
    intro impl result value wrote
    rw [trace] at wrote ⊢
    have old := (List.mem_append.mp wrote).resolve_right (silent _ _ _)
    obtain ⟨rpc, known, success, same, member⟩ := sourced.awaited impl result value old
    exact ⟨rpc, lt_of_lt_of_le known sent, success, same, List.mem_append_left _ member⟩
  called := by
    intro result value wrote
    rw [trace] at wrote ⊢
    have old := (List.mem_append.mp wrote).resolve_right (silent _ _ _)
    obtain ⟨rpc, handle, x, y, known, success, same, adjacent⟩ := sourced.called result value old
    exact ⟨rpc, handle, x, y, lt_of_lt_of_le known sent, success, same,
      adjacent.trans (List.prefix_append _ _).isInfix⟩

theorem record (sourced : client.Sourced answers) {event : ClientEvent}
    (silent : ∀ holder result value, event ≠ .wrote holder result value) :
    (client.record event).Sourced answers :=
  sourced.grow rfl (by simpa [eq_comm] using silent) sourced.born rfl (le_refl _) fun _ => ⟨rfl, rfl⟩

theorem assign (sourced : client.Sourced answers) (owner : Owner) {target : Option Nat}
    (born : ∀ impl, target = some impl → impl < client.created) : (client.assign owner target).Sourced answers := by
  refine sourced.grow rfl ?_ ?_ rfl (le_refl _) fun _ => ⟨rfl, rfl⟩
  · intro holder result value
    split
    · split <;> simp
    · simp
  · intro other impl found
    rw [assign_pointers] at found
    by_cases same : other = owner
    · rw [same, SharedPtrs.lookup_assign] at found
      exact born impl found
    · rw [SharedPtrs.lookup_assign_of_ne same] at found
      exact sourced.born other impl found

theorem store (sourced : client.Sourced answers) {holder : Option Nat} {result : Nat} {value : Int32}
    (sensible : (ClientOp.store holder result value).Sensible answers client) :
    (Client.exec answers (.store holder result value) client).2.Sourced answers where
  born := sourced.born
  requests := fun impl born =>
    ⟨(sourced.requests impl born).1, List.mem_append_left _ (sourced.requests impl born).2⟩
  awaited := by
    intro impl other written wrote
    rcases List.mem_append.mp wrote with old | new
    · obtain ⟨rpc, known, success, same, member⟩ := sourced.awaited impl other written old
      exact ⟨rpc, known, success, same, List.mem_append_left _ member⟩
    · cases List.mem_singleton.mp new
      obtain ⟨rpc, known, success, same, member⟩ := sensible
      exact ⟨rpc, known, success, same, List.mem_append_left _ member⟩
  called := by
    intro other written wrote
    rcases List.mem_append.mp wrote with old | new
    · obtain ⟨rpc, handle, x, y, known, success, same, adjacent⟩ := sourced.called other written old
      exact ⟨rpc, handle, x, y, known, success, same, adjacent.trans (List.prefix_append _ _).isInfix⟩
    · cases List.mem_singleton.mp new
      obtain ⟨rpc, handle, x, y, known, success, same, past, last⟩ := sensible
      refine ⟨rpc, handle, x, y, known, success, same, past, [], ?_⟩
      simp [Client.exec, Client.record, ← last]

theorem make_shared (sourced : client.Sourced answers) {rpc : Nat} (known : rpc < client.sent)
    (result : Option Nat) : (Client.exec answers (.make_shared rpc result) client).2.Sourced answers where
  born := by
    intro owner impl found
    by_cases same : owner = .async_request_impl
    · subst same
      have fresh : some client.created = some impl := SharedPtrs.lookup_assign.symm.trans found
      cases fresh
      exact Nat.lt_succ_self _
    · have older : client.pointers.lookup owner = some impl :=
        (SharedPtrs.lookup_assign_of_ne same).symm.trans found
      exact Nat.lt_succ_of_lt (sourced.born owner impl older)
  requests := by
    intro impl born
    rcases Nat.lt_succ_iff_lt_or_eq.mp born with older | rfl
    · have different : impl ≠ client.created := Nat.ne_of_lt older
      obtain ⟨knownOlder, member⟩ := sourced.requests impl older
      simp only [Client.exec, Function.update_of_ne different]
      exact ⟨knownOlder, List.mem_append_left _ member⟩
    · simp [Client.exec, Client.record, known]
  awaited := by
    intro impl other value wrote
    have old : .wrote (some impl) other value ∈ client.trace := by simpa [Client.exec, Client.record] using wrote
    obtain ⟨sent, knownSent, success, same, member⟩ := sourced.awaited impl other value old
    exact ⟨sent, knownSent, success, same, List.mem_append_left _ member⟩
  called := by
    intro other value wrote
    have old : .wrote none other value ∈ client.trace := by simpa [Client.exec, Client.record] using wrote
    obtain ⟨sent, handle, x, y, knownSent, success, same, adjacent⟩ := sourced.called other value old
    exact ⟨sent, handle, x, y, knownSent, success, same, adjacent.trans (List.prefix_append _ _).isInfix⟩

theorem exec {op : ClientOp} (sourced : client.Sourced answers) (sensible : op.Sensible answers client) :
    (Client.exec answers op client).2.Sourced answers := by
  cases op with
  | self | unique | m_waited => exact sourced
  | copy this other => exact sourced.assign this (sourced.born other)
  | move this other => exact (sourced.assign this (sourced.born other)).assign other (by simp)
  | reset this => exact sourced.assign this (by simp)
  | set_waited impl =>
    refine sourced.grow (List.append_nil _).symm (by simp) sourced.born rfl (le_refl _) fun other => ?_
    by_cases same : other = impl
    · simp [Client.exec, same]
    · simp [Client.exec, same]
  | enter | leave | wait | received => exact sourced.record (by simp)
  | call handle x y | async handle x y =>
    exact sourced.grow rfl (by simp) sourced.born rfl (Nat.le_succ _) fun _ => ⟨rfl, rfl⟩
  | store holder result value => exact sourced.store sensible
  | make_shared rpc result => exact sourced.make_shared sensible result

end Client.Sourced

section Programs

variable (answers : Nat → RequestResult Int32)

/-- The operations of a client, with what they require and keep. -/
def origins : Contract (Client.exec answers) where
  invariant := fun client => client.Sourced answers
  requires := fun op client => op.Sensible answers client
  preserves := fun _ _ sourced sensible => sourced.exec sensible

variable {answers} {client : Client}

@[simp] theorem origins_requires (op : ClientOp) :
    (origins answers).requires op client ↔ op.Sensible answers client := Iff.rfl

private theorem deliver_sensible {holder result : Option Nat} {response : RequestResult Int32}
    (sensible : response.m_success = true → ∀ target, result = some target →
      (ClientOp.store holder target response.m_value).Sensible answers client) :
    (origins answers).Meets (deliver holder result response) client := by
  unfold deliver
  split
  · rename_i success
    cases result with
    | none => trivial
    | some target => exact ⟨sensible success target rfl, trivial⟩
  · trivial

namespace AsyncRequest

private theorem wait_sensible (sourced : client.Sourced answers) (this : Owner) :
    (origins answers).Meets (wait this) client := by
  unfold wait
  simp only [perform, Program.call_bind, Contract.meets_perform, Client.exec]
  refine ⟨trivial, ?_⟩
  cases found : client.pointers.lookup this with
  | none => trivial
  | some impl =>
    have born := sourced.born this impl found
    obtain ⟨known, created⟩ := sourced.requests impl born
    refine ⟨trivial, ?_⟩
    by_cases done : (client.impls impl).m_waited = true
    · simp [Client.exec, done]
    · simp only [done, Bool.false_eq_true, ↓reduceIte, Client.exec, m_wait_callback, perform,
        Program.call_bind, Program.perform_bind, Contract.meets_perform]
      refine ⟨trivial, born, ?_⟩
      have entered : ((client.record (.entered impl)).record (.awaited impl)).Sourced answers :=
        (sourced.record (by simp)).record (by simp)
      refine (deliver_sensible ?_).bind entered fun _ after _ => ⟨trivial, trivial, trivial⟩
      intro success target own
      rw [own] at created
      exact ⟨_, known, success, rfl, List.mem_append_left _ (List.mem_append_left _ created)⟩

private theorem waitIfUnique_sensible (sourced : client.Sourced answers) (this : Owner) :
    (origins answers).Meets (waitIfUnique this) client := by
  unfold waitIfUnique
  simp only [perform, Program.call_bind, Contract.meets_perform, Client.exec]
  refine ⟨trivial, ?_⟩
  cases client.pointers.lookup this with
  | none => trivial
  | some impl =>
    refine ⟨trivial, ?_⟩
    by_cases last : client.pointers.use_count impl = 1
    · simpa [Client.exec, last] using wait_sensible sourced this
    · simp [Client.exec, last]

private theorem destruct_sensible (sourced : client.Sourced answers) (this : Owner) :
    (origins answers).Meets (destruct this) client := by
  have waits := (waitIfUnique_sensible sourced this).attempt
  have silent : (origins answers).Meets (noexcept (waitIfUnique this)) client := by
    refine waits.bind sourced fun outcome after _ => ?_
    cases outcome <;> trivial
  exact silent.bind sourced fun _ after _ => ⟨trivial, trivial⟩

private theorem copyAssign_sensible (sourced : client.Sourced answers) (this other : Owner) :
    (origins answers).Meets (copyAssign this other) client := by
  unfold copyAssign
  simp only [perform, Program.call_bind, Contract.meets_perform, Client.exec]
  refine ⟨trivial, trivial, ?_⟩
  by_cases same : this = other ∨ client.pointers.lookup this = client.pointers.lookup other
  · simp only [same, ↓reduceIte]
    trivial
  · simp only [same, ↓reduceIte]
    exact (waitIfUnique_sensible sourced this).bind sourced fun _ after _ => ⟨trivial, trivial⟩

private theorem moveAssign_sensible (sourced : client.Sourced answers) (this other : Owner) :
    (origins answers).Meets (moveAssign this other) client := by
  unfold moveAssign
  simp only [perform, Program.call_bind, Contract.meets_perform, Client.exec]
  refine ⟨trivial, trivial, ?_⟩
  by_cases same : this = other ∨ client.pointers.lookup this = client.pointers.lookup other
  · simp only [same, ↓reduceIte]
    trivial
  · simp only [same, ↓reduceIte]
    exact (waitIfUnique_sensible sourced this).bind sourced fun _ after _ => ⟨trivial, trivial, trivial⟩

end AsyncRequest

private theorem computeSum_sensible (sourced : client.Sourced answers) (handle : CacheHandle) (x y : Int32)
    (result req : Option Nat) : (origins answers).Meets (handle.computeSum x y result req) client := by
  obtain ⟨self⟩ := handle
  cases self with
  | none => trivial
  | some self =>
    cases req with
    | none =>
      refine ⟨trivial, deliver_sensible ?_⟩
      intro success target own
      exact ⟨client.sent, self, x, y, Nat.lt_succ_self _, success, rfl, client.trace, rfl⟩
    | some req =>
      have sent : (Client.exec answers (.async self x y) client).2.Sourced answers := sourced.exec trivial
      have made : (Client.exec answers (.make_shared client.sent result)
          (Client.exec answers (.async self x y) client).2).2.Sourced answers :=
        sent.make_shared (Nat.lt_succ_self _) result
      have copied : (Client.exec answers (.copy .temporary .async_request_impl)
          (Client.exec answers (.make_shared client.sent result)
            (Client.exec answers (.async self x y) client).2).2).2.Sourced answers := made.exec trivial
      refine ⟨trivial, Nat.lt_succ_self _, trivial, ?_⟩
      refine (AsyncRequest.moveAssign_sensible copied _ _).attempt.bind copied fun outcome after moved => ?_
      refine (AsyncRequest.destruct_sensible moved _).bind moved fun _ later _ => ⟨trivial, ?_⟩
      exact Contract.meets_ofExcept outcome

/-- Every operation meets the preconditions of all its steps. -/
theorem ClientAction.sensible (sourced : client.Sourced answers) (action : ClientAction) :
    (origins answers).Meets action.program client := by
  cases action with
  | construct this => trivial
  | copyConstruct this other => exact ⟨trivial, trivial⟩
  | moveConstruct this other => exact ⟨trivial, trivial, trivial⟩
  | copyAssign this other => exact AsyncRequest.copyAssign_sensible sourced _ _
  | moveAssign this other => exact AsyncRequest.moveAssign_sensible sourced _ _
  | destruct this => exact AsyncRequest.destruct_sensible sourced _
  | wait this => exact AsyncRequest.wait_sensible sourced _
  | computeSum handle x y result req => exact computeSum_sensible sourced handle x y result req
  | completed this arrived =>
    refine ⟨trivial, ?_⟩
    simp only [Client.exec]
    cases found : client.pointers.lookup (.named this) with
    | none => trivial
    | some impl => exact ⟨sourced.born _ impl found, trivial⟩

end Programs

end Cachersize

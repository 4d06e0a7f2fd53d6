import Cachersize.Network.Observed
import Cachersize.Provider.Linearization

/-! A service of many providers behaves as one registry: what all callers see is
linearizable as a map from providers and ids to backends. -/
namespace Cachersize

open Concurrent

namespace ProviderImpl

variable {J β : Type} {runtime : Runtime J β} {m_token : StdString}
variable {actions : List (Action Request StdString)} {pool : Provider J β}

theorem Exit.received {request arrived : Request} {outcome : Except StdString Unit}
    {events : List (Event J β)} (exit : Exit runtime request outcome events)
    (member : .received arrived ∈ events) : arrived = request := by
  cases exit <;> simpa using member

private theorem received_by {thread : Nat} {request : Request}
    (served : serve runtime m_token actions = some pool)
    (received : (thread, .received request) ∈ pool.global.log) :
    ∃ program, pool.threads thread = some ⟨request, program⟩ := by
  have own : .received request ∈ Global.own thread pool.global.log := Global.mem_own.mpr received
  cases running : pool.threads thread with
  | none =>
    rw [System.own_vacant served running] at own
    cases own
  | some present =>
    obtain ⟨tag, program⟩ := present
    obtain ⟨outcome, more, exit⟩ := eventual_exit served running
    have same := exit.received (List.mem_append_left more own)
    subst same
    exact ⟨program, rfl⟩

private theorem mem_history_invoke {log : Log J β} {thread : Nat} {request : Request} :
    .invoke thread request ∈ history log ↔ (thread, .received request) ∈ log := by
  apply mem_filterMap_unique
  · rfl
  · rintro ⟨actor, event⟩ same
    cases event <;> cases same
    rfl

private theorem mem_history_respond {log : Log J β} {thread : Nat} {response : Response} :
    .respond thread response ∈ history log ↔ (thread, .responded response) ∈ log := by
  apply mem_filterMap_unique
  · rfl
  · rintro ⟨actor, event⟩ same
    cases event <;> cases same
    rfl

end ProviderImpl

namespace Network

open ProviderImpl

variable {J β : Type} {runtime : ProviderHandle → Runtime J β} {m_token : ProviderHandle → StdString}
variable {actions : List NetworkAction} {network after : Network J β}

/-- While no token changes, every provider runs under the token that it started with. -/
def ServedSteadily (runtime : ProviderHandle → Runtime J β) (m_token : ProviderHandle → StdString)
    (network : Network J β) : Prop :=
  ∀ ph, ∃ actions, serve (runtime ph) (m_token ph) actions = some (network.providers ph) ∧
    ∀ token, .external token ∈ actions → token = m_token ph

theorem ServedSteadily.run {memory : Nat → Int32}
    (constant : ∀ ph token, .setSecurityToken ph token ∈ actions → token = m_token ph)
    (ran : run runtime actions (initial runtime m_token memory) = some network) :
    ServedSteadily runtime m_token network := by
  refine run_induction (ServedSteadily runtime m_token) ?_ (fun ph => ⟨[], rfl, by simp⟩) ran
  intro action member before later steadily moved
  cases moved with
  | sent | assigned | threw | answered => exact steadily
  | @served ph _ change provider directs stepped =>
    intro other
    by_cases same : other = ph
    · subst same
      obtain ⟨past, served, tokens⟩ := steadily other
      have ran : (system (runtime other)).run [change] (before.providers other) = some provider := by
        simp [System.run, stepped]
      refine ⟨past ++ [change], by simpa using serve_append served ran, fun token present => ?_⟩
      rcases List.mem_append.mp present with old | new
      · exact tokens token old
      · cases List.mem_singleton.mp new
        cases directs with
        | setSecurityToken => exact constant other token member
    · simpa [same] using steadily other

private theorem provider_linearizes {sum : ProviderHandle → Backend β → Int32 → Int32 → RequestResult Int32}
    (orderly : ∀ ph, Orderly (runtime ph) (sum ph)) (steadily : ServedSteadily runtime m_token network)
    (ph : ProviderHandle) : ∃ order,
      Linearizes (Applies (runtime ph) (m_token ph) (sum ph) (network.providers ph).global.log) ∅
        (network.providers ph).global.shared.m_backends (history (network.providers ph).global.log)
        order := by
  obtain ⟨past, served, tokens⟩ := steadily ph
  obtain ⟨order, valid, -⟩ := (registryOutline (orderly ph) (m_token ph)).sound ⟨rfl, .nil⟩
    (fun _ => ⟨by simp [Held, empty], by simp [Committed]⟩) tokens served
  exact ⟨order, valid.2⟩

/-- What one provider answered before it heard of another request stands in that order
in its own history. -/
theorem Answered.sublist {log : Log J β} {earlier later : Nat} {response : Response} {request : Request}
    (answered : Answered earlier later response log) (received : (later, .received request) ∈ log) :
    [.respond earlier response, .invoke later request].Sublist (history log) := by
  obtain ⟨before, rest, rfl, member, silent⟩ := answered
  rw [history_append]
  have late : (later, .received request) ∈ rest := by
    rcases List.mem_append.mp received with early | late
    · have own := Global.mem_own.mpr early
      rw [silent] at own
      cases own
    · exact late
  exact (List.singleton_sublist.mpr (mem_history_respond.mpr member)).append
    (List.singleton_sublist.mpr (mem_history_invoke.mpr late))

/-- The orders of the providers are orders for the history that the callers see. -/
theorem Witnessed.locally {past : List (HistoryEvent (ProviderHandle × Request) Response)}
    (witnessed : Witnessed runtime m_token network past)
    {apply : ProviderHandle → Operation Request Response → Registry β → Registry β → Prop}
    {order : ProviderHandle → List (Operation Request Response)}
    (linearizes : ∀ ph, Linearizes (apply ph) ∅ (network.providers ph).global.shared.m_backends
      (history (network.providers ph).global.log) (order ph)) :
    Locally apply (fun _ => ∅) (fun ph => (network.providers ph).global.shared.m_backends) past order := by
  have logged {ph : ProviderHandle} {operation : Operation Request Response}
      (member : operation ∈ order ph) :
      (operation.thread, .received operation.request) ∈ (network.providers ph).global.log :=
    mem_history_invoke.mp ((linearizes ph).received operation member)
  have asked {ph : ProviderHandle} {operation : Operation Request Response} (member : operation ∈ order ph) :
      ∃ call outcome, network.calls operation.thread = some (call, outcome) ∧ call.ph = ph ∧
        operation.request = call.request := by
    obtain ⟨past, served⟩ := witnessed.sound.served ph
    obtain ⟨program, running⟩ := received_by served (logged member)
    exact witnessed.sound.threads ph _ _ running
  constructor
  · exact fun ph => (linearizes ph).distinct
  · intro ph operation member
    obtain ⟨call, outcome, called, rfl, same⟩ := asked member
    exact (witnessed.invoked _ _).mpr ⟨call, outcome, called, by rw [same]⟩
  · intro thread response member
    obtain ⟨call, -, responded⟩ := witnessed.responded thread response member
    obtain ⟨request, present⟩ :=
      (linearizes call.ph).answered thread response (mem_history_respond.mpr responded)
    exact ⟨call.ph, request, present⟩
  · exact fun ph => (linearizes ph).legal
  · intro ph earlier later response request pair first second
    obtain ⟨operation, member, rfl⟩ := List.mem_map.mp first
    obtain ⟨other, memberOther, rfl⟩ := List.mem_map.mp second
    obtain ⟨call, outcome, called, target, -⟩ := asked member
    have answered := witnessed.ordered _ _ response ph request call outcome pair called target
    exact (linearizes ph).realTime _ _ response other.request (answered.sublist (logged memberOther)) second

/-- The orders of the providers make one order for the history of the callers. -/
theorem run_linearizes
    {sum : ProviderHandle → Backend β → Int32 → Int32 → RequestResult Int32} {memory : Nat → Int32}
    (orderly : ∀ ph, Orderly (runtime ph) (sum ph))
    (constant : ∀ ph token, .setSecurityToken ph token ∈ actions → token = m_token ph)
    (ran : run runtime actions (initial runtime m_token memory) = some network) :
    ∃ order, Linearizes
      (Product fun ph => Applies (runtime ph) (m_token ph) (sum ph) (network.providers ph).global.log)
      (fun _ => ∅) (fun ph => (network.providers ph).global.shared.m_backends)
      (observed runtime actions (initial runtime m_token memory)) order := by
  have witnessed := witnessed_run ran
  choose parts linearizes using provider_linearizes orderly (ServedSteadily.run constant ran)
  obtain ⟨order, whole, -⟩ := (witnessed.locally linearizes).linearizes witnessed.sequenced
  exact ⟨order, whole⟩

/-- The response that a caller has got is the one in the order. -/
theorem Witnessed.in_order {past : List (HistoryEvent (ProviderHandle × Request) Response)}
    (witnessed : Witnessed runtime m_token network past) {A : Type}
    {apply : Operation (ProviderHandle × Request) Response → A → A → Prop} {first last : A}
    {order : List (Operation (ProviderHandle × Request) Response)}
    (whole : Linearizes apply first last past order) {rpc : Nat} {call : RemoteCall}
    {ended : Except StdString Returned} (called : network.calls rpc = some (call, some ended)) :
    ∃ response, ended = call.returns response ∧ ⟨rpc, (call.ph, call.request), response⟩ ∈ order ∧
      (rpc, .responded response) ∈ (network.providers call.ph).global.log := by
  obtain ⟨response, same, member⟩ := witnessed.returned rpc call ended called
  obtain ⟨found, calledFound, logged⟩ := witnessed.responded rpc response member
  cases called.symm.trans calledFound
  obtain ⟨request, present⟩ := whole.answered rpc response member
  obtain ⟨found, outcome, calledFound, asked⟩ :=
    (witnessed.invoked rpc request).mp (whole.received _ present)
  cases called.symm.trans calledFound
  exact ⟨response, same, asked ▸ present, logged⟩

/-- Every run of clients, administrators and any number of providers is linearizable as a
whole: in one order that respects the real time of the callers, one sequential map from
providers and ids to backends gives every caller the response that it got. -/
theorem service_linearizable
    {sum : ProviderHandle → Backend β → Int32 → Int32 → RequestResult Int32} {memory : Nat → Int32}
    (orderly : ∀ ph, Orderly (runtime ph) (sum ph))
    (constant : ∀ ph token, .setSecurityToken ph token ∈ actions → token = m_token ph)
    (ran : run runtime actions (initial runtime m_token memory) = some network) :
    ∃ order, Linearizes
        (Product fun ph => Applies (runtime ph) (m_token ph) (sum ph) (network.providers ph).global.log)
        (fun _ => ∅) (fun ph => (network.providers ph).global.shared.m_backends)
        (observed runtime actions (initial runtime m_token memory)) order ∧
      ∀ rpc call ended, network.calls rpc = some (call, some ended) → ∃ response,
        ended = call.returns response ∧ ⟨rpc, (call.ph, call.request), response⟩ ∈ order := by
  obtain ⟨order, whole⟩ := run_linearizes orderly constant ran
  refine ⟨order, whole, fun rpc call ended called => ?_⟩
  obtain ⟨response, same, member, -⟩ := (witnessed_run ran).in_order whole called
  exact ⟨response, same, member⟩

/-- Two administrators create a cache each, on two providers at the same time. -/
def createTwice : List NetworkAction :=
  [.admin 0 (.createCache ⟨lit "na+sm", 0⟩ UUID.clear (lit "dummy") (lit "{}") []),
    .admin 1 (.createCache ⟨lit "na+sm", 1⟩ UUID.clear (lit "dummy") (lit "{}") []),
    .deliver 1, .deliver 0] ++ List.replicate 6 (.handle 0) ++ List.replicate 6 (.handle 1) ++
  [.answer 1, .answer 0]

theorem createTwice_linearizable : ∃ network,
    run (fun _ => DummyCache.sample) createTwice
      (initial (fun _ => DummyCache.sample) (fun _ => []) fun _ => 0) = some network ∧
    ∃ order, Linearizes
        (Product fun ph => Applies DummyCache.sample [] (fun cache x y => cache.object.computeSum x y)
          (network.providers ph).global.log)
        (fun _ => ∅) (fun ph => (network.providers ph).global.shared.m_backends)
        (observed (fun _ => DummyCache.sample) createTwice
          (initial (fun _ => DummyCache.sample) (fun _ => []) fun _ => 0)) order ∧
      0 ∈ order.map (·.thread) ∧ 1 ∈ order.map (·.thread) := by
  obtain ⟨network, ran, ⟨call, ended, first⟩, ⟨other, endedOther, second⟩⟩ : ∃ network,
      run (fun _ => DummyCache.sample) createTwice
        (initial (fun _ => DummyCache.sample) (fun _ => []) fun _ => 0) = some network ∧
      (∃ call ended, network.calls 0 = some (call, some ended)) ∧
      ∃ call ended, network.calls 1 = some (call, some ended) := ⟨_, rfl, ⟨_, _, rfl⟩, ⟨_, _, rfl⟩⟩
  have constant : ∀ ph token, .setSecurityToken ph token ∈ createTwice → token = ([] : StdString) := by
    simp [createTwice]
  obtain ⟨order, linearizes, complete⟩ :=
    service_linearizable (fun _ => dummy_orderly) constant ran
  obtain ⟨_, -, one⟩ := complete 0 call ended first
  obtain ⟨_, -, two⟩ := complete 1 other endedOther second
  exact ⟨network, ran, order, linearizes, List.mem_map_of_mem one, List.mem_map_of_mem two⟩

end Network

end Cachersize

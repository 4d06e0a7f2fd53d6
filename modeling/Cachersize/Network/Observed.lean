import Cachersize.Concurrent.Locality
import Cachersize.Network.Routing

/-! What the callers of a network notice, and how it relates to what the providers log:
a call starts before its provider hears of it, and ends after its provider answered. -/
namespace Cachersize.Network

open Concurrent ProviderImpl

variable {J β : Type}

/-- The start of a call, with the provider and the request, or the response that a
caller gets. -/
def observe (network : Network J β) :
    NetworkAction → List (HistoryEvent (ProviderHandle × Request) Response)
  | .admin rpc call => [.invoke rpc ((RemoteCall.admin call).ph, (RemoteCall.admin call).request)]
  | .makeCacheHandle rpc _ ph cache_id check => if check then [.invoke rpc (ph, .checkCache cache_id)] else []
  | .computeSum rpc object uninitialised x y _ =>
    match network.handles object with
    | ⟨none⟩ => []
    | ⟨some self⟩ => [.invoke rpc (self.m_ph, .computeSum uninitialised self.m_cache_id x y)]
  | .answer rpc =>
    match network.calls rpc with
    | some (call, none) => (network.received rpc call).toList.map (.respond rpc)
    | _ => []
  | .copyHandle .. | .deliver _ | .handle _ | .setSecurityToken .. => []

def observed (runtime : ProviderHandle → Runtime J β) :
    List NetworkAction → Network J β → List (HistoryEvent (ProviderHandle × Request) Response) :=
  trace (step runtime) observe

variable {runtime : ProviderHandle → Runtime J β} {m_token : ProviderHandle → StdString}
variable {actions : List NetworkAction} {network after : Network J β}

private theorem observe_sends {rpc : Nat} {action : NetworkAction} {call : RemoteCall}
    (sends : Sends network rpc action call) :
    network.observe action = [.invoke rpc (call.ph, call.request)] := by
  cases sends with
  | admin | makeCacheHandle => rfl
  | computeSum found => simp [observe, found, RemoteCall.ph, RemoteCall.request]

private theorem observe_assigns {object : Nat} {action : NetworkAction} {handle : CacheHandle}
    (assigns : Assigns network object action handle) : network.observe action = [] := by
  cases assigns <;> rfl

private theorem observe_threw {rpc object : Nat} {uninitialised x y : Int32} {result : Option Nat}
    (empty : network.handles object = ⟨none⟩) :
    network.observe (.computeSum rpc object uninitialised x y result) = [] := by
  simp only [observe, empty]

private theorem observe_directs {ph : ProviderHandle} {action : NetworkAction}
    {change : Action Request StdString}
    (directs : Directs network ph action change) : network.observe action = [] := by
  cases directs <;> rfl

private theorem observe_answer {rpc : Nat} {call : RemoteCall} {response : Response}
    (called : network.calls rpc = some (call, none)) (responded : network.received rpc call = some response) :
    network.observe (.answer rpc) = [.respond rpc response] := by
  simp [observe, called, responded]

theorem request_waits (call : RemoteCall) : call.request.procedure.response_disabled = false := by
  cases call with
  | admin call => cases call <;> rfl
  | makeCacheHandle | computeSum => rfl

theorem mem_responses {response : Response} {events : List (Event J β)} :
    response ∈ responses events ↔ .responded response ∈ events := by
  apply mem_filterMap_unique
  · rfl
  · intro event same
    cases event <;> cases same
    rfl

/-- A response that a caller gets was logged by the provider. -/
theorem received_logged {rpc : Nat} {call : RemoteCall} {response : Response}
    (responded : network.received rpc call = some response) :
    (rpc, .responded response) ∈ (network.providers call.ph).global.log :=
  Global.mem_own.mp (mem_responses.mp (List.mem_of_mem_head? responded))

theorem Sound.unheard (sound : Sound runtime m_token network) {rpc : Nat}
    (fresh : network.calls rpc = none) (ph : ProviderHandle) :
    Global.own rpc (network.providers ph).global.log = [] := by
  obtain ⟨actions, served⟩ := sound.served ph
  cases running : (network.providers ph).threads rpc with
  | none => exact System.own_vacant served running
  | some thread =>
    obtain ⟨call, outcome, called, -⟩ := sound.threads ph rpc thread running
    cases fresh.symm.trans called

/-- The provider answered the one call before it heard of the other one. -/
def Answered (earlier later : Nat) (response : Response) (log : Log J β) : Prop :=
  ∃ before rest, log = before ++ rest ∧ (earlier, .responded response) ∈ before ∧
    Global.own later before = []

theorem Answered.append {earlier later : Nat} {response : Response} {log : Log J β}
    (answered : Answered earlier later response log) (more : Log J β) :
    Answered earlier later response (log ++ more) := by
  obtain ⟨before, rest, rfl, member, silent⟩ := answered
  exact ⟨before, rest ++ more, List.append_assoc .., member, silent⟩

/-- What the callers have noticed so far agrees with the calls and with the logs. -/
structure Witnessed (runtime : ProviderHandle → Runtime J β) (m_token : ProviderHandle → StdString)
    (network : Network J β) (past : List (HistoryEvent (ProviderHandle × Request) Response)) : Prop where
  sound : Sound runtime m_token network
  sequenced : Sequenced past
  invoked : ∀ rpc request, .invoke rpc request ∈ past ↔
    ∃ call outcome, network.calls rpc = some (call, outcome) ∧ request = (call.ph, call.request)
  responded : ∀ rpc response, .respond rpc response ∈ past → ∃ call,
    network.calls rpc = some (call, some (call.returns response)) ∧
      (rpc, .responded response) ∈ (network.providers call.ph).global.log
  returned : ∀ rpc call ended, network.calls rpc = some (call, some ended) →
    ∃ response, ended = call.returns response ∧ .respond rpc response ∈ past
  ordered : ∀ earlier later response ph request call outcome,
    [.respond earlier response, .invoke later (ph, request)].Sublist past →
    network.calls earlier = some (call, outcome) → call.ph = ph →
      Answered earlier later response (network.providers ph).global.log

namespace Witnessed

theorem initial (memory : Nat → Int32) :
    Witnessed runtime m_token (Network.initial runtime m_token memory) [] where
  sound := .initial memory
  sequenced := .nil
  invoked := by simp [Network.initial]
  responded := by simp
  returned := by simp [Network.initial]
  ordered := by simp

variable {past : List (HistoryEvent (ProviderHandle × Request) Response)}
variable (witnessed : Witnessed runtime m_token network past)
include witnessed

theorem sent {rpc : Nat} {call : RemoteCall} (fresh : network.calls rpc = none)
    (sound : Sound runtime m_token
      { network with calls := Function.update network.calls rpc (some (call, none)) }) :
    Witnessed runtime m_token
      { network with calls := Function.update network.calls rpc (some (call, none)) }
      (past ++ [.invoke rpc (call.ph, call.request)]) where
  sound := sound
  sequenced := by
    refine witnessed.sequenced.invoke (fun request member => ?_) (fun response member => ?_) _
    · obtain ⟨_, _, called, -⟩ := (witnessed.invoked rpc request).mp member
      cases fresh.symm.trans called
    · obtain ⟨_, called, -⟩ := witnessed.responded rpc response member
      cases fresh.symm.trans called
  invoked := by
    intro other request
    by_cases same : other = rpc
    · subst same
      have unheard : .invoke other request ∉ past := by
        intro member
        obtain ⟨_, _, called, -⟩ := (witnessed.invoked other request).mp member
        cases fresh.symm.trans called
      simp [unheard]
    · simpa [same] using witnessed.invoked other request
  responded := by
    intro other response member
    have old : .respond other response ∈ past := by simpa using member
    obtain ⟨found, called, logged⟩ := witnessed.responded other response old
    have apart : other ≠ rpc := by
      intro same
      rw [same, fresh] at called
      cases called
    exact ⟨found, by simpa [apart] using called, logged⟩
  returned := by
    intro other found ended called
    have apart : other ≠ rpc := by
      intro same
      simp [same] at called
    obtain ⟨response, same, member⟩ := witnessed.returned other found ended (by simpa [apart] using called)
    exact ⟨response, same, List.mem_append_left _ member⟩
  ordered := by
    intro earlier later response ph request found outcome pair called target
    have heard : ∃ call, network.calls earlier = some (call, some (call.returns response)) ∧
        (earlier, .responded response) ∈ (network.providers call.ph).global.log :=
      witnessed.responded earlier response (by simpa using pair.subset List.mem_cons_self)
    obtain ⟨asked, before, logged⟩ := heard
    have apart : earlier ≠ rpc := by
      intro same
      rw [same, fresh] at before
      cases before
    have same : network.calls earlier = some (found, outcome) := by simpa [apart] using called
    cases before.symm.trans same
    rcases pair_sublist_concat.mp pair with old | ⟨-, new⟩
    · exact witnessed.ordered earlier later response ph request found _ old before target
    · obtain ⟨rfl, -⟩ := HistoryEvent.invoke.inj new
      rw [target] at logged
      exact ⟨_, [], (List.append_nil _).symm, logged, witnessed.sound.unheard fresh ph⟩

/-- What a provider does on its own is not observed, and its log only grows. -/
theorem served {ph : ProviderHandle} {provider : ProviderImpl.Provider J β} {entries : Log J β}
    (grown : provider.global.log = (network.providers ph).global.log ++ entries)
    (sound : Sound runtime m_token
      { network with providers := Function.update network.providers ph provider }) :
    Witnessed runtime m_token
      { network with providers := Function.update network.providers ph provider } past := by
  have longer (other : ProviderHandle) : ∃ more,
      (Function.update network.providers ph provider other).global.log =
        (network.providers other).global.log ++ more := by
    by_cases same : other = ph
    · subst same
      exact ⟨entries, by simpa using grown⟩
    · exact ⟨[], by simp [same]⟩
  refine { witnessed with
    sound := sound
    responded := fun rpc response member => ?_
    ordered := fun earlier later response other request call outcome pair called target => ?_ }
  · obtain ⟨call, called, logged⟩ := witnessed.responded rpc response member
    obtain ⟨more, split⟩ := longer call.ph
    refine ⟨call, called, ?_⟩
    rw [split]
    exact List.mem_append_left _ logged
  · obtain ⟨more, split⟩ := longer other
    rw [split]
    exact (witnessed.ordered earlier later response other request call outcome pair called target).append
      more

theorem answered {rpc : Nat} {call : RemoteCall} {response : Response} {after : Network J β}
    (called : network.calls rpc = some (call, none)) (responded : network.received rpc call = some response)
    (calls : after.calls = Function.update network.calls rpc (some (call, some (call.returns response))))
    (providers : after.providers = network.providers) (sound : Sound runtime m_token after) :
    Witnessed runtime m_token after (past ++ [.respond rpc response]) where
  sound := sound
  sequenced := witnessed.sequenced.respond rpc response
  invoked := by
    intro other request
    have old : .invoke other request ∈ past ++ [.respond rpc response] ↔ .invoke other request ∈ past := by
      simp
    rw [old, witnessed.invoked other request, calls]
    by_cases same : other = rpc
    · subst same
      simp [called]
    · simp [same]
  responded := by
    intro other answer member
    rw [calls, providers]
    rcases List.mem_append.mp member with old | new
    · obtain ⟨found, ended, logged⟩ := witnessed.responded other answer old
      have apart : other ≠ rpc := by
        intro same
        rw [same, called] at ended
        cases ended
      exact ⟨found, by simpa [apart] using ended, logged⟩
    · cases List.mem_singleton.mp new
      exact ⟨call, by simp, received_logged responded⟩
  returned := by
    intro other found ended present
    rw [calls] at present
    by_cases same : other = rpc
    · subst same
      rw [Function.update_self] at present
      cases present
      exact ⟨response, rfl, by simp⟩
    · obtain ⟨answer, text, member⟩ :=
        witnessed.returned other found ended (by simpa [same] using present)
      exact ⟨answer, text, List.mem_append_left _ member⟩
  ordered := by
    intro earlier later answer ph request found outcome pair present target
    rw [providers]
    rcases pair_sublist_concat.mp pair with old | ⟨-, new⟩
    · obtain ⟨asked, before, -⟩ := witnessed.responded earlier answer (old.subset List.mem_cons_self)
      have apart : earlier ≠ rpc := by
        intro same
        rw [same, called] at before
        cases before
      rw [calls] at present
      exact witnessed.ordered earlier later answer ph request found outcome old
        (by simpa [apart] using present) target
    · cases new

theorem moves {action : NetworkAction} (moved : Moves runtime network action after) :
    Witnessed runtime m_token after (past ++ network.observe action) := by
  have sound := witnessed.sound.moves moved
  cases moved with
  | sent fresh sends =>
    rw [observe_sends sends]
    exact witnessed.sent fresh sound
  | assigned assigns =>
    rw [observe_assigns assigns, List.append_nil]
    exact { witnessed with sound := sound }
  | threw empty =>
    rw [observe_threw empty, List.append_nil]
    exact witnessed
  | @served ph _ change provider directs stepped =>
    rw [observe_directs directs, List.append_nil]
    have ran : (system (runtime ph)).run [change] (network.providers ph) = some provider := by
      simp [System.run, stepped]
    obtain ⟨entries, grown⟩ := System.run_log ran
    exact witnessed.served grown sound
  | answered called responded =>
    rw [observe_answer called responded]
    exact witnessed.answered called responded rfl rfl sound

end Witnessed

theorem witnessed_run {memory : Nat → Int32}
    (ran : run runtime actions (initial runtime m_token memory) = some network) :
    Witnessed runtime m_token network (observed runtime actions (initial runtime m_token memory)) := by
  refine (run_repeats runtime).trace_induction (Witnessed runtime m_token) ?_ (.initial memory) ran
  intro action _ before later past witnessed stepped
  exact witnessed.moves (step_moves stepped)

end Cachersize.Network

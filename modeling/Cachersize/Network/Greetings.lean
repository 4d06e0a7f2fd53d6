import Cachersize.Network.Settling
import Cachersize.Provider.Readers

/-! Greetings. `CacheHandle::sayHello` sends an RPC that nobody answers. Clients may send
any number of them; to the calls on the network this makes no difference. -/
namespace Cachersize

open Concurrent ProviderImpl

variable {J β : Type}

/-- A network with the greetings sent so far. They are numbered together with the calls. -/
structure GreetedNetwork (J β : Type) where
  network : Network J β
  greetings : Nat → Option CacheHandleImpl

inductive GreetedAction where
  | network (action : NetworkAction)
  | sayHello (rpc object : Nat)
  | deliver (rpc : Nat)
  | handle (rpc : Nat)

/-- What an action does on a network without greetings. -/
def GreetedAction.ungreeted : GreetedAction → Option NetworkAction
  | network action => some action
  | sayHello .. | deliver _ | handle _ => none

/-- The calls of `Backend::sayHello`. -/
def BackendCall.isHello : BackendCall β → Bool
  | sayHello _ => true
  | computeSum .. | destroy _ => false

def Request.greets (request : Request) : Bool := request.procedure.response_disabled

private theorem Request.greets_reads {request : Request} (greets : request.greets = true) :
    request.Reads (BackendCall.isHello (β := β)) := by
  cases request with
  | sayHello cache_id => exact fun _ => rfl
  | checkCache cache_id => exact trivial
  | createCache | openCache | closeCache | destroyCache | computeSum => cases greets

namespace GreetedNetwork

variable (runtime : ProviderHandle → Runtime J β)

def initial (m_token : ProviderHandle → StdString) (memory : Nat → Int32) : GreetedNetwork J β where
  network := Network.initial runtime m_token memory
  greetings := fun _ => none

def onProvider (greeted : GreetedNetwork J β) (self : CacheHandleImpl)
    (action : Action Request StdString) : Option (GreetedNetwork J β) :=
  (greeted.network.onProvider runtime self.m_ph action).map fun network => { greeted with network := network }

/-- `sayHello` on a handle without a cache throws. -/
def step (greeted : GreetedNetwork J β) : GreetedAction → Option (GreetedNetwork J β)
  | .network action =>
    if action.starts.any fun rpc => (greeted.greetings rpc).isSome then none
    else (greeted.network.step runtime action).map fun network => { greeted with network := network }
  | .sayHello rpc object =>
    match greeted.network.handles object with
    | ⟨none⟩ => some greeted
    | ⟨some self⟩ =>
      if (greeted.network.calls rpc).isNone ∧ (greeted.greetings rpc).isNone then
        some { greeted with greetings := Function.update greeted.greetings rpc (some self) }
      else none
  | .deliver rpc => (greeted.greetings rpc).bind fun self =>
    greeted.onProvider runtime self (.spawn rpc (.sayHello self.m_cache_id))
  | .handle rpc => (greeted.greetings rpc).bind fun self => greeted.onProvider runtime self (.step rpc)

def run : List GreetedAction → GreetedNetwork J β → Option (GreetedNetwork J β)
  | [], greeted => some greeted
  | action :: rest, greeted => (greeted.step runtime action).bind (run rest)

theorem run_repeats : Repeats (fun greeted action => step runtime greeted action) (run runtime) :=
  ⟨fun _ => rfl, fun _ _ _ => rfl⟩

variable {runtime} {greeted after : GreetedNetwork J β}

/-- The action is one of the provider that the greeting goes to. -/
inductive Directs (greeted : GreetedNetwork J β) (self : CacheHandleImpl) :
    GreetedAction → Action Request StdString → Prop where
  | deliver (found : greeted.greetings rpc = some self) :
      Directs greeted self (.deliver rpc) (.spawn rpc (.sayHello self.m_cache_id))
  | handle (found : greeted.greetings rpc = some self) : Directs greeted self (.handle rpc) (.step rpc)

/-- Everything that a step with greetings can do. -/
inductive Moves (runtime : ProviderHandle → Runtime J β) (greeted : GreetedNetwork J β) :
    GreetedAction → GreetedNetwork J β → Prop where
  | called (apart : ∀ rpc, action.starts = some rpc → greeted.greetings rpc = none)
      (stepped : greeted.network.step runtime action = some rest) :
      Moves runtime greeted (.network action) { greeted with network := rest }
  | threw (empty : greeted.network.handles object = ⟨none⟩) :
      Moves runtime greeted (.sayHello rpc object) greeted
  | sent (found : greeted.network.handles object = ⟨some self⟩) (apart : greeted.network.calls rpc = none)
      (fresh : greeted.greetings rpc = none) :
      Moves runtime greeted (.sayHello rpc object)
        { greeted with greetings := Function.update greeted.greetings rpc (some self) }
  | served (directs : Directs greeted self action change)
      (stepped : (system (runtime self.m_ph)).step (greeted.network.providers self.m_ph) change =
        some provider) :
      Moves runtime greeted action { greeted with network := { greeted.network with
        providers := Function.update greeted.network.providers self.m_ph provider } }

theorem onProvider_moves {self : CacheHandleImpl} {action : GreetedAction}
    {change : Action Request StdString} (directs : Directs greeted self action change)
    (moved : greeted.onProvider runtime self change = some after) : Moves runtime greeted action after := by
  obtain ⟨network, acted, rfl⟩ := Option.map_eq_some_iff.mp moved
  obtain ⟨provider, stepped, rfl⟩ := Option.map_eq_some_iff.mp acted
  exact .served directs stepped

theorem step_moves {action : GreetedAction} (stepped : greeted.step runtime action = some after) :
    Moves runtime greeted action after := by
  cases action with
  | network action =>
    simp only [step] at stepped
    split at stepped
    · cases stepped
    · rename_i apart
      obtain ⟨network, moved, rfl⟩ := Option.map_eq_some_iff.mp stepped
      refine .called (fun rpc starts => ?_) moved
      simpa [starts] using apart
  | sayHello rpc object =>
    simp only [step] at stepped
    split at stepped
    · rename_i empty
      cases stepped
      exact .threw empty
    · rename_i self found
      split at stepped
      · rename_i fresh
        cases stepped
        exact .sent found (Option.isNone_iff_eq_none.mp fresh.1) (Option.isNone_iff_eq_none.mp fresh.2)
      · cases stepped
  | deliver rpc =>
    obtain ⟨self, found, moved⟩ := Option.bind_eq_some_iff.mp stepped
    exact onProvider_moves (.deliver found) moved
  | handle rpc =>
    obtain ⟨self, found, moved⟩ := Option.bind_eq_some_iff.mp stepped
    exact onProvider_moves (.handle found) moved

private theorem ne_of_fresh {α : Type} {used : Nat → Option α} {rpc other : Nat} {value : α}
    (fresh : used rpc = none) (found : used other = some value) : other ≠ rpc := by
  rintro rfl
  cases fresh.symm.trans found

def Sent (greeted : GreetedNetwork J β) (rpc : Nat) (request : Request) : Prop :=
  (∃ call outcome, greeted.network.calls rpc = some (call, outcome) ∧ request = call.request) ∨
  ∃ self, greeted.greetings rpc = some self ∧ request = .sayHello self.m_cache_id

/-- No number stands for a call and for a greeting, and threads handle what was sent. -/
structure Numbered (greeted : GreetedNetwork J β) : Prop where
  apart : ∀ rpc self, greeted.greetings rpc = some self → greeted.network.calls rpc = none
  threads : ∀ ph rpc request program,
    (greeted.network.providers ph).threads rpc = some ⟨request, program⟩ → greeted.Sent rpc request

namespace Numbered

theorem initial (m_token : ProviderHandle → StdString) (memory : Nat → Int32) :
    Numbered (GreetedNetwork.initial runtime m_token memory) where
  apart := nofun
  threads := nofun

theorem serve {ph : ProviderHandle} {change : Action Request StdString}
    {provider : ProviderImpl.Provider J β} (numbered : Numbered greeted)
    (arrives : ∀ rpc request, change = .spawn rpc request → greeted.Sent rpc request)
    (stepped : (system (runtime ph)).step (greeted.network.providers ph) change = some provider) :
    Numbered { greeted with network := { greeted.network with
      providers := Function.update greeted.network.providers ph provider } } where
  apart := numbered.apart
  threads := by
    intro other rpc request program present
    by_cases same : other = ph
    · subst same
      rcases System.step_tag stepped (by simpa using present) with arriving | ⟨earlier, running⟩
      · exact arrives rpc request arriving
      · exact numbered.threads other rpc request earlier running
    · exact numbered.threads other rpc request program (by simpa [same] using present)

theorem grow {calls : Nat → Option (RemoteCall × Option (Except StdString Returned))}
    {handles : Nat → CacheHandle} {memory : Nat → Int32} {greetings : Nat → Option CacheHandleImpl}
    (numbered : Numbered greeted)
    (apart : ∀ rpc self, greetings rpc = some self → calls rpc = none)
    (called : ∀ rpc call outcome, greeted.network.calls rpc = some (call, outcome) →
      ∃ later, calls rpc = some (call, later))
    (kept : ∀ rpc self, greeted.greetings rpc = some self → greetings rpc = some self) :
    Numbered ⟨⟨greeted.network.providers, calls, handles, memory⟩, greetings⟩ where
  apart := apart
  threads := by
    intro ph rpc request program present
    rcases numbered.threads ph rpc request program present with ⟨call, outcome, found, same⟩ |
      ⟨self, found, same⟩
    · obtain ⟨later, still⟩ := called rpc call outcome found
      exact .inl ⟨call, later, still, same⟩
    · exact .inr ⟨self, kept rpc self found, same⟩

theorem called {action : NetworkAction} {network : Network J β} (numbered : Numbered greeted)
    (apart : ∀ rpc, action.starts = some rpc → greeted.greetings rpc = none)
    (moved : Network.Moves runtime greeted.network action network) :
    Numbered { greeted with network := network } := by
  cases moved with
  | @sent rpc _ call fresh sends =>
    have free : greeted.greetings rpc = none := by
      apply apart
      cases sends <;> rfl
    refine numbered.grow ?_ ?_ fun _ _ found => found
    · intro other self found
      have different : other ≠ rpc := ne_of_fresh free found
      simpa [different] using numbered.apart other self found
    · intro other earlier outcome found
      have different : other ≠ rpc := ne_of_fresh fresh found
      exact ⟨outcome, by simpa [different] using found⟩
  | assigned =>
    exact numbered.grow numbered.apart (fun _ _ outcome found => ⟨outcome, found⟩) fun _ _ found => found
  | threw => exact numbered
  | served directs stepped =>
    refine numbered.serve ?_ stepped
    intro rpc request arriving
    cases directs with
    | deliver called =>
      cases arriving
      exact .inl ⟨_, _, called, rfl⟩
    | handle | setSecurityToken => cases arriving
  | @answered rpc call response called responded =>
    refine numbered.grow ?_ ?_ fun _ _ found => found
    · intro other self found
      have different : rpc ≠ other := ne_of_fresh (numbered.apart other self found) called
      simpa [different.symm] using numbered.apart other self found
    · intro other earlier outcome found
      exact (Network.called_answered called other earlier).mpr ⟨outcome, found⟩

theorem moves {action : GreetedAction} (numbered : Numbered greeted)
    (moved : Moves runtime greeted action after) : Numbered after := by
  cases moved with
  | called apart stepped => exact numbered.called apart (Network.step_moves stepped)
  | threw => exact numbered
  | @sent object self rpc found apart fresh =>
    refine numbered.grow ?_ (fun _ _ outcome called => ⟨outcome, called⟩) ?_
    · intro other greeter greets
      by_cases same : other = rpc
      · exact same ▸ apart
      · exact numbered.apart other greeter (by simpa [same] using greets)
    · intro other greeter greets
      have different : other ≠ rpc := ne_of_fresh fresh greets
      simpa [different] using greets
  | served directs stepped =>
    refine numbered.serve ?_ stepped
    intro rpc request arriving
    cases directs with
    | deliver found =>
      cases arriving
      exact .inr ⟨_, found, rfl⟩
    | handle => cases arriving

end Numbered

/-- Greetings read the registry, and the backends forget them. -/
def greeters {runtime : Runtime J β} (forgets : runtime.Forgets BackendCall.isHello) :
    Passing (system runtime) Request.greets :=
  readers forgets fun _ => Request.greets_reads

/-- The network without its greetings. -/
structure Lacks (forgets : ∀ ph, (runtime ph).Forgets BackendCall.isHello) (greeted : GreetedNetwork J β)
    (plain : Network J β) : Prop where
  numbered : Numbered greeted
  same : plain = { greeted.network with providers := plain.providers }
  providers : ∀ ph, ∃ removed, (greeters (forgets ph)).Lacks removed (greeted.network.providers ph)
    (plain.providers ph)

variable {forgets : ∀ ph, (runtime ph).Forgets BackendCall.isHello} {plain : Network J β}

namespace Lacks

theorem initial (m_token : ProviderHandle → StdString) (memory : Nat → Int32) :
    Lacks forgets (GreetedNetwork.initial runtime m_token memory)
      (Network.initial runtime m_token memory) where
  numbered := .initial m_token memory
  same := rfl
  providers := by
    intro ph
    have start := initial_disciplined (runtime ph) (m_token ph)
    exact ⟨[], Passing.lacks_initial start (by rfl)⟩

theorem kept (lacks : Lacks forgets greeted plain) {ph : ProviderHandle} {removed : List Nat}
    (rest : (greeters (forgets ph)).Lacks removed (greeted.network.providers ph) (plain.providers ph))
    {rpc : Nat} {call : RemoteCall} {outcome : Option (Except StdString Returned)}
    (called : greeted.network.calls rpc = some (call, outcome)) : rpc ∉ removed := by
  intro member
  obtain ⟨request, program, present, greets, -⟩ := rest.present rpc member
  rcases lacks.numbered.threads ph rpc request program present with ⟨other, _, -, rfl⟩ | ⟨self, greeting, -⟩
  · cases greets.symm.trans (Network.request_waits other)
  · cases called.symm.trans (lacks.numbered.apart rpc self greeting)

theorem gone (lacks : Lacks forgets greeted plain) {ph : ProviderHandle} {removed : List Nat}
    (rest : (greeters (forgets ph)).Lacks removed (greeted.network.providers ph) (plain.providers ph))
    {rpc : Nat} {self : CacheHandleImpl} (greeting : greeted.greetings rpc = some self)
    {request : Request} {program : Handler J β Unit}
    (present : (greeted.network.providers ph).threads rpc = some ⟨request, program⟩) : rpc ∈ removed := by
  apply (rest.mem_removed present).mpr
  rcases lacks.numbered.threads ph rpc request program present with ⟨call, outcome, called, -⟩ |
    ⟨other, -, rfl⟩
  · cases called.symm.trans (lacks.numbered.apart rpc self greeting)
  · rfl

/-- One provider moves, and perhaps the one without greetings. -/
theorem update (lacks : Lacks forgets greeted plain) {ph : ProviderHandle} {removed : List Nat}
    {provider remaining : ProviderImpl.Provider J β}
    (numbered : Numbered { greeted with network := { greeted.network with
      providers := Function.update greeted.network.providers ph provider } })
    (rest : (greeters (forgets ph)).Lacks removed provider remaining) :
    Lacks forgets { greeted with network := { greeted.network with
        providers := Function.update greeted.network.providers ph provider } }
      { plain with providers := Function.update plain.providers ph remaining } where
  numbered := numbered
  same := by rw [lacks.same]
  providers := by
    intro other
    by_cases same : other = ph
    · subst same
      exact ⟨removed, by simpa using rest⟩
    · simpa [same] using lacks.providers other

/-- What a provider does for a call or an administrator, it does without greetings, too. -/
theorem mimic (lacks : Lacks forgets greeted plain) {ph : ProviderHandle}
    {change : Action Request StdString} {network : Network J β}
    (stays : ∀ removed, (greeters (forgets ph)).Lacks removed (greeted.network.providers ph)
      (plain.providers ph) → ¬ Passing.Dropped Request.greets removed change)
    (acted : greeted.network.onProvider runtime ph change = some network)
    (numbered : Numbered { greeted with network := network }) :
    ∃ later, plain.onProvider runtime ph change = some later ∧
      Lacks forgets { greeted with network := network } later := by
  obtain ⟨provider, stepped, rfl⟩ := Option.map_eq_some_iff.mp acted
  obtain ⟨removed, rest⟩ := lacks.providers ph
  have valid : Disciplined provider := Disciplined.step rest.inv stepped
  obtain ⟨remaining, mimicked, related⟩ := rest.mimic (stays removed rest) stepped valid
  exact ⟨_, by rw [Network.onProvider, mimicked, Option.map_some], lacks.update numbered related⟩

/-- The action of a client or an administrator that no provider notices. -/
theorem elsewhere (lacks : Lacks forgets greeted plain) {network : Network J β}
    (numbered : Numbered { greeted with network := network })
    (untouched : network.providers = greeted.network.providers) :
    Lacks forgets { greeted with network := network } { network with providers := plain.providers } where
  numbered := numbered
  same := rfl
  providers := untouched ▸ lacks.providers

theorem received (lacks : Lacks forgets greeted plain) {rpc : Nat} {call : RemoteCall}
    {outcome : Option (Except StdString Returned)}
    (called : greeted.network.calls rpc = some (call, outcome)) :
    plain.received rpc call = greeted.network.received rpc call := by
  obtain ⟨removed, rest⟩ := lacks.providers call.ph
  rw [Network.received, Network.received, rest.own (lacks.kept rest called)]

theorem calls (lacks : Lacks forgets greeted plain) : plain.calls = greeted.network.calls := by
  rw [lacks.same]

theorem handles (lacks : Lacks forgets greeted plain) : plain.handles = greeted.network.handles := by
  rw [lacks.same]

theorem send (lacks : Lacks forgets greeted plain) {rpc : Nat} {call : RemoteCall} {network : Network J β}
    (sent : greeted.network.send rpc call = some network)
    (numbered : Numbered { greeted with network := network }) :
    ∃ later, plain.send rpc call = some later ∧ Lacks forgets { greeted with network := network } later := by
  obtain ⟨fresh, rfl⟩ := Network.send_eq sent
  have resent : plain.send rpc call = some { greeted.network with
      providers := plain.providers
      calls := Function.update greeted.network.calls rpc (some (call, none)) } := by
    rw [lacks.same]
    simp [Network.send, fresh]
  exact ⟨_, resent, lacks.elsewhere numbered rfl⟩

theorem called (lacks : Lacks forgets greeted plain) {action : NetworkAction} {network : Network J β}
    (stepped : greeted.network.step runtime action = some network)
    (numbered : Numbered { greeted with network := network }) :
    ∃ later, plain.step runtime action = some later ∧
      Lacks forgets { greeted with network := network } later := by
  cases action with
  | admin rpc call => exact lacks.send stepped numbered
  | makeCacheHandle rpc object ph cache_id check =>
    cases check with
    | true => exact lacks.send stepped numbered
    | false =>
      cases stepped
      exact ⟨_, by rw [lacks.same]; rfl, lacks.elsewhere numbered rfl⟩
  | copyHandle object other =>
    cases stepped
    exact ⟨_, by rw [lacks.same]; rfl, lacks.elsewhere numbered rfl⟩
  | computeSum rpc object uninitialised x y result =>
    simp only [Network.step, lacks.handles] at stepped ⊢
    split at stepped
    · rename_i empty
      cases stepped
      exact ⟨plain, rfl, lacks⟩
    · exact lacks.send stepped numbered
  | deliver rpc =>
    simp only [Network.step, lacks.calls] at stepped ⊢
    split at stepped
    · rename_i call outcome called
      refine lacks.mimic (fun removed rest dropped => ?_) stepped numbered
      cases (Network.request_waits call).symm.trans dropped
    · cases stepped
  | handle rpc =>
    simp only [Network.step, lacks.calls] at stepped ⊢
    split at stepped
    · rename_i call outcome called
      exact lacks.mimic (fun removed rest => lacks.kept rest called) stepped numbered
    · cases stepped
  | answer rpc =>
    simp only [Network.step, lacks.calls] at stepped ⊢
    split at stepped
    · rename_i call called
      obtain ⟨response, responded, rfl⟩ := Option.map_eq_some_iff.mp stepped
      rw [lacks.received called, responded]
      exact ⟨_, by rw [lacks.same]; rfl, lacks.elsewhere numbered rfl⟩
    · cases stepped
  | setSecurityToken ph token =>
    exact lacks.mimic (fun removed rest dropped => dropped) stepped numbered

theorem moves (lacks : Lacks forgets greeted plain) {action : GreetedAction}
    (moved : Moves runtime greeted action after) :
    ∃ later, Network.run runtime action.ungreeted.toList plain = some later ∧ Lacks forgets after later := by
  have numbered := lacks.numbered.moves moved
  cases moved with
  | called apart stepped =>
    obtain ⟨later, mimicked, related⟩ := lacks.called stepped numbered
    refine ⟨later, ?_, related⟩
    simp [GreetedAction.ungreeted, Network.run, mimicked]
  | threw => exact ⟨plain, rfl, lacks⟩
  | sent => exact ⟨plain, rfl, ⟨numbered, lacks.same, lacks.providers⟩⟩
  | @served self _ change provider directs stepped =>
    obtain ⟨removed, rest⟩ := lacks.providers self.m_ph
    have valid : Disciplined provider := Disciplined.step rest.inv stepped
    have unmoved : { plain with
        providers := Function.update plain.providers self.m_ph (plain.providers self.m_ph) } = plain := by
      simp
    refine ⟨plain, ?_, ?_⟩
    · cases directs <;> rfl
    · rw [← unmoved]
      cases directs with
      | deliver found => exact lacks.update numbered (rest.arrive rfl stepped valid)
      | handle found =>
        rcases System.step_cases stepped with ⟨_, _, same, -⟩ |
          ⟨_, _, _, _, _, _, _, same, running, -⟩ | ⟨_, same, -⟩
        · cases same
        · cases same
          exact lacks.update numbered (rest.pass (lacks.gone rest found running) stepped valid)
        · cases same

/-- The entries that a provider lacks are those of greetings. -/
theorem log (lacks : Lacks forgets greeted plain) (ph : ProviderHandle) :
    (plain.providers ph).global.log =
      (greeted.network.providers ph).global.log.filter fun entry => (greeted.greetings entry.1).isNone := by
  obtain ⟨removed, rest⟩ := lacks.providers ph
  rw [rest.log]
  apply List.filter_congr
  intro entry member
  have active : Global.own entry.1 (greeted.network.providers ph).global.log ≠ [] :=
    List.ne_nil_of_mem (Global.mem_own.mpr member)
  cases running : (greeted.network.providers ph).threads entry.1 with
  | none => exact absurd (rest.vacant entry.1 running) active
  | some thread =>
    rcases lacks.numbered.threads ph entry.1 thread.tag thread.program running with
      ⟨call, outcome, called, -⟩ | ⟨self, greeting, -⟩
    · have unsent : greeted.greetings entry.1 = none := by
        cases greeting : greeted.greetings entry.1 with
        | none => rfl
        | some self => cases called.symm.trans (lacks.numbered.apart entry.1 self greeting)
      simp [lacks.kept rest called, unsent]
    · simp [lacks.gone rest greeting running, greeting]

end Lacks

/-- A run with greetings, and the same run without: all calls return the same, all handles
and all variables are the same, and so are the caches of every provider and what the calls
do there. -/
theorem greetings_without_influence (forgets : ∀ ph, (runtime ph).Forgets BackendCall.isHello)
    {m_token : ProviderHandle → StdString} {memory : Nat → Int32} {actions : List GreetedAction}
    (ran : run runtime actions (initial runtime m_token memory) = some greeted) :
    ∃ plain, Network.run runtime (actions.filterMap GreetedAction.ungreeted)
        (Network.initial runtime m_token memory) = some plain ∧
      plain.calls = greeted.network.calls ∧ plain.handles = greeted.network.handles ∧
      plain.memory = greeted.network.memory ∧
      ∀ ph, (plain.providers ph).global.shared.m_backends =
          (greeted.network.providers ph).global.shared.m_backends ∧
        (plain.providers ph).global.log = (greeted.network.providers ph).global.log.filter fun entry =>
          (greeted.greetings entry.1).isNone := by
  have start : Lacks forgets _ _ := .initial m_token memory
  obtain ⟨plain, ranPlain, lacks⟩ := (run_repeats runtime).hide (Network.run_repeats runtime)
    GreetedAction.ungreeted (Lacks forgets)
    (fun _ _ _ _ _ lacks stepped => lacks.moves (step_moves stepped)) start ran
  refine ⟨plain, ranPlain, lacks.calls, lacks.handles, by rw [lacks.same], fun ph => ⟨?_, lacks.log ph⟩⟩
  obtain ⟨removed, rest⟩ := lacks.providers ph
  have alike : (plain.providers ph).global.shared = unlocked removed _ := rest.alike
  rw [alike]
  rfl

/-- A greeting holds the mutex when a sum is asked for, and greets a cache that is gone. -/
def lateGreeting (ph : ProviderHandle) : List GreetedAction :=
  List.flatten [
    [.network (.admin 0 (.createCache ph UUID.clear (lit "dummy") (lit "{}") [])), .network (.deliver 0)],
    List.replicate 6 (.network (.handle 0)),
    [.network (.answer 0), .network (.makeCacheHandle 1 0 ph UUID.clear false), .sayHello 1 0, .deliver 1,
      .handle 1, .network (.computeSum 2 0 0 1 2 (some 7)), .network (.deliver 2), .handle 1, .handle 1],
    List.replicate 6 (.network (.handle 2)),
    [.network (.answer 2), .network (.admin 3 (.destroyCache ph UUID.clear [])), .network (.deliver 3)],
    List.replicate 9 (.network (.handle 3)), [.handle 1, .handle 1]]

theorem lateGreeting_without_influence : ∃ (greeted : GreetedNetwork Unit (DummyCache Unit))
      (plain : Network Unit (DummyCache Unit)),
    run (fun _ => DummyCache.sample) (lateGreeting ⟨lit "na+sm", 0⟩)
      (initial (fun _ => DummyCache.sample) (fun _ => []) fun _ => 0) = some greeted ∧
    greeted.greetings 1 = some ⟨⟨lit "na+sm", 0⟩, UUID.clear⟩ ∧
    Network.run (fun _ => DummyCache.sample)
      ((lateGreeting ⟨lit "na+sm", 0⟩).filterMap GreetedAction.ungreeted)
      (Network.initial (fun _ => DummyCache.sample) (fun _ => []) fun _ => 0) = some plain ∧
    plain.memory 7 = 3 := by
  obtain ⟨greeted, ran, greeting, summed⟩ : ∃ greeted,
      run (fun _ => DummyCache.sample) (lateGreeting ⟨lit "na+sm", 0⟩)
        (initial (fun _ => DummyCache.sample) (fun _ => []) fun _ => 0) = some greeted ∧
      greeted.greetings 1 = some ⟨⟨lit "na+sm", 0⟩, UUID.clear⟩ ∧ greeted.network.memory 7 = 3 :=
    ⟨_, rfl, rfl, rfl⟩
  have forgets : ∀ _ : ProviderHandle, DummyCache.sample.Forgets BackendCall.isHello :=
    fun _ => sample_forgets BackendCall.isHello
  obtain ⟨plain, ranPlain, -, -, memory, -⟩ := greetings_without_influence forgets ran
  exact ⟨greeted, plain, ran, greeting, ranPlain, by rw [memory, summed]⟩

end GreetedNetwork

end Cachersize

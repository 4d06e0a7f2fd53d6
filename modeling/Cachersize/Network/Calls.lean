import Cachersize.Client.Effects
import Cachersize.Provider.Responses

/-! Administrators, clients and providers on one network. A call is sent, delivered to
the provider that it names, handled there step by step, and answered to its caller;
the calls of all parties interleave. -/
namespace Cachersize

open Concurrent

/-- The calls of `Admin`. `generated` is what `UUID::generate()` returns for the call. -/
inductive AdminCall where
  | createCache (ph : ProviderHandle) (generated : UUID) (cache_type cache_config token : StdString)
  | openCache (ph : ProviderHandle) (generated : UUID) (cache_type cache_config token : StdString)
  | closeCache (ph : ProviderHandle) (cache_id : UUID) (token : StdString)
  | destroyCache (ph : ProviderHandle) (cache_id : UUID) (token : StdString)
  deriving DecidableEq

/-- A call that sends an RPC. `object` is the `CacheHandle` that the result of a
checked `makeCacheHandle` goes to. -/
inductive RemoteCall where
  | admin (call : AdminCall)
  | makeCacheHandle (object : Nat) (ph : ProviderHandle) (cache_id : UUID)
  | computeSum (self : CacheHandleImpl) (uninitialised x y : Int32) (result : Option Nat)
  deriving DecidableEq

/-- What a call returns. -/
inductive Returned where
  | uuid (cache_id : UUID)
  | cacheHandle (handle : CacheHandle)
  | void
  deriving DecidableEq

namespace RemoteCall

def ph : RemoteCall → ProviderHandle
  | admin (.createCache ph ..) | admin (.openCache ph ..) => ph
  | admin (.closeCache ph ..) | admin (.destroyCache ph ..) => ph
  | makeCacheHandle _ ph _ => ph
  | computeSum self .. => self.m_ph

def request : RemoteCall → Request
  | admin (.createCache _ generated cache_type cache_config token) =>
      .createCache generated token cache_type cache_config
  | admin (.openCache _ generated cache_type cache_config token) =>
      .openCache generated token cache_type cache_config
  | admin (.closeCache _ cache_id token) => .closeCache token cache_id
  | admin (.destroyCache _ cache_id token) => .destroyCache token cache_id
  | makeCacheHandle _ _ cache_id => .checkCache cache_id
  | computeSum self uninitialised x y _ => .computeSum uninitialised self.m_cache_id x y

/-- The text that all calls have in common: on a failure they throw the error. -/
def returns (call : RemoteCall) (response : Response) : Except StdString Returned :=
  if response.success then
    .ok (match call, response with
      | admin (.createCache ..), .uuid result | admin (.openCache ..), .uuid result => .uuid result.m_value
      | makeCacheHandle _ ph cache_id, _ => .cacheHandle ⟨some ⟨ph, cache_id⟩⟩
      | _, _ => .void)
  else .error response.error

/-- The `CacheHandle` objects once the call has returned. -/
def handles (call : RemoteCall) (response : Response) (before : Nat → CacheHandle) :
    Nat → CacheHandle :=
  match call with
  | makeCacheHandle object ph cache_id =>
    if response.success then Function.update before object ⟨some ⟨ph, cache_id⟩⟩ else before
  | _ => before

def memory (call : RemoteCall) (response : Response) (before : Nat → Int32) : Nat → Int32 :=
  match call, response with
  | computeSum _ _ _ _ result, .int32 response => Client.delivered before result response
  | _, _ => before

end RemoteCall

/-- RPCs are numbered across the network; the number also names the thread of the
handler. -/
structure Network (J β : Type) where
  providers : ProviderHandle → ProviderImpl.Provider J β
  calls : Nat → Option (RemoteCall × Option (Except StdString Returned))
  handles : Nat → CacheHandle
  memory : Nat → Int32

inductive NetworkAction where
  | admin (rpc : Nat) (call : AdminCall)
  | makeCacheHandle (rpc object : Nat) (ph : ProviderHandle) (cache_id : UUID) (check : Bool)
  | copyHandle (object other : Nat)
  | computeSum (rpc object : Nat) (uninitialised x y : Int32) (result : Option Nat)
  | deliver (rpc : Nat)
  | handle (rpc : Nat)
  | answer (rpc : Nat)
  | setSecurityToken (ph : ProviderHandle) (token : StdString)
  deriving DecidableEq

namespace Network

variable {J β : Type} (runtime : ProviderHandle → Runtime J β)

/-- Providers without caches, `CacheHandle` objects without a handle. -/
def initial (m_token : ProviderHandle → StdString) (memory : Nat → Int32) : Network J β where
  providers := fun ph => (ProviderImpl.system (runtime ph)).initial (ProviderImpl.empty (m_token ph))
  calls := fun _ => none
  handles := fun _ => ⟨none⟩
  memory := memory

def send (network : Network J β) (rpc : Nat) (call : RemoteCall) : Option (Network J β) :=
  match network.calls rpc with
  | some _ => none
  | none => some { network with calls := Function.update network.calls rpc (some (call, none)) }

def onProvider (network : Network J β) (ph : ProviderHandle) (action : Action Request StdString) :
    Option (Network J β) :=
  ((ProviderImpl.system (runtime ph)).step (network.providers ph) action).map fun provider =>
    { network with providers := Function.update network.providers ph provider }

def received (network : Network J β) (rpc : Nat) (call : RemoteCall) : Option Response :=
  (ProviderImpl.responses (Global.own rpc (network.providers call.ph).global.log)).head?

/-- Calls may overlap in any way, so that an asynchronous `computeSum` is a call that is
answered when it is waited for. `makeCacheHandle` without a check sends nothing, nor does `computeSum` on a handle
without a cache, which throws. -/
def step (network : Network J β) : NetworkAction → Option (Network J β)
  | .admin rpc call => network.send rpc (.admin call)
  | .makeCacheHandle rpc object ph cache_id check =>
    if check then network.send rpc (.makeCacheHandle object ph cache_id)
    else some { network with handles := Function.update network.handles object ⟨some ⟨ph, cache_id⟩⟩ }
  | .copyHandle object other =>
    some { network with handles := Function.update network.handles object (network.handles other) }
  | .computeSum rpc object uninitialised x y result =>
    match network.handles object with
    | ⟨none⟩ => some network
    | ⟨some self⟩ => network.send rpc (.computeSum self uninitialised x y result)
  | .deliver rpc =>
    match network.calls rpc with
    | some (call, _) => network.onProvider runtime call.ph (.spawn rpc call.request)
    | none => none
  | .handle rpc =>
    match network.calls rpc with
    | some (call, _) => network.onProvider runtime call.ph (.step rpc)
    | none => none
  | .answer rpc =>
    match network.calls rpc with
    | some (call, none) => (network.received rpc call).map fun response => { network with
        calls := Function.update network.calls rpc (some (call, some (call.returns response)))
        handles := call.handles response network.handles
        memory := call.memory response network.memory }
    | _ => none
  | .setSecurityToken ph token => network.onProvider runtime ph (.external token)

def run : List NetworkAction → Network J β → Option (Network J β)
  | [], network => some network
  | action :: rest, network => (network.step runtime action).bind (run rest)

variable {runtime} {network after : Network J β}

theorem send_eq {rpc : Nat} {call : RemoteCall} (sent : network.send rpc call = some after) :
    network.calls rpc = none ∧
      after = { network with calls := Function.update network.calls rpc (some (call, none)) } := by
  unfold send at sent
  split at sent
  · cases sent
  · rename_i fresh
    exact ⟨fresh, (Option.some.inj sent).symm⟩

/-- The action starts the call. -/
inductive Sends (network : Network J β) (rpc : Nat) : NetworkAction → RemoteCall → Prop where
  | admin : Sends network rpc (.admin rpc call) (.admin call)
  | makeCacheHandle :
      Sends network rpc (.makeCacheHandle rpc object ph cache_id true) (.makeCacheHandle object ph cache_id)
  | computeSum (found : network.handles object = ⟨some self⟩) :
      Sends network rpc (.computeSum rpc object uninitialised x y result)
        (.computeSum self uninitialised x y result)

/-- The action gives the object a handle without an RPC. -/
inductive Assigns (network : Network J β) (object : Nat) : NetworkAction → CacheHandle → Prop where
  | makeCacheHandle :
      Assigns network object (.makeCacheHandle rpc object ph cache_id false) ⟨some ⟨ph, cache_id⟩⟩
  | copyHandle : Assigns network object (.copyHandle object other) (network.handles other)

/-- The action is one of this provider. -/
inductive Directs (network : Network J β) (ph : ProviderHandle) :
    NetworkAction → Action Request StdString → Prop where
  | deliver (called : network.calls rpc = some (call, outcome)) (target : call.ph = ph) :
      Directs network ph (.deliver rpc) (.spawn rpc call.request)
  | handle : Directs network ph (.handle rpc) (.step rpc)
  | setSecurityToken : Directs network ph (.setSecurityToken ph token) (.external token)

/-- Everything that a step of the network can do. -/
inductive Moves (runtime : ProviderHandle → Runtime J β) (network : Network J β) :
    NetworkAction → Network J β → Prop where
  | sent (fresh : network.calls rpc = none) (sends : Sends network rpc action call) :
      Moves runtime network action
        { network with calls := Function.update network.calls rpc (some (call, none)) }
  | assigned (assigns : Assigns network object action handle) :
      Moves runtime network action
        { network with handles := Function.update network.handles object handle }
  | threw (empty : network.handles object = ⟨none⟩) :
      Moves runtime network (.computeSum rpc object uninitialised x y result) network
  | served (directs : Directs network ph action change)
      (stepped : (ProviderImpl.system (runtime ph)).step (network.providers ph) change = some provider) :
      Moves runtime network action
        { network with providers := Function.update network.providers ph provider }
  | answered (called : network.calls rpc = some (call, none))
      (responded : network.received rpc call = some response) :
      Moves runtime network (.answer rpc) { network with
        calls := Function.update network.calls rpc (some (call, some (call.returns response)))
        handles := call.handles response network.handles
        memory := call.memory response network.memory }

theorem onProvider_moves {action : NetworkAction} {ph : ProviderHandle}
    {change : Action Request StdString} (directs : Directs network ph action change)
    (moved : network.onProvider runtime ph change = some after) : Moves runtime network action after := by
  obtain ⟨provider, stepped, rfl⟩ := Option.map_eq_some_iff.mp moved
  exact .served directs stepped

private theorem send_moves {action : NetworkAction} {rpc : Nat} {call : RemoteCall}
    (sends : Sends network rpc action call) (sent : network.send rpc call = some after) :
    Moves runtime network action after := by
  obtain ⟨fresh, rfl⟩ := send_eq sent
  exact .sent fresh sends

theorem step_moves {action : NetworkAction} (stepped : network.step runtime action = some after) :
    Moves runtime network action after := by
  cases action with
  | admin rpc call => exact send_moves .admin stepped
  | makeCacheHandle rpc object ph cache_id check =>
    cases check with
    | true => exact send_moves .makeCacheHandle stepped
    | false =>
      cases stepped
      exact .assigned .makeCacheHandle
  | copyHandle object other =>
    cases stepped
    exact .assigned .copyHandle
  | computeSum rpc object uninitialised x y result =>
    simp only [step] at stepped
    split at stepped
    · rename_i empty
      cases stepped
      exact .threw empty
    · rename_i self found
      exact send_moves (.computeSum found) stepped
  | deliver rpc =>
    simp only [step] at stepped
    split at stepped
    · rename_i call outcome called
      exact onProvider_moves (.deliver called rfl) stepped
    · cases stepped
  | handle rpc =>
    simp only [step] at stepped
    split at stepped
    · exact onProvider_moves .handle stepped
    · cases stepped
  | answer rpc =>
    simp only [step] at stepped
    split at stepped
    · rename_i call called
      obtain ⟨response, responded, rfl⟩ := Option.map_eq_some_iff.mp stepped
      exact .answered called responded
    · cases stepped
  | setSecurityToken ph token => exact onProvider_moves .setSecurityToken stepped

/-- What a call has returned, it has returned for good. -/
theorem Moves.returned {action : NetworkAction} {rpc : Nat} {call : RemoteCall}
    {ended : Except StdString Returned} (moved : Moves runtime network action after)
    (called : network.calls rpc = some (call, some ended)) :
    after.calls rpc = some (call, some ended) := by
  cases moved with
  | assigned | threw | served => exact called
  | @sent other _ _ fresh sends =>
    have different : rpc ≠ other := by
      rintro rfl
      cases fresh.symm.trans called
    simpa [different] using called
  | @answered other _ _ open_call responded =>
    have different : rpc ≠ other := by
      rintro rfl
      cases open_call.symm.trans called
    simpa [different] using called

theorem called_answered {rpc : Nat} {call : RemoteCall} {ended : Except StdString Returned}
    (called : network.calls rpc = some (call, none)) (other : Nat) (found : RemoteCall) :
    (∃ outcome, Function.update network.calls rpc (some (call, some ended)) other =
        some (found, outcome)) ↔
      ∃ outcome, network.calls other = some (found, outcome) := by
  by_cases same : other = rpc
  · subst same
    simp [called]
  · simp [same]

theorem run_repeats (runtime : ProviderHandle → Runtime J β) :
    Repeats (fun network action => step runtime network action) (run runtime) :=
  ⟨fun _ => rfl, fun _ _ _ => rfl⟩

/-- A property kept by every step of a run holds at its end. -/
theorem run_induction {actions : List NetworkAction} (Holds : Network J β → Prop)
    (keeps : ∀ action ∈ actions, ∀ before after, Holds before → Moves runtime before action after →
      Holds after)
    (start : Holds network) (ran : run runtime actions network = some after) : Holds after := by
  refine (run_repeats runtime).induction Holds ?_ start ran
  intro action member before later holds stepped
  exact keeps action member before later holds (step_moves stepped)

end Network

end Cachersize

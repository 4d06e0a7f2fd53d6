import Cachersize.Network.Guarantees
import Cachersize.Network.Packets

/-! The network where only bytes travel, and that it is the one where values do. -/
namespace Cachersize

open Wire Concurrent

/-- A request on its way: where to, for which handler, and its arguments. -/
structure Packet where
  name : String
  ph : ProviderHandle
  payload : List UInt8
  deriving DecidableEq

/-- What `rpc.on(ph)(...)` sends. -/
def RemoteCall.packet (format : ArchiveFormat) (call : RemoteCall) : Packet where
  name := call.request.procedure.name
  ph := call.ph
  payload := ((call.arguments (.output format)).run []).2

def Packet.unpack (format : ArchiveFormat) (packet : Packet) (locals : Locals) : Option Request :=
  ((ProviderImpl.parameters (.input format) locals packet.name).run packet.payload).map Prod.fst

private theorem RemoteCall.unpack_packet (format : ArchiveFormat) {call : RemoteCall}
    (fits : ∀ text ∈ call.request.texts, Fits text) :
    (call.packet format).unpack format call.locals = some call.request := by
  have read := (arguments_carried format call fits).reads []
  rw [List.append_nil] at read
  unfold Packet.unpack RemoteCall.packet
  rw [read]
  rfl

/-- The network with the packets that have been sent. -/
structure ByteNetwork (J β : Type) where
  network : Network J β
  packets : Nat → Option Packet

namespace ByteNetwork

variable {J β : Type} (format : ArchiveFormat) (runtime : ProviderHandle → Runtime J β)

def initial (m_token : ProviderHandle → StdString) (memory : Nat → Int32) : ByteNetwork J β where
  network := Network.initial runtime m_token memory
  packets := fun _ => none

def send (bytes : ByteNetwork J β) (rpc : Nat) (call : RemoteCall) : Option (ByteNetwork J β) :=
  (bytes.network.send rpc call).map fun network =>
    { network, packets := Function.update bytes.packets rpc (some (call.packet format)) }

def received (bytes : ByteNetwork J β) (rpc : Nat) (call : RemoteCall) : Option (List UInt8) :=
  (bytes.network.received rpc call).map (Response.encode format)

/-- As in the network of values, but a provider knows of a call only its packet, and a
caller of a response only its bytes. -/
def step (bytes : ByteNetwork J β) : NetworkAction → Option (ByteNetwork J β)
  | .admin rpc call => bytes.send format rpc (.admin call)
  | .makeCacheHandle rpc object ph cache_id check =>
    if check then bytes.send format rpc (.makeCacheHandle object ph cache_id)
    else some { bytes with network := { bytes.network with
      handles := Function.update bytes.network.handles object ⟨some ⟨ph, cache_id⟩⟩ } }
  | .computeSum rpc object uninitialised x y result =>
    match bytes.network.handles object with
    | ⟨none⟩ => some bytes
    | ⟨some self⟩ => bytes.send format rpc (.computeSum self uninitialised x y result)
  | .deliver rpc =>
    match bytes.packets rpc, bytes.network.calls rpc with
    | some packet, some (call, _) => do
      let request ← packet.unpack format call.locals
      let network ← bytes.network.onProvider runtime packet.ph (.spawn rpc request)
      return { bytes with network }
    | _, _ => none
  | .answer rpc =>
    match bytes.network.calls rpc with
    | some (call, none) => do
      let sent ← bytes.received format rpc call
      let response ← call.receive format sent
      return { bytes with network := { bytes.network with
        calls := Function.update bytes.network.calls rpc (some (call, some (call.returns response)))
        handles := call.handles response bytes.network.handles
        memory := call.memory response bytes.network.memory } }
    | _ => none
  | .copyHandle object other => (bytes.network.step runtime (.copyHandle object other)).map
      fun network => { bytes with network }
  | .handle rpc => (bytes.network.step runtime (.handle rpc)).map fun network => { bytes with network }
  | .setSecurityToken ph token => (bytes.network.step runtime (.setSecurityToken ph token)).map
      fun network => { bytes with network }

def run : List NetworkAction → ByteNetwork J β → Option (ByteNetwork J β)
  | [], bytes => some bytes
  | action :: rest, bytes => (bytes.step format runtime action).bind (run rest)

end ByteNetwork

namespace Network

open ProviderImpl

variable {J β : Type} {runtime : ProviderHandle → Runtime J β} {m_token : ProviderHandle → StdString}
variable {format : ArchiveFormat} {network after : Network J β} {rpc : Nat} {call : RemoteCall}

variable (format) in
def wired (network : Network J β) : ByteNetwork J β where
  network := network
  packets := fun rpc => (network.calls rpc).map fun called => called.1.packet format

def Sized : NetworkAction → Prop
  | .admin _ call => ∀ text ∈ (RemoteCall.admin call).request.texts, Fits text
  | _ => True

/-- The network is in a state that it reaches, and all its strings have such sizes. -/
structure Deliverable (runtime : ProviderHandle → Runtime J β) (m_token : ProviderHandle → StdString)
    (network : Network J β) : Prop where
  sound : Sound runtime m_token network
  asked : ∀ rpc call outcome, network.calls rpc = some (call, outcome) → ∀ text ∈ call.request.texts, Fits text

theorem Deliverable.moves {action : NetworkAction} (deliverable : Deliverable runtime m_token network)
    (sized : Sized action) (moved : Moves runtime network action after) :
    Deliverable runtime m_token after := by
  refine ⟨deliverable.sound.moves moved, fun rpc call outcome called => ?_⟩
  cases moved with
  | @sent other _ asked fresh sends =>
    by_cases same : rpc = other
    · subst same
      simp only [Function.update_self, Option.some.injEq, Prod.mk.injEq] at called
      obtain ⟨rfl, -⟩ := called
      cases sends with
      | admin => exact sized
      | makeCacheHandle | computeSum => nofun
    · exact deliverable.asked rpc call outcome (by simpa [same] using called)
  | assigned | threw | served => exact deliverable.asked rpc call outcome called
  | answered calledBefore =>
    obtain ⟨earlier, before⟩ := (called_answered calledBefore rpc call).mp ⟨outcome, called⟩
    exact deliverable.asked rpc call earlier before

variable (format) in
private theorem Deliverable.understood (deliverable : Deliverable runtime m_token network)
    (sized : ∀ ph, (runtime ph).Sized) {outcome : Option (Except StdString Returned)}
    (called : network.calls rpc = some (call, outcome)) {response : Response}
    (responded : network.received rpc call = some response) :
    call.receive format (response.encode format) = some response := by
  have logged := received_logged responded
  obtain ⟨past, served⟩ := deliverable.sound.served call.ph
  obtain ⟨exit, single⟩ := deliverable.sound.exited called logged
  have member : response ∈ responses (Global.own rpc (network.providers call.ph).global.log) := by
    rw [single]
    exact List.mem_singleton_self _
  have same : response.type = call.resultType := (exit.typed response member).trans call.resultType_eq.symm
  refine RemoteCall.receive_encode format same (exit.fits (sized call.ph) ?_ ?_ response member)
  · exact deliverable.asked rpc call outcome called
  · intro operation name config what built
    obtain ⟨history, threw⟩ := built_error served (Global.mem_own.mp built)
    exact (sized call.ph).factory operation name history config what threw

/-- A step without a new call leaves the packets as they are. -/
theorem wired_eq (same : ∀ rpc, (after.calls rpc).map Prod.fst = (network.calls rpc).map Prod.fst) :
    ({ wired format network with network := after } : ByteNetwork J β) = wired format after := by
  have packets : (wired format network).packets = (wired format after).packets := by
    funext rpc
    have agree := congrArg (Option.map (RemoteCall.packet format)) (same rpc)
    rw [Option.map_map, Option.map_map] at agree
    exact agree.symm
  exact congrArg (ByteNetwork.mk after) packets

private theorem wired_send :
    (wired format network).send format rpc call = (network.send rpc call).map (wired format) := by
  unfold ByteNetwork.send
  cases sent : network.send rpc call with
  | none =>
    have nothing : (wired format network).network.send rpc call = none := sent
    rw [nothing]
    rfl
  | some after =>
    have posted : (wired format network).network.send rpc call = some after := sent
    obtain ⟨-, rfl⟩ := send_eq sent
    rw [posted, Option.map_some, Option.map_some, Option.some.injEq]
    have packets : Function.update (wired format network).packets rpc (some (call.packet format)) =
        (wired format { network with calls := Function.update network.calls rpc (some (call, none)) }).packets := by
      funext other
      by_cases same : other = rpc
      · simp [wired, same]
      · simp [wired, same]
    rw [packets]
    rfl

private theorem wired_quiet (action : NetworkAction)
    (same : ∀ after, network.step runtime action = some after → after.calls = network.calls) :
    ((network.step runtime action).map fun later => { wired format network with network := later }) =
      (network.step runtime action).map (wired format) := by
  cases stepped : network.step runtime action with
  | none => rfl
  | some after =>
    rw [Option.map_some, Option.map_some, Option.some.injEq]
    exact wired_eq fun rpc => by rw [same after stepped]

private theorem onProvider_calls {ph : ProviderHandle} {change : Action Request StdString}
    (moved : network.onProvider runtime ph change = some after) : after.calls = network.calls := by
  obtain ⟨provider, -, rfl⟩ := Option.map_eq_some_iff.mp moved
  rfl

/-- Bytes and values take the same steps. -/
theorem Deliverable.step_wired (deliverable : Deliverable runtime m_token network)
    (sized : ∀ ph, (runtime ph).Sized) (action : NetworkAction) :
    (wired format network).step format runtime action = (network.step runtime action).map (wired format) := by
  cases action with
  | admin rpc call => exact wired_send
  | makeCacheHandle rpc object ph cache_id check =>
    cases check with
    | true => exact wired_send
    | false => rfl
  | copyHandle object other =>
    have kept (after : Network J β) (stepped : network.step runtime (.copyHandle object other) = some after) :
        after.calls = network.calls := by
      cases stepped
      rfl
    exact wired_quiet (.copyHandle object other) kept
  | computeSum rpc object uninitialised x y result =>
    simp only [ByteNetwork.step, step]
    have same : (wired format network).network.handles object = network.handles object := rfl
    rw [same]
    cases network.handles object with
    | mk self =>
      cases self with
      | none => rfl
      | some self => exact wired_send
  | deliver rpc =>
    simp only [ByteNetwork.step, step]
    have calls : (wired format network).network.calls rpc = network.calls rpc := rfl
    have packets : (wired format network).packets rpc =
        (network.calls rpc).map fun called => called.1.packet format := rfl
    rw [calls, packets]
    cases called : network.calls rpc with
    | none => rfl
    | some found =>
      obtain ⟨call, outcome⟩ := found
      have read := RemoteCall.unpack_packet format (deliverable.asked rpc call outcome called)
      simp only [Option.map_some, read, Option.bind_eq_bind, Option.bind_some]
      cases delivered : network.onProvider runtime call.ph (.spawn rpc call.request) with
      | none =>
        have nothing : (wired format network).network.onProvider runtime (call.packet format).ph
          (.spawn rpc call.request) = none := delivered
        rw [nothing]
        rfl
      | some after =>
        have arrived : (wired format network).network.onProvider runtime (call.packet format).ph
          (.spawn rpc call.request) = some after := delivered
        rw [arrived]
        exact congrArg some (wired_eq fun other => by rw [onProvider_calls delivered])
  | handle rpc =>
    have kept (after : Network J β) (stepped : network.step runtime (.handle rpc) = some after) :
        after.calls = network.calls := by
      simp only [step] at stepped
      split at stepped
      · exact onProvider_calls stepped
      · cases stepped
    exact wired_quiet (.handle rpc) kept
  | answer rpc =>
    simp only [ByteNetwork.step, step, ByteNetwork.received]
    have calls : (wired format network).network.calls rpc = network.calls rpc := rfl
    rw [calls]
    cases called : network.calls rpc with
    | none => rfl
    | some found =>
      obtain ⟨call, outcome⟩ := found
      cases outcome with
      | some ended => rfl
      | none =>
        have sent : (wired format network).network.received rpc call = network.received rpc call := rfl
        simp only [sent]
        cases responded : network.received rpc call with
        | none => rfl
        | some response =>
          have read := deliverable.understood format sized called responded
          simp only [Option.map_some, Option.bind_eq_bind, Option.bind_some, read]
          refine congrArg some (wired_eq fun other => ?_)
          by_cases same : other = rpc
          · simp [same, called]
          · simp [same, wired]
  | setSecurityToken ph token =>
    have kept (after : Network J β) (stepped : network.step runtime (.setSecurityToken ph token) = some after) :
        after.calls = network.calls := onProvider_calls stepped
    exact wired_quiet (.setSecurityToken ph token) kept

/-- The network of bytes is the network of values: every run of one is a run of the other,
with the same calls, results, handles, memory and providers. No request reaches the wrong
handler or arrives with other arguments, and no response is misread. -/
theorem bytes_carry_values (format : ArchiveFormat) {actions : List NetworkAction} {memory : Nat → Int32}
    (asked : ∀ action ∈ actions, Sized action) (sized : ∀ ph, (runtime ph).Sized) :
    ByteNetwork.run format runtime actions (ByteNetwork.initial runtime m_token memory) =
      (run runtime actions (initial runtime m_token memory)).map (wired format) := by
  have above : Repeats (ByteNetwork.step format runtime) (ByteNetwork.run format runtime) :=
    ⟨fun _ => rfl, fun _ _ _ => rfl⟩
  have start : Deliverable runtime m_token (initial runtime m_token memory) := ⟨.initial memory, nofun⟩
  refine (run_repeats runtime).image above (wired format) (Deliverable runtime m_token) ?_ start
  intro action member network deliverable
  exact ⟨deliverable.step_wired sized action, fun after stepped =>
    deliverable.moves (asked action member) (step_moves stepped)⟩

private theorem singleton_builds {J β : Type} {f : List (Event J β) → J → Except StdString (Option β)}
    (builds : ∀ history config, ∃ made, f history config = .ok made) (name backend_name : StdString)
    (history : List (Event J β)) (config : J) :
    ∃ made, (CacheFactory.mk (Finmap.singleton name f) (Finmap.singleton name f)).createCache
      backend_name history config = .ok made := by
  unfold CacheFactory.createCache
  by_cases same : backend_name = name
  · subst same
    simp only [Finmap.lookup_singleton_eq]
    exact builds history config
  · have missed : (Finmap.singleton name f : Finmap fun _ => _).lookup backend_name = none :=
      Finmap.lookup_eq_none.mpr (by simpa using same)
    simp only [missed]
    exact ⟨none, rfl⟩

private theorem sample_builds (operation : FactoryCall) (name : StdString)
    (history : List (Event Unit (DummyCache Unit))) (config : Unit) :
    ∃ made, DummyCache.sample.factory.perform operation name history config = .ok made := by
  cases operation with
  | createCache | openCache =>
    exact singleton_builds (fun _ config => ⟨some ⟨config⟩, rfl⟩) (lit "dummy") name history config

private theorem sample_sized : DummyCache.sample.Sized where
  unparse := by
    intro uuid
    have text : Fits (lit "00000000-0000-0000-0000-000000000000") := by decide
    exact text
  parse := by
    intro cache_config what failed
    simp only [DummyCache.sample, DummyCache.runtime] at failed
    split at failed
    · cases failed
    · cases failed
      decide
  factory := by
    intro operation name history config what failed
    obtain ⟨made, built⟩ := sample_builds operation name history config
    cases built.symm.trans failed
  computeSum := by
    intro history cache x y result returned
    cases returned
    have empty : Fits [] := by decide
    exact empty
  destroy := by
    intro history cache result returned
    cases returned
    have empty : Fits [] := by decide
    exact empty

theorem useAfterwards_carried : ∃ bytes,
    ByteNetwork.run .littleEndian (fun _ => DummyCache.sample)
      (createFirst ⟨lit "na+sm", 0⟩ ++ useAfterwards ⟨lit "na+sm", 0⟩)
      (ByteNetwork.initial (fun _ => DummyCache.sample) (fun _ => []) fun _ => 0) = some bytes ∧
    bytes.network.memory 7 = 3 := by
  obtain ⟨network, ran, sum⟩ : ∃ network, run (fun _ => DummyCache.sample)
      (createFirst ⟨lit "na+sm", 0⟩ ++ useAfterwards ⟨lit "na+sm", 0⟩)
      (initial (fun _ => DummyCache.sample) (fun _ => []) fun _ => 0) = some network ∧
      network.memory 7 = 3 := ⟨_, rfl, rfl⟩
  have asked : ∀ action ∈ createFirst ⟨lit "na+sm", 0⟩ ++ useAfterwards ⟨lit "na+sm", 0⟩, Sized action := by
    simp [createFirst, useAfterwards, or_imp, forall_and, Sized, Request.texts, RemoteCall.request, Fits, lit]
  refine ⟨wired .littleEndian network, ?_, sum⟩
  rw [bytes_carry_values .littleEndian asked fun _ => sample_sized, ran]
  rfl

end Network

end Cachersize

import Cachersize.Client.Session
import Cachersize.Network.Guarantees
import Mathlib.Data.Nat.Pairing

/-! Client programs on the network. Each client runs one operation after the other, step by
step, and waits where an operation needs a response that no provider has sent yet. -/
namespace Cachersize

open Concurrent Memory

/-- How far an operation has come: to the rest of its program, or to a synchronous call
whose RPC has been sent. -/
inductive Control where
  | ready (program : ClientProgram Unit)
  | calling (rpc : Nat) (next : RequestResult Int32 → ClientProgram Unit)

/-- A client with one thread, and the operation that it is in. -/
structure Party where
  session : Session
  running : Option (ClientAction × Control)

/-- The number that an RPC of a party has in the network. Even numbers are for other calls. -/
def Party.number (party rpc : Nat) : Nat := 2 * Nat.pair party rpc + 1

namespace NetworkAction

/-- A call of `computeSum`, made through a copy of the handle. The party stores the sum by
itself. -/
def request (rpc : Nat) (handle : CacheHandleImpl) (uninitialised x y : Int32) : List NetworkAction :=
  [.makeCacheHandle rpc rpc handle.m_ph handle.m_cache_id false, .computeSum rpc rpc uninitialised x y none]

/-- An action that is not part of an operation of a party. -/
def Foreign : NetworkAction → Prop
  | admin rpc _ | makeCacheHandle rpc _ _ _ _ | answer rpc => rpc % 2 = 0
  | computeSum .. => False
  | copyHandle .. | deliver _ | handle _ | setSecurityToken .. => True

instance (action : NetworkAction) : Decidable action.Foreign := by
  cases action <;> unfold Foreign <;> infer_instance

end NetworkAction

namespace Network

variable {J β : Type} (network : Network J β) (rpc : Nat)

/-- The response to a `computeSum`, once it has been sent. -/
def told : Option (RequestResult Int32) :=
  match network.calls rpc with
  | some (call, _) =>
    match network.received rpc call with
    | some (.int32 response) => some response
    | _ => none
  | none => none

/-- What is left to do for a response that is awaited, which is nothing the second time. -/
def collect : List NetworkAction :=
  match network.calls rpc with
  | some (_, none) => [.answer rpc]
  | _ => []

end Network

def unheard (_ : Nat) : RequestResult Int32 := { m_value := 0 }

namespace Party

variable {J β : Type} (network : Network J β) (party : Nat) (uninitialised : Int32)

def initial (memory : Nat → Int32) : Party := ⟨Session.initial memory, none⟩

/-- An operation of a client program, with what it does on the network. It has no answer
while it is blocked. `completed()` may miss a response that has been sent. -/
def perform (client : Client) : (op : ClientOp) → Option (List NetworkAction × op.Answer × Client)
  | .call _ _ _ => none
  | .async handle x y =>
    some (NetworkAction.request (number party client.sent) handle uninitialised x y,
      Client.exec unheard (.async handle x y) client)
  | .wait impl =>
    let rpc := number party (client.impls impl).m_async_response
    (network.told rpc).map fun response =>
      (network.collect rpc, Client.exec (fun _ => response) (.wait impl) client)
  | .received impl arrived =>
    let rpc := number party (client.impls impl).m_async_response
    if arrived ∧ network.told rpc = none then none
    else some ([], Client.exec unheard (.received impl arrived) client)
  | op => some ([], Client.exec unheard op client)

def ended (session : Session) (action : ClientAction) (outcome : Except Thrown Unit) : Session where
  client := session.client
  objects := action.objects session.objects
  terminated := outcome = .error .terminate

/-- One step of a running operation. A synchronous call takes two, one to send and one to
go on with the response. -/
def move (session : Session) (action : ClientAction) : Control → Option (List NetworkAction × Party)
  | .calling rpc next => (network.told (number party rpc)).map fun response =>
      (network.collect (number party rpc), ⟨session, some (action, .ready (next response))⟩)
  | .ready (.done _) => some ([], ⟨ended session action (.ok ()), none⟩)
  | .ready (.raise thrown) => some ([], ⟨ended session action (.error thrown), none⟩)
  | .ready (.perform (.call handle x y) next) =>
    some (NetworkAction.request (number party session.client.sent) handle uninitialised x y,
      ⟨{ session with client := (Client.exec unheard (.call handle x y) session.client).2 },
        some (action, .calling session.client.sent next)⟩)
  | .ready (.perform op next) =>
    (perform network party uninitialised session.client op).map fun performed =>
      (performed.1, ⟨{ session with client := performed.2.2 }, some (action, .ready (next performed.2.1))⟩)

end Party

/-- Clients, administrators and providers together. -/
structure Deployment (J β : Type) where
  network : Network J β
  parties : Nat → Party

inductive DeploymentAction where
  | network (action : NetworkAction)
  | start (party : Nat) (action : ClientAction)
  | step (party : Nat) (uninitialised : Int32)
  deriving DecidableEq

def DeploymentAction.starts (party : Nat) : DeploymentAction → Option ClientAction
  | start other action => if other = party then some action else none
  | _ => none

def DeploymentAction.moves (party : Nat) : DeploymentAction → Bool
  | step other _ => other = party
  | _ => false

namespace DeploymentAction

variable (party other : Nat)

@[simp] theorem starts_network (action : NetworkAction) : (network action).starts party = none := rfl

@[simp] theorem starts_start (action : ClientAction) :
    (start other action).starts party = if other = party then some action else none := rfl

@[simp] theorem starts_step (uninitialised : Int32) : (step other uninitialised).starts party = none := rfl

@[simp] theorem moves_network (action : NetworkAction) : (network action).moves party = false := rfl

@[simp] theorem moves_start (action : ClientAction) : (start other action).moves party = false := rfl

@[simp] theorem moves_step (uninitialised : Int32) :
    (step other uninitialised).moves party = decide (other = party) := rfl

end DeploymentAction

namespace Deployment

variable {J β : Type} (runtime : ProviderHandle → Runtime J β)

def initial (m_token : ProviderHandle → StdString) (memory : Nat → Int32)
    (memories : Nat → Nat → Int32) : Deployment J β where
  network := Network.initial runtime m_token memory
  parties := fun party => .initial (memories party)

def step (deployment : Deployment J β) : DeploymentAction → Option (Deployment J β)
  | .network action =>
    if action.Foreign then
      (deployment.network.step runtime action).map fun network => { deployment with network }
    else none
  | .start party action =>
    match deployment.parties party with
    | ⟨session, none⟩ =>
      if session.terminated = false ∧ action.Possible session.objects then
        some { deployment with
          parties := Function.update deployment.parties party ⟨session, some (action, .ready action.program)⟩ }
      else none
    | _ => none
  | .step party uninitialised =>
    match deployment.parties party with
    | ⟨session, some (action, control)⟩ =>
      (Party.move deployment.network party uninitialised session action control).bind fun moved =>
        (Network.run runtime moved.1 deployment.network).map fun network =>
          { network, parties := Function.update deployment.parties party moved.2 }
    | _ => none

def run : List DeploymentAction → Deployment J β → Option (Deployment J β)
  | [], deployment => some deployment
  | action :: rest, deployment => (deployment.step runtime action).bind (run rest)

/-- Everything that a step can do. -/
inductive Moves (runtime : ProviderHandle → Runtime J β) (deployment : Deployment J β) :
    DeploymentAction → Deployment J β → Prop where
  | network (foreign : action.Foreign) (stepped : deployment.network.step runtime action = some reached) :
      Moves runtime deployment (.network action) { deployment with network := reached }
  | started (idle : deployment.parties party = ⟨session, none⟩) (alive : session.terminated = false)
      (possible : action.Possible session.objects) :
      Moves runtime deployment (.start party action) { deployment with
        parties := Function.update deployment.parties party ⟨session, some (action, .ready action.program)⟩ }
  | moved (running : deployment.parties party = ⟨session, some (action, point)⟩)
      (moved : Party.move deployment.network party uninitialised session action point = some (posts, later))
      (ran : Network.run runtime posts deployment.network = some reached) :
      Moves runtime deployment (.step party uninitialised)
        ⟨reached, Function.update deployment.parties party later⟩

variable {runtime} {deployment after : Deployment J β}

theorem step_moves {action : DeploymentAction} (stepped : deployment.step runtime action = some after) :
    Moves runtime deployment action after := by
  cases action with
  | network action =>
    simp only [step] at stepped
    split at stepped
    · rename_i foreign
      obtain ⟨network, moved, rfl⟩ := Option.map_eq_some_iff.mp stepped
      exact .network foreign moved
    · cases stepped
  | start party action =>
    simp only [step] at stepped
    split at stepped
    · rename_i session idle
      split at stepped
      · rename_i possible
        cases stepped
        exact .started idle possible.1 possible.2
      · cases stepped
    · cases stepped
  | step party uninitialised =>
    simp only [step] at stepped
    split at stepped
    · rename_i session action control running
      obtain ⟨⟨posts, later⟩, moved, rest⟩ := Option.bind_eq_some_iff.mp stepped
      obtain ⟨network, ran, rfl⟩ := Option.map_eq_some_iff.mp rest
      exact .moved running moved ran
    · cases stepped

theorem run_repeats (runtime : ProviderHandle → Runtime J β) :
    Repeats (fun deployment action => step runtime deployment action) (run runtime) :=
  ⟨fun _ => rfl, fun _ _ _ => rfl⟩

end Deployment

end Cachersize

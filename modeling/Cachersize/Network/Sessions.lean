import Cachersize.Client.Loss
import Cachersize.Client.Origins
import Cachersize.Network.Deployment

/-! A deployment seen from its network is a run of the network, and seen from each client
a session that knows the responses from the start. -/
namespace Cachersize

open Concurrent Memory

namespace Network

variable {J β : Type} {runtime : ProviderHandle → Runtime J β} {rest : List NetworkAction}
variable {middle network later : Network J β} {rpc : Nat} {response : RequestResult Int32}

private theorem run_received {call : RemoteCall} {response : Response}
    (received : middle.received rpc call = some response) (ran : run runtime rest middle = some network) :
    network.received rpc call = some response := by
  obtain ⟨more, grown⟩ := run_logs ran call.ph
  unfold Network.received at received ⊢
  rw [grown, Global.own_append]
  simp only [ProviderImpl.responses, List.filterMap_append, List.head?_append] at received ⊢
  rw [received]
  rfl

/-- The response to a `computeSum` whose caller has got it. -/
def heard (network : Network J β) (rpc : Nat) : Option (RequestResult Int32) :=
  match network.calls rpc with
  | some (call, some _) =>
    match network.received rpc call with
    | some (.int32 response) => some response
    | _ => none
  | _ => none

theorem told_eq : network.told rpc = some response ↔ ∃ call outcome,
    network.calls rpc = some (call, outcome) ∧ network.received rpc call = some (.int32 response) := by
  unfold told
  constructor
  · intro told
    split at told
    · rename_i call outcome called
      split at told
      · rename_i result received
        cases told
        exact ⟨call, outcome, called, received⟩
      · cases told
    · cases told
  · rintro ⟨call, outcome, called, received⟩
    simp only [called, received]

theorem heard_eq : network.heard rpc = some response ↔ ∃ call ended,
    network.calls rpc = some (call, some ended) ∧ network.received rpc call = some (.int32 response) := by
  unfold heard
  constructor
  · intro heard
    split at heard
    · rename_i call ended called
      split at heard
      · rename_i result received
        cases heard
        exact ⟨call, ended, called, received⟩
      · cases heard
    · cases heard
  · rintro ⟨call, ended, called, received⟩
    simp only [called, received]

theorem run_heard (heard : middle.heard rpc = some response) (ran : run runtime rest middle = some network) :
    network.heard rpc = some response := by
  obtain ⟨call, ended, called, received⟩ := heard_eq.mp heard
  exact heard_eq.mpr ⟨call, ended, run_returned called ran, run_received received ran⟩

theorem run_request {handle : CacheHandleImpl} {uninitialised x y : Int32} :
    run runtime (NetworkAction.request rpc handle uninitialised x y) network = some later ↔
      network.calls rpc = none ∧ later = { network with
        calls := Function.update network.calls rpc (some (.computeSum handle uninitialised x y none, none))
        handles := Function.update network.handles rpc ⟨some handle⟩ } := by
  cases called : network.calls rpc <;>
    simp [run, NetworkAction.request, step, send, called, eq_comm]

/-- The caller has the response, and no other call has changed. -/
theorem run_collect (told : network.told rpc = some response)
    (ran : run runtime (network.collect rpc) network = some later) :
    later.heard rpc = some response ∧ (∀ other, other ≠ rpc → later.calls other = network.calls other) ∧
      ∀ call, (∃ outcome, later.calls rpc = some (call, outcome)) ↔
        ∃ outcome, network.calls rpc = some (call, outcome) := by
  obtain ⟨call, outcome, called, received⟩ := told_eq.mp told
  cases outcome with
  | some ended =>
    simp only [collect, called, run, Option.some.injEq] at ran
    subst ran
    exact ⟨heard_eq.mpr ⟨call, ended, called, received⟩, fun _ _ => rfl, fun _ => Iff.rfl⟩
  | none =>
    simp only [collect, called, run, step_answer called, received, Option.map_some, Option.bind_some,
      Option.some.injEq] at ran
    subst ran
    refine ⟨heard_eq.mpr ⟨call, call.returns (.int32 response), by simp, received⟩, ?_, ?_⟩
    · intro other different
      simp [different]
    · exact called_answered called rpc

private theorem foreign_calls {action : NetworkAction} {party : Nat} (foreign : action.Foreign)
    (stepped : network.step runtime action = some later) (rpc : Nat) :
    later.calls (Party.number party rpc) = network.calls (Party.number party rpc) := by
  have apart : ∀ other, other % 2 = 0 → Party.number party rpc ≠ other := by
    intro other even
    unfold Party.number
    omega
  cases step_moves stepped with
  | assigned | threw | served => rfl
  | sent fresh sends =>
    cases sends with
    | admin | makeCacheHandle => exact Function.update_of_ne (apart _ foreign) _ _
    | computeSum => exact foreign.elim
  | answered => exact Function.update_of_ne (apart _ foreign) _ _

end Network

/-- The rest of an operation, for a client that knows the responses. -/
def Control.execute (answers : Nat → RequestResult Int32) (client : Client) :
    Control → Except Thrown Unit × Client
  | .ready program => program.execute (Client.exec answers) client
  | .calling rpc next => (next (answers rpc)).execute (Client.exec answers) client

namespace Party

def finish (answers : Nat → RequestResult Int32) (party : Party) : Session :=
  match party.running with
  | none => party.session
  | some (action, control) =>
    ended { party.session with client := (control.execute answers party.session.client).2 } action
      (control.execute answers party.session.client).1

theorem finish_extends (answers : Nat → RequestResult Int32) (party : Party) :
    party.session.client.Extends (party.finish answers).client := by
  obtain ⟨session, running⟩ := party
  match running with
  | none => exact .refl _
  | some (action, .ready program) => exact .execute answers program _
  | some (action, .calling rpc next) => exact .execute answers (next (answers rpc)) _

variable {J β : Type} {runtime : ProviderHandle → Runtime J β} {network later : Network J β}
variable {party : Nat} {uninitialised : Int32} {answers : Nat → RequestResult Int32}

@[simp] theorem number_inj {other rpc sent : Nat} :
    number party rpc = number other sent ↔ party = other ∧ rpc = sent := by
  rw [← Nat.pair_eq_pair]
  unfold number
  omega

def Agrees (network : Network J β) (party : Nat) (answers : Nat → RequestResult Int32) : Prop :=
  ∀ rpc response, network.heard (number party rpc) = some response → answers rpc = response

theorem Agrees.before {posts : List NetworkAction} (agrees : Agrees later party answers)
    (ran : Network.run runtime posts network = some later) : Agrees network party answers :=
  fun rpc response heard => agrees rpc response (Network.run_heard heard ran)

/-- An operation does what it does in a session that knows the responses. -/
theorem perform_exec {client after : Client} {op : ClientOp} {answer : op.Answer} {posts : List NetworkAction}
    (performed : perform network party uninitialised client op = some (posts, answer, after))
    (ran : Network.run runtime posts network = some later) (agrees : Agrees later party answers) :
    Client.exec answers op client = (answer, after) := by
  cases op with
  | call => cases performed
  | wait impl =>
    obtain ⟨response, told, same⟩ := Option.map_eq_some_iff.mp performed
    cases same
    have known := agrees _ _ (Network.run_collect told ran).1
    simp only [Client.exec, known]
  | received impl arrived =>
    simp only [perform] at performed
    split at performed
    · cases performed
    · cases performed
      rfl
  | _ =>
    cases performed
    rfl

/-- Everything that a step of a running operation can do. -/
inductive Steps (network : Network J β) (party : Nat) (uninitialised : Int32) (session : Session)
    (action : ClientAction) : Control → List NetworkAction → Party → Prop where
  | answered (told : network.told (number party rpc) = some response) :
      Steps network party uninitialised session action (.calling rpc next)
        (network.collect (number party rpc)) ⟨session, some (action, .ready (next response))⟩
  | returned : Steps network party uninitialised session action (.ready (.done ())) []
      ⟨ended session action (.ok ()), none⟩
  | threw : Steps network party uninitialised session action (.ready (.raise thrown)) []
      ⟨ended session action (.error thrown), none⟩
  | called : Steps network party uninitialised session action (.ready (.perform (.call handle x y) next))
      (NetworkAction.request (number party session.client.sent) handle uninitialised x y)
      ⟨{ session with client := (Client.exec unheard (.call handle x y) session.client).2 },
        some (action, .calling session.client.sent next)⟩
  | performed (performed : perform network party uninitialised session.client op = some (posts, answer, client)) :
      Steps network party uninitialised session action (.ready (.perform op next)) posts
        ⟨{ session with client := client }, some (action, .ready (next answer))⟩

theorem move_steps {session : Session} {action : ClientAction} {control : Control}
    {posts : List NetworkAction} {after : Party}
    (moved : move network party uninitialised session action control = some (posts, after)) :
    Steps network party uninitialised session action control posts after := by
  unfold move at moved
  split at moved
  · obtain ⟨response, told, same⟩ := Option.map_eq_some_iff.mp moved
    cases same
    exact .answered told
  · cases moved
    exact .returned
  · cases moved
    exact .threw
  · cases moved
    exact .called
  · obtain ⟨⟨sent, answer, client⟩, performed, same⟩ := Option.map_eq_some_iff.mp moved
    cases same
    exact .performed performed

/-- A step leaves as it is what the operation will have done in the end. -/
theorem Steps.finish {session : Session} {action : ClientAction} {control : Control}
    {posts : List NetworkAction} {after : Party}
    (steps : Steps network party uninitialised session action control posts after)
    (ran : Network.run runtime posts network = some later) (agrees : Agrees later party answers) :
    after.finish answers = Party.finish answers ⟨session, some (action, control)⟩ := by
  cases steps with
  | answered told =>
    have known := agrees _ _ (Network.run_collect told ran).1
    simp only [Party.finish, Control.execute, known]
  | returned | threw | called => rfl
  | performed performed =>
    have executed := perform_exec performed ran agrees
    simp only [Party.finish, Control.execute, Program.execute_perform, executed]

private theorem perform_posts {client after : Client} {op : ClientOp} {answer : op.Answer}
    {posts : List NetworkAction}
    (performed : perform network party uninitialised client op = some (posts, answer, after)) :
    (posts = [] ∧ after.sent = client.sent ∧
        ∀ rpc handle x y, .sent rpc handle x y ∈ after.trace ↔ .sent rpc handle x y ∈ client.trace) ∨
      (∃ handle x y, posts = NetworkAction.request (number party client.sent) handle uninitialised x y ∧
        after = { client.record (.sent client.sent handle x y) with sent := client.sent + 1 }) ∨
      ∃ impl response, network.told (number party (client.impls impl).m_async_response) = some response ∧
        posts = network.collect (number party (client.impls impl).m_async_response) ∧
        after = client.record (.awaited impl) := by
  cases op with
  | call => cases performed
  | async handle x y =>
    cases performed
    exact .inr (.inl ⟨handle, x, y, rfl, rfl⟩)
  | wait impl =>
    obtain ⟨response, told, same⟩ := Option.map_eq_some_iff.mp performed
    cases same
    exact .inr (.inr ⟨impl, response, told, rfl, rfl⟩)
  | received impl arrived =>
    simp only [perform] at performed
    split at performed
    · cases performed
    · cases performed
      refine .inl ⟨rfl, rfl, fun rpc handle x y => ?_⟩
      simp [Client.record]
  | self | unique | m_waited | set_waited =>
    cases performed
    exact .inl ⟨rfl, rfl, fun _ _ _ _ => Iff.rfl⟩
  | enter | leave | store | make_shared =>
    cases performed
    exact .inl ⟨rfl, rfl, by simp [Client.record]⟩
  | copy | reset =>
    cases performed
    exact .inl ⟨rfl, rfl, fun _ _ _ _ => Client.mem_assign (by simp)⟩
  | move =>
    cases performed
    exact .inl ⟨rfl, rfl, fun _ _ _ _ => (Client.mem_assign (by simp)).trans (Client.mem_assign (by simp))⟩

theorem Steps.posts {session : Session} {action : ClientAction} {control : Control}
    {posts : List NetworkAction} {after : Party}
    (steps : Steps network party uninitialised session action control posts after) :
    posts = [] ∨
      (∃ handle x y,
        posts = NetworkAction.request (number party session.client.sent) handle uninitialised x y) ∨
      ∃ rpc response, network.told (number party rpc) = some response ∧
        posts = network.collect (number party rpc) := by
  cases steps with
  | answered told => exact .inr (.inr ⟨_, _, told, rfl⟩)
  | returned | threw => exact .inl rfl
  | called => exact .inr (.inl ⟨_, _, _, rfl⟩)
  | performed performed =>
    rcases perform_posts performed with ⟨nothing, -⟩ | ⟨handle, x, y, sent, -⟩ |
      ⟨impl, response, told, collected, -⟩
    · exact .inl nothing
    · exact .inr (.inl ⟨handle, x, y, sent⟩)
    · exact .inr (.inr ⟨_, response, told, collected⟩)

/-- The calls of a party in the network are the RPCs that its client has sent. -/
structure Posted (network : Network J β) (party : Nat) (client : Client) : Prop where
  fresh : ∀ rpc, client.sent ≤ rpc → network.calls (number party rpc) = none
  known : ∀ rpc, rpc < client.sent → ∃ handle x y, .sent rpc handle x y ∈ client.trace
  posted : ∀ rpc handle x y, .sent rpc handle x y ∈ client.trace ↔ ∃ uninitialised outcome,
    network.calls (number party rpc) = some (.computeSum handle uninitialised x y none, outcome)

def Unposted (network later : Network J β) (party : Nat) : Prop :=
  ∀ rpc call, (∃ outcome, later.calls (number party rpc) = some (call, outcome)) ↔
    ∃ outcome, network.calls (number party rpc) = some (call, outcome)

private theorem Unposted.of_eq
    (same : ∀ rpc, later.calls (number party rpc) = network.calls (number party rpc)) :
    Unposted network later party := by
  intro rpc call
  rw [same]

namespace Posted

variable {client after : Client}

theorem kept (posted : Posted network party client) (unposted : Unposted network later party)
    (sent : after.sent = client.sent)
    (trace : ∀ rpc handle x y, .sent rpc handle x y ∈ after.trace ↔ .sent rpc handle x y ∈ client.trace) :
    Posted later party after where
  fresh := by
    intro rpc late
    cases called : later.calls (number party rpc) with
    | none => rfl
    | some found =>
      obtain ⟨outcome, before⟩ := (unposted rpc found.1).mp ⟨found.2, called⟩
      cases before.symm.trans (posted.fresh rpc (sent ▸ late))
  known := by
    intro rpc early
    obtain ⟨handle, x, y, member⟩ := posted.known rpc (sent ▸ early)
    exact ⟨handle, x, y, (trace rpc handle x y).mpr member⟩
  posted := by
    intro rpc handle x y
    rw [trace, posted.posted]
    exact exists_congr fun uninitialised => (unposted rpc _).symm

theorem request (posted : Posted network party client) {handle : CacheHandleImpl} {x y : Int32}
    (ran : Network.run runtime (NetworkAction.request (number party client.sent) handle uninitialised x y)
      network = some later) :
    Posted later party { client.record (.sent client.sent handle x y) with sent := client.sent + 1 } := by
  obtain ⟨fresh, rfl⟩ := Network.run_request.mp ran
  have unsent : ∀ handle x y, .sent client.sent handle x y ∉ client.trace := by
    intro handle x y member
    obtain ⟨garbage, outcome, called⟩ := (posted.posted _ _ _ _).mp member
    cases fresh.symm.trans called
  constructor
  · intro rpc late
    have different : number party rpc ≠ number party client.sent := by
      rw [Ne, number_inj]
      rintro ⟨-, rfl⟩
      exact absurd late (Nat.not_succ_le_self _)
    simpa [different] using posted.fresh rpc (Nat.le_of_succ_le late)
  · intro rpc early
    rcases Nat.lt_succ_iff_lt_or_eq.mp early with older | rfl
    · obtain ⟨earlier, a, b, member⟩ := posted.known rpc older
      exact ⟨earlier, a, b, List.mem_append_left _ member⟩
    · exact ⟨handle, x, y, by simp [Client.record]⟩
  · intro rpc other a b
    by_cases same : rpc = client.sent
    · subst same
      simp [Client.record, unsent, eq_comm]
    · have different : number party rpc ≠ number party client.sent := by
        rw [Ne, number_inj]
        exact fun both => same both.2
      simpa [Client.record, different, same] using posted.posted rpc other a b

end Posted

private theorem unposted_collect {rpc : Nat} {response : RequestResult Int32} (other : Nat)
    (told : network.told (number party rpc) = some response)
    (ran : Network.run runtime (network.collect (number party rpc)) network = some later) :
    Unposted network later other := by
  obtain ⟨-, apart, kept⟩ := Network.run_collect told ran
  intro sent call
  by_cases same : number other sent = number party rpc
  · rw [same]
    exact kept call
  · rw [apart _ same]

/-- A step of one party sends no call of another one. -/
theorem Steps.unposted {session : Session} {action : ClientAction} {control : Control}
    {posts : List NetworkAction} {after : Party} {other : Nat} (different : other ≠ party)
    (steps : Steps network party uninitialised session action control posts after)
    (ran : Network.run runtime posts network = some later) : Unposted network later other := by
  rcases steps.posts with rfl | ⟨handle, x, y, rfl⟩ | ⟨rpc, response, told, rfl⟩
  · cases ran
    exact fun _ _ => Iff.rfl
  · obtain ⟨-, rfl⟩ := Network.run_request.mp ran
    refine .of_eq fun rpc => Function.update_of_ne ?_ _ _
    rw [Ne, number_inj]
    exact fun both => different both.1
  · exact unposted_collect other told ran

theorem Steps.posted {session : Session} {action : ClientAction} {control : Control}
    {posts : List NetworkAction} {after : Party} (posted : Posted network party session.client)
    (steps : Steps network party uninitialised session action control posts after)
    (ran : Network.run runtime posts network = some later) : Posted later party after.session.client := by
  cases steps with
  | answered told => exact posted.kept (unposted_collect party told ran) rfl fun _ _ _ _ => Iff.rfl
  | returned | threw =>
    cases ran
    exact posted.kept (fun _ _ => Iff.rfl) rfl fun _ _ _ _ => Iff.rfl
  | called => exact posted.request ran
  | performed performed =>
    rcases perform_posts performed with ⟨rfl, sent, trace⟩ | ⟨handle, x, y, rfl, rfl⟩ |
      ⟨impl, response, told, rfl, rfl⟩
    · cases ran
      exact posted.kept (fun _ _ => Iff.rfl) sent trace
    · exact posted.request ran
    · refine posted.kept (unposted_collect party told ran) rfl fun rpc handle x y => ?_
      simp [Client.record]

end Party

namespace Deployment

open Party

variable {J β : Type} {runtime : ProviderHandle → Runtime J β} {m_token : ProviderHandle → StdString}
variable {memory : Nat → Int32} {memories : Nat → Nat → Int32} {actions : List DeploymentAction}
variable {deployment after : Deployment J β}

theorem Moves.posts {action : DeploymentAction} (moved : Moves runtime deployment action after) :
    ∃ posts, Network.run runtime posts deployment.network = some after.network ∧
      ∀ ph token, .setSecurityToken ph token ∈ posts → action = .network (.setSecurityToken ph token) := by
  cases moved with
  | @network action reached foreign stepped =>
    refine ⟨[action], by simp [Network.run, stepped], fun ph token member => ?_⟩
    rw [← List.mem_singleton.mp member]
  | started => exact ⟨[], rfl, by simp⟩
  | moved running moved ran =>
    refine ⟨_, ran, fun ph token member => ?_⟩
    rcases (move_steps moved).posts with rfl | ⟨handle, x, y, rfl⟩ | ⟨rpc, response, told, rfl⟩
    · cases member
    · simp [NetworkAction.request] at member
    · unfold Network.collect at member
      split at member <;> simp at member

theorem run_network
    (ran : run runtime actions (initial runtime m_token memory memories) = some deployment) :
    ∃ posts, Network.run runtime posts (Network.initial runtime m_token memory) = some deployment.network ∧
      ∀ ph token, .setSecurityToken ph token ∈ posts → .network (.setSecurityToken ph token) ∈ actions := by
  have start : ∃ posts, Network.run runtime posts (Network.initial runtime m_token memory) =
      some (initial runtime m_token memory memories).network ∧ ∀ ph token,
        .setSecurityToken ph token ∈ posts → .network (.setSecurityToken ph token) ∈ ([] : List DeploymentAction) :=
    ⟨[], rfl, by simp⟩
  refine (run_repeats runtime).past_induction (fun state past => ∃ posts,
    Network.run runtime posts (Network.initial runtime m_token memory) = some state.network ∧
      ∀ ph token, .setSecurityToken ph token ∈ posts → .network (.setSecurityToken ph token) ∈ past)
    ?_ start ran
  intro action _ before later past holds stepped
  obtain ⟨posts, reached, known⟩ := holds
  obtain ⟨more, moved, knownLater⟩ := (step_moves stepped).posts
  refine ⟨posts ++ more, Network.run_both reached moved, fun ph token member => ?_⟩
  rcases List.mem_append.mp member with early | late
  · exact List.mem_append_left _ (known ph token early)
  · exact List.mem_append_right _ (by rw [knownLater ph token late]; exact List.mem_singleton_self _)

theorem Moves.posted {action : DeploymentAction} (moved : Moves runtime deployment action after)
    (posted : ∀ party, Posted deployment.network party (deployment.parties party).session.client) (party : Nat) :
    Posted after.network party (after.parties party).session.client := by
  cases moved with
  | network foreign stepped =>
    exact (posted party).kept (.of_eq (Network.foreign_calls foreign stepped)) rfl fun _ _ _ _ => Iff.rfl
  | @started other session action idle alive possible =>
    by_cases same : party = other
    · subst same
      have before := posted party
      rw [idle] at before
      simpa using before
    · simpa [same] using posted party
  | @moved other session action control uninitialised posts later reached running moved ran =>
    by_cases same : party = other
    · subst same
      have before := posted party
      rw [running] at before
      simpa using (move_steps moved).posted before ran
    · simpa [same] using (posted party).kept ((move_steps moved).unposted same ran) rfl fun _ _ _ _ => Iff.rfl

theorem run_posted
    (ran : run runtime actions (initial runtime m_token memory memories) = some deployment) (party : Nat) :
    Posted deployment.network party (deployment.parties party).session.client := by
  refine (run_repeats runtime).induction (fun state : Deployment J β => ∀ party,
    Posted state.network party (state.parties party).session.client) ?_ ?_ ran party
  · intro action _ before later posted stepped
    exact (step_moves stepped).posted posted
  · intro party
    constructor
    · exact fun _ _ => rfl
    · exact fun rpc early => absurd early (Nat.not_lt_zero rpc)
    · simp [initial, Party.initial, Session.initial, Network.initial]

/-- A call was there before, or was sent by an action of the network or by a party. -/
theorem Moves.called {action : DeploymentAction} (moved : Moves runtime deployment action after) {rpc : Nat}
    {call : RemoteCall} {outcome : Option (Except StdString Returned)}
    (called : after.network.calls rpc = some (call, outcome)) :
    (∃ outcome, deployment.network.calls rpc = some (call, outcome)) ∨
      (∃ other, action = .network other ∧ other.Foreign ∧ Network.Sends deployment.network rpc other call) ∨
      ∃ party sent handle uninitialised x y, rpc = number party sent ∧
        call = .computeSum handle uninitialised x y none := by
  cases moved with
  | started => exact .inl ⟨outcome, called⟩
  | @network action reached foreign stepped =>
    cases Network.step_moves stepped with
    | assigned | threw | served => exact .inl ⟨outcome, called⟩
    | @sent other _ _ fresh sends =>
      by_cases same : rpc = other
      · subst same
        simp only [Function.update_self] at called
        cases called
        exact .inr (.inl ⟨_, rfl, foreign, sends⟩)
      · exact .inl ⟨outcome, by simpa [same] using called⟩
    | answered before responded => exact .inl ((Network.called_answered before rpc _).mp ⟨outcome, called⟩)
  | @moved other session action control uninitialised posts later reached running moved ran =>
    rcases (move_steps moved).posts with rfl | ⟨handle, x, y, rfl⟩ | ⟨number, response, told, rfl⟩
    · cases ran
      exact .inl ⟨outcome, called⟩
    · obtain ⟨fresh, rfl⟩ := Network.run_request.mp ran
      by_cases same : rpc = Party.number other session.client.sent
      · subst same
        simp only [Function.update_self] at called
        cases called
        exact .inr (.inr ⟨_, _, handle, uninitialised, x, y, rfl, rfl⟩)
      · exact .inl ⟨outcome, by simpa [same] using called⟩
    · obtain ⟨-, apart, kept⟩ := Network.run_collect told ran
      by_cases same : rpc = Party.number other number
      · subst same
        exact .inl ((kept _).mp ⟨outcome, called⟩)
      · exact .inl ⟨outcome, by rw [← apart rpc same, called]⟩

/-- Nobody but a client sends a `computeSum`. -/
theorem run_sums
    (ran : run runtime actions (initial runtime m_token memory memories) = some deployment) {rpc : Nat}
    {self : CacheHandleImpl} {uninitialised x y : Int32} {result : Option Nat}
    {outcome : Option (Except StdString Returned)}
    (called : deployment.network.calls rpc = some (.computeSum self uninitialised x y result, outcome)) :
    ∃ party sent, rpc = number party sent ∧
      .sent sent self x y ∈ (deployment.parties party).session.client.trace := by
  have numbered : ∃ party sent, rpc = number party sent := by
    have start : ∀ rpc self uninitialised x y result outcome,
        (initial runtime m_token memory memories).network.calls rpc =
          some (.computeSum self uninitialised x y result, outcome) → ∃ party sent, rpc = number party sent := by
      intro rpc self uninitialised x y result outcome called
      cases called
    refine (run_repeats runtime).induction (fun state : Deployment J β => ∀ rpc self uninitialised x y result
      outcome, state.network.calls rpc = some (.computeSum self uninitialised x y result, outcome) →
      ∃ party sent, rpc = number party sent) ?_ start ran rpc self uninitialised x y result outcome called
    intro action _ before later holds stepped rpc self uninitialised x y result outcome called
    rcases (step_moves stepped).called called with ⟨earlier, known⟩ | ⟨other, -, foreign, sends⟩ |
      ⟨party, sent, _, _, _, _, same, -⟩
    · exact holds rpc self uninitialised x y result earlier known
    · cases sends
      exact foreign.elim
    · exact ⟨party, sent, same⟩
  obtain ⟨party, sent, rfl⟩ := numbered
  have posted := run_posted ran party
  have early : sent < (deployment.parties party).session.client.sent := by
    by_contra late
    cases called.symm.trans (posted.fresh sent (Nat.le_of_not_lt late))
  obtain ⟨handle, a, b, member⟩ := posted.known sent early
  obtain ⟨garbage, ended, found⟩ := (posted.posted sent handle a b).mp member
  cases called.symm.trans found
  exact ⟨party, sent, rfl, member⟩

/-- The sessions of the clients, for answers that agree with the network. -/
def Sessions (memories : Nat → Nat → Int32) (deployment : Deployment J β) (past : List DeploymentAction) : Prop :=
  ∀ party answers, Agrees deployment.network party answers →
    Session.run answers (past.filterMap (·.starts party)) (Session.initial (memories party)) =
      some ((deployment.parties party).finish answers)

theorem Sessions.moves {action : DeploymentAction} {past : List DeploymentAction}
    (sessions : Sessions memories deployment past) (moved : Moves runtime deployment action after) :
    Sessions memories after (past ++ [action]) := by
  obtain ⟨sent, went, -⟩ := moved.posts
  intro party answers agrees
  have earlier := sessions party answers (agrees.before went)
  cases moved with
  | network => simpa [List.filterMap_cons] using earlier
  | @started other session action idle alive possible =>
    by_cases same : party = other
    · subst same
      have before : (deployment.parties party).finish answers = session := by rw [idle, finish]
      have begun : session.step answers action =
          some (finish answers ⟨session, some (action, .ready action.program)⟩) := by
        rw [Session.step, if_pos ⟨alive, possible⟩]
        rfl
      have own : [DeploymentAction.start party action].filterMap (·.starts party) = [action] := by simp
      rw [List.filterMap_append, (Session.run_repeats answers).append, earlier, before, own]
      simpa [Session.run] using begun
    · simpa [same, Ne.symm same] using earlier
  | @moved other session action control uninitialised posts later reached running moved ran =>
    by_cases same : party = other
    · subst same
      have kept := (move_steps moved).finish ran agrees
      simpa [List.filterMap_cons, kept, ← running] using earlier
    · simpa [List.filterMap_cons, same] using earlier

theorem run_sessions
    (ran : run runtime actions (initial runtime m_token memory memories) = some deployment) :
    Sessions memories deployment actions := by
  have start : Sessions memories (initial runtime m_token memory memories) [] := fun _ _ _ => rfl
  refine (run_repeats runtime).past_induction (Sessions memories) ?_ start ran
  intro action _ before later past sessions stepped
  exact sessions.moves (step_moves stepped)

/-- However the clients, the administrators and the providers interleave: the network takes
part in one of its runs, where the `computeSum` calls are the RPCs that the clients have
sent. Each client does what its operations do one after the other, given only the responses
that it has got, whatever it will get; where it is in the middle of one, this is how that
one ends. -/
theorem clients_run_sessions
    (ran : run runtime actions (initial runtime m_token memory memories) = some deployment) :
    (∃ posts, Network.run runtime posts (Network.initial runtime m_token memory) = some deployment.network) ∧
      (∀ rpc self uninitialised x y result outcome,
        deployment.network.calls rpc = some (.computeSum self uninitialised x y result, outcome) →
        ∃ party sent, rpc = number party sent ∧
          .sent sent self x y ∈ (deployment.parties party).session.client.trace) ∧
      ∀ party,
        (∀ rpc handle x y, .sent rpc handle x y ∈ (deployment.parties party).session.client.trace ↔
          ∃ uninitialised outcome, deployment.network.calls (number party rpc) =
            some (.computeSum handle uninitialised x y none, outcome)) ∧
        ∀ answers, Agrees deployment.network party answers →
          Session.run answers (actions.filterMap (·.starts party)) (Session.initial (memories party)) =
            some ((deployment.parties party).finish answers) := by
  obtain ⟨posts, reached, -⟩ := run_network ran
  refine ⟨⟨posts, reached⟩, fun _ _ _ _ _ _ _ called => run_sums ran called, fun party => ?_⟩
  exact ⟨(run_posted ran party).posted, run_sessions ran party⟩

/-- What a party has heard, and failures for the rest. -/
def heardBy (network : Network J β) (party rpc : Nat) : RequestResult Int32 :=
  (network.heard (number party rpc)).getD { m_success := false, m_value := 0 }

theorem heardBy_agrees (network : Network J β) (party : Nat) : Agrees network party (heardBy network party) := by
  intro rpc response heard
  rw [heardBy, heard, Option.getD_some]

/-- A cache is created. One client asks for a sum, and waits for it while another client
asks for one synchronously. -/
def overlappingSums : List DeploymentAction := List.flatten [
  [.network (.admin 0 (.createCache ⟨lit "na+sm", 0⟩ UUID.clear (lit "dummy") (lit "{}") [])),
    .network (.deliver 0)],
  List.replicate 6 (.network (.handle 0)),
  [.network (.answer 0), .start 0 (.construct 0), .step 0 0,
    .start 0 (.computeSum ⟨some ⟨⟨lit "na+sm", 0⟩, UUID.clear⟩⟩ 1 2 (some 7) (some 0))],
  List.replicate 12 (.step 0 0),
  [.start 1 (.computeSum ⟨some ⟨⟨lit "na+sm", 0⟩, UUID.clear⟩⟩ 3 4 (some 7) none), .step 1 0,
    .start 0 (.wait 0)],
  List.replicate 3 (.step 0 0),
  [.network (.deliver (number 1 0)), .network (.deliver (number 0 0))],
  List.replicate 6 (.network (.handle (number 1 0))), List.replicate 3 (.step 1 0),
  List.replicate 6 (.network (.handle (number 0 0))), List.replicate 5 (.step 0 0)]

theorem overlappingSums_run : ∃ deployment,
    run (fun _ => DummyCache.sample) overlappingSums
      (initial (fun _ => DummyCache.sample) (fun _ => []) (fun _ => 0) fun _ _ => 0) = some deployment ∧
    (deployment.parties 0).running = none ∧ .wrote (some 0) 7 3 ∈ (deployment.parties 0).session.client.trace ∧
    .wrote none 7 7 ∈ (deployment.parties 1).session.client.trace := by
  have checked : ((run (fun _ => DummyCache.sample) overlappingSums
      (initial (fun _ => DummyCache.sample) (fun _ => []) (fun _ => 0) fun _ _ => 0)).any fun deployment =>
        (deployment.parties 0).running.isNone ∧
        .wrote (some 0) 7 3 ∈ (deployment.parties 0).session.client.trace ∧
        .wrote none 7 7 ∈ (deployment.parties 1).session.client.trace) = true := by decide +kernel
  obtain ⟨deployment, ran, found⟩ := (Option.any_eq_true _ _).mp checked
  exact ⟨deployment, ran, by simpa using found⟩

theorem overlappingSums_sessions : ∃ deployment,
    run (fun _ => DummyCache.sample) overlappingSums
      (initial (fun _ => DummyCache.sample) (fun _ => []) (fun _ => 0) fun _ _ => 0) = some deployment ∧
    .wrote (some 0) 7 3 ∈ (deployment.parties 0).session.client.trace ∧
    Session.run (heardBy deployment.network 0) (overlappingSums.filterMap (·.starts 0)) (.initial fun _ => 0) =
      some (deployment.parties 0).session := by
  obtain ⟨deployment, ran, idle, wrote, -⟩ := overlappingSums_run
  have sessions := ((clients_run_sessions ran).2.2 0).2 _ (heardBy_agrees deployment.network 0)
  refine ⟨deployment, ran, wrote, ?_⟩
  simpa [finish, idle] using sessions

end Deployment

end Cachersize

import Cachersize.Client.Bounded
import Cachersize.Network.Linearization
import Cachersize.Network.Sessions
import Cachersize.Network.Settling

/-! What clients get from the service: the values in their memory are sums with a place in
the order of all calls, and no operation waits forever. -/
namespace Cachersize

open Concurrent Memory

/-- What is left of the operation meets the preconditions of all its steps. -/
def Control.Sensible (answers : Nat → RequestResult Int32) (client : Client) : Control → Prop
  | .ready program => (origins answers).Meets program client
  | .calling rpc next => rpc < client.sent ∧ (origins answers).Meets (next (answers rpc)) client

namespace Party

variable {J β : Type} {runtime : ProviderHandle → Runtime J β} {network later : Network J β}
variable {party : Nat} {uninitialised : Int32} {answers : Nat → RequestResult Int32}

/-- The state of a client, also in the middle of an operation. -/
structure Grounded (answers : Nat → RequestResult Int32) (memory : Nat → Int32) (state : Party) : Prop where
  sourced : state.session.client.Sourced answers
  sensible : ∀ action control, state.running = some (action, control) →
    control.Sensible answers state.session.client
  extends_initial : (Session.initial memory).client.Extends state.session.client

namespace Grounded

variable {memory : Nat → Int32} {session : Session} {action : ClientAction}

theorem initial (answers : Nat → RequestResult Int32) (memory : Nat → Int32) :
    Grounded answers memory (Party.initial memory) where
  sourced := by
    constructor
    · nofun
    · exact fun impl born => absurd born (Nat.not_lt_zero impl)
    · nofun
    · nofun
  sensible := nofun
  extends_initial := .refl _

theorem start (grounded : Grounded answers memory ⟨session, none⟩) :
    Grounded answers memory ⟨session, some (action, .ready action.program)⟩ where
  sourced := grounded.sourced
  sensible := by
    rintro _ _ ⟨rfl⟩
    exact action.sensible grounded.sourced
  extends_initial := grounded.extends_initial

theorem steps {control : Control} {posts : List NetworkAction} {after : Party}
    (grounded : Grounded answers memory ⟨session, some (action, control)⟩)
    (steps : Steps network party uninitialised session action control posts after)
    (ran : Network.run runtime posts network = some later) (agrees : Agrees later party answers) :
    Grounded answers memory after := by
  obtain ⟨sourced, sensible, extended⟩ := grounded
  have meets := sensible action control rfl
  cases steps with
  | answered told =>
    have known := agrees _ _ (Network.run_collect told ran).1
    refine ⟨sourced, ?_, extended⟩
    rintro _ _ ⟨rfl⟩
    exact known ▸ meets.2
  | returned | threw => exact ⟨sourced, nofun, extended⟩
  | called =>
    refine ⟨sourced.exec meets.1, ?_, extended.trans (.exec answers _ _)⟩
    rintro _ _ ⟨rfl⟩
    exact ⟨Nat.lt_succ_self _, meets.2⟩
  | @performed op _ answer client next performed =>
    have executed := perform_exec performed ran agrees
    have kept := sourced.exec meets.1
    have longer := extended.trans (.exec answers op session.client)
    rw [executed] at kept longer
    refine ⟨kept, ?_, longer⟩
    rintro _ _ ⟨rfl⟩
    have rest := meets.2
    rw [executed] at rest
    exact rest

end Grounded

end Party

namespace Deployment

open Party Network ProviderImpl

variable {J β : Type} {runtime : ProviderHandle → Runtime J β} {m_token : ProviderHandle → StdString}
variable {memory : Nat → Int32} {memories : Nat → Nat → Int32} {actions : List DeploymentAction}
variable {deployment after : Deployment J β}

theorem Moves.grounded {action : DeploymentAction} {party : Nat} {answers : Nat → RequestResult Int32}
    {start : Nat → Int32} (moved : Moves runtime deployment action after)
    (grounded : Grounded answers start (deployment.parties party)) (agrees : Agrees after.network party answers) :
    Grounded answers start (after.parties party) := by
  cases moved with
  | network => exact grounded
  | @started other session action idle alive possible =>
    by_cases same : party = other
    · subst same
      rw [idle] at grounded
      simpa using grounded.start
    · simpa [same] using grounded
  | @moved other session action control uninitialised posts state reached running moved ran =>
    by_cases same : party = other
    · subst same
      rw [running] at grounded
      simpa using grounded.steps (move_steps moved) ran agrees
    · simpa [same] using grounded

theorem run_grounded
    (ran : run runtime actions (initial runtime m_token memory memories) = some deployment) (party : Nat)
    {answers : Nat → RequestResult Int32} (agrees : Agrees deployment.network party answers) :
    Grounded answers (memories party) (deployment.parties party) := by
  refine (run_repeats runtime).induction (fun state : Deployment J β => ∀ answers,
    Agrees state.network party answers → Grounded answers (memories party) (state.parties party)) ?_ ?_ ran
    answers agrees
  · intro action _ before later holds stepped answers agrees
    have moved := step_moves stepped
    obtain ⟨posts, went, -⟩ := moved.posts
    exact moved.grounded (holds answers (agrees.before went)) agrees
  · exact fun answers _ => .initial answers (memories party)

/-- The client wrote the value of a successful sum that has its place in the order, to the
pointer that it passed to this very call: for the request of an asynchronous call, or right
after a synchronous one. -/
def OrderedSum (order : List (Operation (ProviderHandle × Request) Response)) (party : Nat)
    (calls : List SumCall) (trace : List ClientEvent) (holder : Option Nat) (result : Nat) (value : Int32) :
    Prop :=
  ∃ rpc handle uninitialised x y req response,
    ⟨number party rpc, (handle.m_ph, .computeSum uninitialised handle.m_cache_id x y), .int32 response⟩ ∈ order ∧
    response.m_success = true ∧ response.m_value = value ∧
    calls[rpc]? = some ⟨handle, x, y, some result, req⟩ ∧ .sent rpc handle x y ∈ trace ∧
    match holder with
    | some impl => req ≠ none ∧ .created impl rpc (some result) ∈ trace
    | none => req = none ∧ [.sent rpc handle x y, .wrote none result value] <:+: trace

/-- What a client has called so far, also in the middle of an operation, is the beginning of
what the operations call that it has started. -/
theorem run_issued
    (ran : run runtime actions (initial runtime m_token memory memories) = some deployment) (party : Nat)
    {answers : Nat → RequestResult Int32} (agrees : Agrees deployment.network party answers) :
    (deployment.parties party).session.client.issued <+: callEvents answers 0 0
      ((actions.filterMap (·.starts party)).filterMap ClientAction.sum) := by
  have issues := Session.run_issues (run_sessions ran party answers agrees)
  obtain ⟨events, trace, -⟩ := finish_extends answers (deployment.parties party)
  have issued : ((deployment.parties party).finish answers).client.issued = callEvents answers 0 0
      ((actions.filterMap (·.starts party)).filterMap ClientAction.sum) := issues.issued
  rw [← issued, Client.issued, Client.issued, trace]
  exact (List.prefix_append _ events).filter _

private theorem heardBy_success {network : Network J β} {party rpc : Nat}
    (success : (heardBy network party rpc).m_success = true) :
    network.heard (number party rpc) = some (heardBy network party rpc) := by
  unfold heardBy at success ⊢
  cases heard : network.heard (number party rpc) with
  | none =>
    rw [heard] at success
    cases success
  | some response => rfl

private theorem heard_in_order {past : List (HistoryEvent (ProviderHandle × Request) Response)}
    {network : Network J β}
    (witnessed : Witnessed runtime m_token network past) {A : Type}
    {apply : Operation (ProviderHandle × Request) Response → A → A → Prop} {first last : A}
    {order : List (Operation (ProviderHandle × Request) Response)}
    (whole : Linearizes apply first last past order) {rpc : Nat} {call : RemoteCall}
    {outcome : Option (Except StdString Returned)} {response : RequestResult Int32}
    (called : network.calls rpc = some (call, outcome)) (heard : network.heard rpc = some response) :
    ⟨rpc, (call.ph, call.request), .int32 response⟩ ∈ order := by
  obtain ⟨same, ended, answered, received⟩ := heard_eq.mp heard
  cases called.symm.trans answered
  obtain ⟨found, -, member, logged⟩ := witnessed.in_order whole answered
  obtain ⟨single, -, -, only⟩ := witnessed.answered_exit answered
  have own := mem_responses.mpr (Global.mem_own.mpr logged)
  unfold Network.received at received
  rw [only] at own received
  cases received
  cases List.mem_singleton.mp own
  exact member

/-- Every run of any clients, with synchronous and asynchronous calls, any administrators
and any providers has one order of the calls, legal for one sequential map and true to
real time, such that all that a client finds in its memory beyond what was there before
are values of its own successful sums in that order, each where its call has asked for it. -/
theorem written_sums_linearize
    {sum : ProviderHandle → Backend β → Int32 → Int32 → RequestResult Int32}
    (orderly : ∀ ph, Orderly (runtime ph) (sum ph))
    (constant : ∀ ph token, .network (.setSecurityToken ph token) ∈ actions → token = m_token ph)
    (ran : run runtime actions (initial runtime m_token memory memories) = some deployment) :
    ∃ posts order,
      Network.run runtime posts (Network.initial runtime m_token memory) = some deployment.network ∧
      Linearizes (Product fun ph => Applies (runtime ph) (m_token ph) (sum ph)
          (deployment.network.providers ph).global.log)
        (fun _ => ∅) (fun ph => (deployment.network.providers ph).global.shared.m_backends)
        (observed runtime posts (Network.initial runtime m_token memory)) order ∧
      ∀ party, (deployment.parties party).session.client.memory =
          Client.written (memories party) (deployment.parties party).session.client.trace ∧
        ∀ holder result value, .wrote holder result value ∈ (deployment.parties party).session.client.trace →
          OrderedSum order party ((actions.filterMap (·.starts party)).filterMap ClientAction.sum)
            (deployment.parties party).session.client.trace holder result value := by
  obtain ⟨posts, reached, tokens⟩ := run_network ran
  have steady := fun ph token set => constant ph token (tokens ph token set)
  obtain ⟨order, whole⟩ := run_linearizes orderly steady reached
  refine ⟨posts, order, reached, whole, fun party => ?_⟩
  have witnessed := witnessed_run reached
  have posted := run_posted ran party
  have agrees := heardBy_agrees deployment.network party
  have grounded := run_grounded ran party agrees
  have issued := run_issued ran party agrees
  have called {event : ClientEvent} (isCall : event.isCall = true)
      (member : event ∈ (deployment.parties party).session.client.trace) :
      event ∈ callEvents (heardBy deployment.network party) 0 0
        ((actions.filterMap (·.starts party)).filterMap ClientAction.sum) :=
    issued.subset (List.mem_filter.mpr ⟨member, isCall⟩)
  obtain ⟨events, trace, written⟩ := grounded.extends_initial
  refine ⟨by rw [written, trace]; rfl, fun holder result value wrote => ?_⟩
  have ordered {rpc : Nat} {handle : CacheHandleImpl} {x y : Int32}
      (success : (heardBy deployment.network party rpc).m_success = true)
      (sent : .sent rpc handle x y ∈ (deployment.parties party).session.client.trace) : ∃ uninitialised,
      ⟨number party rpc, (handle.m_ph, .computeSum uninitialised handle.m_cache_id x y),
        .int32 (heardBy deployment.network party rpc)⟩ ∈ order := by
    obtain ⟨uninitialised, outcome, called⟩ := (posted.posted rpc handle x y).mp sent
    exact ⟨uninitialised, heard_in_order witnessed whole called (heardBy_success success)⟩
  cases holder with
  | some impl =>
    obtain ⟨rpc, known, success, same, created⟩ := grounded.sourced.awaited impl result value wrote
    obtain ⟨index, handle, x, y, req, number, call⟩ := callEvents_created (called rfl created)
    obtain rfl : rpc = index := number.trans (Nat.zero_add index)
    obtain ⟨other, a, b, sent⟩ := posted.known rpc known
    obtain ⟨position, _, _, number, asked⟩ := callEvents_sent (called rfl sent)
    obtain rfl : rpc = position := number.trans (Nat.zero_add position)
    cases call.symm.trans asked
    obtain ⟨uninitialised, member⟩ := ordered success sent
    exact ⟨rpc, handle, uninitialised, x, y, some req, _, member, success, same, call, sent, nofun, created⟩
  | none =>
    obtain ⟨rpc, handle, x, y, known, success, same, adjacent⟩ := grounded.sourced.called result value wrote
    have sent := adjacent.subset List.mem_cons_self
    have pair : [.sent rpc handle x y, .wrote none result value] <:+: callEvents
        (heardBy deployment.network party) 0 0 ((actions.filterMap (·.starts party)).filterMap ClientAction.sum) :=
      (adjacent.filter ClientEvent.isCall).trans issued.isInfix
    obtain ⟨index, number, call⟩ := callEvents_wrote pair
    obtain rfl : rpc = index := number.trans (Nat.zero_add index)
    obtain ⟨uninitialised, member⟩ := ordered success sent
    exact ⟨rpc, handle, uninitialised, x, y, none, _, member, success, same, call, sent, rfl, adjacent⟩

theorem overlappingSums_ordered : ∃ deployment order,
    run (fun _ => DummyCache.sample) overlappingSums
      (initial (fun _ => DummyCache.sample) (fun _ => []) (fun _ => 0) fun _ _ => 0) = some deployment ∧
    OrderedSum order 0 [⟨⟨⟨lit "na+sm", 0⟩, UUID.clear⟩, 1, 2, some 7, some 0⟩]
      (deployment.parties 0).session.client.trace (some 0) 7 3 ∧
    OrderedSum order 1 [⟨⟨⟨lit "na+sm", 0⟩, UUID.clear⟩, 3, 4, some 7, none⟩]
      (deployment.parties 1).session.client.trace none 7 7 := by
  obtain ⟨deployment, ran, -, first, second⟩ := overlappingSums_run
  have constant : ∀ ph token, .network (.setSecurityToken ph token) ∈ overlappingSums →
      token = ([] : StdString) := by
    simp [overlappingSums]
  obtain ⟨posts, order, -, -, sums⟩ := written_sums_linearize (fun _ => dummy_orderly) constant ran
  exact ⟨deployment, order, ran, (sums 0).2 _ _ _ first, (sums 1).2 _ _ _ second⟩

/-- A sum whose handler has ended normally can be collected. -/
theorem told_of_served {network : Network J β} (sound : Sound runtime m_token network)
    (unserved : Unserved runtime network) {rpc : Nat} {handle : CacheHandleImpl} {uninitialised x y : Int32}
    {result : Option Nat} {outcome : Option (Except StdString Returned)}
    (returns : ∀ ph history cache x y, ∃ sum, (runtime ph).computeSum history cache x y = .ok sum)
    (called : network.calls rpc = some (.computeSum handle uninitialised x y result, outcome)) :
    ∃ response, network.told rpc = some response := by
  obtain ⟨ended, finished⟩ := sound.finished unserved called
  obtain ⟨actions, served⟩ := sound.served handle.m_ph
  have exit := finished_exit served finished
  suffices ∃ response, network.received rpc (.computeSum handle uninitialised x y result) =
      some (.int32 response) by
    obtain ⟨response, received⟩ := this
    exact ⟨response, told_eq.mpr ⟨_, outcome, called, received⟩⟩
  unfold Network.received
  rcases exit.sum rfl with missed | ⟨cache, sum, computed⟩ | ⟨cache, what, ⟨history, threw⟩, -⟩
  · exact ⟨_, by rw [RemoteCall.ph, missed]; rfl⟩
  · exact ⟨_, by rw [RemoteCall.ph, computed]; rfl⟩
  · obtain ⟨sum, returned⟩ := returns handle.m_ph history cache x y
    cases threw.symm.trans returned

private theorem collects {network : Network J β} {rpc : Nat} {response : RequestResult Int32}
    (told : network.told rpc = some response) :
    ∃ later, Network.run runtime (network.collect rpc) network = some later := by
  obtain ⟨call, outcome, called, received⟩ := told_eq.mp told
  cases outcome with
  | some ended => exact ⟨network, by simp [collect, called, Network.run]⟩
  | none => exact ⟨_, by simp [collect, called, Network.run, step_answer called, received]; rfl⟩

/-- A running operation can always go on, unless it waits for a provider. -/
theorem enabled
    (ran : run runtime actions (initial runtime m_token memory memories) = some deployment)
    (returns : ∀ ph history cache x y, ∃ sum, (runtime ph).computeSum history cache x y = .ok sum)
    (unserved : Unserved runtime deployment.network) {party : Nat} {session : Session} {action : ClientAction}
    {control : Control} (running : deployment.parties party = ⟨session, some (action, control)⟩)
    (uninitialised : Int32) : ∃ posts after later,
      move deployment.network party uninitialised session action control = some (posts, after) ∧
      Network.run runtime posts deployment.network = some later := by
  obtain ⟨posts, reached, -⟩ := run_network ran
  have sound := Sound.run reached
  have posted := run_posted ran party
  have grounded := run_grounded ran party (heardBy_agrees deployment.network party)
  rw [running] at posted grounded
  have told (rpc : Nat) (known : rpc < session.client.sent) :
      ∃ response, deployment.network.told (number party rpc) = some response := by
    obtain ⟨handle, x, y, sent⟩ := posted.known rpc known
    obtain ⟨garbage, outcome, called⟩ := (posted.posted rpc handle x y).mp sent
    exact told_of_served sound unserved returns called
  have requests (handle : CacheHandleImpl) (x y : Int32) : ∃ later, Network.run runtime
      (NetworkAction.request (number party session.client.sent) handle uninitialised x y)
      deployment.network = some later :=
    ⟨_, run_request.mpr ⟨posted.fresh _ (le_refl _), rfl⟩⟩
  have awaited (impl : Nat) (born : impl < session.client.created) : ∃ response,
      deployment.network.told (number party (session.client.impls impl).m_async_response) = some response :=
    told _ (grounded.sourced.requests impl born).1
  have meets := grounded.sensible action control rfl
  cases control with
  | calling rpc next =>
    obtain ⟨response, told⟩ := told rpc meets.1
    obtain ⟨later, collected⟩ := collects told
    exact ⟨_, _, later, by rw [move, told]; rfl, collected⟩
  | ready program =>
    cases program with
    | done result => exact ⟨_, _, _, rfl, rfl⟩
    | raise thrown => exact ⟨_, _, _, rfl, rfl⟩
    | perform op next =>
      cases op with
      | call handle x y =>
        obtain ⟨later, sent⟩ := requests handle x y
        exact ⟨_, _, later, rfl, sent⟩
      | async handle x y =>
        obtain ⟨later, sent⟩ := requests handle x y
        exact ⟨_, _, later, rfl, sent⟩
      | wait impl =>
        obtain ⟨response, told⟩ := awaited impl meets.1
        obtain ⟨later, collected⟩ := collects told
        exact ⟨_, _, later, by simp only [move, Party.perform, told]; rfl, collected⟩
      | received impl arrived =>
        obtain ⟨response, told⟩ := awaited impl meets.1
        have polled : Party.perform deployment.network party uninitialised session.client (.received impl arrived) =
            some ([], Client.exec unheard (.received impl arrived) session.client) := by
          simp only [Party.perform, told, reduceCtorEq, and_false, ↓reduceIte]
        exact ⟨[], _, _, by simp only [move, polled]; rfl, rfl⟩
      | _ => exact ⟨_, _, _, rfl, rfl⟩

/-- How many steps of an operation may be left: two at most for what its program performs,
and one for its end. -/
def Left (left : Nat) : Control → Prop
  | .ready program => ∃ bound, program.Within bound ∧ 2 * bound + 1 ≤ left
  | .calling _ next => ∃ bound, (∀ response, (next response).Within bound) ∧ 2 * bound + 2 ≤ left

private theorem steps_left {network : Network J β} {party : Nat} {uninitialised : Int32} {session : Session}
    {action : ClientAction} {control : Control} {posts : List NetworkAction} {after : Party} {left : Nat}
    (steps : Steps network party uninitialised session action control posts after) (enough : Left left control) :
    ∃ less, left = less + 1 ∧ ∀ later control, after.running = some (later, control) → Left less control := by
  cases steps with
  | answered told =>
    obtain ⟨bound, within, fits⟩ := enough
    refine ⟨left - 1, by omega, ?_⟩
    rintro _ _ ⟨rfl⟩
    exact ⟨bound, within _, by omega⟩
  | returned | threw =>
    obtain ⟨bound, within, fits⟩ := enough
    exact ⟨left - 1, by omega, nofun⟩
  | called =>
    obtain ⟨bound, within, fits⟩ := enough
    obtain ⟨less, rfl, rest⟩ := within.pos
    refine ⟨left - 1, by omega, ?_⟩
    rintro _ _ ⟨rfl⟩
    exact ⟨less, rest, by omega⟩
  | performed performed =>
    obtain ⟨bound, within, fits⟩ := enough
    obtain ⟨less, rfl, rest⟩ := within.pos
    refine ⟨left - 1, by omega, ?_⟩
    rintro _ _ ⟨rfl⟩
    exact ⟨less, rest _, by omega⟩

/-- What a party may still do is covered by the operations that it has started. -/
def Covered (party : Nat) (state : Party) (past : List DeploymentAction) : Prop :=
  ∃ left, past.countP (·.moves party) + left ≤ 55 * (past.filterMap (·.starts party)).length ∧
    ∀ action control, state.running = some (action, control) → Left left control

private theorem Moves.covered {action : DeploymentAction} {past : List DeploymentAction} {party : Nat}
    (moved : Moves runtime deployment action after) (covered : Covered party (deployment.parties party) past) :
    Covered party (after.parties party) (past ++ [action]) := by
  obtain ⟨left, spent, enough⟩ := covered
  cases moved with
  | network => exact ⟨left, by simpa [List.filterMap_cons] using spent, enough⟩
  | @started other session action idle alive possible =>
    by_cases same : party = other
    · subst same
      refine ⟨55, ?_, ?_⟩
      · have unmoved : (past ++ [DeploymentAction.start party action]).countP (·.moves party) =
            past.countP (·.moves party) := by simp
        have begun : ((past ++ [DeploymentAction.start party action]).filterMap (·.starts party)).length =
            (past.filterMap (·.starts party)).length + 1 := by simp
        omega
      · intro later control running
        simp only [Function.update_self, Option.some.injEq, Prod.mk.injEq] at running
        obtain ⟨-, rfl⟩ := running
        exact ⟨27, action.within, by decide⟩
    · refine ⟨left, ?_, by simpa [same] using enough⟩
      simpa [List.filterMap_cons, same, Ne.symm same] using spent
  | @moved other session action control uninitialised posts later reached running moved ran =>
    by_cases same : party = other
    · subst same
      obtain ⟨less, rfl, fewer⟩ := steps_left (move_steps moved) (enough action control (by rw [running]))
      refine ⟨less, ?_, by simpa using fewer⟩
      have moves : (past ++ [DeploymentAction.step party uninitialised]).countP (·.moves party) =
          past.countP (·.moves party) + 1 := by simp
      have begun : (past ++ [DeploymentAction.step party uninitialised]).filterMap (·.starts party) =
          past.filterMap (·.starts party) := by simp [List.filterMap_cons]
      rw [moves, begun]
      omega
    · refine ⟨left, ?_, by simpa [same] using enough⟩
      simpa [List.filterMap_cons, same, Ne.symm same] using spent

/-- Clients are never stuck. A party takes at most 55 steps for an operation; and where the
providers have nothing left to do, an operation that is not over can go on, also in the
middle of a wait, as long as no `computeSum` of a backend throws. -/
theorem operations_settle
    (ran : run runtime actions (initial runtime m_token memory memories) = some deployment) (party : Nat) :
    actions.countP (·.moves party) ≤ 55 * (actions.filterMap (·.starts party)).length ∧
      ((∀ ph history cache x y, ∃ sum, (runtime ph).computeSum history cache x y = .ok sum) →
        Unserved runtime deployment.network → ∀ uninitialised,
        deployment.step runtime (.step party uninitialised) = none → (deployment.parties party).running = none) := by
  constructor
  · have start : Covered party ((initial runtime m_token memory memories).parties party) [] := ⟨0, by simp, nofun⟩
    have covered : Covered party (deployment.parties party) actions := by
      refine (run_repeats runtime).past_induction (fun state past => Covered party (state.parties party) past)
        ?_ start ran
      intro action _ before later past covered stepped
      exact (step_moves stepped).covered covered
    obtain ⟨left, spent, -⟩ := covered
    omega
  · intro returns unserved uninitialised still
    match running : deployment.parties party with
    | ⟨session, none⟩ => rfl
    | ⟨session, some (action, control)⟩ =>
      obtain ⟨posts, after, later, moved, went⟩ := enabled ran returns unserved running uninitialised
      simp [step, running, moved, went] at still

def unknownSum : List DeploymentAction :=
  [.start 0 (.computeSum ⟨some ⟨⟨lit "na+sm", 0⟩, UUID.clear⟩⟩ 1 2 (some 7) none), .step 0 0,
    .network (.deliver (number 0 0))] ++ List.replicate 4 (.network (.handle (number 0 0))) ++
  List.replicate 2 (.step 0 0)

theorem unknownSum_settles : ∃ deployment,
    run (fun _ => DummyCache.sample) unknownSum
      (initial (fun _ => DummyCache.sample) (fun _ => []) (fun _ => 0) fun _ _ => 0) = some deployment ∧
    (deployment.parties 0).running = none := by
  obtain ⟨deployment, ran, still, reached, idle⟩ : ∃ deployment,
      run (fun _ => DummyCache.sample) unknownSum
        (initial (fun _ => DummyCache.sample) (fun _ => []) (fun _ => 0) fun _ _ => 0) = some deployment ∧
      deployment.step (fun _ => DummyCache.sample) (.step 0 0) = none ∧
      Network.run (fun _ => DummyCache.sample) (NetworkAction.request 1 ⟨⟨lit "na+sm", 0⟩, UUID.clear⟩ 0 1 2 ++
          [.deliver 1] ++ List.replicate 4 (.handle 1) ++ [.answer 1])
        (Network.initial (fun _ => DummyCache.sample) (fun _ => []) fun _ => 0) = some deployment.network ∧
      deployment.network.step (fun _ => DummyCache.sample) (.deliver 1) = none ∧
      deployment.network.step (fun _ => DummyCache.sample) (.handle 1) = none := ⟨_, rfl, rfl, rfl, rfl, rfl⟩
  have unserved : Unserved (fun _ => DummyCache.sample) deployment.network := by
    intro rpc
    cases called : deployment.network.calls rpc with
    | none => simp [Network.step, called]
    | some found =>
      have started := (Budgeted.run reached).started rpc found.1 found.2 called
      have same : rpc = 1 := by simpa [NetworkAction.request, NetworkAction.starts] using started
      exact same ▸ idle
  have returns : ∀ (_ : ProviderHandle) history cache x y, ∃ sum,
      DummyCache.sample.computeSum history cache x y = .ok sum := fun _ _ _ _ _ => ⟨_, rfl⟩
  exact ⟨deployment, ran, (operations_settle ran 0).2 returns unserved 0 still⟩

end Deployment

end Cachersize

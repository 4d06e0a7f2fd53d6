import Cachersize.Client.Delivery
import Cachersize.Client.Settlement
import Cachersize.Network.Clients

/-! Clients of caches that live: each sum is computed once by the backend, and delivered
once to the client. -/
namespace Cachersize

open Concurrent Memory

/-- Where all responses are successes, no destructor throws. -/
theorem Session.running_of_success {answers : Nat → RequestResult Int32} {memory : Nat → Int32}
    {actions : List ClientAction} {session : Session}
    (success : ∀ rpc, (answers rpc).m_success = true)
    (ran : run answers actions (initial memory) = some session) : session.terminated = false := by
  refine (run_induction (fun later => later.Formed ∧ later.terminated = false) ?_
    ⟨initial_formed memory, rfl⟩ ran).2
  intro action _ before after holds stepped
  obtain ⟨formed, running⟩ := holds
  refine ⟨formed.step stepped, (terminated_step formed stepped).mpr ⟨running, ?_⟩⟩
  intro destroys
  cases action with
  | destruct this =>
    obtain ⟨impl, -, -, failed⟩ := destroys
    cases failed.symm.trans (success _)
  | _ => exact destroys

namespace Client

variable {answers other : Nat → RequestResult Int32} {client : Client}

theorem DeliveredOnce.congr (same : ∀ rpc, (answers rpc).m_value = (other rpc).m_value)
    (delivered : client.DeliveredOnce answers) : client.DeliveredOnce other where
  at_most_once := delivered.at_most_once
  waited_iff := delivered.waited_iff
  released_iff := delivered.released_iff
  before_release := by simpa only [same] using delivered.before_release
  own_pointer := by simpa only [same] using delivered.own_pointer

private theorem exec_requests (answers : Nat → RequestResult Int32) (op : ClientOp) {impl : Nat}
    (born : impl < client.created) :
    impl < (exec answers op client).2.created ∧
      ((exec answers op client).2.impls impl).m_async_response = (client.impls impl).m_async_response := by
  cases op with
  | make_shared rpc result =>
    refine ⟨Nat.lt_succ_of_lt born, ?_⟩
    simp [exec, Function.update_of_ne (Nat.ne_of_lt born)]
  | set_waited other =>
    refine ⟨born, ?_⟩
    by_cases same : impl = other
    · simp [exec, same]
    · simp [exec, same]
  | _ => exact ⟨born, rfl⟩

private theorem exec_awaited {op : ClientOp} {impl : Nat}
    (awaited : .awaited impl ∈ (exec answers op client).2.trace) :
    .awaited impl ∈ client.trace ∨ op = .wait impl := by
  cases op with
  | wait other =>
    have found : .awaited impl ∈ client.trace ∨ impl = other := by simpa [exec, record] using awaited
    rcases found with old | rfl
    · exact .inl old
    · exact .inr rfl
  | copy | reset => exact .inl ((mem_assign (by simp)).mp awaited)
  | move => exact .inl ((mem_assign (by simp)).mp ((mem_assign (by simp)).mp awaited))
  | self | unique | m_waited | set_waited => exact .inl awaited
  | _ => exact .inl (by simpa [exec, record] using awaited)

end Client

namespace Party

variable {J β : Type} {runtime : ProviderHandle → Runtime J β} {network later : Network J β}
variable {party : Nat} {uninitialised : Int32}

def Collected (network : Network J β) (party : Nat) (client : Client) : Prop :=
  ∀ impl, .awaited impl ∈ client.trace → impl < client.created ∧
    ∃ response, network.heard (number party (client.impls impl).m_async_response) = some response

variable {client after : Client}

theorem Collected.carried {posts : List NetworkAction} (collected : Collected network party client)
    (ran : Network.run runtime posts network = some later) : Collected later party client := by
  intro impl awaited
  obtain ⟨born, response, heard⟩ := collected impl awaited
  exact ⟨born, response, Network.run_heard heard ran⟩

theorem Collected.exec (answers : Nat → RequestResult Int32) {op : ClientOp}
    (collected : Collected network party client) (sensible : op.Sensible answers client)
    (waited : ∀ impl, op = .wait impl → ∃ response,
      network.heard (number party (client.impls impl).m_async_response) = some response) :
    Collected network party (Client.exec answers op client).2 := by
  intro impl awaited
  have old : impl < client.created ∧ ∃ response,
      network.heard (number party (client.impls impl).m_async_response) = some response := by
    rcases Client.exec_awaited awaited with earlier | rfl
    · exact collected impl earlier
    · exact ⟨sensible, waited impl rfl⟩
  obtain ⟨born, response, heard⟩ := old
  obtain ⟨still, same⟩ := Client.exec_requests answers op born
  exact ⟨still, response, by rw [same, heard]⟩

theorem Steps.collected {answers : Nat → RequestResult Int32} {memory : Nat → Int32} {session : Session}
    {action : ClientAction} {control : Control} {posts : List NetworkAction} {state : Party}
    (collected : Collected network party session.client)
    (grounded : Grounded answers memory ⟨session, some (action, control)⟩)
    (steps : Steps network party uninitialised session action control posts state)
    (ran : Network.run runtime posts network = some later) (agrees : Agrees later party answers) :
    Collected later party state.session.client := by
  have meets := grounded.sensible action control rfl
  have still := collected.carried ran
  cases steps with
  | answered | returned | threw => exact still
  | called => exact still.exec unheard trivial nofun
  | @performed op _ answer client next performed =>
    have executed := perform_exec performed ran agrees
    have kept : Collected later party (Client.exec answers op session.client).2 := by
      apply still.exec answers meets.1
      rintro impl rfl
      obtain ⟨response, told, same⟩ := Option.map_eq_some_iff.mp performed
      cases same
      exact ⟨response, (Network.run_collect told ran).1⟩
    rw [executed] at kept
    exact kept

end Party

namespace Deployment

open Party Network ProviderImpl

variable {J β : Type} {runtime : ProviderHandle → Runtime J β} {m_token : ProviderHandle → StdString}
variable {memory : Nat → Int32} {memories : Nat → Nat → Int32} {actions rest : List DeploymentAction}
variable {middle deployment : Deployment J β} {party : Nat}

theorem Moves.collected {action : DeploymentAction} {after : Deployment J β}
    {answers : Nat → RequestResult Int32} {start : Nat → Int32} (moved : Moves runtime deployment action after)
    (collected : Collected deployment.network party (deployment.parties party).session.client)
    (grounded : Grounded answers start (deployment.parties party)) (agrees : Agrees after.network party answers) :
    Collected after.network party (after.parties party).session.client := by
  obtain ⟨posts, went, -⟩ := moved.posts
  cases moved with
  | network => exact collected.carried went
  | @started other session action idle alive possible =>
    by_cases same : party = other
    · subst same
      rw [idle] at collected
      simpa using collected
    · simpa [same] using collected
  | @moved other session action control uninitialised posts state reached running moved ran =>
    by_cases same : party = other
    · subst same
      rw [running] at collected grounded
      simpa using (move_steps moved).collected collected grounded ran agrees
    · simpa [same] using collected.carried ran

private theorem run_collected
    (ran : run runtime actions (initial runtime m_token memory memories) = some deployment) (party : Nat) :
    Collected deployment.network party (deployment.parties party).session.client := by
  refine ((run_repeats runtime).induction (fun state : Deployment J β =>
    (∀ answers, Agrees state.network party answers → Grounded answers (memories party) (state.parties party)) ∧
      Collected state.network party (state.parties party).session.client) ?_ ?_ ran).2
  · intro action _ before later holds stepped
    obtain ⟨grounded, collected⟩ := holds
    have moved := step_moves stepped
    obtain ⟨posts, went, -⟩ := moved.posts
    have agrees := heardBy_agrees later.network party
    refine ⟨fun answers agreed => moved.grounded (grounded answers (agreed.before went)) agreed, ?_⟩
    exact moved.collected collected (grounded _ (agrees.before went)) agrees
  · exact ⟨fun answers _ => .initial answers (memories party), nofun⟩

private theorem run_posts (ran : run runtime rest middle = some deployment) :
    ∃ posts, Network.run runtime posts middle.network = some deployment.network := by
  refine (run_repeats runtime).induction (fun state : Deployment J β =>
    ∃ posts, Network.run runtime posts middle.network = some state.network) ?_ ⟨[], rfl⟩ ran
  intro action _ before later holds stepped
  obtain ⟨posts, reached⟩ := holds
  obtain ⟨more, moved, -⟩ := (step_moves stepped).posts
  exact ⟨posts ++ more, Network.run_both reached moved⟩

/-- The RPCs of the client are for caches whose creation had returned when the RPC was sent,
and whose removal nobody asks for. -/
def OnLiveCaches (runtime : ProviderHandle → Runtime J β) (start deployment : Deployment J β)
    (actions : List DeploymentAction) (party : Nat) : Prop :=
  ∀ rpc handle x y, .sent rpc handle x y ∈ (deployment.parties party).session.client.trace →
    deployment.network.NeverRemoved handle.m_ph handle.m_cache_id ∧
    ∃ first rest middle creator creation, actions = first ++ rest ∧ run runtime first start = some middle ∧
      middle.network.calls (number party rpc) = none ∧ creation.ph = handle.m_ph ∧
      middle.network.calls creator = some (creation, some (.ok (.uuid handle.m_cache_id)))

/-- The client has an answer from the one execution of its sum, in the backend that the
creation made. -/
def Executed (network : Network J β) (party : Nat) (trace : List ClientEvent) (rpc : Nat)
    (response : RequestResult Int32) : Prop :=
  ∃ handle x y creator cache, .sent rpc handle x y ∈ trace ∧
    network.BoundOnce creator handle.m_ph handle.m_cache_id cache ∧
    sums (Global.own (number party rpc) (network.providers handle.m_ph).global.log) =
      [.computedSum cache x y (.ok response)]

private theorem heard_executed
    (ran : run runtime actions (initial runtime m_token memory memories) = some deployment)
    (distinct : deployment.network.DrawsDistinct)
    (live : OnLiveCaches runtime (initial runtime m_token memory memories) deployment actions party)
    {rpc : Nat} {response : RequestResult Int32}
    (heard : deployment.network.heard (number party rpc) = some response) :
    Executed deployment.network party (deployment.parties party).session.client.trace rpc response ∧
      ∃ ph history cache x y, (runtime ph).computeSum history cache x y = .ok response := by
  have posted := run_posted ran party
  obtain ⟨call, ended, called, received⟩ := heard_eq.mp heard
  have early : rpc < (deployment.parties party).session.client.sent := by
    by_contra late
    cases called.symm.trans (posted.fresh rpc (Nat.le_of_not_lt late))
  obtain ⟨handle, x, y, sent⟩ := posted.known rpc early
  obtain ⟨uninitialised, outcome, asked⟩ := (posted.posted rpc handle x y).mp sent
  cases called.symm.trans asked
  obtain ⟨kept, first, rest, middle, creator, creation, rfl, before, fresh, target, created⟩ :=
    live rpc handle x y sent
  rw [(run_repeats runtime).append, before] at ran
  obtain ⟨postsFirst, reached⟩ := run_posts before
  obtain ⟨postsRest, went⟩ := run_posts ran
  rw [← target] at kept
  have later := witnessed_run (run_both reached went)
  obtain ⟨cache, once, finds⟩ :=
    (witnessed_run reached).finds_created later went distinct created kept
  rw [target] at once finds
  obtain ⟨sum, -, single, computed, history, returned⟩ := later.sum_computed called (finds _ fresh)
  unfold Network.received at received
  rw [RemoteCall.ph, single] at received
  cases received
  exact ⟨⟨handle, x, y, creator, cache, sent, once, computed⟩, _, history, cache, x, y, returned⟩

/-- The responses that the client has, and successes for the rest. -/
def hopedBy (network : Network J β) (party rpc : Nat) : RequestResult Int32 :=
  (network.heard (number party rpc)).getD { m_value := 0 }

private theorem hopedBy_agrees (network : Network J β) (party : Nat) :
    Agrees network party (hopedBy network party) := by
  intro rpc response heard
  rw [hopedBy, heard, Option.getD_some]

private theorem hopedBy_value (network : Network J β) (party rpc : Nat) :
    (hopedBy network party rpc).m_value = (heardBy network party rpc).m_value := by
  unfold hopedBy heardBy
  cases network.heard (number party rpc) <;> rfl

/-- If a client uses live caches only, and the backends report no failures, then none of its
destructors ends it, each result is delivered once to the pointer of its own call, and each
response that was waited for is the one result of one execution by the backend that was
created. -/
theorem sums_exactly_once
    (reliable : ∀ ph history cache x y sum, (runtime ph).computeSum history cache x y = .ok sum →
      sum.m_success = true)
    (ran : run runtime actions (initial runtime m_token memory memories) = some deployment)
    (distinct : deployment.network.DrawsDistinct)
    (live : OnLiveCaches runtime (initial runtime m_token memory memories) deployment actions party)
    (idle : (deployment.parties party).running = none) :
    (deployment.parties party).session.terminated = false ∧
      (deployment.parties party).session.client.DeliveredOnce (heardBy deployment.network party) ∧
      (deployment.parties party).session.client.issued = callEvents (heardBy deployment.network party) 0 0
        ((actions.filterMap (·.starts party)).filterMap ClientAction.sum) ∧
      ∀ impl, .awaited impl ∈ (deployment.parties party).session.client.trace → ∃ rpc result,
        .created impl rpc result ∈ (deployment.parties party).session.client.trace ∧
        Executed deployment.network party (deployment.parties party).session.client.trace rpc
          (heardBy deployment.network party rpc) := by
  have executed {rpc : Nat} {response : RequestResult Int32}
      (heard : deployment.network.heard (number party rpc) = some response) :=
    heard_executed ran distinct live heard
  have success : ∀ rpc, (hopedBy deployment.network party rpc).m_success = true := by
    intro rpc
    unfold hopedBy
    cases heard : deployment.network.heard (number party rpc) with
    | none => rfl
    | some response =>
      obtain ⟨-, ph, history, cache, x, y, returned⟩ := executed heard
      exact reliable ph history cache x y response returned
  have session := run_sessions ran party _ (hopedBy_agrees deployment.network party)
  rw [finish, idle] at session
  have tracked := Session.run_tracked session fun _ rpc _ _ _ => success rpc
  have heard := run_sessions ran party _ (heardBy_agrees deployment.network party)
  rw [finish, idle] at heard
  refine ⟨Session.running_of_success success session, ?_, (Session.run_issues heard).issued,
    fun impl awaited => ?_⟩
  · exact tracked.deliveredOnce.congr (hopedBy_value deployment.network party)
  · obtain ⟨born, response, heard⟩ := run_collected ran party impl awaited
    have grounded := run_grounded ran party (heardBy_agrees deployment.network party)
    obtain ⟨-, created⟩ := grounded.sourced.requests impl born
    refine ⟨_, _, created, ?_⟩
    rw [heardBy, heard]
    exact (executed heard).1

/-- The calls of administrators are the ones that they have made. -/
theorem run_admin
    (ran : run runtime actions (initial runtime m_token memory memories) = some deployment) (rpc : Nat)
    (call : AdminCall) (outcome : Option (Except StdString Returned))
    (called : deployment.network.calls rpc = some (.admin call, outcome)) :
    .network (.admin rpc call) ∈ actions := by
  have start : ∀ rpc call outcome, (initial runtime m_token memory memories).network.calls rpc =
      some (.admin call, outcome) → .network (.admin rpc call) ∈ ([] : List DeploymentAction) := nofun
  refine (run_repeats runtime).past_induction (fun state past => ∀ rpc call outcome,
    state.network.calls rpc = some (.admin call, outcome) → .network (.admin rpc call) ∈ past) ?_ start ran
    rpc call outcome called
  intro action _ before later past holds stepped rpc call outcome called
  rcases (step_moves stepped).called called with ⟨earlier, known⟩ | ⟨other, rfl, -, sends⟩ |
    ⟨_, _, _, _, _, _, -, same⟩
  · exact List.mem_append_left _ (holds rpc call earlier known)
  · cases sends
    exact List.mem_append_right _ (List.mem_singleton_self _)
  · cases same

theorem overlappingSums_once : ∃ deployment,
    run (fun _ => DummyCache.sample) overlappingSums
      (initial (fun _ => DummyCache.sample) (fun _ => []) (fun _ => 0) fun _ _ => 0) = some deployment ∧
    (deployment.parties 0).session.client.DeliveredOnce (heardBy deployment.network 0) ∧
    (deployment.parties 0).session.client.issued =
      [.sent 0 ⟨⟨lit "na+sm", 0⟩, UUID.clear⟩ 1 2, .created 0 0 (some 7)] ∧
    ∃ rpc, Executed deployment.network 0 (deployment.parties 0).session.client.trace rpc
      (heardBy deployment.network 0 rpc) := by
  have checked : ((run (fun _ => DummyCache.sample) overlappingSums
      (initial (fun _ => DummyCache.sample) (fun _ => []) (fun _ => 0) fun _ _ => 0)).any fun deployment =>
        (deployment.parties 0).running.isNone ∧
        (deployment.parties 0).session.client.trace =
          [.sent 0 ⟨⟨lit "na+sm", 0⟩, UUID.clear⟩ 1 2, .created 0 0 (some 7), .entered 0, .awaited 0,
            .wrote (some 0) 7 3, .left 0]) = true := by decide +kernel
  obtain ⟨deployment, ran, found⟩ := (Option.any_eq_true _ _).mp checked
  obtain ⟨idle, trace⟩ : (deployment.parties 0).running = none ∧
      (deployment.parties 0).session.client.trace = _ := by simpa using found
  have provided : ((run (fun _ => DummyCache.sample) (overlappingSums.take 9)
      (initial (fun _ => DummyCache.sample) (fun _ => []) (fun _ => 0) fun _ _ => 0)).any fun middle =>
        middle.network.calls (number 0 0) = none ∧ middle.network.calls 0 =
          some (.admin (.createCache ⟨lit "na+sm", 0⟩ UUID.clear (lit "dummy") (lit "{}") []),
            some (.ok (.uuid UUID.clear)))) = true := by decide +kernel
  obtain ⟨middle, before, both⟩ := (Option.any_eq_true _ _).mp provided
  obtain ⟨fresh, created⟩ : middle.network.calls (number 0 0) = none ∧ middle.network.calls 0 = _ := by
    simpa using both
  have only {rpc : Nat} {call : AdminCall} (made : .network (.admin rpc call) ∈ overlappingSums) :
      rpc = 0 ∧ call = .createCache ⟨lit "na+sm", 0⟩ UUID.clear (lit "dummy") (lit "{}") [] := by
    simpa [overlappingSums] using made
  have distinct : deployment.network.DrawsDistinct := by
    refine .of_only 0 fun rpc call outcome cache_id called drawn => ?_
    cases call with
    | admin call => exact (only (run_admin ran rpc call outcome called)).1
    | makeCacheHandle | computeSum => cases drawn
  have kept : deployment.network.NeverRemoved ⟨lit "na+sm", 0⟩ UUID.clear := by
    intro rpc call outcome token called _ removes
    cases call with
    | admin call =>
      obtain ⟨-, rfl⟩ := only (run_admin ran rpc call outcome called)
      cases removes
    | makeCacheHandle | computeSum => cases removes
  have live : OnLiveCaches (fun _ => DummyCache.sample)
      (initial (fun _ => DummyCache.sample) (fun _ => []) (fun _ => 0) fun _ _ => 0) deployment
      overlappingSums 0 := by
    intro rpc handle x y sent
    rw [trace] at sent
    obtain ⟨rfl, rfl, rfl, rfl⟩ : rpc = 0 ∧ handle = ⟨⟨lit "na+sm", 0⟩, UUID.clear⟩ ∧ x = 1 ∧ y = 2 := by
      simpa using sent
    exact ⟨kept, _, _, middle, 0, _, (List.take_append_drop 9 _).symm, before, fresh, rfl, created⟩
  have reliable : ∀ (ph : ProviderHandle) history cache x y sum,
      DummyCache.sample.computeSum history cache x y = .ok sum → sum.m_success = true := by
    rintro _ _ _ _ _ _ ⟨rfl⟩
    rfl
  obtain ⟨-, delivered, issued, executed⟩ := sums_exactly_once reliable ran distinct live idle
  obtain ⟨rpc, -, -, once⟩ := executed 0 (by rw [trace]; simp)
  exact ⟨deployment, ran, delivered, issued, rpc, once⟩

end Deployment

end Cachersize

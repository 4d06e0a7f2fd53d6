import Cachersize.Concurrent.RelyGuarantee
import Cachersize.Concurrent.Linearizability
import Cachersize.Provider.Mutex
import Cachersize.Provider.Replay
import Cachersize.Client.Procedures
import Cachersize.Dummy

/-! The registry behind the handlers is linearizable: a request takes effect when it
reads a wrong token, when its factory fails, or at its one decisive step under the
mutex. -/
namespace Cachersize.ProviderImpl

open Concurrent

variable {J β : Type}

/-- The moments of a log at which requests arrive and answers leave. -/
def history (log : Log J β) : List (HistoryEvent Request Response) :=
  log.filterMap fun entry => match entry.2 with
    | .received request => some (.invoke entry.1 request)
    | .responded response => some (.respond entry.1 response)
    | _ => none

/-- Admin requests with their token and the shape of their failures. -/
inductive Admin : Request → StdString → (StdString → Response) → Prop where
  | add : Admin (addRequest operation generated token cache_type cache_config) token failedUuid
  | remove (removes : Removes request token cache_id) : Admin request token failedBool

/-- The registry as a sequential object, a finite map from ids to backends. `log`
supplies what the factory and `destroy` answered to the request. -/
inductive Applies (runtime : Runtime J β) (m_token : StdString)
    (sum : Backend β → Int32 → Int32 → RequestResult Int32) (log : Log J β) :
    Operation Request Response → Registry β → Registry β → Prop where
  | rejected (admin : Admin request token failed) (invalid : InvalidToken m_token token) :
      Applies runtime m_token sum log ⟨thread, request, failed (lit "Invalid security token")⟩
        registry registry
  | unparsable (valid : ¬ InvalidToken m_token token)
      (parsed : runtime.parse cache_config = .error (.parse_error what)) :
      Applies runtime m_token sum log
        ⟨thread, addRequest operation generated token cache_type cache_config, failedUuid what⟩
        registry registry
  | threw (valid : ¬ InvalidToken m_token token) (parsed : runtime.parse cache_config = .ok json_config)
      (built : (thread, .built operation cache_type json_config (.error what)) ∈ log) :
      Applies runtime m_token sum log
        ⟨thread, addRequest operation generated token cache_type cache_config, failedUuid what⟩
        registry registry
  | unknown (valid : ¬ InvalidToken m_token token) (parsed : runtime.parse cache_config = .ok json_config)
      (built : (thread, .built operation cache_type json_config (.ok none)) ∈ log) :
      Applies runtime m_token sum log
        ⟨thread, addRequest operation generated token cache_type cache_config,
          failedUuid (lit "Unknown cache type " ++ cache_type)⟩
        registry registry
  | added (valid : ¬ InvalidToken m_token token) (parsed : runtime.parse cache_config = .ok json_config)
      (built : (thread, .built operation cache_type json_config (.ok (some cache))) ∈ log) :
      Applies runtime m_token sum log
        ⟨thread, addRequest operation generated token cache_type cache_config,
          .uuid { m_value := generated }⟩
        registry (registry.insert generated cache)
  | removeMissed (removes : Removes request token cache_id) (valid : ¬ InvalidToken m_token token)
      (unbound : cache_id ∉ registry) :
      Applies runtime m_token sum log ⟨thread, request, failedBool (notFound runtime cache_id)⟩
        registry registry
  | closed (valid : ¬ InvalidToken m_token token) (bound : cache_id ∈ registry) :
      Applies runtime m_token sum log ⟨thread, .closeCache token cache_id, .bool {}⟩
        registry (registry.erase cache_id)
  | destroyed (valid : ¬ InvalidToken m_token token) (found : registry.lookup cache_id = some cache)
      (returned : (thread, .destroyed cache (.ok result)) ∈ log) (success : result.m_success = true) :
      Applies runtime m_token sum log ⟨thread, .destroyCache token cache_id, .bool result⟩
        registry (registry.erase cache_id)
  | missed (finds : Finds request cache_id failed) (unbound : registry.lookup cache_id = none) :
      Applies runtime m_token sum log
        ⟨thread, request, failed (notFoundWithUuid runtime cache_id)⟩ registry registry
  | checked (found : registry.lookup cache_id = some cache) :
      Applies runtime m_token sum log ⟨thread, .checkCache cache_id, .bool {}⟩ registry registry
  | computed (found : registry.lookup cache_id = some cache) :
      Applies runtime m_token sum log
        ⟨thread, .computeSum uninitialised cache_id x y, .int32 (sum cache x y)⟩ registry registry

/-- Parsing fails only with a parse error, `destroy` succeeds, and `computeSum` is a
function of the backend and the two numbers. -/
structure Orderly (runtime : Runtime J β) (sum : Backend β → Int32 → Int32 → RequestResult Int32) :
    Prop where
  parses : ∀ cache_config what, runtime.parse cache_config ≠ .error (.other what)
  destroys : ∀ history cache, ∃ result,
    runtime.destroy history cache = .ok result ∧ result.m_success = true
  sums : ∀ history cache x y, runtime.computeSum history cache x y = .ok (sum cache x y)

variable {runtime : Runtime J β} {m_token : StdString}
variable {sum : Backend β → Int32 → Int32 → RequestResult Int32}

theorem Applies.mono {log larger : Log J β} {operation : Operation Request Response}
    {before after : Registry β} (applies : Applies runtime m_token sum log operation before after)
    (grows : log ⊆ larger) : Applies runtime m_token sum larger operation before after := by
  cases applies with
  | rejected admin invalid => exact .rejected admin invalid
  | unparsable valid parsed => exact .unparsable valid parsed
  | threw valid parsed built => exact .threw valid parsed (grows built)
  | unknown valid parsed built => exact .unknown valid parsed (grows built)
  | added valid parsed built => exact .added valid parsed (grows built)
  | removeMissed removes valid unbound => exact .removeMissed removes valid unbound
  | closed valid bound => exact .closed valid bound
  | destroyed valid found returned success => exact .destroyed valid found (grows returned) success
  | missed finds unbound => exact .missed finds unbound
  | checked found => exact .checked found
  | computed found => exact .computed found

@[simp] theorem history_append (first second : Log J β) :
    history (first ++ second) = history first ++ history second := by
  simp [history]

private theorem linearizes_extend {first last : Registry β} {log : Log J β}
    {past : List (HistoryEvent Request Response)} {order : List (Operation Request Response)}
    (linearizes : Linearizes (Applies runtime m_token sum log) first last past order) (more : Log J β) :
    Linearizes (Applies runtime m_token sum (log ++ more)) first last past order :=
  linearizes.mono fun _ _ _ applies => applies.mono (List.subset_append_left log more)

/-- The request has taken effect with this response, or not yet. -/
def Committed (thread : Nat) (request : Request) (order : List (Operation Request Response)) :
    Option Response → Prop
  | none => thread ∉ order.map (·.thread)
  | some response => ⟨thread, request, response⟩ ∈ order

/-- Where a request stands: its own events, its hold on the registry, its effect. -/
structure Stage (thread : Nat) (request : Request) (known : List (Event J β))
    (lock : Option (Registry β)) (effect : Option Response) (s : State J β)
    (order : List (Operation Request Response)) : Prop where
  known : ∀ event ∈ known, (thread, event) ∈ s.log
  held : Held thread s.shared lock
  committed : Committed thread request order effect

/-- A step also commits only the agent's own operations. -/
structure Commits (agent : Option Nat) (s : State J β) (order : List (Operation Request Response))
    (s' : State J β) (order' : List (Operation Request Response)) : Prop extends
    Interferes agent s s' where
  order : ∃ new, order' = order ++ new ∧ ∀ operation ∈ new, agent = some operation.thread

/-- The ghost state is the order in which requests took effect. -/
def registryProtocol (runtime : Runtime J β) (m_token : StdString)
    (sum : Backend β → Int32 → Int32 → RequestResult Int32) :
    Protocol (ProviderImpl β) (Event J β) (List (Operation Request Response)) where
  inv s order := s.shared.m_token = m_token ∧
    Linearizes (Applies runtime m_token sum s.log) ∅ s.shared.m_backends (history s.log) order
  guar := Commits

variable {thread : Nat} {request : Request} {known : List (Event J β)}
variable {lock : Option (Registry β)} {effect : Option Response}

theorem Committed.stable {agent : Option Nat} {s s' : State J β}
    {order order' : List (Operation Request Response)} (different : agent ≠ some thread)
    (acted : Commits agent s order s' order') (committed : Committed thread request order effect) :
    Committed thread request order' effect := by
  obtain ⟨new, rfl, own⟩ := acted.order
  cases effect with
  | some response => exact List.mem_append_left _ committed
  | none =>
    intro member
    rw [List.map_append] at member
    rcases List.mem_append.mp member with old | recent
    · exact committed old
    · obtain ⟨operation, present, same⟩ := List.mem_map.mp recent
      exact different ((own operation present).trans (congrArg some same))

private theorem stage_stable :
    (registryProtocol runtime m_token sum).Stable thread (Stage thread request known lock effect) :=
  fun _ different _ _ _ _ _ acted stage =>
    ⟨fun event member => acted.subset (stage.known event member),
      stage.held.stable different acted.toInterferes, stage.committed.stable different acted⟩

/-- A finished request has answered, and with the response it took effect with. A
`sayHello` need not answer. -/
def Settled (thread : Nat) (request : Request) (_ : Except StdString Unit) (s : State J β)
    (order : List (Operation Request Response)) : Prop :=
  match request with
  | .sayHello _ => True
  | _ => ∃ response, (thread, .responded response) ∈ s.log ∧ ⟨thread, request, response⟩ ∈ order

variable (runtime m_token sum thread request) in
abbrev Keeps (program : Handler J β Unit) (known : List (Event J β))
    (lock : Option (Registry β)) (effect : Option Response) : Prop :=
  (registryProtocol runtime m_token sum).Safe (system runtime) thread (Settled thread request)
    program (Stage thread request known lock effect)

section Steps

variable {s : State J β} {order : List (Operation Request Response)} {shared : ProviderImpl β}
variable {events : List (Event J β)} {lock' : Option (Registry β)}
variable {Rest : (State J β → List (Operation Request Response) → Prop) → Prop}

theorem Stage.advance (stage : Stage thread request known lock effect s order)
    {order' : List (Operation Request Response)} {effect' : Option Response}
    (held : Held thread shared lock') (committed : Committed thread request order' effect') :
    Stage thread request (known ++ events) lock' effect' (s.extend thread shared events) order' where
  known := by
    intro event member
    rcases List.mem_append.mp member with old | new
    · exact List.mem_append_left _ (stage.known event old)
    · exact List.mem_append_right _ (List.mem_map_of_mem new)
  held := held
  committed := committed

private theorem owes_quiet (valid : (registryProtocol runtime m_token sum).inv s order)
    (stage : Stage thread request known lock effect s order)
    (token : shared.m_token = s.shared.m_token)
    (registry : shared.m_backends = s.shared.m_backends)
    (mutex : ∀ other, other ≠ thread →
      (shared.m_backends_mtx = some other ↔ s.shared.m_backends_mtx = some other))
    (silent : history (events.map (Prod.mk thread)) = []) (held : Held thread shared lock')
    (rest : Rest (Stage thread request (known ++ events) lock' effect)) :
    (registryProtocol runtime m_token sum).Owes thread Rest s order
      (s.extend thread shared events) := by
  obtain ⟨sameToken, linearizes⟩ := valid
  refine ⟨order, ⟨token.trans sameToken, ?_⟩, ?_, _, stage_stable, stage.advance held stage.committed,
    rest⟩
  · rw [Global.extend_log, history_append, silent, List.append_nil, Global.extend_shared, registry]
    exact linearizes_extend linearizes _
  · exact ⟨.extend mutex (.inl registry), [], by simp, by simp⟩

/-- The step at which the request takes effect. It changes the registry only under
the mutex. -/
theorem owes_commit {response : Response} (valid : (registryProtocol runtime m_token sum).inv s order)
    (stage : Stage thread request known lock none s order) (received : .received request ∈ known)
    (token : shared.m_token = s.shared.m_token)
    (registry : shared.m_backends = s.shared.m_backends ∨ lock.isSome)
    (mutex : shared.m_backends_mtx = s.shared.m_backends_mtx)
    (silent : history (events.map (Prod.mk thread)) = []) (held : Held thread shared lock')
    (applies : Applies runtime m_token sum (s.log ++ events.map (Prod.mk thread))
      ⟨thread, request, response⟩ s.shared.m_backends shared.m_backends)
    (rest : Rest (Stage thread request (known ++ events) lock' (some response))) :
    (registryProtocol runtime m_token sum).Owes thread Rest s order
      (s.extend thread shared events) := by
  obtain ⟨sameToken, linearizes⟩ := valid
  have arrived : .invoke thread request ∈ history s.log :=
    List.mem_filterMap.mpr ⟨_, stage.known _ received, rfl⟩
  refine ⟨order ++ [⟨thread, request, response⟩], ⟨token.trans sameToken, ?_⟩, ?_, _, stage_stable,
    stage.advance held (List.mem_append_right _ (List.mem_singleton_self _)), rest⟩
  · rw [Global.extend_log, history_append, silent, List.append_nil]
    exact (linearizes_extend linearizes _).commit stage.committed arrived applies
  · refine ⟨.extend (fun _ _ => by rw [mutex]) (registry.imp_right fun locked => ?_), _, rfl, by simp⟩
    obtain ⟨registry, rfl⟩ := Option.isSome_iff_exists.mp locked
    exact stage.held.1

end Steps

def Silent : Op J β → Prop
  | .respond _ => False
  | _ => True

private theorem emits_silent {op : Op J β} (quiet : Silent op) (answer : op.Answer) :
    history ((emits op answer).map (Prod.mk thread)) = [] := by
  cases op with
  | respond => exact quiet.elim
  | finish call => cases call <;> rfl
  | _ => rfl

/-- After a read the request goes on as before, or the answer decided its response. -/
theorem keeps_read {op : Op J β} {next : op.Answer → Handler J β Unit} (reads : Reads op)
    (silent : Silent op) (received : .received request ∈ known)
    (rest : ∀ (s : State J β) answer shared, s.shared.m_token = m_token →
      Held thread s.shared lock → exec runtime thread op s = some (answer, shared, emits op answer) →
      Keeps runtime m_token sum thread request (next answer) (known ++ emits op answer) lock effect ∨
      effect = none ∧ ∃ response,
        (∀ log, (∀ event ∈ known ++ emits op answer, (thread, event) ∈ log) →
          Applies runtime m_token sum log ⟨thread, request, response⟩ s.shared.m_backends
            s.shared.m_backends) ∧
        Keeps runtime m_token sum thread request (next answer) (known ++ emits op answer) lock
          (some response)) :
    Keeps runtime m_token sum thread request (.perform op next) known lock effect := by
  intro s order answer shared events valid stage answered
  have token := exec_token answered
  obtain ⟨registry, mutex⟩ := exec_reads reads answered
  obtain ⟨rfl, -⟩ := exec_emits answered
  have held : Held thread shared lock := stage.held.read registry mutex
  have unnoticed : history ((emits op answer).map (Prod.mk thread)) = [] := emits_silent silent answer
  rcases rest s answer shared valid.1 stage.held answered with go | ⟨rfl, response, applies, go⟩
  · exact owes_quiet valid stage token registry (fun _ _ => by rw [mutex]) unnoticed held go
  · refine owes_commit valid stage received token (.inl registry) mutex unnoticed held ?_ go
    rw [registry]
    exact applies _ (stage.advance held stage.committed).known

private theorem keeps_lock {next : Unit → Handler J β Unit}
    (rest : ∀ registry, Keeps runtime m_token sum thread request (next ()) known (some registry)
      effect) :
    Keeps runtime m_token sum thread request (.perform .lock next) known none effect := by
  intro s order answer shared events valid stage answered
  have taken : exec runtime thread .lock s = some (answer, shared, events) := answered
  obtain ⟨free, rfl, rfl⟩ := exec_lock taken
  refine owes_quiet valid stage rfl rfl ?_ rfl (Held.taken rfl) ?_
  · intro other different
    simp [free, Ne.symm different]
  · simpa using rest s.shared.m_backends

private theorem keeps_unlock {next : Unit → Handler J β Unit} {registry : Registry β}
    (rest : Keeps runtime m_token sum thread request (next ()) known none effect) :
    Keeps runtime m_token sum thread request (.perform .unlock next) known (some registry) effect := by
  intro s order answer shared events valid stage answered
  cases answered
  refine owes_quiet valid stage rfl rfl ?_ rfl (Held.freed rfl) (by simpa using rest)
  intro other different
  simp [stage.held.1, Ne.symm different]

/-- A change of the registry under the mutex, which is what the request came for. -/
theorem keeps_write {op : Op J β} {next : op.Answer → Handler J β Unit} {answer : op.Answer}
    {registry : Registry β} {response : Response} (event : Event J β)
    (writes : ∀ s : State J β, exec runtime thread op s = some (answer,
      { s.shared with m_backends := rebind s.shared.m_backends event }, [event]))
    (silent : history [(thread, event)] = []) (received : .received request ∈ known)
    (applies : ∀ log, (∀ event ∈ known, (thread, event) ∈ log) →
      Applies runtime m_token sum log ⟨thread, request, response⟩ registry (rebind registry event))
    (rest : Keeps runtime m_token sum thread request (next answer) (known ++ [event])
      (some (rebind registry event)) (some response)) :
    Keeps runtime m_token sum thread request (.perform op next) known (some registry) none := by
  intro s order answer shared events valid stage answered
  cases (writes s).symm.trans answered
  obtain ⟨holds, rfl⟩ := stage.held
  refine owes_commit valid stage received rfl (.inr rfl) rfl silent (Held.taken holds) ?_ rest
  exact applies _ fun event member => List.mem_append_left _ (stage.known event member)

private theorem keeps_respond {next : Unit → Handler J β Unit} {response : Response}
    (rest : Keeps runtime m_token sum thread request (next ()) (known ++ [.responded response]) lock
      (some response)) :
    Keeps runtime m_token sum thread request (.perform (.respond response) next) known lock
      (some response) := by
  intro s order answer shared events valid stage answered
  cases answered
  obtain ⟨sameToken, linearizes⟩ := valid
  refine ⟨order, ⟨sameToken, ?_⟩, ?_, _, stage_stable, stage.advance stage.held stage.committed, rest⟩
  · rw [Global.extend_log, history_append]
    exact (linearizes_extend linearizes _).respond stage.committed
  · exact ⟨.extend (fun _ _ => Iff.rfl) (.inl rfl), [], by simp, by simp⟩

private theorem keeps_done (answered : ∃ response, .responded response ∈ known ∧ effect = some response) :
    Keeps runtime m_token sum thread request (.done ()) known lock effect := by
  obtain ⟨response, member, rfl⟩ := answered
  intro s order _ stage
  cases request <;> first | trivial | exact ⟨response, stage.known _ member, stage.committed⟩

private theorem keeps_answer {response : Response} :
    Keeps runtime m_token sum thread request (.perform (.respond response) .done) known lock
      (some response) :=
  keeps_respond (keeps_done ⟨response, by simp, rfl⟩)

private theorem keeps_miss {response : Response} {registry : Registry β} :
    Keeps runtime m_token sum thread request
      (.perform (.respond response) fun _ => .perform .unlock fun _ => .done ()) known (some registry)
      (some response) :=
  keeps_respond (keeps_unlock (keeps_done ⟨response, by simp, rfl⟩))

/-- The success of a request that took effect under the mutex: unlock, answer, return. -/
theorem keeps_success {response : Response} {registry : Registry β} :
    Keeps runtime m_token sum thread request
      (.perform .unlock fun _ => .perform (.respond response) .done) known (some registry)
      (some response) :=
  keeps_unlock keeps_answer

private theorem keeps_token {token : StdString} {failed : StdString → Response} {rest : Handler J β Unit}
    (admin : Admin request token failed) (received : .received request ∈ known)
    (accepted : ¬ InvalidToken m_token token →
      Keeps runtime m_token sum thread request rest (known ++ [.readToken m_token]) none none ∨
      ∃ response, (∀ log registry, Applies runtime m_token sum log ⟨thread, request, response⟩
          registry registry) ∧
        Keeps runtime m_token sum thread request rest (known ++ [.readToken m_token]) none
          (some response)) :
    Keeps runtime m_token sum thread request
      (.perform .m_token fun secret =>
        if InvalidToken secret token then
          .perform (.respond (failed (lit "Invalid security token"))) .done
        else rest) known none none := by
  refine keeps_read trivial trivial received fun s secret shared same _ answered => ?_
  cases answered
  rw [same]
  by_cases invalid : InvalidToken m_token token
  · rw [if_pos invalid]
    exact .inr ⟨rfl, _, fun _ _ => .rejected admin invalid, keeps_answer⟩
  · rw [if_neg invalid]
    rcases accepted invalid with go | ⟨response, applies, go⟩
    · exact .inl go
    · exact .inr ⟨rfl, response, fun log _ => applies log _, go⟩

section Handlers

variable (orderly : Orderly runtime sum)
include orderly

private theorem addCache_keeps (operation : FactoryCall) (generated : UUID)
    (token cache_type cache_config : StdString) :
    let request := addRequest operation generated token cache_type cache_config
    Keeps runtime m_token sum thread request
      (addCache runtime operation generated token cache_type cache_config) [.received request]
      none none := by
  intro request
  rw [addCache_eq]
  refine keeps_token .add (by simp) fun valid => ?_
  cases parsed : runtime.parse cache_config with
  | error exception =>
    cases exception with
    | parse_error what => exact .inr ⟨_, fun _ _ => .unparsable valid parsed, keeps_answer⟩
    | other what => exact absurd parsed (orderly.parses cache_config what)
  | ok json_config =>
    refine .inl (keeps_read trivial trivial (by simp [request]) fun s built shared _ _ _ => ?_)
    have recorded {log : Log J β} (inLog : ∀ event ∈ [.received request] ++ [.readToken m_token] ++
        emits (.factory operation cache_type json_config) built, (thread, event) ∈ log) :
        (thread, .built operation cache_type json_config built) ∈ log :=
      inLog _ (by simp [emits])
    cases built with
    | error what =>
      exact .inr ⟨rfl, _, fun _ inLog => .threw valid parsed (recorded inLog), keeps_answer⟩
    | ok made =>
      cases made with
      | none => exact .inr ⟨rfl, _, fun _ inLog => .unknown valid parsed (recorded inLog), keeps_answer⟩
      | some backend =>
        refine .inl (keeps_lock fun registry => ?_)
        exact keeps_write (.bound generated backend) (fun _ => rfl) rfl (by simp [request])
          (fun _ inLog => .added valid parsed (recorded inLog)) keeps_success

omit orderly in
private theorem closeCache_keeps (token : StdString) (cache_id : UUID) :
    Keeps runtime m_token sum thread (.closeCache token cache_id)
      (closeCache runtime token cache_id) [.received (.closeCache token cache_id)] none none := by
  rw [closeCache_eq]
  refine keeps_token (.remove .closeCache) (by simp) fun valid => .inl (keeps_lock fun registry => ?_)
  refine keeps_read trivial trivial (by simp) fun s count shared _ held answered => ?_
  cases answered
  obtain ⟨-, rfl⟩ := held
  by_cases bound : cache_id ∈ s.shared.m_backends
  · simp only [bound, ↓reduceIte, Nat.one_ne_zero]
    exact .inl (keeps_write (.erased cache_id) (fun _ => rfl) rfl (by simp) (fun _ _ => .closed valid bound)
      keeps_success)
  · simp only [bound, ↓reduceIte]
    exact .inr ⟨trivial, _, fun _ _ => .removeMissed .closeCache valid bound, keeps_miss⟩

private theorem destroyCache_keeps (token : StdString) (cache_id : UUID) :
    Keeps runtime m_token sum thread (.destroyCache token cache_id)
      (destroyCache runtime token cache_id) [.received (.destroyCache token cache_id)] none none := by
  rw [destroyCache_eq]
  refine keeps_token (.remove .destroyCache) (by simp) fun valid => .inl (keeps_lock fun registry => ?_)
  refine keeps_read trivial trivial (by simp) fun s count shared _ held answered => ?_
  cases answered
  obtain ⟨-, rfl⟩ := held
  by_cases bound : cache_id ∈ s.shared.m_backends
  · simp only [bound, ↓reduceIte, Nat.one_ne_zero]
    refine .inl (keeps_read trivial trivial (by simp) fun s' cache shared _ held answered => .inl ?_)
    have lookup := (exec_index answered).1
    rw [held.2] at lookup
    refine keeps_read trivial trivial (by simp) fun _ _ _ _ _ _ => .inl ?_
    refine keeps_read trivial trivial (by simp) fun s'' outcome shared _ _ performed => .inl ?_
    cases performed
    obtain ⟨result, returned, success⟩ := orderly.destroys (Event.calls s''.log) cache
    simp only [Runtime.perform, returned]
    exact keeps_write (.erased cache_id) (fun _ => rfl) rfl (by simp)
      (fun _ inLog => .destroyed valid lookup (inLog _ (by simp [emits, Event.ended])) success)
      keeps_success
  · simp only [bound, ↓reduceIte]
    exact .inr ⟨trivial, _, fun _ _ => .removeMissed .destroyCache valid bound, keeps_miss⟩

omit orderly in
/-- A lookup that misses decides the answer; one that hits leaves it to the body,
which may already be committed to a response. -/
theorem FIND_CACHE_keeps {cache_id : UUID} {failed : StdString → Response}
    {body : Backend β → Handler J β Unit} (finds : Finds request cache_id failed)
    (hit : ∀ registry cache, registry.lookup cache_id = some cache →
      Keeps runtime m_token sum thread request (body cache)
        ([.received request] ++ [.lookedUp cache_id (some cache)]) none none ∨
      ∃ response, (∀ log, Applies runtime m_token sum log ⟨thread, request, response⟩
          registry registry) ∧
        Keeps runtime m_token sum thread request (body cache)
          ([.received request] ++ [.lookedUp cache_id (some cache)]) none (some response)) :
    Keeps runtime m_token sum thread request (FIND_CACHE runtime cache_id failed body)
      [.received request] none none := by
  rw [FIND_CACHE_eq]
  refine keeps_lock fun registry =>
    keeps_read trivial trivial (by simp) fun s found shared _ held answered => ?_
  cases answered
  obtain ⟨-, rfl⟩ := held
  cases lookup : s.shared.m_backends.lookup cache_id with
  | none => exact .inr ⟨rfl, _, fun _ _ => .missed finds lookup, keeps_miss⟩
  | some cache =>
    rcases hit _ cache lookup with go | ⟨response, applies, go⟩
    · exact .inl (keeps_unlock go)
    · exact .inr ⟨rfl, response, fun log _ => applies log, keeps_unlock go⟩

private theorem computeSum_keeps (uninitialised : Int32) (cache_id : UUID) (x y : Int32) :
    Keeps runtime m_token sum thread (.computeSum uninitialised cache_id x y)
      (computeSum runtime uninitialised cache_id x y)
      [.received (.computeSum uninitialised cache_id x y)] none none := by
  rw [computeSum_eq]
  refine FIND_CACHE_keeps .computeSum fun registry cache lookup =>
    .inr ⟨_, fun _ => .computed lookup, ?_⟩
  refine keeps_read trivial trivial (by simp) fun _ _ _ _ _ _ => .inl ?_
  refine keeps_read trivial trivial (by simp) fun s outcome shared _ _ performed => .inl ?_
  cases performed
  simp only [Runtime.perform, orderly.sums]
  exact keeps_answer

private theorem handler_keeps (request : Request) :
    Keeps runtime m_token sum thread request (handler runtime request) [.received request]
      none none := by
  cases request with
  | createCache => exact addCache_keeps orderly .createCache _ _ _ _
  | openCache => exact addCache_keeps orderly .openCache _ _ _ _
  | closeCache => exact closeCache_keeps _ _
  | destroyCache => exact destroyCache_keeps orderly _ _
  | checkCache cache_id =>
    exact FIND_CACHE_keeps .checkCache fun _ _ lookup =>
      .inr ⟨_, fun _ => .checked lookup, keeps_answer⟩
  | sayHello cache_id =>
    refine FIND_CACHE_keeps .sayHello fun _ cache _ => .inl ?_
    refine keeps_read trivial trivial (by simp) fun _ _ _ _ _ _ => .inl ?_
    refine keeps_read trivial trivial (by simp) fun _ outcome _ _ _ _ => .inl ?_
    cases outcome <;> exact fun _ _ _ _ => trivial
  | computeSum => exact computeSum_keeps orderly _ _ _ _

end Handlers

/-- The proof outline of the provider: a request that has not arrived holds nothing
and has no effect yet. -/
def registryOutline (orderly : Orderly runtime sum) (m_token : StdString) :
    Outline (system runtime) (List (Operation Request Response)) where
  toProtocol := registryProtocol runtime m_token sum
  fresh thread s order := Held thread s.shared none ∧ Committed thread (.checkCache UUID.clear) order none
  post := Settled
  allowed token := token = m_token
  fresh_stable := fun thread _ different _ _ _ _ _ acted fresh =>
    ⟨fresh.1.stable different acted.toInterferes, fresh.2.stable different acted⟩
  arrives := by
    rintro thread request s order ⟨token, linearizes⟩ ⟨held, fresh⟩
    refine ⟨order, ⟨token, ?_⟩, ?_, _, stage_stable, ?_, handler_keeps orderly request⟩
    · rw [Global.extend_log, history_append]
      exact (linearizes_extend linearizes _).invoke fresh
    · exact ⟨.extend (fun _ _ => Iff.rfl) (.inl rfl), [], by simp, by simp⟩
    · exact ⟨by simp, held, fresh⟩
  changes := by
    rintro token s order rfl ⟨-, linearizes⟩
    exact ⟨order, ⟨rfl, linearizes⟩, .external token, [], by simp, by simp⟩

/-- Every run of requests is linearizable: in one order that respects real time, the
abstract registry gives the same responses and ends with the same bindings, and no
finished request is missing from that order. -/
theorem registry_linearizable (orderly : Orderly runtime sum) {actions : List (Action Request StdString)}
    {pool : Provider J β} (constant : ∀ token, .external token ∈ actions → token = m_token)
    (served : serve runtime m_token actions = some pool) :
    ∃ order, Linearizes (Applies runtime m_token sum pool.global.log) ∅
        pool.global.shared.m_backends (history pool.global.log) order ∧
      ∀ thread request outcome, Finished pool thread request outcome →
        request.procedure.response_disabled = false →
        ∃ response, (thread, .responded response) ∈ pool.global.log ∧
          ⟨thread, request, response⟩ ∈ order := by
  obtain ⟨order, valid, knows⟩ := (registryOutline orderly m_token).sound ⟨rfl, .nil⟩
    (fun _ => ⟨by simp [Held, empty], by simp [Committed]⟩) constant served
  refine ⟨order, valid.2, fun thread request outcome finished waits => ?_⟩
  obtain ⟨P, -, holds, safe⟩ := (knows thread).2 request _ finished
  have settled : Settled thread request outcome pool.global order := by
    cases outcome with
    | ok result => exact safe _ _ valid holds
    | error what => exact safe _ _ valid holds
  cases request with
  | sayHello cache_id => cases waits
  | _ => exact settled

theorem dummy_orderly :
    Orderly DummyCache.sample fun cache x y => cache.object.computeSum x y where
  parses := by
    intro cache_config what
    unfold DummyCache.sample DummyCache.runtime
    by_cases empty : cache_config = lit "{}" <;> simp [empty]
  destroys := fun _ cache => ⟨cache.object.destroy, rfl, rfl⟩
  sums := fun _ _ _ _ => rfl

/-- Two requests race to destroy the same cache. The second to arrive wins. -/
def destroyRace : List (Action Request StdString) :=
  .spawn 0 (.createCache UUID.clear [] (lit "dummy") (lit "{}")) :: List.replicate 6 (.step 0) ++
    [.spawn 1 (.destroyCache [] UUID.clear), .spawn 2 (.destroyCache [] UUID.clear), .step 1] ++
    List.replicate 8 (.step 2) ++ List.replicate 4 (.step 1) ++ [.step 2]

theorem destroyRace_linearizable : ∃ pool, serve DummyCache.sample [] destroyRace = some pool ∧
    ∃ order, Linearizes (Applies DummyCache.sample [] (fun cache x y => cache.object.computeSum x y)
        pool.global.log) ∅ pool.global.shared.m_backends (history pool.global.log) order ∧
      1 ∈ order.map (·.thread) ∧ 2 ∈ order.map (·.thread) := by
  obtain ⟨pool, served, first, second⟩ : ∃ pool, serve DummyCache.sample [] destroyRace = some pool ∧
      Finished pool 1 (.destroyCache [] UUID.clear) (.ok ()) ∧
      Finished pool 2 (.destroyCache [] UUID.clear) (.ok ()) := ⟨_, rfl, rfl, rfl⟩
  have constant : ∀ token, .external token ∈ destroyRace → token = ([] : StdString) := by
    simp [destroyRace]
  obtain ⟨order, linearizes, complete⟩ := registry_linearizable dummy_orderly constant served
  obtain ⟨loser, -, lost⟩ := complete 1 _ _ first rfl
  obtain ⟨winner, -, won⟩ := complete 2 _ _ second rfl
  exact ⟨pool, served, order, linearizes, List.mem_map_of_mem lost, List.mem_map_of_mem won⟩

end Cachersize.ProviderImpl

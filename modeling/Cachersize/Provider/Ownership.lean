import Cachersize.Provider.Bindings
import Cachersize.Provider.Bounded

/-! How long a backend object lives. `m_backends` owns it, and so does a handler with a
local pointer; it is deleted when the last owner goes, and nobody reaches it after that. -/
namespace Cachersize

open Concurrent

/-- The backend that an event involves, as an argument or as a result. -/
def Event.backend {J β : Type} : Event J β → Option (Backend β)
  | lookedUp _ found => found
  | bound _ cache => some cache
  | started call => some call.cache
  | saidHello cache _ | computedSum cache _ _ _ | destroyed cache _ => some cache
  | received _ | readToken _ | built .. | erased _ | responded _ => none

namespace ProviderImpl

variable {J β : Type}

/-- After these events, a handler has the `cache` that `FIND_CACHE` left, or the `backend`
that a factory returned and that has not been moved into `m_backends`. -/
def Points (events : List (Event J β)) (cache : Backend β) : Prop :=
  (∃ cache_id, .lookedUp cache_id (some cache) ∈ events) ∨
    (∃ operation name config, .built operation name config (.ok (some cache)) ∈ events) ∧
      ∀ cache_id made, .bound cache_id made ∉ events

/-- The handler of the thread has not ended, and its local variables keep the backend. -/
def Holds (pool : Provider J β) (thread : Nat) (cache : Backend β) : Prop :=
  (∃ request program, pool.threads thread = some ⟨request, program⟩ ∧
    ∀ outcome, program ≠ Program.ofExcept outcome) ∧ Points (Global.own thread pool.global.log) cache

/-- Something owns the backend. -/
def Alive (pool : Provider J β) (cache : Backend β) : Prop :=
  (∃ cache_id, pool.global.shared.m_backends.lookup cache_id = some cache) ∨
    ∃ thread, Holds pool thread cache

/-- `destroy()` ends on a backend that is bound. -/
def EndsBound (before : Log J β) (entry : Nat × Event J β) : Prop :=
  ∀ cache outcome, entry.2 = .destroyed cache outcome →
    ∃ cache_id, (bindings before).lookup cache_id = some cache

def pinningProtocol : Protocol (ProviderImpl β) (Event J β) Unit where
  inv s _ := Replays s ∧ Justified EndsBound s.log
  guar agent s _ s' _ := Interferes agent s s'

variable {runtime : Runtime J β} {thread : Nat} {lock : Option (Registry β)}

variable (runtime thread) in
/-- The rest of a handler ends `destroy()` only on bound backends. -/
abbrev Pins (program : Handler J β Unit) (lock : Option (Registry β)) : Prop :=
  pinningProtocol.Safe (system runtime) thread (fun _ _ _ => True) program fun s _ => Held thread s.shared lock

private theorem held_stable :
    (pinningProtocol (J := J)).Stable thread (fun s _ => Held thread s.shared lock) :=
  fun _ different _ _ _ _ _ acted held => held.stable different acted

private theorem pins_done {result : Unit} : Pins (J := J) runtime thread (.done result) lock :=
  fun _ _ _ _ => trivial

private theorem pins_raise {what : StdString} : Pins (J := J) runtime thread (.raise what) lock :=
  fun _ _ _ _ => trivial

private theorem pins_read {op : Op J β} {next : op.Answer → Handler J β Unit} (reads : Reads op)
    (rest : ∀ (s : State J β) answer shared, Held thread s.shared lock →
      exec runtime thread op s = some (answer, shared, emits op answer) →
      (∀ cache outcome, .destroyed cache outcome ∈ emits op answer →
        ∃ cache_id, s.shared.m_backends.lookup cache_id = some cache) ∧
      Pins runtime thread (next answer) lock) :
    Pins runtime thread (.perform op next) lock := by
  intro s _ answer shared events valid held answered
  obtain ⟨replays, ended⟩ := valid
  have replayed := replays.exec answered
  obtain ⟨rfl, -⟩ := exec_emits answered
  obtain ⟨registry, mutex⟩ := exec_reads reads answered
  obtain ⟨pinned, go⟩ := rest s answer shared held answered
  refine ⟨(), ⟨replayed, justified_emits ended ?_⟩, .extend (fun _ _ => by rw [mutex]) (.inl registry), _,
    held_stable, held.read registry mutex, go⟩
  intro event member cache outcome same
  rw [← replays.registry]
  exact pinned cache outcome (same ▸ member)

private theorem pins_plain {op : Op J β} {next : op.Answer → Handler J β Unit} (reads : Reads op)
    (quiet : ∀ answer cache outcome, .destroyed cache outcome ∉ emits op answer)
    (rest : ∀ answer, Pins runtime thread (next answer) lock) :
    Pins runtime thread (.perform op next) lock :=
  pins_read reads fun _ answer _ _ _ =>
    ⟨fun cache outcome member => absurd member (quiet answer cache outcome), rest answer⟩

private theorem pins_lock {next : Unit → Handler J β Unit}
    (rest : ∀ registry, Pins runtime thread (next ()) (some registry)) :
    Pins runtime thread (.perform .lock next) none := by
  intro s _ answer shared events valid _ answered
  have taken : exec runtime thread .lock s = some (answer, shared, events) := answered
  have replayed := valid.1.exec taken
  obtain ⟨free, rfl, rfl⟩ := exec_lock taken
  refine ⟨(), ⟨replayed, by simpa using valid.2⟩, .extend ?_ (.inl rfl), _, held_stable, Held.taken rfl,
    rest s.shared.m_backends⟩
  intro other different
  simp [free, Ne.symm different]

private theorem pins_unlock {next : Unit → Handler J β Unit} {registry : Registry β}
    (rest : Pins runtime thread (next ()) none) :
    Pins runtime thread (.perform .unlock next) (some registry) := by
  intro s _ answer shared events valid held answered
  have freed : exec runtime thread .unlock s = some (answer, shared, events) := answered
  have replayed := valid.1.exec freed
  cases answered
  refine ⟨(), ⟨replayed, by simpa using valid.2⟩, .extend ?_ (.inl rfl), _, held_stable, Held.freed rfl, rest⟩
  intro other different
  simp [held.1, Ne.symm different]

private theorem pins_write {op : Op J β} {next : op.Answer → Handler J β Unit} {answer : op.Answer}
    {registry : Registry β} (event : Event J β)
    (writes : ∀ s : State J β, exec runtime thread op s = some (answer,
      { s.shared with m_backends := rebind s.shared.m_backends event }, [event]))
    (quiet : ∀ cache outcome, event ≠ .destroyed cache outcome)
    (rest : ∀ registry, Pins runtime thread (next answer) (some registry)) :
    Pins runtime thread (.perform op next) (some registry) := by
  intro s _ answer shared events valid held answered
  have replayed := valid.1.exec answered
  cases (writes s).symm.trans answered
  refine ⟨(), ⟨replayed, valid.2.snoc fun cache outcome same => absurd same (quiet cache outcome)⟩,
    .extend (fun _ _ => Iff.rfl) (.inr held.1), _, held_stable, Held.taken held.1, rest _⟩

private theorem pins_answer {response : Response} :
    Pins runtime thread (.perform (.respond response) .done) lock :=
  pins_plain trivial (by simp [emits]) fun _ => pins_done

private theorem pins_miss {response : Response} {registry : Registry β} :
    Pins runtime thread (.perform (.respond response) fun _ => .perform .unlock fun _ => .done ())
      (some registry) :=
  pins_plain trivial (by simp [emits]) fun _ => pins_unlock pins_done

private theorem pins_token {token : StdString} {failed : Response} {rest : Handler J β Unit}
    (accepted : Pins runtime thread rest none) :
    Pins runtime thread
      (.perform .m_token fun secret =>
        if InvalidToken secret token then .perform (.respond failed) .done else rest) none := by
  refine pins_plain trivial (by simp [emits]) fun secret => ?_
  by_cases invalid : InvalidToken secret token
  · rw [if_pos invalid]
    exact pins_answer
  · rw [if_neg invalid]
    exact accepted

private theorem addCache_pins (operation : FactoryCall) (generated : UUID)
    (token cache_type cache_config : StdString) :
    Pins runtime thread (addCache runtime operation generated token cache_type cache_config) none := by
  rw [addCache_eq]
  apply pins_token
  cases runtime.parse cache_config with
  | error exception =>
    cases exception with
    | parse_error what => exact pins_answer
    | other what => exact pins_raise
  | ok json_config =>
    refine pins_plain trivial (by simp [emits]) fun built => ?_
    cases built with
    | error what => exact pins_answer
    | ok made =>
      cases made with
      | none => exact pins_answer
      | some backend =>
        exact pins_lock fun _ => pins_write (.bound generated backend) (fun _ => rfl) (by simp) fun _ =>
          pins_unlock pins_answer

private theorem closeCache_pins (token : StdString) (cache_id : UUID) :
    Pins runtime thread (closeCache runtime token cache_id) none := by
  rw [closeCache_eq]
  refine pins_token (pins_lock fun registry => pins_plain trivial (by simp [emits]) fun count => ?_)
  by_cases missing : count = 0
  · rw [if_pos missing]
    exact pins_miss
  · rw [if_neg missing]
    exact pins_write (.erased cache_id) (fun _ => rfl) (by simp) fun _ => pins_unlock pins_answer

private theorem destroyCache_pins (token : StdString) (cache_id : UUID) :
    Pins runtime thread (destroyCache runtime token cache_id) none := by
  rw [destroyCache_eq]
  refine pins_token (pins_lock fun registry => pins_plain trivial (by simp [emits]) fun count => ?_)
  by_cases missing : count = 0
  · rw [if_pos missing]
    exact pins_miss
  rw [if_neg missing]
  -- The object that `operator[]` returned is bound, and stays so under the mutex.
  refine pins_read trivial fun s cache shared held answered => ⟨by simp [emits], ?_⟩
  have found : registry.lookup cache_id = some cache := held.2 ▸ (exec_index answered).1
  refine pins_plain trivial (by simp [emits]) fun _ => ?_
  refine pins_read trivial fun s outcome shared held _ => ⟨fun other ended member => ?_, ?_⟩
  · cases List.mem_singleton.mp member
    exact ⟨cache_id, held.2 ▸ found⟩
  · cases outcome with
    | ok result =>
      exact pins_write (.erased cache_id) (fun _ => rfl) (by simp) fun _ => pins_unlock pins_answer
    | error what => exact pins_unlock pins_raise

private theorem FIND_CACHE_pins (cache_id : UUID) (failed : StdString → Response)
    {body : Backend β → Handler J β Unit} (hit : ∀ cache, Pins runtime thread (body cache) none) :
    Pins runtime thread (FIND_CACHE runtime cache_id failed body) none := by
  rw [FIND_CACHE_eq]
  refine pins_lock fun registry => pins_plain trivial (by simp [emits]) fun found => ?_
  cases found with
  | none => exact pins_miss
  | some cache => exact pins_unlock (hit cache)

private theorem handler_pins (request : Request) : Pins runtime thread (handler runtime request) none := by
  cases request with
  | createCache | openCache => exact addCache_pins _ _ _ _ _
  | closeCache => exact closeCache_pins _ _
  | destroyCache => exact destroyCache_pins _ _
  | checkCache => exact FIND_CACHE_pins _ _ fun _ => pins_answer
  | sayHello =>
    refine FIND_CACHE_pins _ _ fun cache => pins_plain trivial (by simp [emits]) fun _ => ?_
    refine pins_plain trivial (by simp [emits, Event.ended]) fun outcome => ?_
    cases outcome with
    | ok _ => exact pins_done
    | error what => exact pins_raise
  | computeSum =>
    rw [handler, computeSum_eq]
    refine FIND_CACHE_pins _ _ fun cache => pins_plain trivial (by simp [emits]) fun _ => ?_
    refine pins_plain trivial (by simp [emits, Event.ended]) fun outcome => ?_
    cases outcome with
    | ok result => exact pins_answer
    | error what => exact pins_raise

def pinningOutline (runtime : Runtime J β) : Outline (system runtime) Unit where
  toProtocol := pinningProtocol
  fresh thread s _ := Held thread s.shared none
  post _ _ _ _ _ := True
  allowed _ := True
  fresh_stable := fun _ => held_stable
  arrives := by
    intro thread request s _ valid held
    refine ⟨(), ⟨valid.1.received thread request, valid.2.snoc (by simp [EndsBound])⟩,
      .extend (fun _ _ => Iff.rfl) (.inl rfl), _, held_stable, held, handler_pins request⟩
  changes := by
    intro token s _ _ valid
    exact ⟨(), ⟨⟨valid.1.registry, valid.1.allocated, valid.1.accurate⟩, valid.2⟩, .external token⟩

variable {m_token : StdString} {actions : List (Action Request StdString)} {pool : Provider J β}

private theorem serve_endsBound (served : serve runtime m_token actions = some pool) :
    Justified EndsBound pool.global.log := by
  obtain ⟨_, valid, -⟩ := (pinningOutline runtime).sound (g := ()) ⟨⟨rfl, rfl, Justified.nil⟩, Justified.nil⟩
    (fun _ => Held.freed rfl) (fun _ _ => trivial) served
  exact valid.2

def Uses (cache : Backend β) : Event J β → Prop
  | .bound _ made => made = cache
  | .started (.sayHello found) | .started (.computeSum found _ _) => found = cache
  | .saidHello found _ | .computedSum found _ _ _ => found = cache
  | _ => False

/-- Whatever an event uses, its handler got before. -/
def OwnUse (before : List (Event J β)) (event : Event J β) : Prop :=
  ∀ cache, Uses cache event → Points before cache

private theorem ownUse_quiet {events : List (Event J β)}
    (quiet : ∀ event ∈ events, ∀ cache, ¬ Uses cache event) :
    Justified OwnUse events := by
  intro before event after split cache uses
  exact absurd uses (quiet event (by simp [split]) cache)

private theorem ownUse_found {first : Event J β} {cache_id : UUID} {cache : Backend β}
    {rest : List (Event J β)}
    (idle : ∀ other, ¬ Uses other first) (own : ∀ event ∈ rest, ∀ other, Uses other event → cache = other) :
    Justified OwnUse ([first, .lookedUp cache_id (some cache)] ++ rest) := by
  have start : Justified OwnUse [first, .lookedUp cache_id (some cache)] := by
    apply ownUse_quiet
    intro event member other uses
    rcases List.mem_cons.mp member with rfl | second
    · exact idle other uses
    · cases List.mem_singleton.mp second
      exact uses
  apply start.concat
  intro before event after split other uses
  cases own event (by simp [split]) other uses
  exact .inl ⟨cache_id, by simp⟩

private theorem ownUse_added (start : List (Event J β)) {operation : FactoryCall} {name : StdString}
    {config : J}
    {generated : UUID} {backend : Backend β} {response : Response}
    (idle : ∀ event ∈ start, ∀ cache, ¬ Uses cache event)
    (unbound : ∀ cache_id made, .bound cache_id made ∉ start) :
    Justified OwnUse (start ++ [.built operation name config (.ok (some backend)), .bound generated backend,
      .responded response]) := by
  refine (ownUse_quiet idle).concat fun before event after split cache uses => ?_
  match before with
  | [] =>
    cases (List.cons.inj split).1
    exact uses.elim
  | [only] =>
    obtain ⟨rfl, rest⟩ := List.cons.inj split
    cases (List.cons.inj rest).1
    cases uses
    exact .inr ⟨⟨operation, name, config, by simp⟩, by simpa using unbound⟩
  | one :: two :: later =>
    obtain ⟨-, rest⟩ := List.cons.inj (List.cons.inj split).2
    have last : event ∈ [.responded response] := by simp [rest]
    cases List.mem_singleton.mp last
    exact uses.elim

private theorem Exit.ownUse {request : Request} {outcome : Except StdString Unit} {events : List (Event J β)}
    (exit : Exit runtime request outcome events) : Justified OwnUse events := by
  cases exit with
  | addRejected | addUnparsable | addEscaped | addThrew | addUnknown | removeRejected | removeMissed
  | closed | destroyed | destroyThrew | missed => exact ownUse_quiet (by simp [Uses])
  | added => exact ownUse_added [_, _] (by simp [Uses]) (by simp)
  | checked | saidHello | helloThrew | computed | computeThrew =>
    exact ownUse_found (fun _ => id) (by simp [Uses])

variable {action : Action Request StdString} {state next : Provider J β} {cache : Backend β}

/-- The events of a thread in flight use only what it got before. -/
theorem serve_ownUse (served : serve runtime m_token actions = some pool) (thread : Nat) :
    Justified OwnUse (Global.own thread pool.global.log) := by
  cases running : pool.threads thread with
  | none =>
    rw [System.own_vacant served running]
    exact .nil
  | some present =>
    obtain ⟨request, program⟩ := present
    obtain ⟨outcome, more, exit⟩ := eventual_exit served running
    exact exit.ownUse.initial

private theorem used_alive (served : serve runtime m_token actions = some state)
    (stepped : (system runtime).step state action = some next) {event : Event J β}
    (logged : next.global.log = state.global.log ++ [(thread, event)])
    (involved : event.backend = some cache) : Alive state cache := by
  have ran : (system runtime).run [action] state = some next := by simp [System.run, stepped]
  have servedNext := serve_append served ran
  have moment : Moment (system runtime) ((system runtime).initial (empty m_token)) (thread, event) actions
      action state next := ⟨served, stepped, logged⟩
  rcases moment.source with ⟨request, -, rfl, -⟩ | ⟨request, op, rest, answer, shared, -, running, answered, -⟩
  · cases involved
  have own : Global.own thread next.global.log = Global.own thread state.global.log ++ event :: [] := by
    rw [logged, Global.own_append, Global.own_singleton]
  have holds (uses : Uses cache event) : Alive state cache := by
    refine .inr ⟨thread, ⟨request, _, running, fun outcome same => ?_⟩, ?_⟩
    · cases outcome <;> cases same
    · exact serve_ownUse servedNext thread _ event [] own cache uses
  have registry := (serve_replays served).registry
  have emitted := (exec_emits answered).1
  cases op with
  | find cache_id =>
    cases emitted
    have found := (Prod.mk.inj (Option.some.inj answered)).1
    exact .inl ⟨cache_id, found.trans involved⟩
  | assign =>
    cases emitted
    exact holds (Option.some.inj involved)
  | start call =>
    cases emitted
    cases call with
    | sayHello | computeSum => exact holds (Option.some.inj involved)
    | destroy other =>
      cases involved
      obtain ⟨cache_id, found⟩ := (serve_guarded servedNext).destroysBound _ _ [] logged _ rfl
      exact .inl ⟨cache_id, by rw [registry, found]; rfl⟩
  | finish call =>
    cases call with
    | sayHello | computeSum =>
      cases emitted
      exact holds (Option.some.inj involved)
    | destroy other =>
      cases emitted
      cases involved
      obtain ⟨cache_id, found⟩ := serve_endsBound servedNext _ _ [] logged _ _ rfl
      exact .inl ⟨cache_id, by rw [registry, found]⟩
  | m_token | factory | erase | respond =>
    cases emitted
    cases involved
  | lock | unlock | count | index => cases emitted

/-- A binding is an older one, or of a backend that its handler had. -/
theorem bound_before (served : serve runtime m_token actions = some state)
    (stepped : (system runtime).step state action = some next) {cache_id : UUID}
    (found : next.global.shared.m_backends.lookup cache_id = some cache) : Alive state cache := by
  have older (same : next.global.shared.m_backends.lookup cache_id =
      state.global.shared.m_backends.lookup cache_id) : Alive state cache := .inl ⟨cache_id, same ▸ found⟩
  rcases System.step_cases stepped with ⟨_, _, -, -, rfl⟩ |
    ⟨thread, request, op, rest, answer, shared, events, -, -, answered, rfl⟩ | ⟨_, -, rfl⟩
  · exact older rfl
  · have answered : exec runtime thread op state.global = some (answer, shared, events) := answered
    have kept (reads : Reads op) : Alive state cache :=
      older (by rw [Global.extend_shared, (exec_reads reads answered).1])
    cases op with
    | lock =>
      obtain ⟨-, -, rfl⟩ := exec_lock answered
      exact older rfl
    | unlock =>
      cases answered
      exact older rfl
    | assign other made =>
      cases answered
      by_cases same : cache_id = other
      · subst same
        have involved : made = cache := by simpa using found
        exact used_alive served stepped rfl (congrArg some involved)
      · exact older (Finmap.lookup_insert_of_ne _ same)
    | erase other =>
      cases answered
      by_cases same : cache_id = other
      · subst same
        simp at found
      · exact older (Finmap.lookup_erase_ne same)
    | m_token | factory | find | count | index | start | finish | respond =>
      exact kept trivial
  · exact older rfl

/-- No step brings a backend back, but for the factory call that makes it. -/
theorem alive_before (served : serve runtime m_token actions = some state)
    (stepped : (system runtime).step state action = some next) (alive : Alive next cache) :
    Alive state cache ∨ ∃ builder operation name config, next.global.log =
      state.global.log ++ [(builder, .built operation name config (.ok (some cache)))] := by
  rcases alive with ⟨cache_id, found⟩ | ⟨thread, ⟨request, program, present, unfinished⟩, points⟩
  · exact .inl (bound_before served stepped found)
  rcases System.step_cases stepped with ⟨actor, arrived, -, vacant, rfl⟩ |
    ⟨actor, tag, op, rest, answer, shared, events, -, running, answered, rfl⟩ | ⟨_, -, rfl⟩
  · by_cases same : thread = actor
    · subst same
      have silent := System.own_vacant served vacant
      rcases points with ⟨cache_id, looked⟩ | ⟨⟨_, _, _, built⟩, -⟩
      · simp [silent] at looked
      · simp [silent] at built
    · refine .inl (.inr ⟨thread, ⟨request, program, by simpa [same] using present, unfinished⟩, ?_⟩)
      simpa [Global.own_cons, Ne.symm same] using points
  · by_cases same : thread = actor
    · subst same
      have before : ∃ request program, state.threads thread = some ⟨request, program⟩ ∧
          ∀ outcome, program ≠ Program.ofExcept outcome := by
        refine ⟨tag, _, running, fun outcome same => ?_⟩
        cases outcome <;> cases same
      obtain ⟨rfl, -⟩ := exec_emits answered
      simp only [Global.extend_log, Global.own_append, Global.own_tagged] at points
      rcases points with ⟨cache_id, looked⟩ | ⟨⟨operation, name, config, built⟩, unbound⟩
      · rcases List.mem_append.mp looked with old | new
        · exact .inl (.inr ⟨thread, before, .inl ⟨cache_id, old⟩⟩)
        · have logged : emits op answer = [.lookedUp cache_id (some cache)] := by
            cases op with
            | finish call => cases call <;> simp [emits, Event.ended] at new
            | find => simpa [emits, eq_comm] using new
            | _ => simp [emits] at new
          have last : (state.global.extend thread shared (emits op answer)).log =
              state.global.log ++ [(thread, .lookedUp cache_id (some cache))] := by
            rw [Global.extend_log, logged]
            rfl
          exact .inl (used_alive served stepped last rfl)
      · rcases List.mem_append.mp built with old | new
        · refine .inl (.inr ⟨thread, before, .inr ⟨⟨operation, name, config, old⟩, ?_⟩⟩)
          exact fun cache_id made member => unbound cache_id made (List.mem_append_left _ member)
        · have logged : emits op answer = [.built operation name config (.ok (some cache))] := by
            cases op with
            | finish call => cases call <;> simp [emits, Event.ended] at new
            | factory => simpa [emits, eq_comm] using new
            | _ => simp [emits] at new
          exact .inr ⟨thread, operation, name, config, by rw [Global.extend_log, logged]; rfl⟩
    · refine .inl (.inr ⟨thread, ⟨request, program, by simpa [same] using present, unfinished⟩, ?_⟩)
      simpa [Global.own_other (Ne.symm same)] using points
  · exact .inl (.inr ⟨thread, ⟨request, program, present, unfinished⟩, points⟩)

private theorem built_once {before : Log J β} {builder maker : Nat} {operation operation' : FactoryCall}
    {name name' : StdString} {config config' : J}
    (accurate : Justified Accurate (before ++ [(maker, .built operation' name' config' (.ok (some cache)))])) :
    (builder, .built operation name config (.ok (some cache))) ∉ before := by
  intro made
  obtain ⟨earlier, between, rfl⟩ := List.append_of_mem made
  have soon := accurate.initial earlier _ between rfl
  have late := accurate _ _ [] rfl
  have whole : earlier ++ (builder, .built operation name config (.ok (some cache))) :: between =
      earlier ++ (builder, .built operation name config (.ok (some cache))) :: between := rfl
  have fewer := builds_lt_of_prefix whole rfl
  simp only [Accurate] at soon late
  omega

/-- A backend that has lost its last owner is out of reach for good: in no later step is it
returned by a lookup, bound, called, or returned to by a call, whatever requests come. -/
theorem no_use_after_free {builder : Nat} {operation : FactoryCall} {name : StdString} {config : J}
    {more : List (Action Request StdString)} {after : Provider J β}
    (served : serve runtime m_token actions = some pool)
    (made : (builder, .built operation name config (.ok (some cache))) ∈ pool.global.log)
    (dead : ¬ Alive pool cache) (ran : (system runtime).run more pool = some after) :
    ¬ Alive after cache ∧ ∃ entries, after.global.log = pool.global.log ++ entries ∧
      ∀ entry ∈ entries, entry.2.backend ≠ some cache := by
  suffices (∃ past, serve runtime m_token past = some after) ∧ ¬ Alive after cache ∧
      ∃ entries, after.global.log = pool.global.log ++ entries ∧
        ∀ entry ∈ entries, entry.2.backend ≠ some cache from this.2
  refine System.run_induction (fun later => (∃ past, serve runtime m_token past = some later) ∧
    ¬ Alive later cache ∧ ∃ entries, later.global.log = pool.global.log ++ entries ∧
      ∀ entry ∈ entries, entry.2.backend ≠ some cache) ?_ ⟨⟨actions, served⟩, dead, [], by simp, by simp⟩ ran
  intro action _ state next holds stepped
  obtain ⟨⟨past, served⟩, dead, entries, grown, unused⟩ := holds
  have single : (system runtime).run [action] state = some next := by simp [System.run, stepped]
  have servedNext := serve_append served single
  refine ⟨⟨_, servedNext⟩, fun alive => ?_, ?_⟩
  · rcases alive_before served stepped alive with earlier | ⟨maker, operation', name', config', logged⟩
    · exact dead earlier
    · have accurate := (serve_replays servedNext).accurate
      rw [logged] at accurate
      exact built_once accurate (by rw [grown]; exact List.mem_append_left _ made)
  · rcases (singly runtime).step stepped with same | ⟨entry, logged⟩
    · exact ⟨entries, by rw [same, grown], unused⟩
    · refine ⟨entries ++ [entry], by rw [logged, grown, List.append_assoc], fun other member => ?_⟩
      rcases List.mem_append.mp member with old | new
      · exact unused other old
      · cases List.mem_singleton.mp new
        exact fun involved => dead (used_alive served stepped logged involved)

/-- The calls that `destroyBetween` leaves open return. -/
def destroyedAndLeft : List (Action Request StdString) :=
  destroyBetween ++ [.step 1, .step 1, .step 2, .step 2]

def checkLater : List (Action Request StdString) :=
  .spawn 4 (.checkCache UUID.clear) :: List.replicate 4 (.step 4)

theorem destroyedAndLeft_freed : ∃ pool after cache,
    serve DummyCache.sample [] destroyedAndLeft = some pool ∧
    (system DummyCache.sample).run checkLater pool = some after ∧
    (3, .erased UUID.clear) ∈ pool.global.log ∧ ¬ Alive after cache ∧
    ∃ entries, after.global.log = pool.global.log ++ entries ∧
      ∀ entry ∈ entries, entry.2.backend ≠ some cache := by
  obtain ⟨pool, after, cache, served, ran, ⟨tail, log⟩, registry, ended, rest⟩ : ∃ pool after,
      ∃ cache : Backend (DummyCache Unit), serve DummyCache.sample [] destroyedAndLeft = some pool ∧
      (system DummyCache.sample).run checkLater pool = some after ∧
      (∃ rest, pool.global.log = destroyBetweenLog cache ++ rest) ∧
      pool.global.shared.m_backends = ((∅ : Registry _).insert UUID.clear cache).erase UUID.clear ∧
      (∀ thread < 4, ∃ request, pool.threads thread = some ⟨request, .done ()⟩) ∧
      ∀ thread, pool.threads (thread + 4) = none := by
    refine ⟨_, _, ⟨0, ⟨()⟩⟩, rfl, rfl, ⟨_, rfl⟩, rfl, fun thread few => ?_, fun _ => rfl⟩
    match thread with
    | 0 | 1 | 2 | 3 => exact ⟨_, rfl⟩
    | _ + 4 => omega
  have dead : ¬ Alive pool cache := by
    rintro (⟨cache_id, found⟩ | ⟨thread, ⟨request, program, present, unfinished⟩, -⟩)
    · rw [registry] at found
      by_cases same : cache_id = UUID.clear
      · subst same
        simp at found
      · rw [Finmap.lookup_erase_ne same, Finmap.lookup_insert_of_ne _ same] at found
        simp at found
    · by_cases few : thread < 4
      · obtain ⟨_, done⟩ := ended thread few
        cases present.symm.trans done
        exact unfinished (.ok ()) rfl
      · obtain ⟨more, rfl⟩ := Nat.exists_eq_add_of_le' (Nat.le_of_not_lt few)
        cases present.symm.trans (rest more)
  have made : (0, .built .createCache (lit "dummy") () (.ok (some cache))) ∈ pool.global.log := by
    simp [log, destroyBetweenLog]
  have erased : (3, .erased UUID.clear) ∈ pool.global.log := by
    simp [log, destroyBetweenLog]
  obtain ⟨gone, entries, grown, unused⟩ := no_use_after_free served made dead ran
  exact ⟨pool, after, cache, served, ran, erased, gone, entries, grown, unused⟩

end ProviderImpl

end Cachersize

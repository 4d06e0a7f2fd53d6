import Cachersize.Concurrent.RelyGuarantee
import Cachersize.Provider.Mutex
import Cachersize.Provider.Replay
import Cachersize.Dummy

/-! What the mutex promises about destroyed backends, and what it does not: a lookup
never returns one, but a call may outlive the lookup that it started from. -/
namespace Cachersize.ProviderImpl

open Concurrent

variable {J β : Type}

/-- No `destroy` on the backend is under way or has returned: every one that was
called has thrown. -/
def Spared (log : Log J β) (cache : Backend β) : Prop :=
  ∀ destroyer, (destroyer, .started (.destroy cache)) ∈ log →
    ∃ what, (destroyer, .destroyed cache (.error what)) ∈ log

/-- The request found the backend in the registry at a moment at which it was spared. -/
def Found (before : Log J β) (thread : Nat) (cache : Backend β) : Prop :=
  ∃ cache_id earlier between,
    before = earlier ++ (thread, .lookedUp cache_id (some cache)) :: between ∧ Spared earlier cache

/-- Lookups and `destroy` calls meet only spared backends, and the other calls start
from a lookup of their own request. -/
def Guards (before : Log J β) (entry : Nat × Event J β) : Prop :=
  match entry.2 with
  | .lookedUp _ (some cache) => Spared before cache
  | .started (.destroy cache) => Spared before cache
  | .started (.computeSum cache _ _) | .started (.sayHello cache) => Found before entry.1 cache
  | _ => True

/-- The bound backends are spared, but for the one binding that a request is about
to end. -/
def Clean (suspended : Option (Nat × UUID)) (log : Log J β) (registry : Registry β) : Prop :=
  ∀ cache_id cache, registry.lookup cache_id = some cache →
    ∀ destroyer, (destroyer, .started (.destroy cache)) ∈ log →
      (∃ what, (destroyer, .destroyed cache (.error what)) ∈ log) ∨
        suspended = some (destroyer, cache_id)

def DestroysBound (before : Log J β) (entry : Nat × Event J β) : Prop :=
  ∀ cache, entry.2 = .started (.destroy cache) →
    ∃ cache_id, (bindings before).lookup cache_id = some cache

/-- The invariant of the provider. -/
structure Guarded (s : State J β) : Prop where
  replays : Replays s
  built : ∀ binder cache_id cache, (binder, .bound cache_id cache) ∈ s.log →
    ∃ operation name config, (binder, .built operation name config (.ok (some cache))) ∈ s.log
  once : ∀ binder cache_id cache cache_id' cache', (binder, .bound cache_id cache) ∈ s.log →
    (binder, .bound cache_id' cache') ∈ s.log → cache_id = cache_id'
  guards : Justified Guards s.log
  destroysBound : Justified DestroysBound s.log
  free : s.shared.m_backends_mtx = none → Clean none s.log s.shared.m_backends

/-- A request knows its own events, and that the registry it holds is clean. -/
structure At (thread : Nat) (events : List (Event J β)) (lock : Option (Registry β))
    (suspended : Option UUID) (s : State J β) (_ : Unit) : Prop where
  own : Global.own thread s.log = events
  held : Held thread s.shared lock
  clean : ∀ registry, lock = some registry → Clean (suspended.map (Prod.mk thread)) s.log registry

/-- Only the holder of the mutex destroys. -/
structure Cautious (agent : Option Nat) (s : State J β) (_ : Unit) (s' : State J β) (_ : Unit) :
    Prop extends Interferes agent s s' where
  destroys : ∀ thread, agent ≠ some thread → s.shared.m_backends_mtx = some thread →
    ∀ destroyer cache, (destroyer, .started (.destroy cache)) ∈ s'.log →
      (destroyer, .started (.destroy cache)) ∈ s.log

def destructionProtocol : Protocol (ProviderImpl β) (Event J β) Unit where
  inv s _ := Guarded s
  guar := Cautious

variable {runtime : Runtime J β} {thread : Nat} {events : List (Event J β)}
variable {lock : Option (Registry β)} {suspended : Option UUID}

theorem Clean.mono {log larger : Log J β} {registry : Registry β}
    {except : Option (Nat × UUID)} (clean : Clean except log registry) (grows : log ⊆ larger)
    (destroys : ∀ destroyer cache, (destroyer, .started (.destroy cache)) ∈ larger →
      (destroyer, .started (.destroy cache)) ∈ log) : Clean except larger registry := by
  intro cache_id cache found destroyer started
  rcases clean cache_id cache found destroyer (destroys destroyer cache started) with ⟨what, threw⟩ | own
  · exact .inl ⟨what, grows threw⟩
  · exact .inr own

theorem Clean.spared {log : Log J β} {registry : Registry β} {cache_id : UUID} {cache : Backend β}
    (clean : Clean none log registry) (found : registry.lookup cache_id = some cache) :
    Spared log cache := by
  intro destroyer started
  rcases clean cache_id cache found destroyer started with threw | own
  · exact threw
  · cases own

private theorem at_stable : destructionProtocol.Stable thread (At thread events lock suspended) := by
  intro agent different s _ s' _ _ acted known
  refine ⟨(acted.own different).trans known.own, known.held.stable different acted.toInterferes, ?_⟩
  rintro registry rfl
  exact (known.clean registry rfl).mono acted.subset
    (acted.destroys thread different known.held.1)

theorem Guarded.injective {s : State J β} (valid : Guarded s) {first second : UUID} {cache : Backend β}
    (one : s.shared.m_backends.lookup first = some cache)
    (two : s.shared.m_backends.lookup second = some cache) : first = second := by
  rw [valid.replays.registry] at one two
  obtain ⟨binder, bound⟩ := bound_of_lookup one
  obtain ⟨other, rebound⟩ := bound_of_lookup two
  obtain ⟨_, _, _, made⟩ := valid.built binder first cache bound
  obtain ⟨_, _, _, remade⟩ := valid.built other second cache rebound
  obtain ⟨rfl, -⟩ := built_unique valid.replays.accurate made remade rfl
  exact valid.once binder first cache second cache bound rebound

/-- A step that binds nothing keeps the invariant, if its event is in order and it
does not free the mutex over an unclean registry. -/
theorem Guarded.extend {s : State J β} {op : Op J β} {answer : op.Answer} {shared : ProviderImpl β}
    (valid : Guarded s) (answered : exec runtime thread op s = some (answer, shared, events))
    (unbound : ∀ cache_id cache, .bound cache_id cache ∉ events)
    (guards : ∀ event ∈ events, Guards s.log (thread, event) ∧ DestroysBound s.log (thread, event))
    (free : shared.m_backends_mtx = none →
      Clean none (s.log ++ events.map (Prod.mk thread)) shared.m_backends) :
    Guarded (s.extend thread shared events) := by
  obtain ⟨rfl, -⟩ := exec_emits answered
  have older : ∀ binder cache_id cache,
      (binder, .bound cache_id cache) ∈ s.log ++ (emits op answer).map (Prod.mk thread) →
      (binder, .bound cache_id cache) ∈ s.log :=
    fun binder cache_id cache member => Global.mem_before member (unbound cache_id cache)
  constructor
  · exact valid.replays.exec answered
  · intro binder cache_id cache bound
    obtain ⟨operation, name, config, made⟩ := valid.built binder cache_id cache (older _ _ _ bound)
    exact ⟨operation, name, config, List.mem_append_left _ made⟩
  · intro binder cache_id cache cache_id' cache' bound rebound
    exact valid.once binder cache_id cache cache_id' cache' (older _ _ _ bound) (older _ _ _ rebound)
  · exact justified_emits valid.guards fun event member => (guards event member).1
  · exact justified_emits valid.destroysBound fun event member => (guards event member).2
  · exact free

variable (runtime thread) in
/-- The rest of a handler minds the protocol, from what the request knows. -/
abbrev Careful (program : Handler J β Unit) (events : List (Event J β))
    (lock : Option (Registry β)) (suspended : Option UUID) : Prop :=
  destructionProtocol.Safe (system runtime) thread (fun _ _ _ => True) program
    (At thread events lock suspended)

private theorem careful_done {result : Unit} : Careful runtime thread (.done result) events lock suspended :=
  fun _ _ _ _ => trivial

private theorem careful_raise {what : StdString} :
    Careful runtime thread (.raise what) events lock suspended :=
  fun _ _ _ _ => trivial

/-- A read keeps the protocol if its event is in order. Outside the mutex it must
not start to destroy. -/
theorem careful_read {op : Op J β} {next : op.Answer → Handler J β Unit} (reads : Reads op)
    (rest : ∀ (s : State J β) answer shared, Guarded s → At thread events lock suspended s () →
      exec runtime thread op s = some (answer, shared, emits op answer) →
      (∀ event ∈ emits op answer,
        Guards s.log (thread, event) ∧ DestroysBound s.log (thread, event)) ∧
      (lock = none → ∀ cache, .started (.destroy cache) ∉ emits op answer) ∧
      ∃ suspended', (∀ registry, lock = some registry →
          Clean (suspended'.map (Prod.mk thread))
            (s.log ++ (emits op answer).map (Prod.mk thread)) registry) ∧
        Careful runtime thread (next answer) (events ++ emits op answer) lock suspended') :
    Careful runtime thread (.perform op next) events lock suspended := by
  intro s _ answer shared emitted valid known answered
  obtain ⟨rfl, -⟩ := exec_emits answered
  obtain ⟨registry, mutex⟩ := exec_reads reads answered
  obtain ⟨guards, quiet, suspended', clean, go⟩ := rest s answer shared valid known answered
  have outside {other : Nat} (different : some thread ≠ some other) :
      s.shared.m_backends_mtx = some other → lock = none := by
    intro holds
    cases lock with
    | none => rfl
    | some held => exact absurd (known.held.1.symm.trans holds) different
  have older : lock = none → ∀ destroyer cache, (destroyer, .started (.destroy cache)) ∈
      s.log ++ (emits op answer).map (Prod.mk thread) →
      (destroyer, .started (.destroy cache)) ∈ s.log :=
    fun free destroyer cache member => Global.mem_before member (quiet free cache)
  refine ⟨(), valid.extend answered ?_ guards ?_, ?_, _, at_stable, ⟨?_, ?_, clean⟩, go⟩
  · intro cache_id cache member
    cases op with
    | finish call => cases call <;> simp [emits, Event.ended] at member
    | assign => exact reads.elim
    | _ => simp [emits] at member
  · intro free
    rw [mutex] at free
    have unheld : lock = none := by
      cases lock with
      | none => rfl
      | some held => exact absurd (known.held.1.symm.trans free) (by simp)
    rw [registry]
    exact (valid.free free).mono (List.subset_append_left _ _) (older unheld)
  · exact ⟨.extend (fun _ _ => by rw [mutex]) (.inl registry),
      fun other different holds => older (outside different holds)⟩
  · simp [known.own]
  · exact known.held.read registry mutex

theorem Clean.emits {except : Option (Nat × UUID)} {log : Log J β} {registry : Registry β}
    {op : Op J β} {answer : op.Answer} (clean : Clean except log registry)
    (quiet : ∀ cache, .started (.destroy cache) ∉ emits op answer) :
    Clean except (log ++ (emits op answer).map (Prod.mk thread)) registry :=
  clean.mono (List.subset_append_left _ _) fun _ cache member => Global.mem_before member (quiet cache)

def Plain : Event J β → Prop
  | .lookedUp .. | .started _ | .bound .. => False
  | _ => True

theorem Plain.ordered {event : Event J β} (plain : Plain event) (log : Log J β) :
    Guards log (thread, event) ∧ DestroysBound log (thread, event) := by
  constructor
  · cases event with
    | lookedUp | started => exact plain.elim
    | _ => trivial
  · rintro cache rfl
    exact plain.elim

private theorem careful_plain {op : Op J β} {next : op.Answer → Handler J β Unit} (reads : Reads op)
    (plain : ∀ answer, ∀ event ∈ emits op answer, Plain event)
    (rest : ∀ answer, Careful runtime thread (next answer) (events ++ emits op answer) lock suspended) :
    Careful runtime thread (.perform op next) events lock suspended := by
  refine careful_read reads fun s answer shared _ known _ => ⟨?_, ?_, suspended, ?_, rest answer⟩
  · exact fun event member => (plain answer event member).ordered s.log
  · exact fun _ cache member => plain answer _ member
  · exact fun registry held => (known.clean registry held).emits fun cache member =>
      plain answer _ member

private theorem careful_find {cache_id : UUID} {registry : Registry β}
    {next : Option (Backend β) → Handler J β Unit}
    (rest : Careful runtime thread (next (registry.lookup cache_id))
      (events ++ [.lookedUp cache_id (registry.lookup cache_id)]) (some registry) none) :
    Careful runtime thread (.perform (.find cache_id) next) events (some registry) none := by
  refine careful_read trivial fun s found shared _ known answered => ?_
  cases answered
  obtain ⟨-, rfl⟩ := known.held
  refine ⟨?_, nofun, none, ?_, rest⟩
  · intro event member
    cases List.mem_singleton.mp member
    refine ⟨?_, nofun⟩
    cases lookup : s.shared.m_backends.lookup cache_id with
    | none => trivial
    | some cache => exact (known.clean _ rfl).spared lookup
  · intro registry same
    cases same
    exact (known.clean _ rfl).emits (by simp [emits])

private theorem careful_index {cache_id : UUID} {registry : Registry β} {next : Backend β → Handler J β Unit}
    (rest : ∀ cache, registry.lookup cache_id = some cache →
      Careful runtime thread (next cache) events (some registry) none) :
    Careful runtime thread (.perform (.index cache_id) next) events (some registry) none := by
  refine careful_read trivial fun s cache shared _ known answered => ?_
  have lookup := (exec_index answered).1
  rw [known.held.2] at lookup
  refine ⟨nofun, nofun, none, ?_, by simpa [emits] using rest cache lookup⟩
  simpa [emits] using known.clean

/-- A call that is not `destroy` starts from the backend that the request found. -/
theorem careful_start {call : BackendCall β} {cache_id : UUID} {next : Unit → Handler J β Unit}
    (harmless : ∀ cache, call ≠ .destroy cache)
    (found : .lookedUp cache_id (some call.cache) ∈ events)
    (rest : Careful runtime thread (next ()) (events ++ [.started call]) none none) :
    Careful runtime thread (.perform (.start call) next) events none none := by
  refine careful_read trivial fun s _ shared valid known _ => ⟨?_, ?_, none, nofun, rest⟩
  · intro event member
    cases List.mem_singleton.mp member
    rw [← known.own, Global.mem_own] at found
    obtain ⟨earlier, between, split, spared⟩ := valid.guards.of_mem found
    refine ⟨?_, fun cache same => absurd (Event.started.inj same) (harmless cache)⟩
    cases call with
    | destroy cache => exact absurd rfl (harmless cache)
    | _ => exact ⟨cache_id, earlier, between, split, spared⟩
  · intro _ cache member
    exact harmless cache (Event.started.inj (List.mem_singleton.mp member)).symm

/-- `destroy` starts under the mutex on a bound backend, which is spared until then. -/
theorem careful_destroy {cache_id : UUID} {cache : Backend β} {registry : Registry β}
    {next : Unit → Handler J β Unit} (lookup : registry.lookup cache_id = some cache)
    (rest : Careful runtime thread (next ()) (events ++ [.started (.destroy cache)]) (some registry)
      (some cache_id)) :
    Careful runtime thread (.perform (.start (.destroy cache)) next) events (some registry) none := by
  refine careful_read trivial fun s _ shared valid known _ => ⟨?_, nofun, some cache_id, ?_, rest⟩
  all_goals
    obtain ⟨-, rfl⟩ := known.held
  · intro event member
    cases List.mem_singleton.mp member
    refine ⟨(known.clean _ rfl).spared lookup, fun other same => ?_⟩
    cases same
    exact ⟨cache_id, valid.replays.registry ▸ lookup⟩
  · intro registry same other_id other found destroyer started
    cases same
    rcases List.mem_append.mp started with old | new
    · obtain ⟨what, threw⟩ := (known.clean _ rfl).spared found destroyer old
      exact .inl ⟨what, List.mem_append_left _ threw⟩
    · cases List.mem_singleton.mp new
      rw [valid.injective found lookup]
      exact .inr rfl

/-- When `destroy` returns, the binding is still there and no longer clean. When it
throws, the binding is as good as before. -/
theorem careful_destroyed {cache_id : UUID} {cache : Backend β} {registry : Registry β}
    {next : Except StdString RequestResultBool → Handler J β Unit}
    (lookup : registry.lookup cache_id = some cache)
    (returned : ∀ result, Careful runtime thread (next (.ok result))
      (events ++ [.destroyed cache (.ok result)]) (some registry) (some cache_id))
    (threw : ∀ what, Careful runtime thread (next (.error what))
      (events ++ [.destroyed cache (.error what)]) (some registry) none) :
    Careful runtime thread (.perform (.finish (.destroy cache)) next) events (some registry)
      (some cache_id) := by
  refine careful_read trivial fun s outcome shared _ known _ => ⟨?_, nofun, ?_⟩
  · intro event member
    cases List.mem_singleton.mp member
    have plain : Plain (.destroyed cache outcome : Event J β) := trivial
    exact plain.ordered s.log
  · have kept : Clean (some (thread, cache_id)) (s.log ++ [(thread, .destroyed cache outcome)])
        registry :=
      (known.clean registry rfl).mono (List.subset_append_left _ _) (by simp)
    cases outcome with
    | ok result =>
      refine ⟨some cache_id, ?_, returned result⟩
      intro other same
      cases same
      exact kept
    | error what =>
      refine ⟨none, ?_, threw what⟩
      intro other same other_id found_cache found destroyer started
      cases same
      rcases kept other_id found_cache found destroyer started with ended | own
      · exact .inl ended
      · cases own
        cases found.symm.trans lookup
        exact .inl ⟨what, List.mem_append_right _ (List.mem_singleton_self _)⟩

private theorem careful_lock {next : Unit → Handler J β Unit}
    (rest : ∀ registry, Careful runtime thread (next ()) events (some registry) none) :
    Careful runtime thread (.perform .lock next) events none none := by
  intro s _ answer shared emitted valid known answered
  have taken : exec runtime thread .lock s = some (answer, shared, emitted) := answered
  obtain ⟨free, rfl, rfl⟩ := exec_lock taken
  have clean := valid.free free
  refine ⟨(), valid.extend taken (by simp) (by simp) (by simp), ?_, _, at_stable, ?_,
    rest s.shared.m_backends⟩
  · refine ⟨.extend ?_ (.inl rfl), fun _ _ _ _ _ member => by simpa using member⟩
    intro other different
    simp [free, Ne.symm different]
  · refine ⟨by simp [known.own], Held.taken rfl, ?_⟩
    intro registry same
    cases same
    simpa using clean

private theorem careful_unlock {registry : Registry β} {next : Unit → Handler J β Unit}
    (rest : Careful runtime thread (next ()) events none none) :
    Careful runtime thread (.perform .unlock next) events (some registry) none := by
  intro s _ answer shared emitted valid known answered
  obtain ⟨holds, rfl⟩ := known.held
  have clean := known.clean _ rfl
  have released : exec runtime thread .unlock s = some (answer, shared, emitted) := answered
  cases answered
  have freed := valid.extend released (by simp) (by simp) fun _ => by simpa using clean
  refine ⟨(), freed, ?_, _, at_stable, ⟨by simp [known.own], Held.freed rfl, nofun⟩, rest⟩
  refine ⟨.extend ?_ (.inl rfl), fun _ _ _ _ _ member => by simpa using member⟩
  intro other different
  simp [holds, Ne.symm different]

/-- Ending the suspended binding makes the registry clean again. -/
theorem careful_erase {cache_id : UUID} {registry : Registry β} {next : Unit → Handler J β Unit}
    (own : ∀ other, suspended = some other → other = cache_id)
    (rest : Careful runtime thread (next ()) (events ++ [.erased cache_id])
      (some (registry.erase cache_id)) none) :
    Careful runtime thread (.perform (.erase cache_id) next) events (some registry) suspended := by
  intro s _ answer shared emitted valid known answered
  obtain ⟨holds, rfl⟩ := known.held
  have clean : Clean none (s.log ++ [(thread, .erased cache_id)])
      (s.shared.m_backends.erase cache_id) := by
    intro other cache found destroyer started
    have different : other ≠ cache_id := by
      rintro rfl
      simp at found
    rw [Finmap.lookup_erase_ne different] at found
    have older : (destroyer, .started (.destroy cache)) ∈ s.log := by simpa using started
    rcases known.clean _ rfl other cache found destroyer older with ⟨what, threw⟩ | exempt
    · exact .inl ⟨what, List.mem_append_left _ threw⟩
    · obtain ⟨_, rfl, same⟩ := Option.map_eq_some_iff.mp exempt
      cases same
      exact absurd (own other rfl) different
  have plain : Plain (.erased cache_id : Event J β) := trivial
  have ended : exec runtime thread (.erase cache_id) s = some (answer, shared, emitted) := answered
  cases answered
  have kept := valid.extend ended (by simp)
    (by simpa using plain.ordered s.log) (fun _ => clean)
  refine ⟨(), kept, ?_, _, at_stable, ?_, rest⟩
  · exact ⟨.extend (fun _ _ => Iff.rfl) (.inr holds), fun _ _ _ _ _ member => by simpa using member⟩
  · refine ⟨by simp [known.own], Held.taken holds, ?_⟩
    intro registry same
    cases same
    exact clean

/-- A backend that its builder has not bound yet was never destroyed. -/
theorem Guarded.undestroyed {s : State J β} (valid : Guarded s) {operation : FactoryCall}
    {name : StdString} {config : J} {cache : Backend β}
    (built : (thread, .built operation name config (.ok (some cache))) ∈ s.log)
    (unbound : ∀ cache_id cache, (thread, .bound cache_id cache) ∉ s.log) (destroyer : Nat) :
    (destroyer, .started (.destroy cache)) ∉ s.log := by
  intro started
  obtain ⟨before, after, split, bindsIt⟩ := valid.destroysBound.of_mem started
  obtain ⟨cache_id, lookup⟩ := bindsIt cache rfl
  obtain ⟨binder, bound⟩ := bound_of_lookup lookup
  have inLog : (binder, .bound cache_id cache) ∈ s.log := by
    rw [split]
    exact List.mem_append_left _ bound
  obtain ⟨_, _, _, made⟩ := valid.built binder cache_id cache inLog
  obtain ⟨rfl, -⟩ := built_unique valid.replays.accurate built made rfl
  exact unbound cache_id cache inLog

private theorem careful_assign {operation : FactoryCall} {name : StdString} {config : J} {generated : UUID}
    {cache : Backend β} {registry : Registry β} {next : Unit → Handler J β Unit}
    (built : .built operation name config (.ok (some cache)) ∈ events)
    (unbound : ∀ cache_id cache, .bound cache_id cache ∉ events)
    (rest : Careful runtime thread (next ()) (events ++ [.bound generated cache])
      (some (registry.insert generated cache)) none) :
    Careful runtime thread (.perform (.assign generated cache) next) events (some registry) none := by
  intro s _ answer shared emitted valid known answered
  obtain ⟨holds, rfl⟩ := known.held
  rw [← known.own, Global.mem_own] at built
  have unboundLog : ∀ cache_id cache, (thread, .bound cache_id cache) ∉ s.log := by
    intro cache_id other member
    exact unbound cache_id other (known.own ▸ Global.mem_own.mpr member)
  have clean : Clean none (s.log ++ [(thread, .bound generated cache)])
      (s.shared.m_backends.insert generated cache) := by
    intro cache_id other found destroyer started
    have older : (destroyer, .started (.destroy other)) ∈ s.log := by simpa using started
    by_cases fresh : cache_id = generated
    · subst fresh
      simp only [Finmap.lookup_insert, Option.some.injEq] at found
      subst found
      exact absurd older (valid.undestroyed built unboundLog destroyer)
    · rw [Finmap.lookup_insert_of_ne _ fresh] at found
      obtain ⟨what, threw⟩ := (known.clean _ rfl).spared found destroyer older
      exact .inl ⟨what, List.mem_append_left _ threw⟩
  have assigned : exec runtime thread (.assign generated cache) s = some (answer, shared, emitted) :=
    answered
  have replays := valid.replays.exec assigned
  cases answered
  refine ⟨(), ⟨replays, ?_, ?_, valid.guards.snoc trivial, valid.destroysBound.snoc nofun, ?_⟩, ?_, _,
    at_stable, ⟨by simp [known.own], Held.taken holds, ?_⟩, rest⟩
  · intro binder cache_id other bound
    rcases List.mem_append.mp bound with old | new
    · obtain ⟨_, _, _, made⟩ := valid.built binder cache_id other old
      exact ⟨_, _, _, List.mem_append_left _ made⟩
    · cases List.mem_singleton.mp new
      exact ⟨operation, name, config, List.mem_append_left _ built⟩
  · intro binder first one second two bound rebound
    rcases List.mem_append.mp bound with old | new <;>
      rcases List.mem_append.mp rebound with older | newer
    · exact valid.once binder first one second two old older
    · cases List.mem_singleton.mp newer
      exact absurd old (unboundLog first one)
    · cases List.mem_singleton.mp new
      exact absurd older (unboundLog second two)
    · cases List.mem_singleton.mp new
      cases List.mem_singleton.mp newer
      rfl
  · intro free
    exact absurd (holds.symm.trans free) (by simp)
  · exact ⟨.extend (fun _ _ => Iff.rfl) (.inr holds), fun _ _ _ _ _ member => by simpa using member⟩
  · intro registry same
    cases same
    exact clean

private theorem careful_respond {response : Response} {next : Unit → Handler J β Unit}
    (rest : Careful runtime thread (next ()) (events ++ [.responded response]) lock suspended) :
    Careful runtime thread (.perform (.respond response) next) events lock suspended :=
  careful_plain trivial (by simp [emits, Plain]) fun _ => rest

private theorem careful_answer {response : Response} :
    Careful runtime thread (.perform (.respond response) .done) events none none :=
  careful_respond careful_done

private theorem careful_miss {response : Response} {registry : Registry β} :
    Careful runtime thread (.perform (.respond response) fun _ => .perform .unlock fun _ => .done ())
      events (some registry) none :=
  careful_respond (careful_unlock careful_done)

private theorem careful_token {token : StdString} {failed : Response} {rest : Handler J β Unit}
    (accepted : ∀ secret,
      Careful runtime thread rest (events ++ [.readToken secret]) none none) :
    Careful runtime thread
      (.perform .m_token fun secret =>
        if InvalidToken secret token then .perform (.respond failed) .done else rest)
      events none none := by
  refine careful_plain trivial (by simp [emits, Plain]) fun secret => ?_
  by_cases invalid : InvalidToken secret token
  · rw [if_pos invalid]
    exact careful_answer
  · rw [if_neg invalid]
    exact accepted secret

private theorem addCache_careful (operation : FactoryCall) (generated : UUID)
    (token cache_type cache_config : StdString) (request : Request) :
    Careful runtime thread (addCache runtime operation generated token cache_type cache_config)
      [.received request] none none := by
  rw [addCache_eq]
  apply careful_token
  intro secret
  cases runtime.parse cache_config with
  | error exception =>
    cases exception with
    | parse_error what => exact careful_answer
    | other what => exact careful_raise
  | ok json_config =>
    refine careful_plain trivial (by simp [emits, Plain]) fun built => ?_
    cases built with
    | error what => exact careful_answer
    | ok made =>
      cases made with
      | none => exact careful_answer
      | some backend =>
        have built : .built operation cache_type json_config (.ok (some backend)) ∈
            [.received request] ++ [.readToken secret] ++
              emits (.factory operation cache_type json_config) (.ok (some backend)) :=
          List.mem_append_right _ (List.mem_singleton_self _)
        exact careful_lock fun registry =>
          careful_assign built (by simp [emits]) (careful_unlock careful_answer)

private theorem closeCache_careful (token : StdString) (cache_id : UUID) (request : Request) :
    Careful runtime thread (closeCache runtime token cache_id) [.received request] none none := by
  rw [closeCache_eq]
  apply careful_token
  intro secret
  refine careful_lock fun registry => careful_plain trivial (by simp [emits]) fun count => ?_
  by_cases missing : count = 0
  · rw [if_pos missing]
    exact careful_miss
  · rw [if_neg missing]
    exact careful_erase (by simp) (careful_unlock careful_answer)

private theorem destroyCache_careful (token : StdString) (cache_id : UUID) (request : Request) :
    Careful runtime thread (destroyCache runtime token cache_id) [.received request] none none := by
  rw [destroyCache_eq]
  apply careful_token
  intro secret
  refine careful_lock fun registry => careful_plain trivial (by simp [emits]) fun count => ?_
  by_cases missing : count = 0
  · rw [if_pos missing]
    exact careful_miss
  rw [if_neg missing]
  refine careful_index fun cache lookup => careful_destroy lookup (careful_destroyed lookup ?_ ?_)
  · intro result
    refine careful_erase (fun other same => (Option.some.inj same).symm) ?_
    exact careful_unlock careful_answer
  · exact fun what => careful_unlock careful_raise

private theorem FIND_CACHE_careful (cache_id : UUID) (failed : StdString → Response) (request : Request)
    {body : Backend β → Handler J β Unit}
    (hit : ∀ cache, Careful runtime thread (body cache)
      ([.received request] ++ [.lookedUp cache_id (some cache)]) none none) :
    Careful runtime thread (FIND_CACHE runtime cache_id failed body) [.received request] none none := by
  rw [FIND_CACHE_eq]
  refine careful_lock fun registry => careful_find ?_
  cases registry.lookup cache_id with
  | none => exact careful_miss
  | some cache => exact careful_unlock (hit cache)

private theorem careful_invoke {call : BackendCall β} {cache_id : UUID}
    {next : Except StdString call.Result → Handler J β Unit} (harmless : ∀ cache, call ≠ .destroy cache)
    (found : .lookedUp cache_id (some call.cache) ∈ events)
    (rest : ∀ outcome, Careful runtime thread (next outcome)
      (events ++ [.started call] ++ [.ended call outcome]) none none) :
    Careful runtime thread (.perform (.start call) fun _ => .perform (.finish call) next) events
      none none := by
  refine careful_start harmless found (careful_plain trivial ?_ rest)
  cases call <;> simp [emits, Event.ended, Plain]

private theorem handler_careful (request : Request) :
    Careful runtime thread (handler runtime request) [.received request] none none := by
  cases request with
  | createCache => exact addCache_careful _ _ _ _ _ _
  | openCache => exact addCache_careful _ _ _ _ _ _
  | closeCache => exact closeCache_careful _ _ _
  | destroyCache => exact destroyCache_careful _ _ _
  | checkCache => exact FIND_CACHE_careful _ _ _ fun _ => careful_answer
  | sayHello =>
    refine FIND_CACHE_careful _ _ _ fun cache => careful_invoke (by simp)
      (List.mem_append_right _ (List.mem_singleton_self _)) fun outcome => ?_
    cases outcome with
    | ok _ => exact careful_done
    | error what => exact careful_raise
  | computeSum =>
    rw [handler, computeSum_eq]
    refine FIND_CACHE_careful _ _ _ fun cache => careful_invoke (by simp)
      (List.mem_append_right _ (List.mem_singleton_self _)) fun outcome => ?_
    cases outcome with
    | ok result => exact careful_answer
    | error what => exact careful_raise

def destructionOutline (runtime : Runtime J β) : Outline (system runtime) Unit where
  toProtocol := destructionProtocol
  fresh thread := At thread [] none none
  post _ _ _ _ _ := True
  allowed _ := True
  fresh_stable := fun _ => at_stable
  arrives := by
    intro thread request s _ valid fresh
    refine ⟨(), ⟨valid.replays.received thread request, ?_, ?_, valid.guards.snoc trivial,
      valid.destroysBound.snoc nofun, ?_⟩, ?_, _, at_stable, ?_, handler_careful request⟩
    · intro binder cache_id cache bound
      obtain ⟨_, _, _, made⟩ := valid.built binder cache_id cache (by simpa using bound)
      exact ⟨_, _, _, List.mem_append_left _ made⟩
    · intro binder cache_id cache cache_id' cache' bound rebound
      exact valid.once binder cache_id cache cache_id' cache' (by simpa using bound) (by simpa using rebound)
    · intro free
      exact (valid.free free).mono (List.subset_append_left _ _) (by simp)
    · exact ⟨.extend (fun _ _ => Iff.rfl) (.inl rfl), fun _ _ _ _ _ member => by simpa using member⟩
    · exact ⟨by simp [fresh.own], fresh.held, nofun⟩
  changes := by
    intro token s _ _ valid
    refine ⟨(), ⟨⟨valid.replays.registry, valid.replays.allocated, valid.replays.accurate⟩, valid.built,
      valid.once, valid.guards, valid.destroysBound, valid.free⟩, .external token, ?_⟩
    exact fun _ _ _ _ _ member => member

theorem serve_guarded {m_token : StdString} {actions : List (Action Request StdString)}
    {pool : Provider J β} (served : serve runtime m_token actions = some pool) : Guarded pool.global := by
  have initially : (destructionOutline runtime).inv ⟨empty m_token, []⟩ () :=
    ⟨⟨rfl, rfl, Justified.nil⟩, nofun, nofun, Justified.nil, Justified.nil, fun _ => nofun⟩
  have fresh : ∀ thread, (destructionOutline runtime).fresh thread ⟨empty m_token, []⟩ () :=
    fun _ => ⟨rfl, Held.freed rfl, nofun⟩
  obtain ⟨_, valid, -⟩ := (destructionOutline runtime).sound initially fresh (fun _ _ => trivial) served
  exact valid

/-- In every run, a lookup never returns a backend on which `destroy` is under way or
has returned, such a backend is never destroyed again, and `computeSum` and `sayHello`
start only on a backend that their own request looked up before. -/
theorem destroyed_never_found {m_token : StdString} {actions : List (Action Request StdString)}
    {pool : Provider J β} (served : serve runtime m_token actions = some pool) :
    Justified Guards pool.global.log :=
  (serve_guarded served).guards

/-- No `computeSum` or `sayHello` starts on a backend after a call of `destroy` on it. -/
def NeverAfterDestroy (before : Log J β) (entry : Nat × Event J β) : Prop :=
  match entry.2 with
  | .started (.computeSum cache _ _) | .started (.sayHello cache) =>
      ∀ destroyer, (destroyer, .started (.destroy cache)) ∉ before
  | _ => True

/-- No `destroy` starts on a backend while a `computeSum` on it is in progress. -/
def NeverDuringSum (before : Log J β) (entry : Nat × Event J β) : Prop :=
  match entry.2 with
  | .started (.destroy cache) => ∀ caller x y, (caller, .started (.computeSum cache x y)) ∈ before →
      ∃ outcome, (caller, .computedSum cache x y outcome) ∈ before
  | _ => True

/-- Requests 1 and 2 look the cache up, and 1 enters `computeSum`, before request 3
destroys it. Request 2 enters `computeSum` last. -/
def destroyBetween : List (Action Request StdString) :=
  .spawn 0 (.createCache UUID.clear [] (lit "dummy") (lit "{}")) :: List.replicate 6 (.step 0) ++
    .spawn 1 (.computeSum 0 UUID.clear 1 2) :: List.replicate 4 (.step 1) ++
    .spawn 2 (.computeSum 0 UUID.clear 3 4) :: List.replicate 3 (.step 2) ++
    .spawn 3 (.destroyCache [] UUID.clear) :: List.replicate 9 (.step 3) ++ [.step 2]

def destroyBetweenLog (cache : Backend (DummyCache Unit)) : Log Unit (DummyCache Unit) :=
  [(0, .received (.createCache UUID.clear [] (lit "dummy") (lit "{}"))), (0, .readToken []),
    (0, .built .createCache (lit "dummy") () (.ok (some cache))), (0, .bound UUID.clear cache),
    (0, .responded (.uuid { m_value := UUID.clear })),
    (1, .received (.computeSum 0 UUID.clear 1 2)), (1, .lookedUp UUID.clear (some cache)),
    (1, .started (.computeSum cache 1 2)),
    (2, .received (.computeSum 0 UUID.clear 3 4)), (2, .lookedUp UUID.clear (some cache)),
    (3, .received (.destroyCache [] UUID.clear)), (3, .readToken []), (3, .started (.destroy cache)),
    (3, .destroyed cache (.ok {})), (3, .erased UUID.clear), (3, .responded (.bool {})),
    (2, .started (.computeSum cache 3 4))]

/-- The copy of the pointer that `FIND_CACHE` leaves outlives the destruction. -/
theorem sum_after_destroy : ∃ pool, serve DummyCache.sample [] destroyBetween = some pool ∧
    ¬ Justified NeverAfterDestroy pool.global.log ∧ ¬ Justified NeverDuringSum pool.global.log := by
  obtain ⟨pool, served, events⟩ : ∃ pool, serve DummyCache.sample [] destroyBetween = some pool ∧
      pool.global.log = destroyBetweenLog ⟨0, ⟨()⟩⟩ := ⟨_, rfl, rfl⟩
  generalize (⟨0, ⟨()⟩⟩ : Backend (DummyCache Unit)) = cache at events
  refine ⟨pool, served, fun never => ?_, fun never => ?_⟩
  · have after := never ((destroyBetweenLog cache).take 16) _ [] (events.trans rfl) 3
    simp [destroyBetweenLog] at after
  · have during := never ((destroyBetweenLog cache).take 12) _ ((destroyBetweenLog cache).drop 13)
      (events.trans rfl) 1 1 2
    simp [destroyBetweenLog] at during

theorem destroyBetween_guarded : ∃ pool, serve DummyCache.sample [] destroyBetween = some pool ∧
    Justified Guards pool.global.log := by
  obtain ⟨pool, served⟩ : ∃ pool, serve DummyCache.sample [] destroyBetween = some pool := ⟨_, rfl⟩
  exact ⟨pool, served, destroyed_never_found served⟩

end Cachersize.ProviderImpl

import Cachersize.Network.Observed
import Cachersize.Network.Handles
import Cachersize.Provider.Spans

/-! What a caller may rely on from one call to the next, whatever the others do: a created
cache serves until its removal is asked for, a removed one is gone, and is removed once. -/
namespace Cachersize.Network

open Concurrent ProviderImpl

variable {J β : Type} {runtime : ProviderHandle → Runtime J β} {m_token : ProviderHandle → StdString}
variable {actions rest : List NetworkAction} {middle network : Network J β} {rpc : Nat}

theorem run_both {network after : Network J β} (ran : run runtime actions network = some middle)
    (later : run runtime rest middle = some after) : run runtime (actions ++ rest) network = some after := by
  rw [(run_repeats runtime).append, ran, Option.bind_some, later]

theorem run_logs (ran : run runtime rest middle = some network) (ph : ProviderHandle) :
    ∃ more, (network.providers ph).global.log = (middle.providers ph).global.log ++ more := by
  refine run_induction (fun later => ∃ more,
    (later.providers ph).global.log = (middle.providers ph).global.log ++ more) ?_ ⟨[], by simp⟩ ran
  intro action _ before later holds moved
  obtain ⟨more, grown⟩ := holds
  cases moved with
  | sent | assigned | threw | answered => exact ⟨more, grown⟩
  | @served other _ change provider directs stepped =>
    by_cases same : ph = other
    · subst same
      have ran : (system (runtime ph)).run [change] (before.providers ph) = some provider := by
        simp [System.run, stepped]
      obtain ⟨entries, longer⟩ := System.run_log ran
      exact ⟨more ++ entries, by simp [longer, grown]⟩
    · exact ⟨more, by simpa [same] using grown⟩

theorem run_returned {call : RemoteCall} {ended : Except StdString Returned}
    (called : middle.calls rpc = some (call, some ended)) (ran : run runtime rest middle = some network) :
    network.calls rpc = some (call, some ended) :=
  run_induction (fun later => later.calls rpc = some (call, some ended))
    (fun _ _ _ _ holds moved => moved.returned holds) called ran

/-- A call whose response was logged has done everything that it does, and sent no other. -/
theorem Sound.exited (sound : Sound runtime m_token network) {call : RemoteCall}
    {outcome : Option (Except StdString Returned)} (called : network.calls rpc = some (call, outcome))
    {response : Response} (logged : (rpc, .responded response) ∈ (network.providers call.ph).global.log) :
    Exit (runtime call.ph) call.request (.ok ()) (Global.own rpc (network.providers call.ph).global.log) ∧
      responses (Global.own rpc (network.providers call.ph).global.log) = [response] := by
  have active : Global.own rpc (network.providers call.ph).global.log ≠ [] :=
    List.ne_nil_of_mem (Global.mem_own.mpr logged)
  obtain ⟨program, present⟩ := sound.present called active
  obtain ⟨past, served⟩ := sound.served call.ph
  exact ProviderImpl.answered_exit served present (request_waits call) logged

/-- A returned call has done everything that it does, and got the one response of its
own handler. -/
theorem Witnessed.answered_exit {past : List (HistoryEvent (ProviderHandle × Request) Response)}
    (witnessed : Witnessed runtime m_token network past) {call : RemoteCall}
    {ended : Except StdString Returned} (called : network.calls rpc = some (call, some ended)) :
    ∃ response, ended = call.returns response ∧
      Exit (runtime call.ph) call.request (.ok ()) (Global.own rpc (network.providers call.ph).global.log) ∧
      responses (Global.own rpc (network.providers call.ph).global.log) = [response] := by
  obtain ⟨response, same, member⟩ := witnessed.returned rpc call ended called
  obtain ⟨found, calledFound, logged⟩ := witnessed.responded rpc response member
  cases called.symm.trans calledFound
  obtain ⟨exit, single⟩ := witnessed.sound.exited called logged
  exact ⟨response, same, exit, single⟩

/-- The events of a call that had not started come after the log from then on. -/
theorem Sound.logged_after (sound : Sound runtime m_token middle)
    (ran : Network.run runtime rest middle = some network) (fresh : middle.calls rpc = none)
    {ph : ProviderHandle} {event : Event J β}
    (logged : event ∈ Global.own rpc (network.providers ph).global.log) :
    ∃ more after, (network.providers ph).global.log =
      (middle.providers ph).global.log ++ more ++ (rpc, event) :: after := by
  obtain ⟨entries, grown⟩ := run_logs ran ph
  have recent : (rpc, event) ∈ entries := by
    have member := Global.mem_own.mp logged
    rw [grown] at member
    rcases List.mem_append.mp member with old | new
    · have own := Global.mem_own.mpr old
      rw [sound.unheard fresh ph] at own
      cases own
    · exact new
  obtain ⟨more, after, split⟩ := List.append_of_mem recent
  exact ⟨more, after, by rw [grown, split, List.append_assoc]⟩

/-- The lookup of a call that had not started sees the log from then on. -/
theorem Sound.lookedUp_after (sound : Sound runtime m_token middle) (later : Sound runtime m_token network)
    (ran : Network.run runtime rest middle = some network) (fresh : middle.calls rpc = none) {ph : ProviderHandle}
    {cache_id : UUID} {found : Option (Backend β)}
    (looked : .lookedUp cache_id found ∈ Global.own rpc (network.providers ph).global.log) :
    ∃ more after, (network.providers ph).global.log =
        (middle.providers ph).global.log ++ more ++ (rpc, .lookedUp cache_id found) :: after ∧
      found = (bindings ((middle.providers ph).global.log ++ more)).lookup cache_id := by
  obtain ⟨past, served⟩ := later.served ph
  obtain ⟨more, after, split⟩ := sound.logged_after ran fresh looked
  exact ⟨more, after, split, (serve_replays served).accurate _ _ _ split⟩

private theorem returns_ok {call : RemoteCall} {response : Response} {returned : Returned}
    (same : Except.ok returned = call.returns response) : response.success = true := by
  unfold RemoteCall.returns at same
  split at same
  · assumption
  · cases same

/-- Only the creation of a cache returns an id, the one in its response. -/
theorem returns_uuid {call : RemoteCall} {response : Response} {cache_id : UUID}
    (same : Except.ok (.uuid cache_id) = call.returns response) :
    (∃ result, response = .uuid result ∧ result.m_value = cache_id) ∧
      ∃ generated, call.request.generated = some generated := by
  have success := returns_ok same
  cases call with
  | admin call =>
    cases call <;> cases response <;>
      simp only [RemoteCall.returns, if_pos success, Except.ok.injEq, reduceCtorEq, Returned.uuid.injEq] at same
    all_goals exact ⟨⟨_, rfl, same.symm⟩, _, rfl⟩
  | makeCacheHandle | computeSum =>
    simp [RemoteCall.returns, if_pos success] at same

private theorem generated_isAdmin {request : Request} {generated : UUID}
    (drawn : request.generated = some generated) : request.isAdmin = true := by
  cases request <;> first | rfl | cases drawn

section Returned

variable {past : List (HistoryEvent (ProviderHandle × Request) Response)}
variable (witnessed : Witnessed runtime m_token network past)
include witnessed

theorem Witnessed.created {call : RemoteCall} {cache_id : UUID}
    (called : network.calls rpc = some (call, some (.ok (.uuid cache_id)))) :
    ∃ cache, (rpc, .bound cache_id cache) ∈ (network.providers call.ph).global.log := by
  obtain ⟨response, same, exit, single⟩ := witnessed.answered_exit called
  obtain ⟨⟨result, rfl, rfl⟩, other, drawn⟩ := returns_uuid same
  have success := returns_ok same
  rcases exit.changes (generated_isAdmin drawn) with ⟨-, -, failed⟩ | ⟨generated, cache, changed, -, answered⟩ |
    ⟨token, _, response, removes, -⟩
  · have failure := failed (.uuid result) (by simp [single])
    cases success.symm.trans failure
  · rw [single] at answered
    cases List.singleton_inj.mp answered
    have binding : .bound generated cache ∈ (Global.own rpc (network.providers call.ph).global.log).filter
        isBinding := by
      simp [changed]
    exact ⟨cache, Global.mem_own.mp (List.mem_of_mem_filter binding)⟩
  · generalize call.request = request at drawn removes
    cases removes <;> cases drawn

theorem Witnessed.removed {call : RemoteCall} {returned : Returned} {token : StdString} {cache_id : UUID}
    (called : network.calls rpc = some (call, some (.ok returned)))
    (removes : Removes call.request token cache_id) :
    (rpc, .erased cache_id) ∈ (network.providers call.ph).global.log := by
  obtain ⟨response, same, exit, single⟩ := witnessed.answered_exit called
  rcases exit.removal removes with ⟨⟨refusal, answered, failed, -⟩, -⟩ | erased
  · rw [single] at answered
    cases List.singleton_inj.mp answered
    cases failed.symm.trans (returns_ok same)
  · exact Global.mem_own.mp erased

end Returned

/-- What an erased id stood for is not bound again. -/
theorem Sound.never_rebound (sound : Sound runtime m_token network) (distinct : network.DrawsDistinct)
    {ph : ProviderHandle} {before rest : Log J β} {remover : Nat} {cache_id : UUID}
    (split : (network.providers ph).global.log = before ++ (remover, .erased cache_id) :: rest)
    (actor : Nat) (made : Backend β) : (actor, .bound cache_id made) ∉ rest := by
  intro rebound
  obtain ⟨actions, served⟩ := sound.served ph
  have present : cache_id ∈ bindings before := serve_erasesBound served _ _ _ split cache_id rfl
  obtain ⟨cache, found⟩ := Option.isSome_iff_exists.mp (Finmap.lookup_isSome.mpr present)
  obtain ⟨binder, bound⟩ := bound_of_lookup found
  have first : (binder, .bound cache_id cache) ∈ (network.providers ph).global.log := by
    rw [split]
    exact List.mem_append_left _ bound
  have second : (actor, .bound cache_id made) ∈ (network.providers ph).global.log := by
    rw [split]
    exact List.mem_append_right _ (List.mem_cons_of_mem _ rebound)
  obtain ⟨-, rfl, rfl⟩ := (sound.boundOnce distinct first).unique ph actor made second
  have twice : [(actor, .bound cache_id made), (actor, .bound cache_id made)].Sublist
      (network.providers ph).global.log := by
    rw [split]
    exact (List.singleton_sublist.mpr bound).append
      ((List.singleton_sublist.mpr rebound).trans (List.sublist_cons_self _ _))
  exact changes_once served rfl rfl twice

private theorem Sound.unbound_after (sound : Sound runtime m_token network) (distinct : network.DrawsDistinct)
    {ph : ProviderHandle} {log rest : Log J β} {remover : Nat} {cache_id : UUID}
    (split : (network.providers ph).global.log = log ++ rest) (erased : (remover, .erased cache_id) ∈ log) :
    cache_id ∉ bindings log := by
  obtain ⟨before, more, rfl⟩ := List.append_of_mem erased
  have gone : cache_id ∉ bindings (before ++ [(remover, .erased cache_id)]) := by
    rw [bindings_snoc]
    exact Finmap.notMem_erase_self
  have whole : (network.providers ph).global.log =
      before ++ (remover, .erased cache_id) :: (more ++ rest) := by
    simp [split]
  have unbound : cache_id ∉ bindings (before ++ [(remover, .erased cache_id)] ++ more) :=
    unbound_until gone fun actor made rebound =>
      sound.never_rebound distinct whole actor made (List.mem_append_left _ rebound)
  rwa [List.append_assoc] at unbound

private theorem Sound.erased_once (sound : Sound runtime m_token network) (distinct : network.DrawsDistinct)
    {ph : ProviderHandle} {one two : Nat} {cache_id : UUID}
    (first : (one, .erased cache_id) ∈ (network.providers ph).global.log)
    (second : (two, .erased cache_id) ∈ (network.providers ph).global.log) : one = two := by
  obtain ⟨actions, served⟩ := sound.served ph
  rcases entries_trichotomy first second with same | ⟨before, after, split, earlier⟩ |
    ⟨before, after, split, earlier⟩
  · exact (Prod.mk.inj same).1
  all_goals
    have bound := serve_erasesBound served _ _ _ split cache_id rfl
    exact absurd bound (sound.unbound_after distinct split earlier)

private theorem refused_returns {call : RemoteCall} {response : Response} {cache_id : UUID}
    {events : List (Event J β)}
    {unparse : Runtime J β} (refused : Refused unparse cache_id call.request events)
    (single : responses events = [response]) :
    ∃ what, call.returns response = .error what ∧ Refusal unparse cache_id call.request what := by
  obtain ⟨⟨answer, answered, failed, refusal⟩, -⟩ := refused
  rw [single] at answered
  cases List.singleton_inj.mp answered
  unfold RemoteCall.returns
  exact ⟨_, if_neg (by simp [failed]), refusal⟩

def Names (request : Request) (cache_id : UUID) : Prop :=
  (∃ failed, Finds request cache_id failed) ∨ ∃ token, Removes request token cache_id

section Later

variable {past : List (HistoryEvent (ProviderHandle × Request) Response)}
variable {ph : ProviderHandle} {cache_id : UUID} {remover : Nat}
variable (sound : Sound runtime m_token middle)
variable (witnessed : Witnessed runtime m_token network past) (distinct : network.DrawsDistinct)
variable (ran : run runtime rest middle = some network)
variable (erased : (remover, .erased cache_id) ∈ (middle.providers ph).global.log)
include sound witnessed distinct ran erased

private theorem Witnessed.finds_nothing (fresh : middle.calls rpc = none) {found : Option (Backend β)}
    (looked : .lookedUp cache_id found ∈ Global.own rpc (network.providers ph).global.log) :
    found = none := by
  obtain ⟨more, after, split, rfl⟩ := sound.lookedUp_after witnessed.sound ran fresh looked
  exact Finmap.lookup_eq_none.mpr
    (witnessed.sound.unbound_after distinct split (List.mem_append_left _ erased))

private theorem Witnessed.erases_nothing (fresh : middle.calls rpc = none) :
    (rpc, .erased cache_id) ∉ (network.providers ph).global.log := by
  intro again
  obtain ⟨entries, grown⟩ := run_logs ran ph
  have first : (remover, .erased cache_id) ∈ (network.providers ph).global.log := by
    rw [grown]
    exact List.mem_append_left _ erased
  cases witnessed.sound.erased_once distinct first again
  have own := Global.mem_own.mpr erased
  rw [sound.unheard fresh ph] at own
  cases own

private theorem Witnessed.destroys_nothing (fresh : middle.calls rpc = none) {call : RemoteCall}
    {outcome : Option (Except StdString Returned)} {token : StdString} {cache : Backend β}
    (called : network.calls rpc = some (call, outcome)) (removes : Removes call.request token cache_id) :
    .started (.destroy cache) ∉ Global.own rpc (network.providers ph).global.log := by
  intro started
  obtain ⟨more, after, split⟩ := sound.logged_after ran fresh started
  obtain ⟨actions, served⟩ := witnessed.sound.served ph
  obtain ⟨_, other, program, present, bound⟩ := (serve_removes served).2 _ _ _ split cache rfl
  obtain ⟨_, _, found, -, tag⟩ := witnessed.sound.threads ph rpc _ present
  cases called.symm.trans found
  rw [← tag] at removes
  cases removes
  exact witnessed.sound.unbound_after distinct split (List.mem_append_left _ erased) bound

end Later

variable {memory : Nat → Int32} {creation removal call : RemoteCall} {creator remover : Nat}
variable {cache_id : UUID} {token : StdString} {returned : Returned} {ended : Except StdString Returned}
variable {outcome : Option (Except StdString Returned)}

/-- Once a close or a destroy has returned without an error, every call made later that
names the cache finds nothing and reaches no backend, and is refused if it is answered. -/
theorem removed_cache_gone
    (before : run runtime actions (initial runtime m_token memory) = some middle)
    (ran : run runtime rest middle = some network) (distinct : network.DrawsDistinct)
    (removed : middle.calls remover = some (removal, some (.ok returned)))
    (removes : Removes removal.request token cache_id) (fresh : middle.calls rpc = none)
    (called : network.calls rpc = some (call, outcome)) (target : call.ph = removal.ph)
    (names : Names call.request cache_id) :
    (∀ ended, outcome = some ended →
      ∃ what, ended = .error what ∧ Refusal (runtime call.ph) cache_id call.request what) ∧
    (∀ found, .lookedUp cache_id found ∈ Global.own rpc (network.providers call.ph).global.log →
      found = none) ∧
    .erased cache_id ∉ Global.own rpc (network.providers call.ph).global.log ∧
    ∀ backend_call, .started backend_call ∉ Global.own rpc (network.providers call.ph).global.log := by
  have earlier := witnessed_run before
  have later := witnessed_run (run_both before ran)
  have erased := earlier.removed removed removes
  rw [← target] at erased
  have looked : ∀ found, .lookedUp cache_id found ∈ Global.own rpc (network.providers call.ph).global.log →
      found = none :=
    fun _ => later.finds_nothing earlier.sound distinct ran erased fresh
  have kept := later.erases_nothing earlier.sound distinct ran erased fresh
  refine ⟨?_, looked, fun again => kept (Global.mem_own.mp again), fun backend_call started => ?_⟩
  · rintro ended rfl
    obtain ⟨response, rfl, exit, single⟩ := later.answered_exit called
    have refused : Refused (runtime call.ph) cache_id call.request
        (Global.own rpc (network.providers call.ph).global.log) := by
      rcases names with ⟨failed, finds⟩ | ⟨other, removesAgain⟩
      · rcases exit.finding finds with refused | ⟨cache, found⟩
        · exact refused
        · cases looked _ found
      · rcases exit.removal removesAgain with refused | again
        · exact refused
        · exact absurd (Global.mem_own.mp again) kept
    exact refused_returns refused single
  · obtain ⟨program, present⟩ := later.sound.present called (List.ne_nil_of_mem started)
    obtain ⟨past, served⟩ := later.sound.served call.ph
    rcases names with ⟨failed, finds⟩ | ⟨other, removesAgain⟩
    · cases looked _ (starts_found served present finds started)
    · obtain ⟨cache, rfl⟩ := starts_destroy served present removesAgain started
      exact later.destroys_nothing earlier.sound distinct ran erased fresh called removesAgain started

/-- Of all closes and destroys of a cache, by anyone and however they overlap, one at most
returns without an error. The others are refused, and reach no backend. -/
theorem removed_once (ran : run runtime actions (initial runtime m_token memory) = some network)
    (distinct : network.DrawsDistinct)
    (removed : network.calls remover = some (removal, some (.ok returned)))
    (removes : Removes removal.request token cache_id)
    (called : network.calls rpc = some (call, some ended)) (removesToo : Removes call.request tokenToo cache_id)
    (target : call.ph = removal.ph) (other : rpc ≠ remover) :
    (∃ what, ended = .error what ∧ Refusal (runtime call.ph) cache_id call.request what) ∧
      ∀ backend_call, .started backend_call ∉ Global.own rpc (network.providers call.ph).global.log := by
  have witnessed := witnessed_run ran
  have erased := witnessed.removed removed removes
  rw [← target] at erased
  obtain ⟨response, rfl, exit, single⟩ := witnessed.answered_exit called
  rcases exit.removal removesToo with refused | again
  · exact ⟨refused_returns refused single, refused.2⟩
  · exact absurd (witnessed.sound.erased_once distinct (Global.mem_own.mp again) erased) other

/-- Nobody has asked for the removal of the cache. -/
def NeverRemoved (network : Network J β) (ph : ProviderHandle) (cache_id : UUID) : Prop :=
  ∀ rpc call outcome token, network.calls rpc = some (call, outcome) → call.ph = ph →
    ¬ Removes call.request token cache_id

private theorem Sound.never_erased {ph : ProviderHandle} (sound : Sound runtime m_token network)
    (kept : network.NeverRemoved ph cache_id) (actor : Nat) :
    (actor, .erased cache_id) ∉ (network.providers ph).global.log := by
  intro erased
  obtain ⟨actions, served⟩ := sound.served ph
  obtain ⟨request, program, token, running, removes⟩ := erased_by served erased
  obtain ⟨call, outcome, called, target, tag⟩ := sound.threads ph actor _ running
  exact kept actor call outcome token called target (tag ▸ removes)

/-- Whatever looks the id up, for a call made after the creation had returned it, finds the
cache that was made. -/
theorem Witnessed.finds_created {past later : List (HistoryEvent (ProviderHandle × Request) Response)}
    (before : Witnessed runtime m_token middle past) (after : Witnessed runtime m_token network later)
    (ran : run runtime rest middle = some network) (distinct : network.DrawsDistinct)
    (created : middle.calls creator = some (creation, some (.ok (.uuid cache_id))))
    (kept : network.NeverRemoved creation.ph cache_id) :
    ∃ cache, network.BoundOnce creator creation.ph cache_id cache ∧ ∀ rpc, middle.calls rpc = none →
      ∀ found, .lookedUp cache_id found ∈ Global.own rpc (network.providers creation.ph).global.log →
        found = some cache := by
  obtain ⟨cache, bound⟩ := before.created created
  obtain ⟨entries, grown⟩ := run_logs ran creation.ph
  have still : (creator, .bound cache_id cache) ∈ (network.providers creation.ph).global.log := by
    rw [grown]
    exact List.mem_append_left _ bound
  have once := after.sound.boundOnce distinct still
  refine ⟨cache, once, fun rpc fresh found looked => ?_⟩
  obtain ⟨more, tail, split, rfl⟩ := before.sound.lookedUp_after after.sound ran fresh looked
  have within {actor : Nat} {event : Event J β}
      (member : (actor, event) ∈ (middle.providers creation.ph).global.log ++ more) :
      (actor, event) ∈ (network.providers creation.ph).global.log := by
    rw [split]
    exact List.mem_append_left _ member
  exact bound_until (List.mem_append_left _ bound)
    (fun actor made again => (once.unique _ actor made (within again)).2.2)
    fun actor erased => after.sound.never_erased kept actor (within erased)

/-- A sum that finds its cache is computed there, once, and this is what its call returns. -/
theorem Witnessed.sum_computed {past : List (HistoryEvent (ProviderHandle × Request) Response)}
    (witnessed : Witnessed runtime m_token network past) {self : CacheHandleImpl} {uninitialised x y : Int32}
    {result : Option Nat} {cache : Backend β}
    (called : network.calls rpc = some (.computeSum self uninitialised x y result, some ended))
    (finds : ∀ found, .lookedUp self.m_cache_id found ∈ Global.own rpc (network.providers self.m_ph).global.log →
      found = some cache) :
    ∃ sum, ended = (if sum.m_success then .ok .void else .error sum.m_error) ∧
      responses (Global.own rpc (network.providers self.m_ph).global.log) = [.int32 sum] ∧
      sums (Global.own rpc (network.providers self.m_ph).global.log) = [.computedSum cache x y (.ok sum)] ∧
      ∃ history, (runtime self.m_ph).computeSum history cache x y = .ok sum := by
  obtain ⟨response, rfl, exit, single⟩ := witnessed.answered_exit called
  rcases exit.sum rfl with missed | ⟨found, sum, computed⟩ | ⟨found, what, -, threw⟩
  · rw [RemoteCall.ph] at missed
    have looked := finds none (by simp [missed])
    cases looked
  · rw [RemoteCall.ph] at computed single
    have looked := finds (some found) (by simp [computed])
    cases looked
    have answered := single
    rw [computed] at answered
    cases List.singleton_inj.mp answered
    exact ⟨sum, rfl, single, by rw [computed]; rfl, exit.sum_returned (by simp [RemoteCall.ph, computed])⟩
  · rw [threw] at single
    cases single

/-- Once the creation of a cache has returned its id, every call made later that names
the cache finds the backend that was made for it and calls no other, until someone asks for
its removal; and if it is answered, then as this backend has it. -/
theorem created_cache_serves
    (before : run runtime actions (initial runtime m_token memory) = some middle)
    (ran : run runtime rest middle = some network) (distinct : network.DrawsDistinct)
    (created : middle.calls creator = some (creation, some (.ok (.uuid cache_id))))
    (kept : network.NeverRemoved creation.ph cache_id) :
    ∃ cache, network.BoundOnce creator creation.ph cache_id cache ∧ ∀ rpc, middle.calls rpc = none →
      (∀ found, .lookedUp cache_id found ∈ Global.own rpc (network.providers creation.ph).global.log →
        found = some cache) ∧
      (∀ call outcome failed backend_call, network.calls rpc = some (call, outcome) →
        call.ph = creation.ph → Finds call.request cache_id failed →
        .started backend_call ∈ Global.own rpc (network.providers creation.ph).global.log →
        backend_call.cache = cache) ∧
      (∀ object ended, network.calls rpc = some (.makeCacheHandle object creation.ph cache_id, some ended) →
        ended = .ok (.cacheHandle ⟨some ⟨creation.ph, cache_id⟩⟩)) ∧
      (∀ uninitialised x y result ended,
        network.calls rpc = some (.computeSum ⟨creation.ph, cache_id⟩ uninitialised x y result, some ended) →
        ∃ sum, ended = (if sum.m_success then .ok .void else .error sum.m_error) ∧
          sums (Global.own rpc (network.providers creation.ph).global.log) =
            [.computedSum cache x y (.ok sum)]) := by
  have later := witnessed_run (run_both before ran)
  obtain ⟨cache, once, finds⟩ := (witnessed_run before).finds_created later ran distinct created kept
  refine ⟨cache, once, fun rpc fresh => ⟨finds rpc fresh, ?_, fun object ended called => ?_,
    fun _ _ _ _ ended called => ?_⟩⟩
  · intro call outcome failed backend_call called target found started
    rw [← target] at started finds
    obtain ⟨program, present⟩ := later.sound.present called (List.ne_nil_of_mem started)
    obtain ⟨past, served⟩ := later.sound.served call.ph
    exact Option.some.inj (finds rpc fresh _ (starts_found served present found started))
  · obtain ⟨response, rfl, exit, single⟩ := later.answered_exit called
    rcases exit.check rfl with missed | ⟨found, hit⟩
    · rw [RemoteCall.ph] at missed
      have looked := finds rpc fresh none (by simp [missed])
      cases looked
    · rw [hit] at single
      cases List.singleton_inj.mp single
      rfl
  · obtain ⟨sum, same, -, computed, -⟩ := later.sum_computed called (finds rpc fresh)
    exact ⟨sum, same, computed⟩

def createFirst (ph : ProviderHandle) : List NetworkAction :=
  [.admin 0 (.createCache ph UUID.clear (lit "dummy") (lit "{}") []), .deliver 0] ++
    List.replicate 6 (.handle 0) ++ [.answer 0]

def useAfterwards (ph : ProviderHandle) : List NetworkAction :=
  [.makeCacheHandle 1 0 ph UUID.clear true, .deliver 1] ++ List.replicate 4 (.handle 1) ++
  [.answer 1, .computeSum 2 0 0 1 2 (some 7), .deliver 2] ++ List.replicate 6 (.handle 2) ++ [.answer 2]

/-- A close and a destroy overlap, and the close comes first. -/
def closeRace (ph : ProviderHandle) : List NetworkAction :=
  createFirst ph ++ [.admin 1 (.closeCache ph UUID.clear []), .admin 2 (.destroyCache ph UUID.clear []),
    .deliver 2, .handle 2, .deliver 1] ++ List.replicate 6 (.handle 1) ++ [.answer 1]

def checkAfterwards (ph : ProviderHandle) : List NetworkAction :=
  List.replicate 4 (.handle 2) ++ [.answer 2, .makeCacheHandle 3 0 ph UUID.clear true, .deliver 3] ++
    List.replicate 4 (.handle 3) ++ [.answer 3]

theorem useAfterwards_served : ∃ middle network,
    run (fun _ => DummyCache.sample) (createFirst ⟨lit "na+sm", 0⟩)
      (initial (fun _ => DummyCache.sample) (fun _ => []) fun _ => 0) = some middle ∧
    run (fun _ => DummyCache.sample) (useAfterwards ⟨lit "na+sm", 0⟩) middle = some network ∧
    ∃ cache, network.BoundOnce 0 ⟨lit "na+sm", 0⟩ UUID.clear cache ∧
      sums (Global.own 2 (network.providers ⟨lit "na+sm", 0⟩).global.log) =
        [.computedSum cache 1 2 (.ok { m_value := 3 })] := by
  obtain ⟨middle, network, before, ran, created, freshCheck, freshSum, first, check, sum, rest, ended⟩ :
      ∃ middle network,
      run (fun _ => DummyCache.sample) (createFirst ⟨lit "na+sm", 0⟩)
        (initial (fun _ => DummyCache.sample) (fun _ => []) fun _ => 0) = some middle ∧
      run (fun _ => DummyCache.sample) (useAfterwards ⟨lit "na+sm", 0⟩) middle = some network ∧
      middle.calls 0 = some (.admin (.createCache ⟨lit "na+sm", 0⟩ UUID.clear (lit "dummy") (lit "{}") []),
        some (.ok (.uuid UUID.clear))) ∧
      middle.calls 1 = none ∧ middle.calls 2 = none ∧
      (∃ outcome, network.calls 0 = some (.admin (.createCache ⟨lit "na+sm", 0⟩ UUID.clear (lit "dummy")
        (lit "{}") []), outcome)) ∧
      network.calls 1 = some (.makeCacheHandle 0 ⟨lit "na+sm", 0⟩ UUID.clear,
        some (.ok (.cacheHandle ⟨some ⟨⟨lit "na+sm", 0⟩, UUID.clear⟩⟩))) ∧
      network.calls 2 = some (.computeSum ⟨⟨lit "na+sm", 0⟩, UUID.clear⟩ 0 1 2 (some 7), some (.ok .void)) ∧
      (∀ rpc, network.calls (rpc + 3) = none) ∧
      ∃ cache, sums (Global.own 2 (network.providers ⟨lit "na+sm", 0⟩).global.log) =
        [.computedSum cache 1 2 (.ok { m_value := 3 })] :=
    ⟨_, _, rfl, rfl, rfl, rfl, rfl, ⟨_, rfl⟩, rfl, rfl, fun _ => rfl, _, rfl⟩
  obtain ⟨outcome, first⟩ := first
  obtain ⟨computed, ended⟩ := ended
  have distinct : network.DrawsDistinct := by
    refine .of_only 0 fun rpc call outcome cache_id called drawn => ?_
    match rpc with
    | 0 => rfl
    | 1 =>
      cases check.symm.trans called
      cases drawn
    | 2 =>
      cases sum.symm.trans called
      cases drawn
    | rpc + 3 => cases (rest rpc).symm.trans called
  have kept : network.NeverRemoved ⟨lit "na+sm", 0⟩ UUID.clear := by
    intro rpc call outcome token called _ removes
    match rpc with
    | 0 =>
      cases first.symm.trans called
      cases removes
    | 1 =>
      cases check.symm.trans called
      cases removes
    | 2 =>
      cases sum.symm.trans called
      cases removes
    | rpc + 3 => cases (rest rpc).symm.trans called
  obtain ⟨cache, once, served⟩ := created_cache_serves before ran distinct created kept
  obtain ⟨result, -, reached⟩ := (served 2 freshSum).2.2.2 _ _ _ _ _ sum
  refine ⟨middle, network, before, ran, cache, once, ?_⟩
  rw [RemoteCall.ph, ended] at reached
  cases List.singleton_inj.mp reached
  exact ended

/-- What the two runs of `closeRace` and `checkAfterwards` come to. -/
theorem closeRace_ran : ∃ middle network,
    run (fun _ => DummyCache.sample) (closeRace ⟨lit "na+sm", 0⟩)
      (initial (fun _ => DummyCache.sample) (fun _ => []) fun _ => 0) = some middle ∧
    run (fun _ => DummyCache.sample) (checkAfterwards ⟨lit "na+sm", 0⟩) middle = some network ∧
    middle.calls 1 = some (.admin (.closeCache ⟨lit "na+sm", 0⟩ UUID.clear []), some (.ok .void)) ∧
    middle.calls 3 = none ∧
    network.calls 1 = some (.admin (.closeCache ⟨lit "na+sm", 0⟩ UUID.clear []), some (.ok .void)) ∧
    (∃ ended, network.calls 2 = some (.admin (.destroyCache ⟨lit "na+sm", 0⟩ UUID.clear []), some ended)) ∧
    (∃ what, network.calls 3 = some (.makeCacheHandle 0 ⟨lit "na+sm", 0⟩ UUID.clear, some (.error what))) ∧
    network.DrawsDistinct := by
  obtain ⟨middle, network, before, ran, closed, fresh, still, ⟨other, two⟩, ⟨what, three⟩, rest⟩ :
      ∃ middle network,
      run (fun _ => DummyCache.sample) (closeRace ⟨lit "na+sm", 0⟩)
        (initial (fun _ => DummyCache.sample) (fun _ => []) fun _ => 0) = some middle ∧
      run (fun _ => DummyCache.sample) (checkAfterwards ⟨lit "na+sm", 0⟩) middle = some network ∧
      middle.calls 1 = some (.admin (.closeCache ⟨lit "na+sm", 0⟩ UUID.clear []), some (.ok .void)) ∧
      middle.calls 3 = none ∧
      network.calls 1 = some (.admin (.closeCache ⟨lit "na+sm", 0⟩ UUID.clear []), some (.ok .void)) ∧
      (∃ outcome, network.calls 2 =
        some (.admin (.destroyCache ⟨lit "na+sm", 0⟩ UUID.clear []), some outcome)) ∧
      (∃ what, network.calls 3 = some (.makeCacheHandle 0 ⟨lit "na+sm", 0⟩ UUID.clear, some (.error what))) ∧
      ∀ rpc, network.calls (rpc + 4) = none :=
    ⟨_, _, rfl, rfl, rfl, rfl, rfl, ⟨_, rfl⟩, ⟨_, rfl⟩, fun _ => rfl⟩
  refine ⟨middle, network, before, ran, closed, fresh, still, ⟨other, two⟩, ⟨what, three⟩, ?_⟩
  refine .of_only 0 fun rpc call outcome cache_id called drawn => ?_
  match rpc with
  | 0 => rfl
  | 1 =>
    cases still.symm.trans called
    cases drawn
  | 2 =>
    cases two.symm.trans called
    cases drawn
  | 3 =>
    cases three.symm.trans called
    cases drawn
  | rpc + 4 => cases (rest rpc).symm.trans called

theorem closeRace_gone : ∃ middle network,
    run (fun _ => DummyCache.sample) (closeRace ⟨lit "na+sm", 0⟩)
      (initial (fun _ => DummyCache.sample) (fun _ => []) fun _ => 0) = some middle ∧
    run (fun _ => DummyCache.sample) (checkAfterwards ⟨lit "na+sm", 0⟩) middle = some network ∧
    ∃ call ended, network.calls 3 = some (call, some ended) ∧
      (∃ what, ended = .error what ∧ Refusal DummyCache.sample UUID.clear call.request what) ∧
      ∀ backend_call, .started backend_call ∉ Global.own 3 (network.providers call.ph).global.log := by
  obtain ⟨middle, network, before, ran, closed, fresh, -, -, ⟨what, three⟩, distinct⟩ := closeRace_ran
  obtain ⟨refused, -, -, idle⟩ := removed_cache_gone before ran distinct closed .closeCache fresh three rfl
    (.inl ⟨_, .checkCache⟩)
  exact ⟨middle, network, before, ran, _, _, three, refused _ rfl, idle⟩

theorem closeRace_once : ∃ network, (∃ actions, run (fun _ => DummyCache.sample) actions
      (initial (fun _ => DummyCache.sample) (fun _ => []) fun _ => 0) = some network) ∧
    network.calls 1 = some (.admin (.closeCache ⟨lit "na+sm", 0⟩ UUID.clear []), some (.ok .void)) ∧
    ∃ call ended, network.calls 2 = some (call, some ended) ∧
      ∃ what, ended = .error what ∧ Refusal DummyCache.sample UUID.clear call.request what := by
  obtain ⟨middle, network, before, ran, -, -, still, ⟨ended, two⟩, -, distinct⟩ := closeRace_ran
  have whole := run_both before ran
  have refused := (removed_once whole distinct still .closeCache two .destroyCache rfl (by decide)).1
  exact ⟨network, ⟨_, whole⟩, still, _, _, two, refused⟩

end Cachersize.Network

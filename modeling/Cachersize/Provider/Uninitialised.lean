import Cachersize.Concurrent.Lockstep
import Cachersize.Provider.Responses
import Cachersize.Serialization

/-! Memory that no constructor wrote: the `m_value` of the `RequestResult<int32_t>` that
`computeSum` starts with, and whether any byte of it is ever sent. -/
namespace Cachersize

open Concurrent

/-- The same request, whose handler finds something else in the memory of its result. -/
def Request.withMemory (memory : Int32) : Request → Request
  | computeSum _ cache_id x y => computeSum memory cache_id x y
  | request => request

def Response.encode (format : ArchiveFormat) : Response → List UInt8
  | uuid result => ValueType.uuid.encode format result
  | bool result => ValueType.bool.encode format result
  | int32 result => ValueType.int32.encode format result

private theorem encode_failedInt32 (format : ArchiveFormat) (uninitialised : Int32) (error : StdString) :
    (ProviderImpl.failedInt32 uninitialised error).encode format =
      (format.bool.encode false).toList ++ (Wire.stringBytes format.length error ++
        (format.int32.encode uninitialised).toList) := by
  have value := (format.int32.writes uninitialised).returning uninitialised
  have written := RequestResult.writes format (Archive.output format).int32
    ⟨false, error, uninitialised⟩ value
  exact congrArg Prod.snd (written [])

/-- Whatever the error says, other memory makes other bytes. -/
theorem encode_failedInt32_injective {format : ArchiveFormat} {error : StdString} {first second : Int32}
    (same : (ProviderImpl.failedInt32 first error).encode format =
      (ProviderImpl.failedInt32 second error).encode format) : first = second := by
  rw [encode_failedInt32, encode_failedInt32] at same
  have words := List.append_cancel_left (List.append_cancel_left same)
  exact format.int32.encode_injective (Subtype.ext words)

namespace ProviderImpl

variable {J β : Type}

/-- The serialised responses that a thread has sent, in order. -/
def sent (format : ArchiveFormat) (thread : Nat) (log : Log J β) : List (List UInt8) :=
  (responses (Global.own thread log)).map (Response.encode format)

/-- The same run, where the handler of each thread finds other memory. -/
def withMemory (memory : Nat → Int32) :
    List (Action Request StdString) → List (Action Request StdString) :=
  List.map (Action.retag fun thread => Request.withMemory (memory thread))

/-- A `computeSum` whose id was not bound when `FIND_CACHE` looked it up. -/
def SumMissed (request : Request) (thread : Nat) (log : Log J β) : Prop :=
  match request with
  | .computeSum _ cache_id _ _ => LookupMissed thread cache_id log
  | _ => False

/-- The run is possible whatever memory the handlers find, and the thread sends the same
bytes in each of these runs. -/
def IgnoresMemory (runtime : Runtime J β) (format : ArchiveFormat) (m_token : StdString)
    (actions : List (Action Request StdString)) (thread : Nat) : Prop :=
  ∀ memory other, ∃ first second,
    serve runtime m_token (withMemory memory actions) = some first ∧
    serve runtime m_token (withMemory other actions) = some second ∧
    sent format thread first.global.log = sent format thread second.global.log

/-- The states of two runs that every step answers alike: handlers and backends see
neither requests nor responses of the past. -/
structure Alike (state other : State J β) : Prop where
  shared : other.shared = state.shared
  calls : Event.calls other.log = Event.calls state.log

variable {runtime : Runtime J β} {thread : Nat}

theorem Alike.extend {state other : State J β} (alike : Alike state other) (shared : ProviderImpl β)
    {events image : List (Event J β)} (calls : image.filter Event.isCall = events.filter Event.isCall) :
    Alike (state.extend thread shared events) (other.extend thread shared image) := by
  refine ⟨rfl, ?_⟩
  have tagged (emitted : List (Event J β)) :
      Event.calls (emitted.map (Prod.mk thread)) = emitted.filter Event.isCall := by
    simp [Event.calls, Function.comp_def]
  simp [alike.calls, tagged, calls]

private theorem exec_alike {op : Op J β} {state other : State J β} (alike : Alike state other) :
    exec runtime thread op other = exec runtime thread op state := by
  obtain ⟨shared, calls⟩ := alike
  cases op <;> simp only [exec, shared, calls]

variable {Final : Except StdString Unit → List (Event J β) → List (Event J β) → Prop}
variable {events image : List (Event J β)}

abbrev Mirror (runtime : Runtime J β) (thread : Nat)
    (Final : Except StdString Unit → List (Event J β) → List (Event J β) → Prop) :
    Handler J β Unit → Handler J β Unit → List (Event J β) → List (Event J β) → Prop :=
  (system runtime).Mirrors Alike thread Final

private theorem mirror_perform {op : Op J β} {next nextOther : op.Answer → Handler J β Unit}
    (later : ∀ answer, Mirror runtime thread Final (next answer) (nextOther answer)
      (events ++ emits op answer) (image ++ emits op answer)) :
    Mirror runtime thread Final (.perform op next) (.perform op nextOther) events image := by
  refine ⟨op, nextOther, rfl, ?_⟩
  intro before other answer shared emitted alike answered
  obtain ⟨rfl, -⟩ := exec_emits answered
  refine ⟨answer, shared, emits op answer, ?_, alike.extend shared rfl, later answer⟩
  exact (exec_alike alike).trans answered

private theorem mirror_respond {response other : Response} {next nextOther : Unit → Handler J β Unit}
    (later : Mirror runtime thread Final (next ()) (nextOther ()) (events ++ [.responded response])
      (image ++ [.responded other])) :
    Mirror runtime thread Final (.perform (.respond response) next)
      (.perform (.respond other) nextOther) events image := by
  refine ⟨.respond other, nextOther, rfl, ?_⟩
  intro before beforeOther answer shared emitted alike answered
  cases answered
  refine ⟨(), beforeOther.shared, [.responded other], rfl, ?_, later⟩
  rw [alike.shared]
  exact alike.extend _ rfl

private theorem mirror_self (program : Handler J β Unit)
    (final : ∀ outcome events, Final outcome events events) :
    Mirror runtime thread Final program program events events := by
  induction program generalizing events with
  | done | raise => exact ⟨rfl, final _ _⟩
  | perform op next ih => exact mirror_perform fun answer => ih answer

/-- How the responses of a request and those of its mirror are related: the memory is
sent if and only if a `computeSum` finds no cache. -/
def Sends (runtime : Runtime J β) (memory : Int32) (request : Request)
    (_ : Except StdString Unit) (events image : List (Event J β)) : Prop :=
  match request with
  | .computeSum _ cache_id _ _ =>
    (.lookedUp cache_id none ∉ events → responses image = responses events) ∧
      (.lookedUp cache_id none ∈ events →
        responses image = [failedInt32 memory (notFoundWithUuid runtime cache_id)])
  | _ => responses image = responses events

private theorem computeSum_mirrors (uninitialised memory : Int32) (cache_id : UUID) (x y : Int32) :
    Mirror runtime thread (Sends runtime memory (.computeSum uninitialised cache_id x y))
      (computeSum runtime uninitialised cache_id x y) (computeSum runtime memory cache_id x y)
      [.received (.computeSum uninitialised cache_id x y)]
      [.received (.computeSum memory cache_id x y)] := by
  simp only [computeSum_eq, FIND_CACHE_eq]
  refine mirror_perform fun _ => mirror_perform fun found => ?_
  cases found with
  | none =>
    refine mirror_respond (mirror_perform fun _ => ⟨rfl, ?_⟩)
    simp [Sends, responses, emits]
  | some cache =>
    refine mirror_perform fun _ => mirror_perform fun _ => mirror_perform fun outcome => ?_
    cases outcome with
    | ok result =>
      refine mirror_perform fun _ => ⟨rfl, ?_⟩
      simp [Sends, responses, emits, Event.ended]
    | error what =>
      refine ⟨rfl, ?_⟩
      simp [Sends, responses, emits, Event.ended]

private theorem handler_mirrors (memory : Int32) (request : Request) :
    Mirror runtime thread (Sends runtime memory request) (handler runtime request)
      (handler runtime (request.withMemory memory)) [.received request]
      [.received (request.withMemory memory)] := by
  cases request with
  | computeSum uninitialised cache_id x y => exact computeSum_mirrors uninitialised memory cache_id x y
  | _ => exact mirror_self _ fun _ _ => rfl

variable (runtime) in
theorem couples (memory : Nat → Int32) :
    (system runtime).Couples Alike (fun thread => Request.withMemory (memory thread))
      (fun thread => Sends runtime (memory thread)) where
  arrival thread request before other alike := by
    rw [alike.shared]
    exact alike.extend _ rfl
  body thread request := handler_mirrors (memory thread) request
  external change before other alike := ⟨by rw [alike.shared], alike.calls⟩

/-- From one run, the run with any other memory, and what its ended requests sent. -/
theorem serve_withMemory {m_token : StdString} {actions : List (Action Request StdString)}
    {pool : Provider J β} (served : serve runtime m_token actions = some pool) (memory : Nat → Int32) :
    ∃ other, serve runtime m_token (withMemory memory actions) = some other ∧
      ∀ thread request outcome, Finished pool thread request outcome →
        Finished other thread (request.withMemory (memory thread)) outcome ∧
        Sends runtime (memory thread) request outcome (Global.own thread pool.global.log)
          (Global.own thread other.global.log) := by
  have start : Alike (⟨empty m_token, []⟩ : State J β) ⟨empty m_token, []⟩ := ⟨rfl, rfl⟩
  obtain ⟨other, ran, inStep⟩ := (System.InStep.initial start).run (couples runtime memory) served
  exact ⟨other, ran, fun thread request outcome finished => inStep.ended finished⟩

/-- A request that ended sends the same bytes whatever memory the handlers find, unless
it is a `computeSum` that misses. -/
theorem serve_ignoresMemory {format : ArchiveFormat} {m_token : StdString}
    {actions : List (Action Request StdString)} {pool : Provider J β} {request : Request}
    {outcome : Except StdString Unit} (served : serve runtime m_token actions = some pool)
    (finished : Finished pool thread request outcome) :
    IgnoresMemory runtime format m_token actions thread ↔ ¬ SumMissed request thread pool.global.log := by
  have accurate := (serve_replays served).accurate
  constructor
  · intro ignores missed
    obtain ⟨first, second, servedFirst, servedSecond, same⟩ := ignores (fun _ => 0) (fun _ => 1)
    cases request with
    | computeSum uninitialised cache_id x y =>
      have miss := (lookupMissed_iff accurate thread cache_id).mp missed
      -- what the request sends with some memory is the failure with that memory
      have failure (memory : Int32) (other : Provider J β)
          (servedOther : serve runtime m_token (withMemory (fun _ => memory) actions) = some other) :
          sent format thread other.global.log =
            [(failedInt32 memory (notFoundWithUuid runtime cache_id)).encode format] := by
        obtain ⟨image, servedImage, ended⟩ := serve_withMemory served fun _ => memory
        cases servedImage.symm.trans servedOther
        obtain ⟨-, -, missing⟩ := ended thread _ outcome finished
        rw [sent, missing miss, List.map_singleton]
      rw [failure 0 first servedFirst, failure 1 second servedSecond] at same
      have equal := encode_failedInt32_injective (List.singleton_injective same)
      exact absurd equal (by decide)
    | _ => exact missed
  · intro present memory other
    -- both runs send what the given one sends
    have unchanged (memory : Nat → Int32) : ∃ image,
        serve runtime m_token (withMemory memory actions) = some image ∧
          responses (Global.own thread image.global.log) =
            responses (Global.own thread pool.global.log) := by
      obtain ⟨image, servedImage, ended⟩ := serve_withMemory served memory
      obtain ⟨-, sends⟩ := ended thread request outcome finished
      refine ⟨image, servedImage, ?_⟩
      cases request with
      | computeSum uninitialised cache_id x y =>
        exact sends.1 fun miss => present ((lookupMissed_iff accurate thread cache_id).mpr miss)
      | _ => exact sends
    obtain ⟨first, servedFirst, sameFirst⟩ := unchanged memory
    obtain ⟨second, servedSecond, sameSecond⟩ := unchanged other
    exact ⟨first, second, servedFirst, servedSecond, by rw [sent, sent, sameFirst, sameSecond]⟩

/-- The serialised responses carry no uninitialised memory exactly where no `computeSum`
misses. Every request in flight can still be brought to its end. -/
theorem sends_no_memory (format : ArchiveFormat) {m_token : StdString}
    {actions : List (Action Request StdString)} {pool : Provider J β} {request : Request}
    {program : Handler J β Unit} (served : serve runtime m_token actions = some pool)
    (present : pool.threads thread = some ⟨request, program⟩) :
    (∃ more after outcome, (system runtime).run more pool = some after ∧
      Finished after thread request outcome) ∧
    ∀ outcome, program = Program.ofExcept outcome →
      (IgnoresMemory runtime format m_token actions thread ↔
        ¬ SumMissed request thread pool.global.log) := by
  refine ⟨finishes served present, fun outcome ended => ?_⟩
  subst ended
  exact serve_ignoresMemory served present

/-- A sum for a cache that does not exist. -/
def sumUnbound : List (Action Request StdString) :=
  .spawn 0 (.computeSum 0 UUID.clear 1 2) :: List.replicate 4 (.step 0)

/-- Its failure is sent with the four bytes that the handler found in its memory. -/
theorem sum_sends_memory : ∃ pool, serve DummyCache.sample [] sumUnbound = some pool ∧
    Finished pool 0 (.computeSum 0 UUID.clear 1 2) (.ok ()) ∧
    ¬ IgnoresMemory DummyCache.sample .littleEndian [] sumUnbound 0 := by
  refine ⟨_, rfl, rfl, ?_⟩
  intro ignores
  obtain ⟨first, second, servedFirst, servedSecond, same⟩ := ignores (fun _ => 0) (fun _ => 7)
  cases servedFirst
  cases servedSecond
  revert same
  decide

def sumBound : List (Action Request StdString) :=
  .spawn 0 (.createCache UUID.clear [] (lit "dummy") (lit "{}")) :: List.replicate 6 (.step 0) ++
    .spawn 1 (.computeSum 0 UUID.clear 1 2) :: List.replicate 6 (.step 1)

theorem sum_sends_no_memory : ∃ pool, serve DummyCache.sample [] sumBound = some pool ∧
    responses (Global.own 1 pool.global.log) = [.int32 { m_value := 3 }] ∧
    IgnoresMemory DummyCache.sample .littleEndian [] sumBound 1 := by
  let cache : Backend (DummyCache Unit) := ⟨0, ⟨()⟩⟩
  obtain ⟨pool, served, finished, events⟩ : ∃ pool,
      serve DummyCache.sample [] sumBound = some pool ∧
      Finished pool 1 (.computeSum 0 UUID.clear 1 2) (.ok ()) ∧
      Global.own 1 pool.global.log =
        [.received (.computeSum 0 UUID.clear 1 2), .lookedUp UUID.clear (some cache),
          .started (.computeSum cache 1 2), .computedSum cache 1 2 (.ok { m_value := 3 }),
          .responded (.int32 { m_value := 3 })] := ⟨_, rfl, rfl, rfl⟩
  have ignores := (sends_no_memory .littleEndian served finished).2 (.ok ()) rfl
  refine ⟨pool, served, by simp [responses, events], ignores.mpr fun missed => ?_⟩
  have found := (lookupMissed_iff (serve_replays served).accurate 1 UUID.clear).mp missed
  simp [events] at found

end ProviderImpl

end Cachersize

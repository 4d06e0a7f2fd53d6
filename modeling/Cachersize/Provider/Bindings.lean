import Cachersize.Provider.Destruction
import Cachersize.Provider.Responses

/-! Which request made a binding, and what a request that looks an id up can do. -/
namespace Cachersize

/-- The id that `UUID::generate()` returns to the handler. -/
def Request.generated : Request → Option UUID
  | .createCache generated .. | .openCache generated .. => some generated
  | _ => none

namespace ProviderImpl

open Concurrent

variable {J β : Type} {runtime : Runtime J β} {thread : Nat} {m_token : StdString}
variable {actions : List (Action Request StdString)} {pool : Provider J β}

/-- The events of a request in flight are the start of those of one of its exits. -/
theorem eventual_exit {request : Request} {program : Handler J β Unit}
    (served : serve runtime m_token actions = some pool)
    (present : pool.threads thread = some ⟨request, program⟩) :
    ∃ outcome more, Exit runtime request outcome (Global.own thread pool.global.log ++ more) := by
  obtain ⟨schedule, after, outcome, ran, finished⟩ := finishes_scheduled served present
  obtain ⟨entries, grown⟩ := System.run_log ran
  refine ⟨outcome, Global.own thread entries, ?_⟩
  rw [← Global.own_append, ← grown]
  exact finished_exit (serve_append served ran) finished

/-- A request binds the id that was generated for it, to one backend. -/
theorem Exit.bound {request : Request} {outcome : Except StdString Unit} {events : List (Event J β)}
    (exit : Exit runtime request outcome events) {cache_id : UUID} {cache : Backend β}
    (member : .bound cache_id cache ∈ events) :
    request.generated = some cache_id ∧ ∀ other made, .bound other made ∈ events → made = cache := by
  cases exit with
  | @added _ _ _ _ operation generated _ backend =>
    have same : cache_id = generated ∧ cache = backend := by simpa using member
    rw [same.1, same.2]
    refine ⟨by cases operation <;> rfl, fun other made again => ?_⟩
    have repeated : other = generated ∧ made = backend := by simpa using again
    exact repeated.2
  | _ => simp at member

theorem bound_by {binder : Nat} {cache_id : UUID} {cache : Backend β}
    (served : serve runtime m_token actions = some pool)
    (bound : (binder, .bound cache_id cache) ∈ pool.global.log) :
    ∃ request program, pool.threads binder = some ⟨request, program⟩ ∧
      request.generated = some cache_id ∧
      ∀ other made, (binder, .bound other made) ∈ pool.global.log → made = cache := by
  have own : .bound cache_id cache ∈ Global.own binder pool.global.log := Global.mem_own.mpr bound
  cases running : pool.threads binder with
  | none =>
    rw [System.own_vacant served running] at own
    simp at own
  | some present =>
    obtain ⟨request, program⟩ := present
    obtain ⟨outcome, more, exit⟩ := eventual_exit served running
    obtain ⟨drawn, once⟩ := exit.bound (List.mem_append_left more own)
    refine ⟨request, program, rfl, drawn, fun other made again => ?_⟩
    exact once other made (List.mem_append_left more (Global.mem_own.mpr again))

/-- The calls of `computeSum` that have ended. -/
def sums (events : List (Event J β)) : List (Event J β) :=
  events.filter fun event => match event with
    | .computedSum .. => true
    | _ => false

private theorem sums_append (first second : List (Event J β)) :
    sums (first ++ second) = sums first ++ sums second :=
  List.filter_append ..

theorem Exit.sum {request : Request} {outcome : Except StdString Unit} {events : List (Event J β)}
    {uninitialised x y : Int32} {cache_id : UUID} (exit : Exit runtime request outcome events)
    (same : request = .computeSum uninitialised cache_id x y) :
    events = [.received request, .lookedUp cache_id none] ++
        [.responded (failedInt32 uninitialised (notFoundWithUuid runtime cache_id))] ∨
      (∃ cache result, events = [.received request, .lookedUp cache_id (some cache),
        .started (.computeSum cache x y), .computedSum cache x y (.ok result)] ++
          [.responded (.int32 result)]) ∨
      ∃ cache what, (∃ history, runtime.computeSum history cache x y = .error what) ∧
        events = [.received request, .lookedUp cache_id (some cache), .started (.computeSum cache x y),
          .computedSum cache x y (.error what)] := by
  cases exit with
  | @addRejected _ _ operation | @addUnparsable _ _ _ _ operation | @addEscaped _ _ _ _ operation
  | @addThrew _ _ _ _ operation | @addUnknown _ _ _ _ operation | @added _ _ _ _ operation =>
    cases operation <;> cases same
  | removeRejected removes | removeMissed removes => cases removes <;> cases same
  | missed finds =>
    cases finds <;> cases same
    exact .inl rfl
  | computed =>
    cases same
    exact .inr (.inl ⟨_, _, rfl⟩)
  | computeThrew threw =>
    cases same
    exact .inr (.inr ⟨_, _, threw, rfl⟩)
  | _ => cases same

theorem Exit.sum_returned {request : Request} {outcome : Except StdString Unit} {events : List (Event J β)}
    {cache : Backend β} {x y : Int32} {sum : RequestResult Int32} (exit : Exit runtime request outcome events)
    (computed : .computedSum cache x y (.ok sum) ∈ events) :
    ∃ history, runtime.computeSum history cache x y = .ok sum := by
  cases exit with
  | computed returned =>
    simp only [List.mem_cons, Event.computedSum.injEq, Except.ok.injEq, reduceCtorEq, List.not_mem_nil,
      false_or, or_false] at computed
    obtain ⟨rfl, rfl, rfl, rfl⟩ := computed
    exact returned
  | _ => simp at computed

theorem Exit.check {request : Request} {outcome : Except StdString Unit} {events : List (Event J β)}
    {cache_id : UUID} (exit : Exit runtime request outcome events)
    (same : request = .checkCache cache_id) :
    events = [.received request, .lookedUp cache_id none] ++
        [.responded (failedBool (notFoundWithUuid runtime cache_id))] ∨
      ∃ cache, events = [.received request, .lookedUp cache_id (some cache)] ++ [.responded (.bool {})] := by
  cases exit with
  | @addRejected _ _ operation | @addUnparsable _ _ _ _ operation | @addEscaped _ _ _ _ operation
  | @addThrew _ _ _ _ operation | @addUnknown _ _ _ _ operation | @added _ _ _ _ operation =>
    cases operation <;> cases same
  | removeRejected removes | removeMissed removes => cases removes <;> cases same
  | missed finds =>
    cases finds <;> cases same
    exact .inl rfl
  | checked =>
    cases same
    exact .inr ⟨_, rfl⟩
  | _ => cases same

theorem own_of_responded {own more start : List (Event J β)} {last response : Response}
    (split : own ++ more = start ++ [.responded last]) (silent : responses start = [])
    (responded : (responses own).head? = some response) :
    response = last ∧ own = start ++ [.responded last] := by
  rcases List.eq_nil_or_concat more with rfl | ⟨initial, final, rfl⟩
  · rw [List.append_nil] at split
    rw [split, responses_append, silent] at responded
    exact ⟨(Option.some.inj responded).symm, split⟩
  · rw [List.concat_eq_append, ← List.append_assoc] at split
    have earlier : own ++ initial = start := (List.append_inj' split rfl).1
    rw [← earlier, responses_append] at silent
    rw [(List.append_eq_nil_iff.mp silent).1] at responded
    cases responded

private theorem sums_so_far {own more rest : List (Event J β)} {first : Event J β} {cache_id : UUID}
    {cache : Backend β} {x y : Int32} {ended : Except StdString (RequestResult Int32)}
    (split : own ++ more = [first, .lookedUp cache_id (some cache), .started (.computeSum cache x y),
      .computedSum cache x y ended] ++ rest) (quiet : sums (first :: rest) = []) :
    sums own = [] ∨ ∃ cache outcome, sums own = [.computedSum cache x y outcome] ∧
      .lookedUp cache_id (some cache) ∈ own := by
  have quiet : sums [first] ++ sums rest = [] := (sums_append [first] rest).symm.trans quiet
  obtain ⟨quietFirst, quietRest⟩ := List.append_eq_nil_iff.mp quiet
  match own with
  | [] => exact .inl rfl
  | [only] =>
    obtain ⟨rfl, -⟩ := List.cons.inj split
    exact .inl quietFirst
  | one :: two :: own =>
    obtain ⟨rfl, later⟩ := List.cons.inj split
    obtain ⟨rfl, -⟩ := List.cons.inj later
    have ran : sums (one :: .lookedUp cache_id (some cache) :: own) ++ sums more =
        [.computedSum cache x y ended] := by
      rw [← sums_append, split, sums_append, quietRest, List.append_nil]
      exact (sums_append [one] _).trans (congrArg (· ++ _) quietFirst)
    rcases List.append_eq_singleton_iff.mp ran with ⟨none, -⟩ | ⟨single, -⟩
    · exact .inl none
    · exact .inr ⟨cache, ended, single, by simp⟩

section InFlight

variable {program : Handler J β Unit} {response : Response} {uninitialised x y : Int32} {cache_id : UUID}
variable (served : serve runtime m_token actions = some pool)
include served

/-- At any time, a `computeSum` has run on at most one backend, the one it looked up. -/
theorem sum_in_flight
    (present : pool.threads thread = some ⟨.computeSum uninitialised cache_id x y, program⟩) :
    sums (Global.own thread pool.global.log) = [] ∨
      ∃ cache outcome, sums (Global.own thread pool.global.log) = [.computedSum cache x y outcome] ∧
        .lookedUp cache_id (some cache) ∈ Global.own thread pool.global.log := by
  obtain ⟨outcome, more, exit⟩ := eventual_exit served present
  rcases exit.sum rfl with missed | ⟨cache, result, computed⟩ | ⟨cache, what, -, threw⟩
  · left
    have none : sums (Global.own thread pool.global.log) ++ sums more = [] := by
      rw [← sums_append, missed]
      rfl
    exact (List.append_eq_nil_iff.mp none).1
  · exact sums_so_far computed rfl
  · exact sums_so_far (threw.trans (List.append_nil _).symm) rfl

/-- Once a `computeSum` is answered, it has run exactly once, or not at all because
the id was not bound. -/
theorem sum_responded
    (present : pool.threads thread = some ⟨.computeSum uninitialised cache_id x y, program⟩)
    (responded : (responses (Global.own thread pool.global.log)).head? = some response) :
    (response = failedInt32 uninitialised (notFoundWithUuid runtime cache_id) ∧
      sums (Global.own thread pool.global.log) = []) ∨
    ∃ cache result, response = .int32 result ∧
      sums (Global.own thread pool.global.log) = [.computedSum cache x y (.ok result)] ∧
      .lookedUp cache_id (some cache) ∈ Global.own thread pool.global.log := by
  obtain ⟨outcome, more, exit⟩ := eventual_exit served present
  rcases exit.sum rfl with missed | ⟨cache, result, computed⟩ | ⟨cache, what, -, threw⟩
  · obtain ⟨same, own⟩ := own_of_responded missed rfl responded
    rw [own]
    exact .inl ⟨same, rfl⟩
  · obtain ⟨same, own⟩ := own_of_responded computed rfl responded
    rw [own]
    exact .inr ⟨cache, result, same, rfl, by simp⟩
  · have silent : responses (Global.own thread pool.global.log) ++ responses more = [] := by
      rw [responses, responses, ← List.filterMap_append, threw]
      rfl
    rw [(List.append_eq_nil_iff.mp silent).1] at responded
    cases responded

/-- The answer to a `checkCache` tells what its lookup found. -/
theorem check_responded (present : pool.threads thread = some ⟨.checkCache cache_id, program⟩)
    (responded : (responses (Global.own thread pool.global.log)).head? = some response) :
    ∃ found, .lookedUp cache_id found ∈ Global.own thread pool.global.log ∧
      response = match found with
        | none => failedBool (notFoundWithUuid runtime cache_id)
        | some _ => .bool {} := by
  obtain ⟨outcome, more, exit⟩ := eventual_exit served present
  rcases exit.check rfl with missed | ⟨cache, hit⟩
  · obtain ⟨same, own⟩ := own_of_responded missed rfl responded
    exact ⟨none, by simp [own], same⟩
  · obtain ⟨same, own⟩ := own_of_responded hit rfl responded
    exact ⟨some cache, by simp [own], same⟩

end InFlight

end ProviderImpl

end Cachersize

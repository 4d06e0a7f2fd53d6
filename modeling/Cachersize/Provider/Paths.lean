import Cachersize.Concurrent.LocalHistory
import Cachersize.Provider.Machine

/-! The path of one request through its handler, whatever the other requests do. -/
namespace Cachersize.ProviderImpl

open Concurrent

variable {J β : Type}

def emits : (op : Op J β) → op.Answer → List (Event J β)
  | .m_token, secret => [.readToken secret]
  | .factory operation backend_name config, outcome => [.built operation backend_name config outcome]
  | .find cache_id, found => [.lookedUp cache_id found]
  | .assign cache_id cache, _ => [.bound cache_id cache]
  | .erase cache_id, _ => [.erased cache_id]
  | .start call, _ => [.started call]
  | .finish call, outcome => [.ended call outcome]
  | .respond response, _ => [.responded response]
  | .lock, _ | .unlock, _ | .count _, _ | .index _, _ => []

/-- The answers that are not up to the other threads: how a backend call ends. -/
def Possible (runtime : Runtime J β) : (op : Op J β) → op.Answer → Prop
  | .finish call, outcome => ∃ history, outcome = runtime.perform history call
  | _, _ => True

variable {runtime : Runtime J β} {thread : Nat}

theorem exec_emits {op : Op J β} {s : State J β} {answer : op.Answer} {shared : ProviderImpl β}
    {events : List (Event J β)}
    (answered : exec runtime thread op s = some (answer, shared, events)) :
    events = emits op answer ∧ Possible runtime op answer := by
  cases op with
  | lock =>
    obtain ⟨-, rfl, -⟩ := exec_lock answered
    exact ⟨rfl, trivial⟩
  | index cache_id =>
    obtain ⟨-, rfl, -⟩ := exec_index answered
    exact ⟨rfl, trivial⟩
  | finish call => cases answered; exact ⟨rfl, _, rfl⟩
  | _ => cases answered; exact ⟨rfl, trivial⟩

/-- Every path of the handler from here ends in a way that `Final` admits. -/
abbrev Ends (runtime : Runtime J β) (thread : Nat)
    (Final : Except StdString Unit → List (Event J β) → Prop) :
    Handler J β Unit → List (Event J β) → Prop :=
  (system runtime).Along thread (fun _ => True) Final

variable {Final : Except StdString Unit → List (Event J β) → Prop} {events : List (Event J β)}

private theorem ends_perform {op : Op J β} {next : op.Answer → Handler J β Unit}
    (later : ∀ answer, Possible runtime op answer →
      Ends runtime thread Final (next answer) (events ++ emits op answer)) :
    Ends runtime thread Final (.perform op next) events := by
  refine ⟨trivial, fun answer emitted answered => ?_⟩
  obtain ⟨before, shared, answered⟩ := answered
  obtain ⟨rfl, possible⟩ := exec_emits answered
  exact later answer possible

private theorem ends_done {result : Unit} (final : Final (.ok result) events) :
    Ends runtime thread Final (.done result) events := ⟨trivial, final⟩

private theorem ends_raise {error : StdString} (final : Final (.error error) events) :
    Ends runtime thread Final (.raise error) events := ⟨trivial, final⟩

private theorem ends_token {token : StdString} {failed : Response} {rest : Handler J β Unit}
    (rejected : ∀ secret, InvalidToken secret token →
      Final (.ok ()) (events ++ [.readToken secret] ++ [.responded failed]))
    (accepted : ∀ secret, ¬ InvalidToken secret token →
      Ends runtime thread Final rest (events ++ [.readToken secret])) :
    Ends runtime thread Final
      (.perform .m_token fun secret =>
        if InvalidToken secret token then .perform (.respond failed) .done else rest) events := by
  apply ends_perform
  intro secret _
  by_cases invalid : InvalidToken secret token
  · rw [if_pos invalid]
    exact ends_perform fun _ _ => ends_done (rejected secret invalid)
  · rw [if_neg invalid]
    exact accepted secret invalid

/-- `createCache` and `openCache` requests, by the factory function they reach. -/
def addRequest : FactoryCall → UUID → StdString → StdString → StdString → Request
  | .createCache => .createCache
  | .openCache => .openCache

/-- The three requests whose handler starts with `FIND_CACHE`, each with the response
its local `result` becomes on a miss. -/
inductive Finds : Request → UUID → (StdString → Response) → Prop where
  | checkCache : Finds (.checkCache cache_id) cache_id failedBool
  | sayHello : Finds (.sayHello cache_id) cache_id failedBool
  | computeSum : Finds (.computeSum uninitialised cache_id x y) cache_id (failedInt32 uninitialised)

/-- The two requests that end the binding of a cache. -/
inductive Removes : Request → StdString → UUID → Prop where
  | closeCache : Removes (.closeCache token cache_id) token cache_id
  | destroyCache : Removes (.destroyCache token cache_id) token cache_id

/-- Every way a handler can end, with the events of its request from arrival on. -/
inductive Exit (runtime : Runtime J β) : Request → Except StdString Unit → List (Event J β) → Prop where
  | addRejected (invalid : InvalidToken secret token) :
      Exit runtime (addRequest operation generated token cache_type cache_config) (.ok ())
        [.received (addRequest operation generated token cache_type cache_config),
          .readToken secret, .responded (failedUuid (lit "Invalid security token"))]
  | addUnparsable (valid : ¬ InvalidToken secret token)
      (parsed : runtime.parse cache_config = .error (.parse_error what)) :
      Exit runtime (addRequest operation generated token cache_type cache_config) (.ok ())
        [.received (addRequest operation generated token cache_type cache_config),
          .readToken secret, .responded (failedUuid what)]
  | addEscaped (valid : ¬ InvalidToken secret token)
      (parsed : runtime.parse cache_config = .error (.other what)) :
      Exit runtime (addRequest operation generated token cache_type cache_config) (.error what)
        [.received (addRequest operation generated token cache_type cache_config),
          .readToken secret]
  | addThrew (valid : ¬ InvalidToken secret token)
      (parsed : runtime.parse cache_config = .ok json_config) :
      Exit runtime (addRequest operation generated token cache_type cache_config) (.ok ())
        [.received (addRequest operation generated token cache_type cache_config),
          .readToken secret, .built operation cache_type json_config (.error what),
          .responded (failedUuid what)]
  | addUnknown (valid : ¬ InvalidToken secret token)
      (parsed : runtime.parse cache_config = .ok json_config) :
      Exit runtime (addRequest operation generated token cache_type cache_config) (.ok ())
        [.received (addRequest operation generated token cache_type cache_config),
          .readToken secret, .built operation cache_type json_config (.ok none),
          .responded (failedUuid (lit "Unknown cache type " ++ cache_type))]
  | added (valid : ¬ InvalidToken secret token)
      (parsed : runtime.parse cache_config = .ok json_config) :
      Exit runtime (addRequest operation generated token cache_type cache_config) (.ok ())
        [.received (addRequest operation generated token cache_type cache_config),
          .readToken secret, .built operation cache_type json_config (.ok (some backend)),
          .bound generated backend, .responded (.uuid { m_value := generated })]
  | removeRejected (removes : Removes request token cache_id) (invalid : InvalidToken secret token) :
      Exit runtime request (.ok ())
        [.received request, .readToken secret,
          .responded (failedBool (lit "Invalid security token"))]
  | removeMissed (removes : Removes request token cache_id) (valid : ¬ InvalidToken secret token) :
      Exit runtime request (.ok ())
        [.received request, .readToken secret, .responded (failedBool (notFound runtime cache_id))]
  | closed (valid : ¬ InvalidToken secret token) :
      Exit runtime (.closeCache token cache_id) (.ok ())
        [.received (.closeCache token cache_id), .readToken secret, .erased cache_id,
          .responded (.bool {})]
  | destroyed (valid : ¬ InvalidToken secret token)
      (returned : ∃ history, runtime.destroy history cache = .ok result) :
      Exit runtime (.destroyCache token cache_id) (.ok ())
        [.received (.destroyCache token cache_id), .readToken secret, .started (.destroy cache),
          .destroyed cache (.ok result), .erased cache_id, .responded (.bool result)]
  | destroyThrew (valid : ¬ InvalidToken secret token)
      (threw : ∃ history, runtime.destroy history cache = .error what) :
      Exit runtime (.destroyCache token cache_id) (.error what)
        [.received (.destroyCache token cache_id), .readToken secret, .started (.destroy cache),
          .destroyed cache (.error what)]
  | missed (finds : Finds request cache_id failed) :
      Exit runtime request (.ok ())
        [.received request, .lookedUp cache_id none,
          .responded (failed (notFoundWithUuid runtime cache_id))]
  | checked :
      Exit runtime (.checkCache cache_id) (.ok ())
        [.received (.checkCache cache_id), .lookedUp cache_id (some cache), .responded (.bool {})]
  | saidHello (returned : ∃ history, runtime.sayHello history cache = .ok ()) :
      Exit runtime (.sayHello cache_id) (.ok ())
        [.received (.sayHello cache_id), .lookedUp cache_id (some cache),
          .started (.sayHello cache), .saidHello cache (.ok ())]
  | helloThrew (threw : ∃ history, runtime.sayHello history cache = .error what) :
      Exit runtime (.sayHello cache_id) (.error what)
        [.received (.sayHello cache_id), .lookedUp cache_id (some cache),
          .started (.sayHello cache), .saidHello cache (.error what)]
  | computed (returned : ∃ history, runtime.computeSum history cache x y = .ok result) :
      Exit runtime (.computeSum uninitialised cache_id x y) (.ok ())
        [.received (.computeSum uninitialised cache_id x y), .lookedUp cache_id (some cache),
          .started (.computeSum cache x y), .computedSum cache x y (.ok result),
          .responded (.int32 result)]
  | computeThrew (threw : ∃ history, runtime.computeSum history cache x y = .error what) :
      Exit runtime (.computeSum uninitialised cache_id x y) (.error what)
        [.received (.computeSum uninitialised cache_id x y), .lookedUp cache_id (some cache),
          .started (.computeSum cache x y), .computedSum cache x y (.error what)]

private theorem addCache_ends (operation : FactoryCall) (generated : UUID)
    (token cache_type cache_config : StdString) :
    let request := addRequest operation generated token cache_type cache_config
    Ends runtime thread (Exit runtime request)
      (addCache runtime operation generated token cache_type cache_config) [.received request] := by
  intro request
  rw [addCache_eq]
  refine ends_token (fun _ invalid => .addRejected invalid) fun secret invalid => ?_
  cases parsed : runtime.parse cache_config with
  | error exception =>
    cases exception with
    | parse_error what => exact ends_perform fun _ _ => ends_done (.addUnparsable invalid parsed)
    | other what => exact ends_raise (.addEscaped invalid parsed)
  | ok json_config =>
    apply ends_perform
    intro built _
    cases built with
    | error what => exact ends_perform fun _ _ => ends_done (.addThrew invalid parsed)
    | ok made =>
      cases made with
      | none => exact ends_perform fun _ _ => ends_done (.addUnknown invalid parsed)
      | some backend =>
        exact ends_perform fun _ _ => ends_perform fun _ _ => ends_perform fun _ _ =>
          ends_perform fun _ _ => ends_done (.added invalid parsed)

private theorem closeCache_ends (token : StdString) (cache_id : UUID) :
    Ends runtime thread (Exit runtime (.closeCache token cache_id))
      (closeCache runtime token cache_id) [.received (.closeCache token cache_id)] := by
  rw [closeCache_eq]
  refine ends_token (fun _ invalid => .removeRejected .closeCache invalid) fun secret invalid => ?_
  refine ends_perform fun _ _ => ends_perform fun count _ => ?_
  by_cases missing : count = 0
  · rw [if_pos missing]
    exact ends_perform fun _ _ => ends_perform fun _ _ =>
      ends_done (.removeMissed .closeCache invalid)
  · rw [if_neg missing]
    exact ends_perform fun _ _ => ends_perform fun _ _ => ends_perform fun _ _ =>
      ends_done (.closed invalid)

private theorem destroyCache_ends (token : StdString) (cache_id : UUID) :
    Ends runtime thread (Exit runtime (.destroyCache token cache_id))
      (destroyCache runtime token cache_id) [.received (.destroyCache token cache_id)] := by
  rw [destroyCache_eq]
  refine ends_token (fun _ invalid => .removeRejected .destroyCache invalid) fun secret invalid => ?_
  refine ends_perform fun _ _ => ends_perform fun count _ => ?_
  by_cases missing : count = 0
  · rw [if_pos missing]
    exact ends_perform fun _ _ => ends_perform fun _ _ =>
      ends_done (.removeMissed .destroyCache invalid)
  rw [if_neg missing]
  refine ends_perform fun cache _ => ends_perform fun _ _ => ends_perform fun outcome performed => ?_
  obtain ⟨history, performed⟩ := performed
  cases outcome with
  | ok result =>
    exact ends_perform fun _ _ => ends_perform fun _ _ => ends_perform fun _ _ =>
      ends_done (.destroyed invalid ⟨history, performed.symm⟩)
  | error what =>
    exact ends_perform fun _ _ => ends_raise (.destroyThrew invalid ⟨history, performed.symm⟩)

private theorem FIND_CACHE_ends {request : Request} {cache_id : UUID} {failed : StdString → Response}
    {body : Backend β → Handler J β Unit} (finds : Finds request cache_id failed)
    (found : ∀ cache, Ends runtime thread (Exit runtime request) (body cache)
      [.received request, .lookedUp cache_id (some cache)]) :
    Ends runtime thread (Exit runtime request) (FIND_CACHE runtime cache_id failed body)
      [.received request] := by
  rw [FIND_CACHE_eq]
  refine ends_perform fun _ _ => ends_perform fun lookedUp _ => ?_
  cases lookedUp with
  | none => exact ends_perform fun _ _ => ends_perform fun _ _ => ends_done (.missed finds)
  | some cache => exact ends_perform fun _ _ => by simpa [emits] using found cache

private theorem handler_ends (request : Request) :
    Ends runtime thread (Exit runtime request) (handler runtime request) [.received request] := by
  cases request with
  | createCache => exact addCache_ends .createCache _ _ _ _
  | openCache => exact addCache_ends .openCache _ _ _ _
  | closeCache => exact closeCache_ends _ _
  | destroyCache => exact destroyCache_ends _ _
  | checkCache cache_id =>
    exact FIND_CACHE_ends .checkCache fun cache => ends_perform fun _ _ => ends_done .checked
  | sayHello cache_id =>
    refine FIND_CACHE_ends .sayHello fun cache =>
      ends_perform fun _ _ => ends_perform fun outcome performed => ?_
    obtain ⟨history, performed⟩ := performed
    cases outcome with
    | ok _ => exact ends_done (.saidHello ⟨history, performed.symm⟩)
    | error what => exact ends_raise (.helloThrew ⟨history, performed.symm⟩)
  | computeSum uninitialised cache_id x y =>
    rw [handler, computeSum_eq]
    refine FIND_CACHE_ends .computeSum fun cache =>
      ends_perform fun _ _ => ends_perform fun outcome performed => ?_
    obtain ⟨history, performed⟩ := performed
    cases outcome with
    | ok result => exact ends_perform fun _ _ => ends_done (.computed ⟨history, performed.symm⟩)
    | error what => exact ends_raise (.computeThrew ⟨history, performed.symm⟩)

/-- Under any interleaving, the events of a finished request are those of one exit
of its handler. -/
theorem finished_exit {m_token : StdString} {actions : List (Action Request StdString)}
    {pool : Provider J β} {request : Request} {outcome : Except StdString Unit}
    (served : serve runtime m_token actions = some pool)
    (finished : Finished pool thread request outcome) :
    Exit runtime request outcome (Global.own thread pool.global.log) := by
  cases outcome with
  | ok result => exact System.own_done served finished (handler_ends request)
  | error what => exact System.own_raise served finished (handler_ends request)

end Cachersize.ProviderImpl

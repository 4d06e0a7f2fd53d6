import Cachersize.Concurrent.System
import Cachersize.Backend

/-! The seven RPC handlers of `ProviderImpl`, operation by operation. Logging is left
out; `UUID::generate()` is the id that the request carries. -/
namespace Cachersize

open Concurrent

/-- The steps at which a handler touches something it shares with other handlers. -/
inductive Op (J β : Type) where
  | m_token
  | factory (operation : FactoryCall) (backend_name : StdString) (config : J)
  | lock
  | unlock
  | find (cache_id : UUID)
  | count (cache_id : UUID)
  | assign (cache_id : UUID) (cache : Backend β)
  | index (cache_id : UUID)
  | erase (cache_id : UUID)
  | start (call : BackendCall β)
  | finish (call : BackendCall β)
  | respond (response : Response)

abbrev Op.Answer {J β : Type} : Op J β → Type
  | m_token => StdString
  | factory _ _ _ => Except StdString (Option (Backend β))
  | find _ => Option (Backend β)
  | count _ => Nat
  | index _ => Backend β
  | finish call => Except StdString call.Result
  | lock | unlock | assign _ _ | erase _ | start _ | respond _ => Unit

abbrev Handler (J β α : Type) := Program (Op.Answer (J := J) (β := β)) StdString α

namespace ProviderImpl

variable {J β : Type}

@[simp] def perform (op : Op J β) : Handler J β op.Answer := Program.call op

@[simp] def respond (response : Response) : Handler J β Unit := perform (.respond response)

/-- A scope with a `std::lock_guard<tl::mutex> lock(m_backends_mtx)`. -/
def lockGuard {α : Type} (body : Handler J β α) : Handler J β α :=
  Program.guarded .lock .unlock body

/-- A backend call, with a step where it starts and a step where it ends. -/
def invoke (call : BackendCall β) : Handler J β call.Result := do
  perform (.start call)
  let outcome ← perform (.finish call)
  Program.ofExcept outcome

abbrev InvalidToken (m_token token : StdString) : Prop := m_token.length > 0 ∧ m_token ≠ token

def failedUuid (error : StdString) : Response :=
  .uuid { m_success := false, m_error := error, m_value := UUID.clear }

def failedBool (error : StdString) : Response :=
  .bool { m_success := false, m_error := error }

/-- A failed `RequestResult<int32_t>` has whatever its `m_value` had in memory. -/
def failedInt32 (uninitialised : Int32) (error : StdString) : Response :=
  .int32 { m_success := false, m_error := error, m_value := uninitialised }

def notFoundWithUuid (runtime : Runtime J β) (cache_id : UUID) : StdString :=
  lit "Cache with UUID " ++ runtime.uuid_unparse cache_id ++ lit " not found"

def notFound (runtime : Runtime J β) (cache_id : UUID) : StdString :=
  lit "Cache " ++ runtime.uuid_unparse cache_id ++ lit " not found"

variable (runtime : Runtime J β)

/-- The macro `FIND_CACHE`: on a miss it responds under the lock and returns from
the handler, on a hit it leaves a copy of the pointer and releases the lock. -/
def FIND_CACHE (cache_id : UUID) (failed : StdString → Response)
    (body : Backend β → Handler J β Unit) : Handler J β Unit := do
  let found ← lockGuard do
    match ← perform (.find cache_id) with
    | none =>
      respond (failed (notFoundWithUuid runtime cache_id))
      return none
    | some cache => return some cache
  match found with
  | none => return ()
  | some cache => body cache

/-- The common text of `createCache` and `openCache`. -/
def addCache (operation : FactoryCall) (cache_id : UUID)
    (token cache_type cache_config : StdString) : Handler J β Unit := do
  let m_token ← perform .m_token
  if InvalidToken m_token token then
    respond (failedUuid (lit "Invalid security token"))
  else
    match runtime.parse cache_config with
    | .error (.parse_error what) => respond (failedUuid what)
    | .error (.other what) => Program.raise what
    | .ok json_config =>
      -- the factory call stands in a `try` that catches every `std::exception`
      match ← perform (.factory operation cache_type json_config) with
      | .error what => respond (failedUuid what)
      | .ok none => respond (failedUuid (lit "Unknown cache type " ++ cache_type))
      | .ok (some backend) =>
        lockGuard (perform (.assign cache_id backend))
        respond (.uuid { m_value := cache_id })

def createCache (cache_id : UUID) (token cache_type cache_config : StdString) : Handler J β Unit :=
  addCache runtime .createCache cache_id token cache_type cache_config

def openCache (cache_id : UUID) (token cache_type cache_config : StdString) : Handler J β Unit :=
  addCache runtime .openCache cache_id token cache_type cache_config

def closeCache (token : StdString) (cache_id : UUID) : Handler J β Unit := do
  let m_token ← perform .m_token
  if InvalidToken m_token token then
    respond (failedBool (lit "Invalid security token"))
  else
    let closed ← lockGuard do
      let count ← perform (.count cache_id)
      if count = 0 then
        respond (failedBool (notFound runtime cache_id))
        return false
      else
        perform (.erase cache_id)
        return true
    if closed then respond (.bool {})

def destroyCache (token : StdString) (cache_id : UUID) : Handler J β Unit := do
  let m_token ← perform .m_token
  if InvalidToken m_token token then
    respond (failedBool (lit "Invalid security token"))
  else
    let destroyed ← lockGuard do
      let count ← perform (.count cache_id)
      if count = 0 then
        respond (failedBool (notFound runtime cache_id))
        return none
      else
        let cache ← perform (.index cache_id)
        let result ← invoke (.destroy cache)
        perform (.erase cache_id)
        return some result
    match destroyed with
    | none => return ()
    | some result => respond (.bool result)

def checkCache (cache_id : UUID) : Handler J β Unit :=
  FIND_CACHE runtime cache_id failedBool fun _ => respond (.bool { m_success := true })

def sayHello (cache_id : UUID) : Handler J β Unit :=
  FIND_CACHE runtime cache_id failedBool fun cache => invoke (.sayHello cache)

def computeSum (uninitialised : Int32) (cache_id : UUID) (x y : Int32) : Handler J β Unit :=
  FIND_CACHE runtime cache_id (failedInt32 uninitialised) fun cache => do
    let result ← invoke (.computeSum cache x y)
    respond (.int32 result)

def handler : Request → Handler J β Unit
  | .createCache generated token cache_type cache_config =>
      createCache runtime generated token cache_type cache_config
  | .openCache generated token cache_type cache_config =>
      openCache runtime generated token cache_type cache_config
  | .closeCache token cache_id => closeCache runtime token cache_id
  | .destroyCache token cache_id => destroyCache runtime token cache_id
  | .checkCache cache_id => checkCache runtime cache_id
  | .sayHello cache_id => sayHello runtime cache_id
  | .computeSum uninitialised cache_id x y => computeSum runtime uninitialised cache_id x y

theorem FIND_CACHE_eq (cache_id : UUID) (failed : StdString → Response)
    (body : Backend β → Handler J β Unit) :
    FIND_CACHE runtime cache_id failed body =
      .perform .lock fun _ => .perform (.find cache_id) fun found =>
        match found with
        | none => .perform (.respond (failed (notFoundWithUuid runtime cache_id))) fun _ =>
            .perform .unlock fun _ => .done ()
        | some cache => .perform .unlock fun _ => body cache := by
  simp only [FIND_CACHE, lockGuard, Program.guarded, perform, respond, Program.call_bind,
    Program.perform_bind, Program.attempt_perform]
  congr 1; funext _; congr 1; funext found
  cases found <;> rfl

theorem addCache_eq (operation : FactoryCall) (cache_id : UUID)
    (token cache_type cache_config : StdString) :
    addCache runtime operation cache_id token cache_type cache_config =
      .perform .m_token fun m_token =>
        if InvalidToken m_token token then
          .perform (.respond (failedUuid (lit "Invalid security token"))) .done
        else match runtime.parse cache_config with
        | .error (.parse_error what) => .perform (.respond (failedUuid what)) .done
        | .error (.other what) => .raise what
        | .ok json_config => .perform (.factory operation cache_type json_config) fun built =>
          match built with
          | .error what => .perform (.respond (failedUuid what)) .done
          | .ok none =>
            .perform (.respond (failedUuid (lit "Unknown cache type " ++ cache_type))) .done
          | .ok (some backend) => .perform .lock fun _ => .perform (.assign cache_id backend) fun _ =>
            .perform .unlock fun _ => .perform (.respond (.uuid { m_value := cache_id })) .done := by
  rfl

theorem closeCache_eq (token : StdString) (cache_id : UUID) :
    closeCache runtime token cache_id =
      .perform .m_token fun m_token =>
        if InvalidToken m_token token then
          .perform (.respond (failedBool (lit "Invalid security token"))) .done
        else .perform .lock fun _ => .perform (.count cache_id) fun count =>
          if count = 0 then
            .perform (.respond (failedBool (notFound runtime cache_id))) fun _ =>
              .perform .unlock fun _ => .done ()
          else .perform (.erase cache_id) fun _ => .perform .unlock fun _ =>
            .perform (.respond (.bool {})) .done := by
  simp only [closeCache, lockGuard, Program.guarded, perform, respond, Program.call_bind,
    Program.perform_bind, Program.attempt_perform]
  congr 1; funext m_token; congr 1; congr 1; funext _; congr 1; funext count
  by_cases missing : count = 0 <;> simp only [missing, ↓reduceIte] <;> rfl

theorem destroyCache_eq (token : StdString) (cache_id : UUID) :
    destroyCache runtime token cache_id =
      .perform .m_token fun m_token =>
        if InvalidToken m_token token then
          .perform (.respond (failedBool (lit "Invalid security token"))) .done
        else .perform .lock fun _ => .perform (.count cache_id) fun count =>
          if count = 0 then
            .perform (.respond (failedBool (notFound runtime cache_id))) fun _ =>
              .perform .unlock fun _ => .done ()
          else .perform (.index cache_id) fun cache =>
            .perform (.start (.destroy cache)) fun _ => .perform (.finish (.destroy cache)) fun outcome =>
              match outcome with
              | .ok result => .perform (.erase cache_id) fun _ => .perform .unlock fun _ =>
                  .perform (.respond (.bool result)) .done
              | .error what => .perform .unlock fun _ => .raise what := by
  simp only [destroyCache, lockGuard, Program.guarded, perform, respond, invoke, Program.call_bind,
    Program.perform_bind, Program.attempt_perform]
  congr 1; funext m_token; congr 1; congr 1; funext _; congr 1; funext count
  by_cases missing : count = 0
  · simp only [missing, ↓reduceIte]; rfl
  · simp only [missing, ↓reduceIte, Program.perform_bind, Program.attempt_perform]
    congr 1; funext cache; congr 1; funext _; congr 1; funext outcome
    cases outcome <;> rfl

theorem computeSum_eq (uninitialised : Int32) (cache_id : UUID) (x y : Int32) :
    computeSum runtime uninitialised cache_id x y =
      FIND_CACHE runtime cache_id (failedInt32 uninitialised) fun cache =>
        .perform (.start (.computeSum cache x y)) fun _ =>
          .perform (.finish (.computeSum cache x y)) fun outcome =>
            match outcome with
            | .ok result => .perform (.respond (.int32 result)) .done
            | .error what => .raise what := by
  simp only [computeSum, invoke, perform, respond, Program.call_bind, Program.perform_bind]
  congr 1; funext cache; congr 1; funext _; congr 1; funext outcome
  cases outcome <;> rfl

end ProviderImpl

end Cachersize

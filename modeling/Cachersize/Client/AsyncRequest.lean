import Cachersize.Concurrent.Program
import Cachersize.Memory.SharedPtr
import Cachersize.RequestResult

/-! `AsyncRequest` and `CacheHandle::computeSum`, operation by operation on the memory
of a client. -/
namespace Cachersize

open Concurrent Memory

/-- The holders of a `std::shared_ptr<AsyncRequestImpl>`: the `self` of a named
`AsyncRequest`, and in `CacheHandle::computeSum` the `self` of the temporary and the
local variable. -/
inductive Owner where
  | named (object : Nat)
  | temporary
  | async_request_impl
  deriving DecidableEq

/-- `m_async_response` is the number of the RPC that it answers, `m_wait_callback` the
`result` that the lambda captured. -/
structure AsyncRequestImpl where
  m_async_response : Nat
  m_waited : Bool := false
  m_wait_callback : Option Nat

/-- A `tl::provider_handle`. -/
structure ProviderHandle where
  address : StdString
  provider_id : UInt16
  deriving DecidableEq

structure CacheHandleImpl where
  m_ph : ProviderHandle
  m_cache_id : UUID
  deriving DecidableEq

structure CacheHandle where
  self : Option CacheHandleImpl
  deriving DecidableEq

/-- What happens to requests and their results, in order. -/
inductive ClientEvent where
  | sent (rpc : Nat) (handle : CacheHandleImpl) (x y : Int32)
  | created (impl rpc : Nat) (result : Option Nat)
  | entered (impl : Nat)
  | awaited (impl : Nat)
  | polled (impl : Nat)
  | wrote (impl : Option Nat) (result : Nat) (value : Int32)
  | left (impl : Nat)
  | released (impl : Nat)
  deriving DecidableEq

structure Client where
  pointers : SharedPtrs Owner Nat
  impls : Nat → AsyncRequestImpl
  created : Nat
  sent : Nat
  memory : Nat → Int32
  trace : List ClientEvent

/-- An exception with its `what()`, or the call of `std::terminate`. -/
inductive Thrown where
  | exception (what : StdString)
  | terminate
  deriving DecidableEq

inductive ClientOp where
  | self (this : Owner)
  | copy (this other : Owner)
  | move (this other : Owner)
  | reset (this : Owner)
  | unique (impl : Nat)
  | m_waited (impl : Nat)
  | set_waited (impl : Nat)
  | enter (impl : Nat)
  | leave (impl : Nat)
  | wait (impl : Nat)
  | received (impl : Nat) (arrived : Bool)
  | store (impl : Option Nat) (result : Nat) (value : Int32)
  | call (handle : CacheHandleImpl) (x y : Int32)
  | async (handle : CacheHandleImpl) (x y : Int32)
  | make_shared (async_response : Nat) (result : Option Nat)

abbrev ClientOp.Answer : ClientOp → Type
  | self _ => Option Nat
  | unique _ | m_waited _ | received _ _ => Bool
  | enter _ => Option Nat
  | wait _ | call _ _ _ => RequestResult Int32
  | async _ _ _ => Nat
  | copy _ _ | move _ _ | reset _ | set_waited _ | leave _ | store _ _ _ | make_shared _ _ => Unit

abbrev ClientProgram (α : Type) := Program ClientOp.Answer Thrown α

namespace Client

/-- An assignment to a shared pointer. It releases the object it pointed to when no
other owner is left. -/
def assign (client : Client) (owner : Owner) (target : Option Nat) : Client :=
  let pointers := client.pointers.assign owner target
  let released := match client.pointers.lookup owner with
    | some impl => if pointers.use_count impl = 0 then [.released impl] else []
    | none => []
  { client with pointers, trace := client.trace ++ released }

def record (client : Client) (event : ClientEvent) : Client :=
  { client with trace := client.trace ++ [event] }

/-- `answers` gives the response to each RPC, whenever it arrives. -/
def exec (answers : Nat → RequestResult Int32) : (op : ClientOp) → Client → op.Answer × Client
  | .self this, client => (client.pointers.lookup this, client)
  | .copy this other, client => ((), client.assign this (client.pointers.lookup other))
  | .move this other, client =>
    ((), (client.assign this (client.pointers.lookup other)).assign other none)
  | .reset this, client => ((), client.assign this none)
  | .unique impl, client => (client.pointers.use_count impl = 1, client)
  | .m_waited impl, client => ((client.impls impl).m_waited, client)
  | .set_waited impl, client =>
    ((), { client with
      impls := Function.update client.impls impl { client.impls impl with m_waited := true } })
  | .enter impl, client => ((client.impls impl).m_wait_callback, client.record (.entered impl))
  | .leave impl, client => ((), client.record (.left impl))
  | .wait impl, client => (answers (client.impls impl).m_async_response, client.record (.awaited impl))
  | .received impl arrived, client => (arrived, client.record (.polled impl))
  | .store impl result value, client =>
    ((), { client.record (.wrote impl result value) with
      memory := Function.update client.memory result value })
  | .call handle x y, client =>
    (answers client.sent, { client.record (.sent client.sent handle x y) with sent := client.sent + 1 })
  | .async handle x y, client =>
    (client.sent, { client.record (.sent client.sent handle x y) with sent := client.sent + 1 })
  | .make_shared async_response result, client =>
    ((), { client.record (.created client.created async_response result) with
      pointers := client.pointers.assign .async_request_impl (some client.created)
      impls := Function.update client.impls client.created
        { m_async_response := async_response, m_wait_callback := result }
      created := client.created + 1 })

end Client

@[simp] def perform (op : ClientOp) : ClientProgram op.Answer := Program.call op

/-- A function that is implicitly `noexcept`. -/
def noexcept (body : ClientProgram Unit) : ClientProgram Unit := do
  match ← body.attempt with
  | .ok _ => return ()
  | .error _ => Program.raise .terminate

/-- Deliver a response: `if(result) *result = response.value()`, or throw. -/
def deliver (impl : Option Nat) (result : Option Nat) (response : RequestResult Int32) :
    ClientProgram Unit := do
  if response.m_success then
    match result with
    | some result => perform (.store impl result response.m_value)
    | none => return ()
  else
    Program.raise (.exception response.m_error)

namespace AsyncRequest

/-- The lambda in `CacheHandle::computeSum`. -/
def m_wait_callback (result : Option Nat) (impl : Nat) : ClientProgram Unit := do
  let response ← perform (.wait impl)
  deliver (some impl) result response

def wait (this : Owner) : ClientProgram Unit := do
  match ← perform (.self this) with
  | none => Program.raise (.exception (lit "Invalid cachersize::AsyncRequest object"))
  | some impl =>
    if ← perform (.m_waited impl) then
      return ()
    else
      let result ← perform (.enter impl)
      m_wait_callback result impl
      perform (.leave impl)
      perform (.set_waited impl)

def completed (this : Owner) (arrived : Bool) : ClientProgram Bool := do
  match ← perform (.self this) with
  | none => Program.raise (.exception (lit "Invalid cachersize::AsyncRequest object"))
  | some impl => perform (.received impl arrived)

/-- `if(self && self.unique()) wait();` -/
def waitIfUnique (this : Owner) : ClientProgram Unit := do
  match ← perform (.self this) with
  | none => return ()
  | some impl => if ← perform (.unique impl) then wait this else return ()

def copyConstruct (this other : Owner) : ClientProgram Unit := perform (.copy this other)

def moveConstruct (this other : Owner) : ClientProgram Unit := do
  perform (.move this other)
  perform (.reset other)

/-- After the body, the member `self` is destroyed. -/
def destruct (this : Owner) : ClientProgram Unit := do
  noexcept (waitIfUnique this)
  perform (.reset this)

def copyAssign (this other : Owner) : ClientProgram Unit := do
  let self ← perform (.self this)
  let otherSelf ← perform (.self other)
  if this = other ∨ self = otherSelf then
    return ()
  else
    waitIfUnique this
    perform (.copy this other)

def moveAssign (this other : Owner) : ClientProgram Unit := do
  let self ← perform (.self this)
  let otherSelf ← perform (.self other)
  if this = other ∨ self = otherSelf then
    return ()
  else
    waitIfUnique this
    perform (.move this other)
    perform (.reset other)

end AsyncRequest

/-- `req` is `nullptr` or points to a named `AsyncRequest`. The constructor of the
temporary takes its argument by `const&`, so the `std::move` on it copies. -/
def CacheHandle.computeSum (handle : CacheHandle) (x y : Int32) (result : Option Nat)
    (req : Option Nat) : ClientProgram Unit := do
  match handle.self with
  | none => Program.raise (.exception (lit "Invalid cachersize::CacheHandle object"))
  | some self =>
    match req with
    | none =>
      let response ← perform (.call self x y)
      deliver none result response
    | some req =>
      let async_response ← perform (.async self x y)
      perform (.make_shared async_response result)
      perform (.copy .temporary .async_request_impl)
      let outcome ← (AsyncRequest.moveAssign (.named req) .temporary).attempt
      AsyncRequest.destruct .temporary
      perform (.reset .async_request_impl)
      Program.ofExcept outcome

end Cachersize

import Cachersize.Backend

/-! The remote procedures as the two sides declare them: `AdminImpl` and `ClientImpl`
for the callers, `ProviderImpl` for the handlers. -/
namespace Cachersize

/-- A `tl::remote_procedure` on the calling side. -/
structure RemoteProcedure where
  name : String
  response_disabled : Bool
  deriving DecidableEq

namespace RemoteProcedure

def define (name : String) : RemoteProcedure := { name, response_disabled := false }

def disable_response (procedure : RemoteProcedure) : RemoteProcedure :=
  { procedure with response_disabled := true }

end RemoteProcedure

structure AdminImpl where
  m_create_cache : RemoteProcedure
  m_open_cache : RemoteProcedure
  m_close_cache : RemoteProcedure
  m_destroy_cache : RemoteProcedure

def AdminImpl.new : AdminImpl where
  m_create_cache := .define "cachersize_create_cache"
  m_open_cache := .define "cachersize_open_cache"
  m_close_cache := .define "cachersize_close_cache"
  m_destroy_cache := .define "cachersize_destroy_cache"

structure ClientImpl where
  m_check_cache : RemoteProcedure
  m_say_hello : RemoteProcedure
  m_compute_sum : RemoteProcedure

def ClientImpl.new : ClientImpl where
  m_check_cache := .define "cachersize_check_cache"
  m_say_hello := (RemoteProcedure.define "cachersize_say_hello").disable_response
  m_compute_sum := .define "cachersize_compute_sum"

namespace Request

/-- The procedure through which `Admin`, `Client` or `CacheHandle` sends the request. -/
def procedure : Request → RemoteProcedure
  | createCache .. => AdminImpl.new.m_create_cache
  | openCache .. => AdminImpl.new.m_open_cache
  | closeCache .. => AdminImpl.new.m_close_cache
  | destroyCache .. => AdminImpl.new.m_destroy_cache
  | checkCache .. => ClientImpl.new.m_check_cache
  | sayHello .. => ClientImpl.new.m_say_hello
  | computeSum .. => ClientImpl.new.m_compute_sum

/-- `sayHello` is the only request whose sender waits for nothing. -/
theorem response_disabled_eq (request : Request) :
    request.procedure.response_disabled = match request with
      | sayHello _ => true
      | _ => false := by
  cases request <;> rfl

end Request

end Cachersize

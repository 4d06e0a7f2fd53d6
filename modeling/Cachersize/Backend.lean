import Cachersize.RequestResult
import Mathlib.Data.Finmap

/-! Backend objects, the calls a provider makes on them, and everything else its
handlers reach outside the repository. -/
namespace Cachersize

/-- A backend instance. `address` is the identity of the object, `object` what the
factory of its class put in it. -/
structure Backend (β : Type) where
  address : Nat
  object : β
  deriving DecidableEq

/-- A call of one of the virtual functions of `Backend`. -/
inductive BackendCall (β : Type) where
  | sayHello (cache : Backend β)
  | computeSum (cache : Backend β) (x y : Int32)
  | destroy (cache : Backend β)
  deriving DecidableEq

namespace BackendCall

variable {β : Type}

abbrev Result : BackendCall β → Type
  | sayHello _ => Unit
  | computeSum _ _ _ => RequestResult Int32
  | destroy _ => RequestResultBool

def cache : BackendCall β → Backend β
  | sayHello cache => cache
  | computeSum cache _ _ => cache
  | destroy cache => cache

end BackendCall

/-- The two static functions of `CacheFactory`. -/
inductive FactoryCall where
  | createCache
  | openCache
  deriving DecidableEq

inductive Request where
  | createCache (generated : UUID) (token cache_type cache_config : StdString)
  | openCache (generated : UUID) (token cache_type cache_config : StdString)
  | closeCache (token : StdString) (cache_id : UUID)
  | destroyCache (token : StdString) (cache_id : UUID)
  | checkCache (cache_id : UUID)
  | sayHello (cache_id : UUID)
  | computeSum (uninitialised : Int32) (cache_id : UUID) (x y : Int32)
  deriving DecidableEq

/-- What a handler does that others can notice. -/
inductive Event (J β : Type) where
  | received (request : Request)
  | readToken (m_token : StdString)
  | built (operation : FactoryCall) (backend_name : StdString) (config : J)
      (outcome : Except StdString (Option (Backend β)))
  | lookedUp (cache_id : UUID) (found : Option (Backend β))
  | bound (cache_id : UUID) (cache : Backend β)
  | erased (cache_id : UUID)
  | started (call : BackendCall β)
  | saidHello (cache : Backend β) (outcome : Except StdString Unit)
  | computedSum (cache : Backend β) (x y : Int32) (outcome : Except StdString (RequestResult Int32))
  | destroyed (cache : Backend β) (outcome : Except StdString RequestResultBool)
  | responded (response : Response)

namespace Event

variable {J β : Type}

def ended : (call : BackendCall β) → Except StdString call.Result → Event J β
  | .sayHello cache, outcome => saidHello cache outcome
  | .computeSum cache x y, outcome => computedSum cache x y outcome
  | .destroy cache, outcome => destroyed cache outcome

/-- Calls into a factory or a backend, the only events these can react to. -/
def isCall : Event J β → Bool
  | built .. | started _ | saidHello .. | computedSum .. | destroyed .. => true
  | _ => false

def calls (log : List (Nat × Event J β)) : List (Event J β) :=
  (log.map Prod.snd).filter isCall

@[simp] theorem calls_append (first second : List (Nat × Event J β)) :
    calls (first ++ second) = calls first ++ calls second := by
  simp [calls]

end Event

/-- The exceptions of `json::parse`. Handlers catch only `json::parse_error`. -/
inductive JsonException where
  | parse_error (what : StdString)
  | other (what : StdString)
  deriving DecidableEq

/-- `CacheFactory::create_fn` and `CacheFactory::open_fn`. A registered function may
depend on all calls made before; it returns null, an object, or throws. -/
structure CacheFactory (J β : Type) where
  create_fn : Finmap fun _ : StdString => List (Event J β) → J → Except StdString (Option β)
  open_fn : Finmap fun _ : StdString => List (Event J β) → J → Except StdString (Option β)

namespace CacheFactory

variable {J β : Type} (factory : CacheFactory J β)

def createCache (backend_name : StdString) (history : List (Event J β)) (config : J) :
    Except StdString (Option β) :=
  match factory.create_fn.lookup backend_name with
  | none => .ok none
  | some f => f history config

def openCache (backend_name : StdString) (history : List (Event J β)) (config : J) :
    Except StdString (Option β) :=
  match factory.open_fn.lookup backend_name with
  | none => .ok none
  | some f => f history config

def perform : FactoryCall → StdString → List (Event J β) → J → Except StdString (Option β)
  | .createCache => factory.createCache
  | .openCache => factory.openCache

end CacheFactory

/-- The code outside the repository, and the backends. Backends see the calls made
so far, so that any stateful implementation is one of these. An exception is given
by its `what()`. -/
structure Runtime (J β : Type) where
  uuid_unparse : UUID → StdString
  parse : StdString → Except JsonException J
  factory : CacheFactory J β
  sayHello : List (Event J β) → Backend β → Except StdString Unit
  computeSum : List (Event J β) → Backend β → Int32 → Int32 → Except StdString (RequestResult Int32)
  destroy : List (Event J β) → Backend β → Except StdString RequestResultBool

/-- The virtual call. -/
def Runtime.perform {J β : Type} (runtime : Runtime J β) (history : List (Event J β)) :
    (call : BackendCall β) → Except StdString call.Result
  | .sayHello cache => runtime.sayHello history cache
  | .computeSum cache x y => runtime.computeSum history cache x y
  | .destroy cache => runtime.destroy history cache

end Cachersize

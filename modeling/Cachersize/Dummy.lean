import Cachersize.Provider.Machine

/-! The one backend of the repository, registered under the name `dummy`. -/
namespace Cachersize

structure DummyCache (J : Type) where
  m_config : J
  deriving DecidableEq

namespace DummyCache

variable {J : Type}

def sayHello (_ : DummyCache J) : Unit := ()

/-- The sum wraps here where the source leaves an overflow undefined. -/
def computeSum (_ : DummyCache J) (x y : Int32) : RequestResult Int32 := { m_value := x + y }

def destroy (_ : DummyCache J) : RequestResultBool := { m_success := true }

def create (config : J) : DummyCache J := ⟨config⟩

def openExisting (config : J) : DummyCache J := ⟨config⟩

/-- `CACHERSIZE_REGISTER_BACKEND(dummy, DummyCache)` -/
def factory : CacheFactory J (DummyCache J) where
  create_fn := Finmap.singleton (lit "dummy") fun _ config => .ok (some (create config))
  open_fn := Finmap.singleton (lit "dummy") fun _ config => .ok (some (openExisting config))

def runtime (uuid_unparse : UUID → StdString) (parse : StdString → Except JsonException J) :
    Runtime J (DummyCache J) where
  uuid_unparse := uuid_unparse
  parse := parse
  factory := factory
  sayHello := fun _ cache => .ok cache.object.sayHello
  computeSum := fun _ cache x y => .ok (cache.object.computeSum x y)
  destroy := fun _ cache => .ok cache.object.destroy

variable {uuid_unparse : UUID → StdString} {parse : StdString → Except JsonException J}

theorem runtime_returns (history : List (Event J (DummyCache J)))
    (call : BackendCall (DummyCache J)) :
    ∃ result, (runtime uuid_unparse parse).perform history call = .ok result := by
  cases call <;> exact ⟨_, rfl⟩

/-- The runtime for the empty JSON object, with the text of the zero UUID. -/
def sample : Runtime Unit (DummyCache Unit) :=
  runtime (fun _ => lit "00000000-0000-0000-0000-000000000000")
    (fun cache_config => if cache_config = lit "{}" then .ok () else .error (.parse_error []))

end DummyCache

end Cachersize

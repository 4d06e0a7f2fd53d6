import Cachersize.Network.Calls
import Cachersize.Provider.Bindings
import Cachersize.Provider.Bounded
import Cachersize.Provider.Uninitialised

/-! What travels: the arguments that a caller writes and the handler of that name reads,
and the result that a handler writes and the caller reads. -/
namespace Cachersize

open Wire Concurrent

/-- The arguments that `Admin`, `Client` and `CacheHandle` pass to `rpc.on(ph)`, in order. -/
def RemoteCall.arguments (a : Archive Output) : RemoteCall → Output Unit
  | admin (.createCache _ _ cache_type cache_config token) => do
    let _ ← a.string token
    let _ ← a.string cache_type
    let _ ← a.string cache_config
  | admin (.openCache _ _ cache_type cache_config token) => do
    let _ ← a.string token
    let _ ← a.string cache_type
    let _ ← a.string cache_config
  | admin (.closeCache _ cache_id token) => do
    let _ ← a.string token
    let _ ← a.uuid cache_id
  | admin (.destroyCache _ cache_id token) => do
    let _ ← a.string token
    let _ ← a.uuid cache_id
  | makeCacheHandle _ _ cache_id => do
    let _ ← a.uuid cache_id
  | computeSum self _ x y _ => do
    let _ ← a.uuid self.m_cache_id
    let _ ← a.int32 x
    let _ ← a.int32 y

/-- What a handler does not get from the caller: the id that it draws, and what it finds in
the memory of its result. -/
structure Locals where
  generated : UUID
  uninitialised : Int32

/-- The parameters of the handler registered under a name, in order. -/
def ProviderImpl.parameters (a : Archive Input) (locals : Locals) : String → Input Request
  | "cachersize_create_cache" => do
    let token ← a.string []
    let cache_type ← a.string []
    let cache_config ← a.string []
    return .createCache locals.generated token cache_type cache_config
  | "cachersize_open_cache" => do
    let token ← a.string []
    let cache_type ← a.string []
    let cache_config ← a.string []
    return .openCache locals.generated token cache_type cache_config
  | "cachersize_close_cache" => do
    let token ← a.string []
    let cache_id ← a.uuid .clear
    return .closeCache token cache_id
  | "cachersize_destroy_cache" => do
    let token ← a.string []
    let cache_id ← a.uuid .clear
    return .destroyCache token cache_id
  | "cachersize_check_cache" => do
    let cache_id ← a.uuid .clear
    return .checkCache cache_id
  | "cachersize_say_hello" => do
    let cache_id ← a.uuid .clear
    return .sayHello cache_id
  | "cachersize_compute_sum" => do
    let cache_id ← a.uuid .clear
    let x ← a.int32 0
    let y ← a.int32 0
    return .computeSum locals.uninitialised cache_id x y
  | _ => failure

/-- The size of a `std::string` is at most `max_size()`. -/
def Fits (text : StdString) : Prop := text.length < 2 ^ 63

instance (text : StdString) : Decidable (Fits text) := inferInstanceAs (Decidable (_ < _))

def Request.texts : Request → List StdString
  | createCache _ token cache_type cache_config => [token, cache_type, cache_config]
  | openCache _ token cache_type cache_config => [token, cache_type, cache_config]
  | closeCache token _ | destroyCache token _ => [token]
  | checkCache _ | sayHello _ | computeSum .. => []

namespace RemoteCall

def locals : RemoteCall → Locals
  | admin (.createCache _ generated _ _ _) | admin (.openCache _ generated _ _ _) => ⟨generated, 0⟩
  | computeSum _ uninitialised _ _ _ => ⟨.clear, uninitialised⟩
  | _ => ⟨.clear, 0⟩

end RemoteCall

section Arguments

variable (format : ArchiveFormat)

private theorem text_roundTrips {text : StdString} (fits : Fits text) :
    RoundTrips ((Archive.output format).string text) ((Archive.input format).string []) text := by
  have small : text.length < 2 ^ 64 := by
    unfold Fits at fits
    omega
  exact Archive.string_roundTrips format small []

private theorem addition_carried {token cache_type cache_config : StdString}
    (fits : ∀ text ∈ [token, cache_type, cache_config], Fits text)
    (request : StdString → StdString → StdString → Request) :
    Carries
      (do
        let _ ← (Archive.output format).string token
        let _ ← (Archive.output format).string cache_type
        let _ ← (Archive.output format).string cache_config)
      (do
        let token ← (Archive.input format).string []
        let cache_type ← (Archive.input format).string []
        let cache_config ← (Archive.input format).string []
        return request token cache_type cache_config)
      (request token cache_type cache_config) := by
  have first := text_roundTrips format (fits token (by simp))
  have second := text_roundTrips format (fits cache_type (by simp))
  have third := text_roundTrips format (fits cache_config (by simp))
  exact first.carries (second.carries (third.carries (.pure _ _)))

private theorem removal_carried {token : StdString} (fits : Fits token) (cache_id : UUID)
    (request : StdString → UUID → Request) :
    Carries
      (do
        let _ ← (Archive.output format).string token
        let _ ← (Archive.output format).uuid cache_id)
      (do
        let token ← (Archive.input format).string []
        let cache_id ← (Archive.input format).uuid .clear
        return request token cache_id)
      (request token cache_id) :=
  (text_roundTrips format fits).carries ((cache_id.roundTrips format).carries (.pure _ _))

/-- The handler registered under the name of the procedure reads the arguments that the
caller wrote, each into the parameter that it was meant for. -/
theorem arguments_carried (call : RemoteCall) (fits : ∀ text ∈ call.request.texts, Fits text) :
    Carries (call.arguments (.output format))
      (ProviderImpl.parameters (.input format) call.locals call.request.procedure.name) call.request := by
  cases call with
  | admin call =>
    cases call with
    | createCache ph generated => exact addition_carried format fits (Request.createCache generated)
    | openCache ph generated => exact addition_carried format fits (Request.openCache generated)
    | closeCache ph cache_id token =>
      exact removal_carried format (fits token List.mem_cons_self) cache_id .closeCache
    | destroyCache ph cache_id token =>
      exact removal_carried format (fits token List.mem_cons_self) cache_id .destroyCache
  | makeCacheHandle object ph cache_id => exact (cache_id.roundTrips format).carries (.pure _ _)
  | computeSum self uninitialised x y result =>
    have first := Archive.int32_roundTrips format x 0
    have second := Archive.int32_roundTrips format y 0
    exact (self.m_cache_id.roundTrips format).carries (first.carries (second.carries (.pure _ _)))

end Arguments

def Response.type : Response → ValueType
  | uuid _ => .uuid
  | bool _ => .bool
  | int32 _ => .int32

/-- The `T` of the `RequestResult<T> result` that the handler declares. -/
def Request.resultType : Request → ValueType
  | createCache .. | openCache .. => .uuid
  | closeCache .. | destroyCache .. | checkCache _ | sayHello _ => .bool
  | computeSum .. => .int32

namespace RemoteCall

/-- The `T` of the `RequestResult<T>` that the caller reads the response into. -/
def resultType : RemoteCall → ValueType
  | admin (.createCache ..) | admin (.openCache ..) => .uuid
  | admin (.closeCache ..) | admin (.destroyCache ..) | makeCacheHandle .. => .bool
  | computeSum .. => .int32

/-- What the caller makes of the bytes of a response. `start` is the default-constructed
result, which is read over. -/
def receive (format : ArchiveFormat) (call : RemoteCall) (bytes : List UInt8) : Option Response :=
  match call.resultType with
  | .uuid => (ValueType.uuid.decode format { m_value := .clear } bytes).map fun read => .uuid read.1
  | .bool => (ValueType.bool.decode format {} bytes).map fun read => .bool read.1
  | .int32 => (ValueType.int32.decode format { m_value := 0 } bytes).map fun read => .int32 read.1
  | .string => none

theorem resultType_eq (call : RemoteCall) : call.resultType = call.request.resultType := by
  cases call with
  | admin call => cases call <;> rfl
  | makeCacheHandle | computeSum => rfl

theorem receive_encode (format : ArchiveFormat) {call : RemoteCall} {response : Response}
    (same : response.type = call.resultType) (fits : response.error.length < 2 ^ 64) :
    call.receive format (response.encode format) = some response := by
  unfold receive
  rw [← same]
  cases response with
  | uuid result =>
    have read := ValueType.uuid.decode_encode format fits { m_value := .clear } []
    rw [List.append_nil] at read
    simp only [Response.type, Response.encode, read, Option.map_some]
  | bool result =>
    have read := ValueType.bool.decode_encode format fits {} []
    rw [List.append_nil] at read
    simp only [Response.type, Response.encode, read, Option.map_some]
  | int32 result =>
    have read := ValueType.int32.decode_encode format fits { m_value := 0 } []
    rw [List.append_nil] at read
    simp only [Response.type, Response.encode, read, Option.map_some]

end RemoteCall

/-- Strings from outside the repository have sizes that strings can have. -/
structure Runtime.Sized {J β : Type} (runtime : Runtime J β) : Prop where
  unparse : ∀ uuid, Fits (runtime.uuid_unparse uuid)
  parse : ∀ cache_config what, runtime.parse cache_config = .error (.parse_error what) → Fits what
  factory : ∀ operation name history config what,
    runtime.factory.perform operation name history config = .error what → Fits what
  computeSum : ∀ history cache x y result,
    runtime.computeSum history cache x y = .ok result → Fits result.m_error
  destroy : ∀ history cache result, runtime.destroy history cache = .ok result → Fits result.m_error

namespace ProviderImpl

variable {J β : Type} {runtime : Runtime J β} {request : Request} {outcome : Except StdString Unit}
variable {events : List (Event J β)} {thread : Nat}

/-- On every path, a handler answers with the result that it declared. -/
theorem Exit.typed (exit : Exit runtime request outcome events) :
    ∀ response ∈ responses events, response.type = request.resultType := by
  cases exit with
  | @addRejected _ _ operation | @addUnparsable _ _ _ _ operation | @addEscaped _ _ _ _ operation
  | @addThrew _ _ _ _ operation | @addUnknown _ _ _ _ operation | @added _ _ _ _ operation =>
    cases operation <;> simp [responses, Response.type, Request.resultType, addRequest, failedUuid]
  | removeRejected removes | removeMissed removes =>
    cases removes <;> simp [responses, Response.type, Request.resultType, failedBool]
  | missed finds =>
    cases finds <;> simp [responses, Response.type, Request.resultType, failedBool, failedInt32]
  | _ => simp [responses, Response.type, Request.resultType]

theorem built_error {m_token : StdString} {actions : List (Action Request StdString)} {pool : Provider J β}
    {operation : FactoryCall} {name what : StdString} {config : J}
    (served : serve runtime m_token actions = some pool)
    (built : (thread, .built operation name config (.error what)) ∈ pool.global.log) :
    ∃ history, runtime.factory.perform operation name history config = .error what := by
  obtain ⟨before, after, split⟩ := List.append_of_mem built
  obtain ⟨earlier, action, later, state, next, -, -, moment⟩ :=
    (singly runtime).moment served split (Nat.zero_le _)
  rcases moment.source with ⟨_, -, impossible, -⟩ | ⟨_, op, _, answer, _, -, -, answered, -⟩
  · cases impossible
  · have emitted := (exec_emits answered).1
    cases op with
    | factory =>
      cases emitted
      have made := (Prod.mk.inj (Option.some.inj answered)).1
      refine ⟨Event.calls state.global.log, ?_⟩
      cases performed : runtime.factory.perform operation name (Event.calls state.global.log) config with
      | ok object =>
        rw [performed] at made
        cases made
      | error thrown =>
        rw [performed] at made
        cases made
        rfl
    | finish call => cases call <;> cases emitted
    | _ => cases emitted

/-- The error of a response is a literal, a string from outside, or a short one with such a
string in it. -/
theorem Exit.fits (exit : Exit runtime request outcome events) (sized : runtime.Sized)
    (asked : ∀ text ∈ request.texts, Fits text)
    (made : ∀ operation name config what, .built operation name config (.error what) ∈ events → Fits what) :
    ∀ response ∈ responses events, response.error.length < 2 ^ 64 := by
  have short {text : StdString} (fits : Fits text) : text.length < 2 ^ 64 := by
    unfold Fits at fits
    omega
  have literal : (lit "Invalid security token").length < 2 ^ 64 := by simp [lit]
  have empty : ([] : StdString).length < 2 ^ 64 := by simp
  intro response member
  cases exit with
  | addRejected | removeRejected =>
    cases List.mem_singleton.mp member
    exact literal
  | addUnparsable _ parsed =>
    cases List.mem_singleton.mp member
    exact short (sized.parse _ _ parsed)
  | addThrew =>
    cases List.mem_singleton.mp member
    exact short (made _ _ _ _ (.tail _ (.tail _ (.head _))))
  | @addUnknown _ _ _ _ operation generated cache_type =>
    cases List.mem_singleton.mp member
    have fits : Fits cache_type := asked cache_type (by cases operation <;> simp [addRequest, Request.texts])
    simp only [Fits] at fits
    simp only [failedUuid, Response.error, lit, List.length_append, List.length_map, String.length_toList]
    have prefixed : "Unknown cache type ".length = 19 := rfl
    omega
  | @removeMissed _ _ cache_id =>
    cases List.mem_singleton.mp member
    have fits := sized.unparse cache_id
    simp only [Fits] at fits
    simp [failedBool, Response.error, notFound, lit]
    omega
  | added | closed | checked =>
    cases List.mem_singleton.mp member
    exact empty
  | destroyed _ returned =>
    cases List.mem_singleton.mp member
    obtain ⟨history, returned⟩ := returned
    exact short (sized.destroy _ _ _ returned)
  | @missed _ cache_id failed finds =>
    cases List.mem_singleton.mp member
    have named : (failed (notFoundWithUuid runtime cache_id)).error = notFoundWithUuid runtime cache_id := by
      cases finds <;> rfl
    have fits := sized.unparse cache_id
    simp only [Fits] at fits
    rw [named]
    simp [notFoundWithUuid, lit]
    omega
  | computed returned =>
    cases List.mem_singleton.mp member
    obtain ⟨history, returned⟩ := returned
    exact short (sized.computeSum _ _ _ _ _ returned)
  | addEscaped | destroyThrew | saidHello | helloThrew | computeThrew => cases member

end ProviderImpl

end Cachersize

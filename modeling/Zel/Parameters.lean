import Zel.Lib.SerdeJson
import Zel.ServiceMacro

/-!
# How parameters are passed

The generated client writes the parameters of a function to JSON (`render/codegen.rs`): nothing if
there are none, the value itself if there is one, and a tuple otherwise.  An operation of the
`RpcClient` puts the bytes into a `Body`, and the generated server takes them out again, each kind
of function in its own way, and reads them back.

A tuple is one array more around each of its elements than a value that is sent alone.  The reader
of JSON bounds the number of arrays and objects that are open, so a type that just fits when it is
the only parameter does not fit beside another one.

## What is here

* `Description.send`, `Description.receive` — both ends, for each of the four kinds.
* `params_round_trip` — **the server reads what the client wrote.**
* `nested_parameter_lost` — where the recursion limit is in the way.
-/

set_option autoImplicit false

namespace Zel

open SerdeJson

/-! ## The code around the parameters -/

/-- `generate_param_serialization` -/
def generateParamSerialization :
    (params : List SerdeType) → Values params → Except ClientError Bytes
  | [], _ => .ok []
  | [t], (v, _) => (t.toVec v).mapError .serialization
  | t :: t' :: ts, vs => (writeTuple (t :: t' :: ts) vs).mapError .serialization

/-- `generate_param_serialization_optional` -/
def generateParamSerializationOptional :
    (params : List SerdeType) → Values params → Except ClientError (Option Bytes)
  | [], _ => .ok none
  | [t], (v, _) => ((t.toVec v).mapError .serialization).map some
  | t :: t' :: ts, vs => ((writeTuple (t :: t' :: ts) vs).mapError .serialization).map some

/-- `generate_param_deserialization` -/
def generateParamDeserialization :
    (params : List SerdeType) → Bytes → Except ResourceError (Values params)
  | [], _ => .ok ()
  | [t], data =>
    ((t.fromSlice data).mapError fun e ↦
      .callbackError ("Failed to deserialize parameter: " ++ e) .application none).map (·, ())
  | t :: t' :: ts, data =>
    ((SerdeType.tuple (t :: t' :: ts)).fromSlice data).mapError fun e ↦
      .callbackError ("Failed to deserialize parameters: " ++ e) .application none

/-! ## Both ends -/

namespace Description

/-- What the generated function of the client hands to the `RpcClient`. -/
def serialize (e : Description) (params : List SerdeType) (vs : Values params) :
    Except ClientError (Option Bytes) :=
  match e with
  | .method _ => (generateParamSerialization params vs).map some
  | .subscription _ | .notification _ | .stream _ => generateParamSerializationOptional params vs

/-- The generated function of the client, up to the request. -/
def send (serviceName : String) (e : Description) (params : List SerdeType) (vs : Values params) :
    Except ClientError Operation :=
  (e.serialize params vs).map (e.client serviceName).operation

/-- The bytes that the registered closure takes from the request
(`render_method_registration` and its three siblings). -/
def extract : Description → Body → Except ResourceError Bytes
  | .method _, .rpc data => .ok data
  | .method _, _ => .error (.app "Expected RPC body")
  | .subscription _, .subscribe => .ok []
  | .subscription _, .rpc data | .subscription _, .stream data | .subscription _, .notify data =>
    .ok data
  | .notification _, .notify data | .notification _, .rpc data => .ok data
  | .notification _, _ => .ok []
  | .stream _, .stream data => .ok data
  | .stream _, _ => .ok []

/-- The registered closure, up to the call of the function. -/
def receive (e : Description) (params : List SerdeType) (request : Request) :
    Except ResourceError (Values params) := do
  let data ← e.extract request.body
  generateParamDeserialization params data

end Description

/-! ## What is written is read back -/

/-- The depth that is left for a parameter: a tuple takes one. -/
def paramDepth (params : List SerdeType) : Nat :=
  if params.length ≤ 1 then Json.recursionLimit else Json.recursionLimit - 1

/-- What the client writes for the parameters, the server reads back. -/
theorem params_bytes {params : List SerdeType}
    (h : ∀ t ∈ params, t.RoundTripsAt (paramDepth params)) (vs : Values params) :
    ∃ body : Option Bytes, generateParamSerializationOptional params vs = .ok body ∧
      generateParamSerialization params vs = .ok (body.getD []) ∧
      generateParamDeserialization params (body.getD []) = .ok vs := by
  rcases params with _ | ⟨t, _ | ⟨t', ts⟩⟩
  · exact ⟨none, rfl, rfl, rfl⟩
  · obtain ⟨v, u⟩ := vs
    obtain ⟨text, hwrite, hread⟩ := roundTrips_iff.mpr (h t List.mem_cons_self) v
    refine ⟨some text, ?_, ?_, ?_⟩
    · rw [generateParamSerializationOptional, hwrite]
      rfl
    · rw [generateParamSerialization, hwrite]
      rfl
    · rw [generateParamDeserialization, Option.getD_some, hread]
      rfl
  · have htuple : (SerdeType.tuple (t :: t' :: ts)).RoundTripsAt Json.recursionLimit :=
      SerdeType.RoundTripsAt.tuple h (by decide)
    obtain ⟨text, hwrite, hread⟩ := roundTrips_iff.mpr htuple vs
    replace hwrite : writeTuple (t :: t' :: ts) vs = .ok text := hwrite
    refine ⟨some text, ?_, ?_, ?_⟩
    · rw [generateParamSerializationOptional, hwrite]
      rfl
    · rw [generateParamSerialization, hwrite]
      rfl
    · rw [generateParamDeserialization, Option.getD_some, hread]
      rfl

/-- **The bytes arrive.**  What a function of the client sends is what the server takes out. -/
theorem extract_request (e : Description) (serviceName : String) (body : Option Bytes) :
    e.extract ((e.client serviceName).operation body).request.body = .ok (body.getD []) := by
  cases e with
  | subscription s => cases body <;> rfl
  | _ => rfl

/-- What the client hands over in each of the kinds, apart from the difference between nothing and
no bytes. -/
theorem serialize_eq (e : Description) {params : List SerdeType} {vs : Values params}
    {body : Option Bytes} (hopt : generateParamSerializationOptional params vs = .ok body)
    (hbytes : generateParamSerialization params vs = .ok (body.getD [])) :
    ∃ body', e.serialize params vs = .ok body' ∧ body'.getD [] = body.getD [] := by
  cases e with
  | method m => exact ⟨some (body.getD []), by rw [Description.serialize, hbytes]; rfl, rfl⟩
  | _ => exact ⟨body, hopt, rfl⟩

/-- **Parameters arrive as they were sent.**  For a function of each kind, any parameters and all
their values: if the types read back what they wrote, below the array that a tuple puts around
several of them, the client sends a request from which the server takes exactly these values. -/
theorem params_round_trip (e : Description) (serviceName : String) (params : List SerdeType)
    (h : ∀ t ∈ params, t.RoundTripsAt (paramDepth params)) (vs : Values params) :
    ∃ op, e.send serviceName params vs = .ok op ∧ e.receive params op.request = .ok vs := by
  obtain ⟨body, hopt, hbytes, hread⟩ := params_bytes h vs
  obtain ⟨body', hserialize, hsame⟩ := serialize_eq e hopt hbytes
  refine ⟨(e.client serviceName).operation body', ?_, ?_⟩
  · rw [Description.send, hserialize]
    rfl
  · rw [Description.receive, extract_request, hsame]
    exact hread

/-- `fn ping(&self)` as a method. -/
def pingMethod : Description :=
  .method ⟨"ping", ⟨[.named "method" "ping"], ⟨"ping", true, [.receiver], none⟩⟩, [], none⟩

/-- A pair, a unit and an array that is nested as deeply as it can be beside others. -/
theorem three_params_arrive : ∃ op,
    pingMethod.send "demo" [.tuple [.unit, .unit], .unit, nested 126]
        (((), (), ()), (), nestedValue 126, ()) = .ok op ∧
      pingMethod.receive [.tuple [.unit, .unit], .unit, nested 126] op.request =
        .ok (((), (), ()), (), nestedValue 126, ()) := by
  refine params_round_trip pingMethod "demo" _ (fun t ht ↦ ?_) _
  simp only [List.mem_cons, List.not_mem_nil, or_false] at ht
  rcases ht with rfl | rfl | rfl
  · refine @SerdeType.RoundTripsAt.tuple 126 _ (fun t ht ↦ ?_) (by decide)
    simp only [List.mem_cons, List.not_mem_nil, or_false, or_self] at ht
    exact ht ▸ unit_roundTripsAt 126
  · exact unit_roundTripsAt _
  · exact nested_roundTripsAt (by decide)

/-- A parameter that can be written, and not read below an array, is sent in vain beside another
one. -/
theorem receive_error_of_first {t : SerdeType} {v : t.Value} {first : Bytes}
    (hfirst : t.toVec v = .ok first)
    (hread : ∀ behind r, t.read (Json.recursionLimit - 1) (first ++ behind) ≠ .ok r) :
    ∃ op, pingMethod.send "demo" [t, .unit] (v, (), ()) = .ok op ∧
      ∃ error, pingMethod.receive [t, .unit] op.request = .error error := by
  have helements : writeElements [t, .unit] (v, (), ()) =
      .ok (first ++ (comma :: nullText ++ [])) := Except.bind_eq_ok.mpr ⟨first, hfirst, rfl⟩
  have hwrite : writeTuple [t, .unit] (v, (), ()) =
      .ok (opening :: (first ++ (comma :: nullText ++ [])) ++ [closing]) :=
    Except.bind_eq_ok.mpr ⟨_, helements, rfl⟩
  generalize opening :: (first ++ (comma :: nullText ++ [])) ++ [closing] = text at hwrite
  have hbytes : generateParamSerialization [t, .unit] (v, (), ()) = .ok text :=
    congrArg (Except.mapError ClientError.serialization) hwrite
  refine ⟨.call "demo" "ping" text, ?_, ?_⟩
  · exact congrArg (fun r ↦ (r.map some).map (pingMethod.client "demo").operation) hbytes
  · cases hres : (SerdeType.tuple [t, .unit]).fromSlice text with
    | error e =>
      exact ⟨_, congrArg (Except.mapError fun e ↦ ResourceError.callbackError
        ("Failed to deserialize parameters: " ++ e) .application none) hres⟩
    | ok vs =>
      obtain ⟨r, hr, -⟩ := Except.bind_eq_ok.mp hres
      have hno := readTuple_ne_ok hwrite hfirst hread [] r
      rw [List.append_nil] at hno
      exact absurd hr hno

/-- **A type that just fits alone does not fit beside another one.**  The type of 127 nested arrays
round-trips, and as one of two parameters it is sent and cannot be read. -/
theorem nested_parameter_lost :
    (∀ t ∈ [nested 127, .unit], t.RoundTrips) ∧
      ∃ op, pingMethod.send "demo" [nested 127, .unit] (nestedValue 127, (), ()) = .ok op ∧
        ∃ error, pingMethod.receive [nested 127, .unit] op.request = .error error := by
  have hnested : (nested 127).RoundTripsAt Json.recursionLimit := nested_roundTripsAt (by decide)
  constructor
  · intro t ht
    simp only [List.mem_cons, List.not_mem_nil, or_false] at ht
    rcases ht with rfl | rfl
    · exact roundTrips_iff.mpr hnested
    · exact roundTrips_iff.mpr (unit_roundTripsAt _)
  · obtain ⟨first, -, hfirst, -⟩ := hnested (nestedValue 127)
    exact receive_error_of_first hfirst fun behind r ↦
      nested_read_ne_ok (by decide) (Nat.le_refl 127) hfirst behind r

end Zel

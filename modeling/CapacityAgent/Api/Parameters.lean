/-
# Numeric query parameters

How `/v1/history` and `/v1/readiness` take their numeric parameters. They are converted
by `std::stoll` and `std::stoi`, and nothing in the handlers catches what these throw.
-/

import CapacityAgent.Api.GpuSummary
import CapacityAgent.Numerals

namespace CapacityAgent

open Strtol

/-! ## Handlers -/

/-- What a handler makes of a request: a normal answer, one of status 400, or an exception
that it lets escape. -/
inductive Reply (α : Type)
  | ok (body : α)
  | badRequest (error : CStr)
  | escaped (thrown : Thrown)
  deriving DecidableEq

def Reply.map {α β : Type} (f : α → β) : Reply α → Reply β
  | .ok body => .ok (f body)
  | .badRequest error => .badRequest error
  | .escaped thrown => .escaped thrown

/-- The answer is of status 400. -/
def Reply.Refused {α : Type} (reply : Reply α) : Prop := ∃ error, reply = .badRequest error

/-- A handler whose conversions are not caught. -/
def Reply.ofConversion {α : Type} : Except Thrown α → Reply α
  | .ok body => .ok body
  | .error thrown => .escaped thrown

/-- A parameter that is converted where it is given. -/
def numericParam (bits : ℕ) (absent : ℤ) : Option Bytes → Except Thrown ℤ
  | none => .ok absent
  | some param => convert bits param

/-- The parameters of `/v1/history`; the sensor is read through `c_str()`. -/
structure HistoryRequest where
  sensorUid : Option CStr
  fromMs : Option Bytes
  toMs : Option Bytes
  limit : Option Bytes

/-- The arguments of `QuerySensorHistory`. -/
structure HistoryQuery where
  sensorUid : CStr
  fromMs : ℤ
  toMs : ℤ
  limit : ℤ
  deriving DecidableEq

/-- The bounds put on a limit that is given. -/
def clampLimit (limit : ℤ) : ℤ :=
  let limit := if limit ≤ 0 then 500 else limit
  if limit > 10000 then 10000 else limit

/-- The limit, from its parameter. -/
def limitParam : Option Bytes → Except Thrown ℤ
  | none => .ok 500
  | some param => (convert 32 param).map clampLimit

/-- `/v1/history` up to its query. -/
def historyQuery (nowUtcMs : ℤ) (request : HistoryRequest) : Reply HistoryQuery :=
  match request.sensorUid with
  | none => .badRequest (text "\x7b\"error\":\"sensor_uid parameter is required\"\x7d")
  | some sensorUid =>
    .ofConversion do
      let fromMs ← numericParam 64 0 request.fromMs
      let toMs ← numericParam 64 nowUtcMs request.toMs
      let limit ← limitParam request.limit
      return ⟨sensorUid, fromMs, toMs, limit⟩

/-- `required_vram_bytes` of `/v1/readiness`. -/
def requiredVramBytes (param : Option Bytes) : Reply ℤ := .ofConversion (numericParam 64 0 param)

/-- `/v1/readiness`, with the results of its queries. -/
def readinessReply (machineId : CStr) (snapshot : LatestSnapshot)
    (collectors : List (CStr × CollectorRow)) (clock : ReadinessClock) (param : Option Bytes) :
    Reply CJson.Item :=
  (requiredVramBytes param).map (readinessResponse machineId snapshot collectors clock)

/-! ## Exactly or not at all -/

/-- The integer a parameter denotes as a whole. -/
def exactParam (bits : ℕ) (absent : ℤ) : Option Bytes → Option ℤ
  | none => some absent
  | some param => exact bits param

/-- The limit of the integer that its parameter denotes. -/
def exactLimit : Option Bytes → Option ℤ
  | none => some 500
  | some param => (exact 32 param).map clampLimit

/-- The query of the integers that the parameters denote. -/
def HistoryRequest.exactQuery (nowUtcMs : ℤ) (request : HistoryRequest) (sensorUid : CStr) :
    Option HistoryQuery := do
  let fromMs ← exactParam 64 0 request.fromMs
  let toMs ← exactParam 64 nowUtcMs request.toMs
  let limit ← exactLimit request.limit
  return ⟨sensorUid, fromMs, toMs, limit⟩

/-- The reply uses the value where there is one, and is of status 400 otherwise. -/
def Uses {α : Type} (reply : Reply α) : Option α → Prop
  | some value => reply = .ok value
  | none => reply.Refused

/-- The parameters of the request are taken as the integers they denote or refused. -/
def HistoryRequest.TakenExactly (nowUtcMs : ℤ) (request : HistoryRequest) : Prop :=
  Uses (historyQuery nowUtcMs request) (request.sensorUid.bind (request.exactQuery nowUtcMs))

/-- The same of `required_vram_bytes`. -/
def RequiredTakenExactly (param : Option Bytes) : Prop :=
  Uses (requiredVramBytes param) (exactParam 64 0 param)

/-- A parameter that is given is the decimal text of an integer of the type. -/
def Whole (bits : ℕ) (param : Option Bytes) : Prop := ∀ s ∈ param, (exact bits s).isSome = true

/-- All numeric parameters of the request are. -/
def HistoryRequest.AllWhole (request : HistoryRequest) : Prop :=
  Whole 64 request.fromMs ∧ Whole 64 request.toMs ∧ Whole 32 request.limit

/-! ## What the conversions do -/

theorem numericParam_of_exact {bits : ℕ} {absent n : ℤ} {param : Option Bytes}
    (denotes : exactParam bits absent param = some n) : numericParam bits absent param = .ok n := by
  cases param with
  | none => exact congrArg Except.ok (Option.some.inj denotes)
  | some param => exact convert_of_exact denotes

theorem isSome_exactParam_iff (bits : ℕ) (absent : ℤ) (param : Option Bytes) :
    (exactParam bits absent param).isSome = true ↔ Whole bits param := by
  cases param with
  | none => exact iff_of_true rfl (fun _ => nofun)
  | some param => simp [exactParam, Whole]

theorem isSome_exactLimit_iff (param : Option Bytes) :
    (exactLimit param).isSome = true ↔ Whole 32 param := by
  cases param with
  | none => exact iff_of_true rfl (fun _ => nofun)
  | some param => simp [exactLimit, Whole]

/-- A conversion is never answered with status 400. -/
theorem not_refused_ofConversion {α : Type} (conversion : Except Thrown α) :
    ¬ (Reply.ofConversion conversion).Refused := by
  rintro ⟨error, same⟩
  cases conversion <;> cases same

/-- A conversion that has a given value wherever there is one is used exactly when there
is. -/
theorem uses_ofConversion_iff {α : Type} {conversion : Except Thrown α} {value : Option α}
    (converts : ∀ a ∈ value, conversion = .ok a) :
    Uses (.ofConversion conversion) value ↔ value.isSome = true := by
  cases value with
  | none => exact iff_of_false (not_refused_ofConversion conversion) (by simp)
  | some a =>
    rw [converts a rfl]
    exact iff_of_true rfl rfl

/-- The conversions of `/v1/history`. -/
theorem historyQuery_of_some {request : HistoryRequest} {sensorUid : CStr}
    (given : request.sensorUid = some sensorUid) (nowUtcMs : ℤ) :
    historyQuery nowUtcMs request = .ofConversion do
      let fromMs ← numericParam 64 0 request.fromMs
      let toMs ← numericParam 64 nowUtcMs request.toMs
      let limit ← limitParam request.limit
      return ⟨sensorUid, fromMs, toMs, limit⟩ := by
  rw [historyQuery, given]

theorem limitParam_of_exact {limit : ℤ} {param : Option Bytes}
    (denotes : exactLimit param = some limit) : limitParam param = .ok limit := by
  cases param with
  | none => exact congrArg Except.ok (Option.some.inj denotes)
  | some param =>
    obtain ⟨n, whole, rfl⟩ := Option.map_eq_some_iff.mp denotes
    rw [limitParam, convert_of_exact whole]
    rfl

/-- The exact query is what the conversions give. -/
theorem conversions_of_exactQuery {request : HistoryRequest} {nowUtcMs : ℤ} {sensorUid : CStr}
    {query : HistoryQuery} (denotes : request.exactQuery nowUtcMs sensorUid = some query) :
    (do
      let fromMs ← numericParam 64 0 request.fromMs
      let toMs ← numericParam 64 nowUtcMs request.toMs
      let limit ← limitParam request.limit
      return ⟨sensorUid, fromMs, toMs, limit⟩) = (.ok query : Except Thrown HistoryQuery) := by
  obtain ⟨fromMs, fromDenotes, denotes⟩ := Option.bind_eq_some_iff.mp denotes
  obtain ⟨toMs, toDenotes, denotes⟩ := Option.bind_eq_some_iff.mp denotes
  obtain ⟨limit, limitDenotes, denotes⟩ := Option.bind_eq_some_iff.mp denotes
  obtain rfl := Option.some.inj denotes
  rw [numericParam_of_exact fromDenotes, numericParam_of_exact toDenotes,
    limitParam_of_exact limitDenotes]
  rfl

/-- There is an exact query where every parameter is one integer's text. -/
theorem isSome_exactQuery_iff (request : HistoryRequest) (nowUtcMs : ℤ) (sensorUid : CStr) :
    (request.exactQuery nowUtcMs sensorUid).isSome = true ↔ request.AllWhole := by
  unfold HistoryRequest.exactQuery HistoryRequest.AllWhole
  rw [← isSome_exactParam_iff 64 0, ← isSome_exactParam_iff 64 nowUtcMs, ← isSome_exactLimit_iff]
  cases exactParam 64 0 request.fromMs with
  | none => simp
  | some fromMs =>
    cases exactParam 64 nowUtcMs request.toMs with
    | none => simp
    | some toMs =>
      cases limitDenotes : exactLimit request.limit with
      | none => simp
      | some limit => simp

/-- **When numeric parameters are taken exactly or refused**: for `/v1/history` when the
sensor is missing or every numeric parameter is, as a whole, the decimal text of an integer
of its type; for `/v1/readiness` when the one parameter is. -/
theorem numericParameters_iff (nowUtcMs : ℤ) :
    (∀ request : HistoryRequest, request.TakenExactly nowUtcMs ↔
      request.sensorUid = none ∨ request.AllWhole) ∧
    ∀ param : Option Bytes, RequiredTakenExactly param ↔ Whole 64 param := by
  constructor
  · intro request
    unfold HistoryRequest.TakenExactly
    cases given : request.sensorUid with
    | none =>
      refine iff_of_true ?_ (.inl rfl)
      rw [Option.bind_none, historyQuery, given]
      exact ⟨_, rfl⟩
    | some sensorUid =>
      rw [historyQuery_of_some given, Option.bind_some, ← isSome_exactQuery_iff request nowUtcMs
        sensorUid]
      simp only [reduceCtorEq, false_or]
      exact uses_ofConversion_iff fun query denotes => conversions_of_exactQuery denotes
  · intro param
    rw [← isSome_exactParam_iff 64 0]
    exact uses_ofConversion_iff fun n denotes => numericParam_of_exact denotes

/-- A demand of `8GB` is taken for eight bytes, and an empty start of the range makes the
handler throw. -/
theorem numericParameters_not_always_exact :
    ¬ ((∀ (nowUtcMs : ℤ) (request : HistoryRequest), request.TakenExactly nowUtcMs) ∧
      ∀ param : Option Bytes, RequiredTakenExactly param) ∧
      requiredVramBytes (some (lit "8GB")) = .ok 8 ∧
      historyQuery 0 ⟨some (text "cpu"), some [], none, none⟩ = .escaped .invalidArgument := by
  have taken : requiredVramBytes (some (lit "8GB")) = .ok 8 := by decide +kernel
  refine ⟨fun ⟨_, always⟩ => ?_, taken, by decide +kernel⟩
  obtain ⟨error, refused⟩ : (requiredVramBytes (some (lit "8GB"))).Refused :=
    always (some (lit "8GB"))
  exact nomatch taken.symm.trans refused

end CapacityAgent

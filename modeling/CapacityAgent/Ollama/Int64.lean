/-
# JSON numbers as 64-bit integers

`GetRequiredInt64` and the loop of `OllamaRuntimeCollector::PollOnce` cast a `valuedouble`
to `std::int64_t` and, the loop, add what they get. Here every cast and every sum is checked,
and a run that is not defined has no result. `ParseBridgeMessage` comes to its cast only in a
heartbeat whose envelope and status are there.
-/

import CapacityAgent.Library.Checks
import CapacityAgent.Library.Signed
import CapacityAgent.Ollama.Runtime
import CapacityAgent.Parser.BridgeMessage
import Mathlib.Algebra.Order.BigOperators.Group.List
import Mathlib.Tactic.Linarith
import Mathlib.Tactic.Positivity

namespace CapacityAgent

open Checks Signed
open CJson (Item)

/-! ## Casts and sums -/

/-- What has no meaning in C++. -/
inductive Undefined
  | conversion
  | overflow
  deriving DecidableEq

/-- The run has a result. -/
def Defined {α : Type} (run : Except Undefined α) : Prop := ∃ result, run = .ok result

/-- The numbers of the range. Near its ends a `double` is an integer, so truncation brings
none into it. -/
def Convertible (value : Double) : Prop := -2 ^ 63 ≤ value ∧ value < 2 ^ 63

instance (value : Double) : Decidable (Convertible value) :=
  inferInstanceAs (Decidable (-2 ^ 63 ≤ value ∧ value < 2 ^ 63))

/-- `static_cast<std::int64_t>`. -/
def castInt64 (value : Double) : Except Undefined ℤ :=
  if Convertible value then .ok (CJson.truncate value) else .error .conversion

/-- `GetRequiredInt64`; what it returns, if it does. -/
def getRequiredInt64Run (object : Item) (key : CStr) : Except Undefined (Except CStr ℤ) :=
  match getRequiredNumber object key with
  | .error error => .ok (.error error)
  | .ok valuedouble => (castInt64 valuedouble).map .ok

/-- The number a field holds, absent when it is none. -/
def numberItem (model : Item) (name : String) : Option Double :=
  match getObjectItem model (text name) with
  | some (.number valuedouble) => some valuedouble
  | _ => none

/-- The integer of a field, if it holds a number. -/
def castField (model : Item) (name : String) : Except Undefined (Option ℤ) :=
  match numberItem model name with
  | none => .ok none
  | some valuedouble => (castInt64 valuedouble).map some

/-- `total_vram_bytes` and `total_ram_bytes`. -/
structure Totals where
  vram : ℤ
  ram : ℤ
  deriving DecidableEq

/-- `total_vram_bytes += ...`, where there is a number. -/
def Totals.addVram (totals : Totals) : Option ℤ → Except Undefined Totals
  | none => .ok totals
  | some sizeVram =>
    (checked 64 .overflow (totals.vram + sizeVram)).map fun vram => { totals with vram := vram }

/-- `total_ram_bytes += (total_size - vram)`, where there is more. -/
def Totals.addRam (totals : Totals) (vram : ℤ) : Option ℤ → Except Undefined Totals
  | none => .ok totals
  | some totalSize =>
    if vram < totalSize then
      (checked 64 .overflow (totalSize - vram)).bind fun part =>
        (checked 64 .overflow (totals.ram + part)).map fun ram => { totals with ram := ram }
    else .ok totals

/-- One turn of the loop over the models. -/
def Totals.addModel (totals : Totals) (model : Item) : Except Undefined Totals := do
  let sizeVram ← castField model "size_vram"
  let added ← totals.addVram sizeVram
  let size ← castField model "size"
  added.addRam (sizeVram.getD 0) size

/-- The totals after the loop. -/
def residentTotals (models : List Item) : Except Undefined Totals :=
  models.foldlM Totals.addModel ⟨0, 0⟩

/-! ## When the casts and sums are defined -/

/-- The decimals that are convertible when they are read: half a unit in the last place away
from the range they are rounded out of it, or into it. -/
theorem convertible_held_iff {x : ℚ} :
    Convertible (Binary64.held x) ↔ -2 ^ 63 - 2 ^ 10 ≤ x ∧ x < 2 ^ 63 - 2 ^ 9 :=
  Binary64.held_inRange_iff

theorem castInt64_eq_ok_iff {value : Double} {n : ℤ} :
    castInt64 value = .ok n ↔ Convertible value ∧ CJson.truncate value = n := by
  unfold castInt64
  split_ifs with convertible <;> simp [convertible]

theorem map_truncate_numberItem (model : Item) (name : String) :
    (numberItem model name).map CJson.truncate = numberField model name := by
  unfold numberField numberItem
  cases getObjectItem model (text name) with
  | none => rfl
  | some item => cases item <;> rfl

/-- The integer that a field counts for. -/
def fieldInt (model : Item) (name : String) : ℤ := (numberField model name).getD 0

/-- What a size adds to the RAM. -/
def ramPart (vram : ℤ) : Option ℤ → ℤ
  | none => 0
  | some totalSize => max 0 (totalSize - vram)

/-- What a model has outside the VRAM. -/
def residentRam (model : Item) : ℤ :=
  ramPart (fieldInt model "size_vram") (numberField model "size")

/-- The numbers of a model are convertible. -/
def ModelConvertible (model : Item) : Prop :=
  ∀ name ∈ ["size_vram", "size"], ∀ value ∈ numberItem model name, Convertible value

/-- The numbers of the models are convertible, the VRAM with that of the first ones is a
64-bit integer for every number of them, and so is the RAM with that of all. -/
structure TotalsFit (totals : Totals) (models : List Item) : Prop where
  convertible : ∀ model ∈ models, ModelConvertible model
  vram : ∀ k, Fits 64
    (totals.vram + ((models.take k).map fun model => fieldInt model "size_vram").sum)
  ram : Fits 64 (totals.ram + (models.map residentRam).sum)

theorem castField_eq_ok_iff {model : Item} {name : String} {n : Option ℤ} :
    castField model name = .ok n ↔
      (∀ value ∈ numberItem model name, Convertible value) ∧ numberField model name = n := by
  rw [← map_truncate_numberItem, castField]
  cases numberItem model name with
  | none => simp
  | some value =>
    rw [map_eq_ok_iff]
    simp [castInt64_eq_ok_iff]

theorem Totals.addVram_eq_ok_iff {totals next : Totals} (fits : Fits 64 totals.vram)
    {sizeVram : Option ℤ} :
    totals.addVram sizeVram = .ok next ↔
      Fits 64 (totals.vram + sizeVram.getD 0) ∧
        { totals with vram := totals.vram + sizeVram.getD 0 } = next := by
  cases sizeVram with
  | none => simp [Totals.addVram, fits]
  | some sizeVram =>
    rw [Totals.addVram, map_eq_ok_iff]
    simp only [checked_eq_ok_iff, Option.getD_some]
    exact ⟨fun ⟨_, ⟨fits, rfl⟩, same⟩ => ⟨fits, same⟩, fun ⟨fits, same⟩ => ⟨_, ⟨fits, rfl⟩, same⟩⟩

/-- The sum fits only if its parts do, which are not negative. -/
theorem fits_of_add {bits : ℕ} {a b : ℤ} (first : 0 ≤ a) (second : 0 ≤ b)
    (sum : Fits bits (a + b)) : Fits bits a ∧ Fits bits b := by
  obtain ⟨low, high⟩ := sum
  have positive : (0 : ℤ) < 2 ^ (bits - 1) := by positivity
  exact ⟨⟨by linarith, by linarith⟩, by linarith, by linarith⟩

theorem Totals.addRam_eq_ok_iff {totals next : Totals} (nonneg : 0 ≤ totals.ram)
    (fits : Fits 64 totals.ram) {vram : ℤ} {size : Option ℤ} :
    totals.addRam vram size = .ok next ↔
      Fits 64 (totals.ram + ramPart vram size) ∧
        { totals with ram := totals.ram + ramPart vram size } = next := by
  cases size with
  | none => simp [Totals.addRam, ramPart, fits]
  | some totalSize =>
    rw [Totals.addRam, ramPart]
    by_cases more : vram < totalSize
    · have part : max 0 (totalSize - vram) = totalSize - vram := max_eq_right (by omega)
      rw [if_pos more, part]
      constructor
      · intro added
        obtain ⟨_, difference, summed⟩ := bind_eq_ok_iff.mp added
        obtain ⟨-, rfl⟩ := checked_eq_ok_iff.mp difference
        obtain ⟨_, sum, same⟩ := map_eq_ok_iff.mp summed
        obtain ⟨sumFits, rfl⟩ := checked_eq_ok_iff.mp sum
        exact ⟨sumFits, same⟩
      · rintro ⟨sumFits, same⟩
        have partFits := (fits_of_add nonneg (sub_nonneg.mpr more.le) sumFits).2
        exact bind_eq_ok_iff.mpr ⟨_, checked_eq_ok_iff.mpr ⟨partFits, rfl⟩,
          map_eq_ok_iff.mpr ⟨_, checked_eq_ok_iff.mpr ⟨sumFits, rfl⟩, same⟩⟩
    · have part : max 0 (totalSize - vram) = 0 := max_eq_left (by omega)
      rw [if_neg more, part, add_zero]
      simp [fits]

theorem ramPart_nonneg (vram : ℤ) (size : Option ℤ) : 0 ≤ ramPart vram size := by
  cases size with
  | none => exact le_rfl
  | some totalSize => exact le_max_left 0 _

/-- One turn adds what the model has, if it is convertible and the sums fit. -/
theorem Totals.addModel_eq_ok_iff {totals next : Totals} (nonneg : 0 ≤ totals.ram)
    (vramFits : Fits 64 totals.vram) (ramFits : Fits 64 totals.ram) {model : Item} :
    totals.addModel model = .ok next ↔
      ModelConvertible model ∧ Fits 64 (totals.vram + fieldInt model "size_vram") ∧
        Fits 64 (totals.ram + residentRam model) ∧
        ⟨totals.vram + fieldInt model "size_vram", totals.ram + residentRam model⟩ = next := by
  unfold Totals.addModel ModelConvertible
  rw [bind_eq_ok_iff]
  simp only [bind_eq_ok_iff, castField_eq_ok_iff, Totals.addVram_eq_ok_iff vramFits,
    List.forall_mem_cons, List.not_mem_nil, false_implies, implies_true, and_true]
  constructor
  · rintro ⟨_, ⟨vramConvertible, rfl⟩, _, ⟨vramSum, rfl⟩, _, ⟨sizeConvertible, rfl⟩, ram⟩
    obtain ⟨ramSum, same⟩ := (Totals.addRam_eq_ok_iff (by exact nonneg) (by exact ramFits)).mp ram
    exact ⟨⟨vramConvertible, sizeConvertible⟩, vramSum, ramSum, same⟩
  · rintro ⟨⟨vramConvertible, sizeConvertible⟩, vramSum, ramSum, same⟩
    exact ⟨_, ⟨vramConvertible, rfl⟩, _, ⟨vramSum, rfl⟩, _, ⟨sizeConvertible, rfl⟩,
      (Totals.addRam_eq_ok_iff (by exact nonneg) (by exact ramFits)).mpr ⟨ramSum, same⟩⟩

/-- The loop adds up what the models have, if all are convertible and the sums fit. -/
theorem foldlM_addModel_eq_ok_iff {totals result : Totals} {models : List Item}
    (nonneg : 0 ≤ totals.ram) (vramFits : Fits 64 totals.vram) (ramFits : Fits 64 totals.ram) :
    models.foldlM Totals.addModel totals = .ok result ↔
      TotalsFit totals models ∧
        ⟨totals.vram + (models.map fun model => fieldInt model "size_vram").sum,
          totals.ram + (models.map residentRam).sum⟩ = result := by
  induction models generalizing totals with
  | nil =>
    have fit : TotalsFit totals [] :=
      ⟨nofun, fun k => by simpa using vramFits, by simpa using ramFits⟩
    simp [fit, pure, Except.pure]
  | cons model rest ih =>
    rw [List.foldlM_cons, bind_eq_ok_iff]
    simp only [Totals.addModel_eq_ok_iff nonneg vramFits ramFits, List.map_cons, List.sum_cons]
    constructor
    · rintro ⟨_, ⟨convertible, vramSum, ramSum, rfl⟩, later⟩
      obtain ⟨fit, same⟩ := (ih (by exact add_nonneg nonneg (ramPart_nonneg _ _)) vramSum
        ramSum).mp later
      refine ⟨⟨List.forall_mem_cons.mpr ⟨convertible, fit.convertible⟩, fun k => ?_, ?_⟩, ?_⟩
      · cases k with
        | zero => simpa using vramFits
        | succ k => simpa [add_assoc] using fit.vram k
      · simpa [add_assoc] using fit.ram
      · rw [← same, add_assoc, add_assoc]
    · rintro ⟨fit, same⟩
      obtain ⟨convertible, others⟩ := List.forall_mem_cons.mp fit.convertible
      have vramSum : Fits 64 (totals.vram + fieldInt model "size_vram") := by
        simpa using fit.vram 1
      have sumNonneg : 0 ≤ (rest.map residentRam).sum :=
        List.sum_nonneg fun n member => by
          obtain ⟨other, -, rfl⟩ := List.mem_map.mp member
          exact ramPart_nonneg _ _
      have whole : Fits 64 (totals.ram + residentRam model + (rest.map residentRam).sum) := by
        simpa [add_assoc] using fit.ram
      have nextNonneg : 0 ≤ totals.ram + residentRam model :=
        add_nonneg nonneg (ramPart_nonneg _ _)
      have ramSum := (fits_of_add nextNonneg sumNonneg whole).1
      refine ⟨_, ⟨convertible, vramSum, ramSum, rfl⟩, (ih nextNonneg vramSum ramSum).mpr
        ⟨⟨others, fun k => ?_, whole⟩, ?_⟩⟩
      · simpa [add_assoc] using fit.vram (k + 1)
      · rw [← same, add_assoc, add_assoc]

theorem defined_residentTotals_iff (models : List Item) :
    Defined (residentTotals models) ↔ TotalsFit ⟨0, 0⟩ models := by
  have zero : Fits 64 0 := ⟨by decide, by decide⟩
  constructor
  · rintro ⟨totals, result⟩
    exact ((foldlM_addModel_eq_ok_iff le_rfl zero zero).mp result).1
  · exact fun fit => ⟨_, (foldlM_addModel_eq_ok_iff le_rfl zero zero).mpr ⟨fit, rfl⟩⟩

/-! ## Polls -/

theorem ramBytes_eq_residentRam (model : Item) : ramBytes model = residentRam model := by
  rw [ramBytes, residentRam, fieldInt]
  cases numberField model "size" with
  | none => rfl
  | some size =>
    dsimp only [ramPart]
    split_ifs with more
    · exact (max_eq_right (by omega)).symm
    · exact (max_eq_left (by omega)).symm

/-- The totals of `pollOnce` are those of the loop. -/
theorem residentTotals_of_fit {models : List Item} (fit : TotalsFit ⟨0, 0⟩ models) :
    residentTotals models = .ok ⟨totalVramBytes models, totalRamBytes models⟩ := by
  have zero : Fits 64 0 := ⟨by decide, by decide⟩
  refine (foldlM_addModel_eq_ok_iff le_rfl zero zero).mpr ⟨fit, ?_⟩
  have vram : (models.map fun model => fieldInt model "size_vram").sum = totalVramBytes models := by
    rw [totalVramBytes]
    clear fit
    induction models with
    | nil => rfl
    | cons model rest ih =>
      rw [List.map_cons, List.sum_cons, ih, List.filterMap_cons, fieldInt]
      cases numberField model "size_vram" with
      | none => exact zero_add _
      | some vram => rfl
  have ram : models.map residentRam = models.map ramBytes :=
    List.map_congr_left fun model _ => (ramBytes_eq_residentRam model).symm
  rw [vram, ram, totalRamBytes, zero_add, zero_add]

/-! ## Heartbeats -/

/-- A run of the parser, which may end with an error or have no result. -/
abbrev ParserRun := ExceptT CStr (Except Undefined)

/-- `ParseHeartbeat`. -/
def parseHeartbeatRun (root : Item) : ParserRun HeartbeatMessage := do
  let envelope ← .mk (.ok (parseEnvelope root))
  let status ← .mk (.ok (getRequiredString root (text "status")))
  let uptimeSeconds ← .mk (getRequiredInt64Run root (text "uptime_s"))
  let catalogCount ← .mk (.ok (getRequiredInt root (text "catalog_count")))
  return { envelope, status, uptimeSeconds, catalogCount }

/-- What `ParseBridgeMessage` makes of an item; the other kinds of messages cast nothing. -/
def parseRootRun (formatDouble : Double → Bytes) (root : Item) : ParserRun BridgeMessage :=
  if getRequiredString root (text "type") = .ok (text "heartbeat") then
    .heartbeat <$> parseHeartbeatRun root
  else .mk (.ok (parseRoot formatDouble root))

/-- `ParseBridgeMessage`. -/
def parseBridgeMessageRun (formatDouble : Double → Bytes) (jsonLine : Bytes) :
    ParserRun BridgeMessage :=
  match CJson.parse (CStr.ofBytes jsonLine) with
  | some root => parseRootRun formatDouble root
  | none => .mk (.ok (.error (text "Invalid JSON payload")))

/-- The parser comes to `uptime_s`: the item is a heartbeat, and what is asked for before is
there. -/
structure ReachesUptime (root : Item) : Prop where
  type : getRequiredString root (text "type") = .ok (text "heartbeat")
  envelope : ∃ envelope, parseEnvelope root = .ok envelope
  status : ∃ status, getRequiredString root (text "status") = .ok status

/-- The number that the parser casts, if it comes to a number there, is in the range. -/
def UptimeConvertible (root : Item) : Prop :=
  ReachesUptime root → ∀ value, getRequiredNumber root (text "uptime_s") = .ok value →
    Convertible value

section Heartbeats

variable {root : Item}

/-- A heartbeat that does not come to the cast is refused with the parser's error. -/
theorem run_parseHeartbeatRun_of_not (type : getRequiredString root (text "type") =
      .ok (text "heartbeat")) (fails : ¬ ReachesUptime root) :
    (parseHeartbeatRun root).run = .ok (parseHeartbeat root) := by
  rw [parseHeartbeatRun, parseHeartbeat]
  cases envelope : parseEnvelope root with
  | error error => rfl
  | ok read =>
    cases status : getRequiredString root (text "status") with
    | error error => rfl
    | ok stated => exact absurd ⟨type, ⟨read, envelope⟩, ⟨stated, status⟩⟩ fails

/-- One that does is parsed when the cast is defined. -/
theorem run_parseHeartbeatRun_of_convertible (reaches : ReachesUptime root)
    (convertible : ∀ value, getRequiredNumber root (text "uptime_s") = .ok value →
      Convertible value) :
    (parseHeartbeatRun root).run = .ok (parseHeartbeat root) := by
  obtain ⟨envelope, read⟩ := reaches.envelope
  obtain ⟨status, stated⟩ := reaches.status
  rw [parseHeartbeatRun, parseHeartbeat, read, stated, getRequiredInt64Run, getRequiredInt64]
  cases number : getRequiredNumber root (text "uptime_s") with
  | error error => rfl
  | ok value =>
    have cast : castInt64 value = .ok (CJson.truncate value) :=
      castInt64_eq_ok_iff.mpr ⟨convertible value number, rfl⟩
    dsimp only
    rw [cast]
    cases getRequiredInt root (text "catalog_count") <;> rfl

theorem run_parseHeartbeatRun_of_not_convertible (reaches : ReachesUptime root) {value : Double}
    (number : getRequiredNumber root (text "uptime_s") = .ok value)
    (outside : ¬ Convertible value) :
    (parseHeartbeatRun root).run = .error .conversion := by
  obtain ⟨envelope, read⟩ := reaches.envelope
  obtain ⟨status, stated⟩ := reaches.status
  have cast : castInt64 value = .error .conversion := if_neg outside
  rw [parseHeartbeatRun, read, stated, getRequiredInt64Run, number]
  dsimp only
  rw [cast]
  rfl

theorem parseRoot_of_heartbeat (formatDouble : Double → Bytes)
    (type : getRequiredString root (text "type") = .ok (text "heartbeat")) :
    parseRoot formatDouble root = .heartbeat <$> parseHeartbeat root := by
  have hello : text "heartbeat" ≠ text "hello" := by decide
  have catalogSnapshot : text "heartbeat" ≠ text "catalog_snapshot" := by decide
  have sampleBatch : text "heartbeat" ≠ text "sample_batch" := by decide
  rw [parseRoot, type]
  simp only [bind, Except.bind]
  rw [if_neg hello, if_neg catalogSnapshot, if_neg sampleBatch, if_pos trivial]

/-- The run has a result exactly when the cast it comes to is defined, and then the parser's. -/
theorem run_parseRootRun_eq_ok_iff {formatDouble : Double → Bytes}
    {result : Except CStr BridgeMessage} :
    (parseRootRun formatDouble root).run = .ok result ↔
      UptimeConvertible root ∧ parseRoot formatDouble root = result := by
  by_cases type : getRequiredString root (text "type") = .ok (text "heartbeat")
  · have whole : (parseRootRun formatDouble root).run =
        (parseHeartbeatRun root).run.map (.heartbeat <$> ·) := by
      rw [parseRootRun, if_pos type, ExceptT.run_map]
      rfl
    rw [whole, map_eq_ok_iff, parseRoot_of_heartbeat formatDouble type]
    by_cases convertible : UptimeConvertible root
    · have run : (parseHeartbeatRun root).run = .ok (parseHeartbeat root) := by
        by_cases reaches : ReachesUptime root
        · exact run_parseHeartbeatRun_of_convertible reaches (convertible reaches)
        · exact run_parseHeartbeatRun_of_not type reaches
      simp [run, convertible]
    · unfold UptimeConvertible at convertible
      push Not at convertible
      obtain ⟨reaches, value, number, outside⟩ := convertible
      have run := run_parseHeartbeatRun_of_not_convertible reaches number outside
      refine iff_of_false (by simp [run]) fun ⟨convertible, _⟩ => ?_
      exact outside (convertible reaches value number)
  · have convertible : UptimeConvertible root := fun reaches => absurd reaches.type type
    have run : (parseRootRun formatDouble root).run = .ok (parseRoot formatDouble root) := by
      rw [parseRootRun, if_neg type]
      rfl
    simp [run, convertible]

end Heartbeats

/-! ## Documents -/

/-- `ParseBridgeMessage` is defined for the line. -/
def UptimeDefined (formatDouble : Double → Bytes) (jsonLine : Bytes) : Prop :=
  Defined (parseBridgeMessageRun formatDouble jsonLine).run

/-- The casts and sums of a poll are defined for the document, as the answer of Ollama. -/
def TotalsDefined (document : CStr) : Prop :=
  ∀ root ∈ CJson.parse document, Defined (residentTotals (modelItems root))

theorem uptimeDefined_iff (formatDouble : Double → Bytes) (jsonLine : Bytes) :
    UptimeDefined formatDouble jsonLine ↔
      ∀ root ∈ CJson.parse (CStr.ofBytes jsonLine), UptimeConvertible root := by
  unfold UptimeDefined parseBridgeMessageRun
  cases CJson.parse (CStr.ofBytes jsonLine) with
  | none => exact iff_of_true ⟨_, rfl⟩ nofun
  | some root =>
    constructor
    · rintro ⟨result, run⟩ _ ⟨⟩
      exact (run_parseRootRun_eq_ok_iff.mp run).1
    · intro convertible
      exact ⟨_, run_parseRootRun_eq_ok_iff.mpr ⟨convertible root rfl, rfl⟩⟩

/-- **When the casts and sums of JSON numbers are defined**: for a line of the pipe when the
`uptime_s` of a heartbeat is convertible, if the parser comes to a number there; for a poll when
every `size_vram` and `size` is, and the sums of the VRAM of the first models, and of the RAM of
all, are 64-bit integers. -/
theorem numbersDefined_iff (formatDouble : Double → Bytes) (jsonLine : Bytes) (document : CStr) :
    (UptimeDefined formatDouble jsonLine ↔
      ∀ root ∈ CJson.parse (CStr.ofBytes jsonLine), UptimeConvertible root) ∧
      (TotalsDefined document ↔ ∀ root ∈ CJson.parse document,
        TotalsFit ⟨0, 0⟩ (modelItems root)) :=
  ⟨uptimeDefined_iff formatDouble jsonLine,
    forall₂_congr fun root _ => defined_residentTotals_iff (modelItems root)⟩

/-- A heartbeat with an uptime that is read as infinite. -/
def infiniteUptime : Bytes :=
  lit "\x7b\"type\":\"heartbeat\",\"schema_version\":1,\"source\":\"librehw_bridge\"," ++
    lit "\"machine_id\":\"pc\",\"sent_at_utc\":\"2026-01-01T00:00:00Z\",\"status\":\"ok\"," ++
    lit "\"uptime_s\":1e999,\"catalog_count\":0\x7d"

/-- An infinite `uptime_s` is cast, and two models of five exabytes overflow the total. -/
theorem numbers_not_always_defined :
    (∀ formatDouble, ¬ UptimeDefined formatDouble infiniteUptime) ∧
      ¬ TotalsDefined
        (text "\x7b\"models\":[\x7b\"size_vram\":5e18\x7d,\x7b\"size_vram\":5e18\x7d]\x7d") := by
  constructor
  · intro formatDouble always
    have run : (CJson.parse (CStr.ofBytes infiniteUptime)).map
        (fun root => (getRequiredString root (text "type"), (parseHeartbeatRun root).run)) =
          some (.ok (text "heartbeat"), .error .conversion) := by
      decide +kernel
    obtain ⟨root, parsed, found⟩ := Option.map_eq_some_iff.mp run
    obtain ⟨type, undefined⟩ := Prod.mk.inj found
    obtain ⟨result, defined⟩ := always
    rw [parseBridgeMessageRun, parsed] at defined
    dsimp only at defined
    rw [parseRootRun, if_pos type, ExceptT.run_map, undefined] at defined
    exact nomatch defined
  · intro always
    have run : (CJson.parse
        (text "\x7b\"models\":[\x7b\"size_vram\":5e18\x7d,\x7b\"size_vram\":5e18\x7d]\x7d")).map
        (residentTotals <| modelItems ·) = some (.error .overflow) := by
      decide +kernel
    obtain ⟨root, parsed, undefined⟩ := Option.map_eq_some_iff.mp run
    obtain ⟨result, defined⟩ := always root parsed
    exact nomatch undefined.symm.trans defined

end CapacityAgent

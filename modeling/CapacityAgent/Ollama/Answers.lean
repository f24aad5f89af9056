/-
# Ollama's answers

What Ollama says is a JSON text of its own layout. Where the sizes in it are whole numbers of
bytes, the loop over the models computes without rounding or overflow what the answer says, and
the row that is stored holds it.
-/

import CapacityAgent.CJson.Reading
import CapacityAgent.Library.JsonCompact
import CapacityAgent.Ollama.Int64

namespace CapacityAgent

open CJson (Item LineDenotes itemOfDatum itemsOfData childrenOfData)
open Json (Datum)
open Signed

/-! ## What is said -/

/-- What an object says under a name: the first member whose name is the same without case. -/
def sayingOf (name : String) : Datum → Option Datum
  | .object members =>
    (members.find? fun member =>
      (CStr.ofBytes member.1).bytes.map toLower = (text name).bytes.map toLower).map Prod.snd
  | _ => none

/-- The loaded models of an answer. -/
def saidModels (said : Datum) : List Datum :=
  match sayingOf "models" said with
  | some (.array models) => models
  | _ => []

/-- The number a model has under a name. -/
def saidNumber (name : String) (model : Datum) : Option ℚ :=
  match sayingOf name model with
  | some (.number bytes) => some bytes
  | _ => none

/-- The bytes a model has under a name, 0 without a number. -/
def saidBytes (name : String) (model : Datum) : ℚ := (saidNumber name model).getD 0

/-- The bytes of a model outside the VRAM. -/
def saidRest (model : Datum) : ℚ := max 0 (saidBytes "size" model - saidBytes "size_vram" model)

/-- The bytes in the VRAM. -/
def saidVram (said : Datum) : ℚ := ((saidModels said).map (saidBytes "size_vram")).sum

/-- The bytes outside of it. -/
def saidRam (said : Datum) : ℚ := ((saidModels said).map saidRest).sum

/-- The sizes of a model are whole numbers of bytes. -/
def WholeModel (model : Datum) : Prop :=
  ∀ name ∈ ["size_vram", "size"], ∀ bytes ∈ saidNumber name model, ∃ n : ℕ, bytes = n

/-- All sizes are whole, and less than a petabyte in and outside the VRAM; an `int` counts the
models. -/
structure WholeSizes (said : Datum) : Prop where
  whole : ∀ model ∈ saidModels said, WholeModel model
  few : (saidModels said).length < 2 ^ 31
  vram : saidVram said < 10 ^ 15
  ram : saidRam said < 10 ^ 15

/-! ## Items -/

theorem getObjectItem_itemOfDatum (d : Datum) (name : String) :
    getObjectItem (itemOfDatum d) (text name) = (sayingOf name d).map itemOfDatum := by
  cases d with
  | object members =>
    rw [itemOfDatum, getObjectItem, sayingOf]
    induction members with
    | nil => rfl
    | cons member rest ih =>
      rw [childrenOfData, List.find?_cons, List.find?_cons]
      by_cases own : (CStr.ofBytes member.1).bytes.map toLower = (text name).bytes.map toLower
      · simp [own]
      · simpa [own] using ih
  | _ => rfl

theorem itemsOfData_eq_map (models : List Datum) : itemsOfData models = models.map itemOfDatum := by
  induction models with
  | nil => rfl
  | cons model rest ih => rw [itemsOfData, ih, List.map_cons]

theorem modelItems_itemOfDatum (said : Datum) :
    modelItems (itemOfDatum said) = (saidModels said).map itemOfDatum := by
  rw [modelItems, getObjectItem_itemOfDatum, saidModels]
  cases sayingOf "models" said with
  | none => rfl
  | some found =>
    cases found with
    | array models => exact itemsOfData_eq_map models
    | _ => rfl

theorem numberItem_itemOfDatum (model : Datum) (name : String) :
    numberItem (itemOfDatum model) name = (saidNumber name model).map Binary64.held := by
  rw [numberItem, getObjectItem_itemOfDatum, saidNumber]
  cases sayingOf name model with
  | none => rfl
  | some found => cases found <;> rfl

theorem numberField_itemOfDatum (model : Datum) (name : String) :
    numberField (itemOfDatum model) name =
      (saidNumber name model).map fun bytes => CJson.truncate (Binary64.held bytes) := by
  rw [← map_truncate_numberItem, numberItem_itemOfDatum, Option.map_map]
  rfl

/-! ## Sums -/

/-- The sizes are whole numbers that a `double` holds. -/
def HeldModel (model : Datum) : Prop :=
  ∀ name ∈ ["size_vram", "size"], ∀ bytes ∈ saidNumber name model, ∃ n : ℕ, n ≤ 2 ^ 53 ∧ bytes = n

/-- What is read of a number of bytes that a `double` holds. -/
theorem truncate_held_natCast {n : ℕ} (small : n ≤ 2 ^ 53) :
    CJson.truncate (Binary64.held n) = n := by
  have bound : |(n : ℤ)| ≤ 2 ^ 53 := by
    rw [abs_of_nonneg (Int.natCast_nonneg n)]
    exact_mod_cast small
  have same : Binary64.held n = n := by exact_mod_cast Binary64.held_intCast bound
  simp [same, CJson.truncate]

theorem WholeModel.saidBytes_nonneg {model : Datum} (whole : WholeModel model) {name : String}
    (named : name ∈ ["size_vram", "size"]) : 0 ≤ saidBytes name model := by
  rw [saidBytes]
  cases found : saidNumber name model with
  | none => exact le_rfl
  | some bytes =>
    obtain ⟨n, rfl⟩ := whole name named bytes found
    exact Nat.cast_nonneg n

section Models

variable {model : Datum} (held : HeldModel model)

include held

theorem HeldModel.whole : WholeModel model := fun name named bytes found =>
  have ⟨n, _, same⟩ := held name named bytes found
  ⟨n, same⟩

/-- The integer of a field is the number of bytes it says. -/
theorem HeldModel.fieldInt {name : String} (named : name ∈ ["size_vram", "size"]) :
    (fieldInt (itemOfDatum model) name : ℚ) = saidBytes name model := by
  rw [CapacityAgent.fieldInt, numberField_itemOfDatum, saidBytes]
  cases found : saidNumber name model with
  | none => rfl
  | some bytes =>
    obtain ⟨n, small, rfl⟩ := held name named bytes found
    rw [Option.map_some, truncate_held_natCast small]
    rfl

/-- What the integers of the fields have outside the VRAM. -/
theorem HeldModel.residentRam : (residentRam (itemOfDatum model) : ℚ) = saidRest model := by
  have vram := held.fieldInt (show "size_vram" ∈ ["size_vram", "size"] by decide)
  have size := held.fieldInt (show "size" ∈ ["size_vram", "size"] by decide)
  rw [saidRest, ← vram, ← size, CapacityAgent.residentRam]
  unfold CapacityAgent.fieldInt at vram ⊢
  cases numberField (itemOfDatum model) "size" with
  | none =>
    -- without a size nothing is outside the VRAM
    have nonneg := held.whole.saidBytes_nonneg (show "size_vram" ∈ ["size_vram", "size"] by decide)
    rw [← vram] at nonneg
    rw [max_eq_left (by simpa using nonneg)]
    rfl
  | some size => exact_mod_cast rfl

end Models

/-- Numbers without sign are at most their sum. -/
theorem le_sum_of_mem {α : Type} {f : α → ℚ} {xs : List α} (nonneg : ∀ x ∈ xs, 0 ≤ f x) :
    ∀ x ∈ xs, f x ≤ (xs.map f).sum := fun _ member =>
  List.single_le_sum (List.forall_mem_map.mpr nonneg) _ (List.mem_map_of_mem member)

/-- A sum over the items is the sum of what they say. -/
theorem cast_sum_map {f : Item → ℤ} {g : Datum → ℚ} {models : List Datum}
    (same : ∀ model ∈ models, (f (itemOfDatum model) : ℚ) = g model) :
    ((((models.map itemOfDatum).map f).sum : ℤ) : ℚ) = (models.map g).sum := by
  induction models with
  | nil => rfl
  | cons model rest ih =>
    obtain ⟨own, others⟩ := List.forall_mem_cons.mp same
    rw [List.map_cons, List.map_cons, List.map_cons, List.sum_cons, List.sum_cons, Int.cast_add,
      own, ih others]

section Answers

variable {said : Datum}

theorem totalVramBytes_itemOfDatum (held : ∀ model ∈ saidModels said, HeldModel model) :
    (totalVramBytes (modelItems (itemOfDatum said)) : ℚ) = saidVram said := by
  rw [modelItems_itemOfDatum, totalVramBytes, saidVram]
  generalize saidModels said = models at held
  induction models with
  | nil => rfl
  | cons model rest ih =>
    obtain ⟨own, others⟩ := List.forall_mem_cons.mp held
    have field := own.fieldInt (show "size_vram" ∈ ["size_vram", "size"] by decide)
    rw [List.map_cons, List.map_cons, List.filterMap_cons, List.sum_cons, ← ih others, ← field,
      fieldInt]
    cases numberField (itemOfDatum model) "size_vram" with
    | none => exact (zero_add _).symm
    | some vram => exact Int.cast_add vram _

theorem totalRamBytes_itemOfDatum (held : ∀ model ∈ saidModels said, HeldModel model) :
    (totalRamBytes (modelItems (itemOfDatum said)) : ℚ) = saidRam said := by
  rw [modelItems_itemOfDatum, totalRamBytes, saidRam]
  refine cast_sum_map fun model member => ?_
  rw [ramBytes_eq_residentRam]
  exact (held model member).residentRam

/-- A size in an answer is less than two petabytes. -/
theorem WholeSizes.saidBytes_lt (sizes : WholeSizes said) {model : Datum}
    (member : model ∈ saidModels said) {name : String} (named : name ∈ ["size_vram", "size"]) :
    saidBytes name model < 2 * 10 ^ 15 := by
  have vram : saidBytes "size_vram" model ≤ saidVram said :=
    le_sum_of_mem (fun model listed => (sizes.whole model listed).saidBytes_nonneg (by decide))
      model member
  have ram : saidRest model ≤ saidRam said :=
    le_sum_of_mem (fun model _ => le_max_left 0 _) model member
  -- a size is what it has in the VRAM and what it has outside
  have rest : saidBytes "size" model - saidBytes "size_vram" model ≤ saidRest model :=
    le_max_right 0 _
  have vramLt := sizes.vram
  have ramLt := sizes.ram
  simp only [List.mem_cons, List.not_mem_nil, or_false] at named
  rcases named with rfl | rfl <;> linarith

theorem WholeSizes.held (sizes : WholeSizes said) :
    ∀ model ∈ saidModels said, HeldModel model := by
  intro model member name named bytes found
  have small := sizes.saidBytes_lt member named
  obtain ⟨n, rfl⟩ := sizes.whole model member name named bytes found
  rw [saidBytes, found, Option.getD_some] at small
  have lt : n < 2 * 10 ^ 15 := by exact_mod_cast small
  exact ⟨n, by omega, rfl⟩

theorem fits_of_lt {n : ℤ} {total : ℚ} (same : (n : ℚ) = total) (nonneg : 0 ≤ total)
    (small : total < 10 ^ 15) : Fits 64 n := by
  rw [← same] at nonneg small
  have low : 0 ≤ n := by exact_mod_cast nonneg
  have high : n < 10 ^ 15 := by exact_mod_cast small
  constructor <;> omega

/-- No cast and no sum of the loop leaves the 64 bits. -/
theorem WholeSizes.totalsFit (sizes : WholeSizes said) :
    TotalsFit ⟨0, 0⟩ (modelItems (itemOfDatum said)) := by
  have vramBytes : ∀ model ∈ saidModels said, 0 ≤ saidBytes "size_vram" model :=
    fun model member => (sizes.whole model member).saidBytes_nonneg (by decide)
  rw [modelItems_itemOfDatum]
  refine ⟨List.forall_mem_map.mpr fun model member name named value found => ?_, fun k => ?_, ?_⟩
  · have small := sizes.saidBytes_lt member named
    have nonneg := (sizes.whole model member).saidBytes_nonneg named
    rw [numberItem_itemOfDatum] at found
    obtain ⟨bytes, number, rfl⟩ := Option.map_eq_some_iff.mp found
    rw [saidBytes, number, Option.getD_some] at small nonneg
    exact convertible_held_iff.mpr ⟨by linarith, by linarith⟩
  · -- the sum over the first models is at most that over all
    have taken : ∀ model ∈ (saidModels said).take k, model ∈ saidModels said :=
      fun model member => List.mem_of_mem_take member
    have whole : saidVram said = (((saidModels said).take k).map (saidBytes "size_vram")).sum +
        (((saidModels said).drop k).map (saidBytes "size_vram")).sum := by
      rw [saidVram, ← List.sum_append, ← List.map_append, List.take_append_drop]
    have rest : 0 ≤ (((saidModels said).drop k).map (saidBytes "size_vram")).sum :=
      List.sum_nonneg (List.forall_mem_map.mpr fun model member =>
        vramBytes model (List.mem_of_mem_drop member))
    have less := sizes.vram
    rw [← List.map_take, zero_add]
    refine fits_of_lt (cast_sum_map fun model member => ?_)
      (List.sum_nonneg (List.forall_mem_map.mpr fun model member =>
        vramBytes model (taken model member))) (by linarith)
    exact (sizes.held model (taken model member)).fieldInt (by decide)
  · rw [zero_add]
    refine fits_of_lt (cast_sum_map fun model member => ?_)
      (List.sum_nonneg (List.forall_mem_map.mpr fun model _ => le_max_left 0 _)) sizes.ram
    exact (sizes.held model member).residentRam

end Answers

/-! ## Polls -/

/-- The answer is read as the item of what it says. -/
theorem ollamaReply_of_denotes {line : Bytes} {said : Datum} (denotes : LineDenotes line said)
    (baseUrl : CStr) : ollamaReply baseUrl (some ⟨200, line⟩) =
      .models (ollamaRow baseUrl (itemOfDatum said)) := by
  obtain ⟨rest, reads⟩ := denotes.parseValue_eq
  rw [ollamaReply, if_neg (fun failed => failed rfl), CJson.parse, reads]
  rfl

/-- Only a body that is read leads to a row. -/
theorem exists_of_ollamaReply {baseUrl : CStr} {response : Option HttpResponse} {row : OllamaRow}
    (reply : ollamaReply baseUrl response = .models row) :
    ∃ sent ∈ response, sent.status = 200 ∧
      ∃ root ∈ CJson.parse (CStr.ofBytes sent.body), row = ollamaRow baseUrl root := by
  cases response with
  | none => exact nomatch reply
  | some sent =>
    rw [ollamaReply] at reply
    split_ifs at reply with failed
    cases read : CJson.parse (CStr.ofBytes sent.body) with
    | none =>
      rw [read] at reply
      exact nomatch reply
    | some root =>
      rw [read] at reply
      exact ⟨sent, rfl, not_not.mp failed, root, read, (OllamaReply.models.inj reply).symm⟩

/-- The row of `ollama_runtime_samples` for an answer; a total of 0 is not stored. -/
def rowSaid (baseUrl : CStr) (models : ℕ) (totals : Totals) : OllamaRow where
  baseUrl := baseUrl
  activeRequestCount := none
  queuedRequestCount := none
  loadedModelCount := some models
  residentVramBytes := if 0 < totals.vram then some totals.vram else none
  residentRamBytes := if 0 < totals.ram then some totals.ram else none

/-- **A poll adds up what Ollama says.** However the answer is written, the casts and sums of
the loop are defined, and the row has the number of models and the bytes in and outside the
VRAM. -/
theorem pollOnce_of_denotes {line : Bytes} {said : Datum} (denotes : LineDenotes line said)
    (sizes : WholeSizes said) (machineId : CStr) {baseUrl : CStr}
    (named : (parseHost baseUrl.bytes).isSome) (nowMs : ℤ) :
    ∃ totals : Totals, residentTotals (modelItems (itemOfDatum said)) = .ok totals ∧
      (totals.vram : ℚ) = saidVram said ∧ (totals.ram : ℚ) = saidRam said ∧
        pollOnce machineId baseUrl nowMs (some ⟨200, line⟩) =
          (true, [.ollamaSample ⟨machineId, nowMs⟩
              (rowSaid baseUrl (saidModels said).length totals),
            ollamaHealth machineId (text "ok") nowMs none]) := by
  refine ⟨_, residentTotals_of_fit sizes.totalsFit, totalVramBytes_itemOfDatum sizes.held,
    totalRamBytes_itemOfDatum sizes.held, ?_⟩
  obtain ⟨host, found⟩ := Option.isSome_iff_exists.mp named
  have count : (modelItems (itemOfDatum said)).length = (saidModels said).length := by
    rw [modelItems_itemOfDatum, List.length_map]
  rw [pollOnce, found]
  dsimp only
  rw [ollamaReply_of_denotes denotes, ← count]
  rfl

/-- One model, three of whose five bytes are in the VRAM. -/
def oneModel : Json.Value :=
  .object [("models".toList, .array [.object
    [("size".toList, .number (.ofInt 5)), ("size_vram".toList, .number (.ofInt 3))]])]

theorem lineDenotes_oneModel : LineDenotes (oneModel.text CJson.encoder) oneModel.said := by
  refine ⟨⟨[], _, [], by simp, List.forall_mem_nil _, List.forall_mem_nil _,
    Json.denotes_text CJson.encoder oneModel, ?_⟩, by decide⟩
  have short : (Json.tokens (oneModel.text CJson.encoder)).all fun
      | .word word => word.length ≤ 63
      | _ => true := by decide +kernel
  intro word member
  simpa using List.all_eq_true.mp short _ member

theorem wholeSizes_oneModel : WholeSizes oneModel.said where
  whole model member name named bytes found := by
    have numbers : ["size_vram", "size"].all fun name => (saidModels oneModel.said).all fun model =>
        (saidNumber name model).all fun bytes => bytes = 3 ∨ bytes = 5 := by decide +kernel
    have number := List.all_eq_true.mp (List.all_eq_true.mp numbers name named) model member
    rw [found, Option.all_some, decide_eq_true_iff] at number
    rcases number with rfl | rfl
    · exact ⟨3, rfl⟩
    · exact ⟨5, rfl⟩
  few := by decide +kernel
  vram := by decide +kernel
  ram := by decide +kernel

theorem pollOnce_of_denotes_oneModel :
    ∃ totals : Totals, residentTotals (modelItems (itemOfDatum oneModel.said)) = .ok totals ∧
      (totals.vram : ℚ) = saidVram oneModel.said ∧ (totals.ram : ℚ) = saidRam oneModel.said ∧
        pollOnce (text "host") (text "http://ollama:11434") 1000
            (some ⟨200, oneModel.text CJson.encoder⟩) =
          (true, [.ollamaSample ⟨text "host", 1000⟩
              (rowSaid (text "http://ollama:11434") (saidModels oneModel.said).length totals),
            ollamaHealth (text "host") (text "ok") 1000 none]) :=
  pollOnce_of_denotes lineDenotes_oneModel wholeSizes_oneModel (text "host") (by decide) 1000

end CapacityAgent

/-
# Matching GPUs with NVML devices

The end of `GpuProbe::init`: each NVAPI GPU is given the first NVML device with its
PCI bus number, or else the device of its own index. Both numbers may be missing: a
GPU without one falls back, and a device without one counts as being on bus 0. The
PCI domain is not compared.
-/

import CapacityAgent.CJson.Strings
import CapacityAgent.Library.FirstMatch

namespace CapacityAgent

open FirstMatch

/-! ## Bus numbers -/

/-- The PCI address of a device. -/
structure PciAddress where
  domain : UInt32
  bus : UInt8
  device : UInt8
  deriving DecidableEq

def hex2 (n : ℕ) : Bytes := [Json.hexDigit true (n / 16 % 16), Json.hexDigit true (n % 16)]

/-- The bus id NVML writes, `DDDDDDDD:BB:DD.F`. -/
def PciAddress.text (address : PciAddress) : Bytes :=
  Json.hex4 true (address.domain.toNat / 65536) ++ Json.hex4 true (address.domain.toNat % 65536) ++
    byte ':' :: (hex2 address.bus.toNat ++ byte ':' :: (hex2 address.device.toNat ++ lit ".0"))

/-- `isspace`. -/
def isSpace (b : UInt8) : Bool := b == 32 || (9 ≤ b && b ≤ 13)

/-- What follows a `0x` in front of a digit. -/
def dropHexPrefix : Bytes → Bytes
  | zero :: x :: digit :: rest =>
    if zero = byte '0' ∧ (x = byte 'x' ∨ x = byte 'X') ∧ (CJson.hexValue digit).isSome then
      digit :: rest
    else zero :: x :: digit :: rest
  | short => short

/-- `strtoul` to base 16, with an `unsigned long` of 32 bits. -/
def strtoul16 (s : Bytes) : ℕ :=
  let signed := CJson.takeSign (s.dropWhile isSpace)
  let digits := ((dropHexPrefix signed.2).map CJson.hexValue).takeWhile Option.isSome
  let value := min (digits.reduceOption.foldl (fun n digit => 16 * n + digit) 0) (2 ^ 32 - 1)
  if signed.1 then (2 ^ 32 - value) % 2 ^ 32 else value

/-- `pci_bus`; a text without a colon leaves it 0. -/
def pciBus (busId : Bytes) : ℕ :=
  match busId.dropWhile (· != byte ':') with
  | [] => 0
  | _ :: rest => strtoul16 rest

/-! ## NVML devices -/

variable {Device : Type*}

/-- What NVML answers for the indices up to the device count: a handle or a failure,
and for a handle its bus id or a failure. -/
structure NvmlAnswers (Device : Type*) where
  byIndex : List (Option (Device × Option PciAddress))
  distinct : (byIndex.reduceOption.map Prod.fst).Nodup

/-- `NvmlDevInfo`. -/
structure NvmlDevInfo (Device : Type*) where
  dev : Device
  busId : Bytes
  pciBus : ℕ
  deriving DecidableEq

/-- The entry of a device; a failed query leaves the text empty. -/
def nvmlDevInfo (dev : Device) (address : Option PciAddress) : NvmlDevInfo Device :=
  let busId := address.elim [] PciAddress.text
  ⟨dev, busId, pciBus busId⟩

/-- The devices with a handle, in the order of their indices. -/
def NvmlAnswers.answered (answers : NvmlAnswers Device) : List (Device × Option PciAddress) :=
  answers.byIndex.reduceOption

/-- `nvml_devs`; without NVML or without a device count there are none. -/
def enumerateNvml (nvml : Option (NvmlAnswers Device)) : List (NvmlDevInfo Device) :=
  match nvml with
  | none => []
  | some answers => answers.answered.map fun device => nvmlDevInfo device.1 device.2

/-! ## The match -/

/-- The device of the `i`-th GPU, whose bus number was read or not; of an empty list
there is none. -/
def matchNvml (devs : List (NvmlDevInfo Device)) (read : Option ℕ) (i : ℕ) :
    Option (NvmlDevInfo Device) :=
  match read.bind fun bus => devs.find? fun nd => decide (nd.pciBus = bus) with
  | some nd => some nd
  | none => devs[i]?

/-- The devices of all GPUs. -/
def matchAll (nvml : Option (NvmlAnswers Device)) (reads : List (Option ℕ)) :
    List (Option (NvmlDevInfo Device)) :=
  reads.mapIdx fun i read => matchNvml (enumerateNvml nvml) read i

/-- The bus number an entry is compared by. -/
def busNumber (address : Option PciAddress) : ℕ := address.elim 0 (·.bus.toNat)

/-- The devices with a handle, none without NVML. -/
def answeredDevices (nvml : Option (NvmlAnswers Device)) : List (Device × Option PciAddress) :=
  nvml.elim [] NvmlAnswers.answered

/-- The bus numbers the GPUs are matched by. -/
def busNumbers (nvml : Option (NvmlAnswers Device)) : List ℕ :=
  (answeredDevices nvml).map fun device => busNumber device.2

/-- The devices whose bus number was read and is `bus`. -/
def devicesOn (nvml : Option (NvmlAnswers Device)) (bus : ℕ) : List Device :=
  ((answeredDevices nvml).filter fun device =>
    device.2.elim false fun address => address.bus.toNat = bus).map Prod.fst

/-! ## The parsed bus number -/

/-- A hexadecimal digit is none of the characters `strtoul` looks for. -/
theorem hexDigit_plain {d : ℕ} (small : d < 16) :
    isSpace (Json.hexDigit true d) = false ∧ Json.hexDigit true d ≠ byte '-' ∧
      Json.hexDigit true d ≠ byte '+' ∧ Json.hexDigit true d ≠ byte 'x' ∧
      Json.hexDigit true d ≠ byte 'X' := by
  have all : ∀ d : Fin 16, isSpace (Json.hexDigit true d) = false ∧
      Json.hexDigit true d ≠ byte '-' ∧ Json.hexDigit true d ≠ byte '+' ∧
      Json.hexDigit true d ≠ byte 'x' ∧ Json.hexDigit true d ≠ byte 'X' := by decide
  exact all ⟨d, small⟩

/-- Two digits in front of a colon read as their number. -/
theorem strtoul16_hex2 {n : ℕ} (small : n < 256) (rest : Bytes) :
    strtoul16 (hex2 n ++ byte ':' :: rest) = n := by
  have high : n / 16 % 16 < 16 := Nat.mod_lt _ (by omega)
  have low : n % 16 < 16 := Nat.mod_lt _ (by omega)
  obtain ⟨noSpace, noMinus, noPlus, -, -⟩ := hexDigit_plain high
  obtain ⟨-, -, -, noX, noUpperX⟩ := hexDigit_plain low
  have colon : CJson.hexValue (byte ':') = none := by decide
  have value : min (16 * (16 * 0 + n / 16 % 16) + n % 16) (2 ^ 32 - 1) = n := by omega
  have start : CJson.takeSign ((hex2 n ++ byte ':' :: rest).dropWhile isSpace) =
      (false, hex2 n ++ byte ':' :: rest) := by
    simp [hex2, noSpace, CJson.takeSign, noMinus, noPlus]
  have digits : dropHexPrefix (hex2 n ++ byte ':' :: rest) = hex2 n ++ byte ':' :: rest := by
    simp [hex2, dropHexPrefix, noX, noUpperX]
  have taken : ((hex2 n ++ byte ':' :: rest).map CJson.hexValue).takeWhile Option.isSome =
      [some (n / 16 % 16), some (n % 16)] := by
    simp [hex2, CJson.hexValue_hexDigit true high, CJson.hexValue_hexDigit true low, colon]
  unfold strtoul16
  rw [start]
  simp only [digits, taken, Bool.false_eq_true, if_false]
  exact value

theorem pciBus_text (address : PciAddress) : pciBus address.text = address.bus.toNat := by
  have noColon : ∀ code, byte ':' ∉ Json.hex4 true code := fun code =>
    CJson.byte_notMem_hex4 (by decide) true code
  have skipped : address.text.dropWhile (· != byte ':') =
      byte ':' :: (hex2 address.bus.toNat ++
        byte ':' :: (hex2 address.device.toNat ++ lit ".0")) := by
    rw [PciAddress.text, List.dropWhile_append_of_pos, List.dropWhile_cons_of_neg (by simp)]
    intro b member
    rw [List.mem_append] at member
    -- the domain has no colon
    have other : b ≠ byte ':' := by
      rintro rfl
      exact member.elim (noColon _) (noColon _)
    simpa using other
  rw [pciBus, skipped]
  exact strtoul16_hex2 address.bus.toNat_lt _

theorem enumerateNvml_eq (nvml : Option (NvmlAnswers Device)) :
    enumerateNvml nvml =
      (answeredDevices nvml).map fun device => nvmlDevInfo device.1 device.2 := by
  cases nvml <;> rfl

/-- The number parsed is the device's bus number, or 0 for a failed query. -/
theorem pciBus_nvmlDevInfo (dev : Device) (address : Option PciAddress) :
    (nvmlDevInfo dev address).pciBus = busNumber address := by
  cases address with
  | none => rfl
  | some address => exact pciBus_text address

theorem map_pciBus_enumerateNvml (nvml : Option (NvmlAnswers Device)) :
    (enumerateNvml nvml).map NvmlDevInfo.pciBus = busNumbers nvml := by
  rw [enumerateNvml_eq, List.map_map, busNumbers]
  exact List.map_congr_left fun device _ => pciBus_nvmlDevInfo device.1 device.2

/-! ## Slots -/

/-- Searching for an element is searching for its position. -/
theorem find?_eq_bind_findIdx? {α : Type*} (keep : α → Bool) (elements : List α) :
    elements.find? keep = (elements.findIdx? keep).bind fun i => elements[i]? := by
  induction elements with
  | nil => rfl
  | cons x rest ih =>
    rw [List.find?_cons, List.findIdx?_cons]
    cases keep x with
    | true => rfl
    | false => simp [ih, Option.bind_map]

/-- A GPU is given the device in its slot. -/
theorem matchNvml_eq (devs : List (NvmlDevInfo Device)) (read : Option ℕ) (i : ℕ) :
    matchNvml devs read i = (slot (devs.map NvmlDevInfo.pciBus) read i).bind fun s => devs[s]? := by
  have first : ∀ bus, devs.find? (fun nd => decide (nd.pciBus = bus)) =
      (firstSlot (devs.map NvmlDevInfo.pciBus) bus).bind fun s => devs[s]? := by
    intro bus
    rw [find?_eq_bind_findIdx?, firstSlot, List.findIdx?_map]
    rfl
  have fallback : devs[i]? = (if i < devs.length then some i else none).bind fun s => devs[s]? := by
    by_cases bound : i < devs.length
    · simp [bound]
    · simp [bound]
  unfold matchNvml slot
  rw [List.length_map]
  cases read with
  | none => exact fallback
  | some bus =>
    rw [Option.bind_some, Option.bind_some, first]
    cases found : firstSlot (devs.map NvmlDevInfo.pciBus) bus with
    | none => exact fallback
    | some s =>
      -- a slot found by its key is in the list
      have has := (firstSlot_eq_some_iff.mp found).1
      rw [List.getElem?_map] at has
      obtain ⟨nd, here, -⟩ := Option.map_eq_some_iff.mp has
      simp only [Option.bind_some, here]

theorem getElem?_matchAll {nvml : Option (NvmlAnswers Device)} {reads : List (Option ℕ)} {i : ℕ}
    {nd : NvmlDevInfo Device} :
    (matchAll nvml reads)[i]? = some (some nd) ↔
      ∃ s, (slots (busNumbers nvml) reads)[i]? = some (some s) ∧
        (enumerateNvml nvml)[s]? = some nd := by
  rw [matchAll, List.getElem?_mapIdx, Option.map_eq_some_iff]
  simp only [getElem?_slots, matchNvml_eq, map_pciBus_enumerateNvml, Option.bind_eq_some_iff]
  constructor
  · rintro ⟨read, here, s, given, has⟩
    exact ⟨s, ⟨read, here, given⟩, has⟩
  · rintro ⟨s, ⟨read, here, given⟩, has⟩
    exact ⟨read, here, s, given, has⟩

/-! ## One to one -/

/-- No two GPUs have been given one device, and a GPU whose bus number was read and is
that of one device only has been given that device. -/
structure DevicesMatched (nvml : Option (NvmlAnswers Device)) (reads : List (Option ℕ)) : Prop where
  distinct : ∀ (i j : ℕ) (nd nd' : NvmlDevInfo Device),
    (matchAll nvml reads)[i]? = some (some nd) → (matchAll nvml reads)[j]? = some (some nd') →
      nd.dev = nd'.dev → i = j
  own : ∀ (i bus : ℕ) (dev : Device), reads[i]? = some (some bus) → devicesOn nvml bus = [dev] →
    ∃ nd, (matchAll nvml reads)[i]? = some (some nd) ∧ nd.dev = dev

/-- A GPU on bus 0 whose device is alone there finds no device of an unknown bus number
in front of it. -/
def CertainZero (nvml : Option (NvmlAnswers Device)) (reads : List (Option ℕ)) : Prop :=
  some 0 ∈ reads → ∀ before dev address after,
    answeredDevices nvml = before ++ (dev, some address) :: after → devicesOn nvml 0 = [dev] →
      address.bus.toNat = 0 → ∀ other ∈ before, other.2 ≠ none

theorem nodup_answeredDevices (nvml : Option (NvmlAnswers Device)) :
    ((answeredDevices nvml).map Prod.fst).Nodup := by
  cases nvml with
  | none => exact .nil
  | some answers => exact answers.distinct

/-- The handle tells the entries apart. -/
theorem slot_eq_of_dev_eq {nvml : Option (NvmlAnswers Device)} {s s' : ℕ}
    {device device' : Device × Option PciAddress} (first : (answeredDevices nvml)[s]? = some device)
    (second : (answeredDevices nvml)[s']? = some device') (same : device.1 = device'.1) :
    s = s' := by
  have handles := nodup_answeredDevices nvml
  obtain ⟨bound, rfl⟩ := List.getElem?_eq_some_iff.mp first
  refine (List.getElem?_inj (by simpa using bound) handles).mp ?_
  rw [List.getElem?_map, List.getElem?_map, first, second, Option.map_some, Option.map_some, same]

theorem getElem?_enumerateNvml {nvml : Option (NvmlAnswers Device)} {s : ℕ}
    {nd : NvmlDevInfo Device} :
    (enumerateNvml nvml)[s]? = some nd ↔
      ∃ device, (answeredDevices nvml)[s]? = some device ∧ nvmlDevInfo device.1 device.2 = nd := by
  rw [enumerateNvml_eq, List.getElem?_map, Option.map_eq_some_iff]

theorem getElem?_busNumbers {nvml : Option (NvmlAnswers Device)} {s bus : ℕ} :
    (busNumbers nvml)[s]? = some bus ↔
      ∃ device, (answeredDevices nvml)[s]? = some device ∧ busNumber device.2 = bus := by
  rw [busNumbers, List.getElem?_map, Option.map_eq_some_iff]

/-- A slot that is given has a device. -/
theorem exists_device_of_slot {nvml : Option (NvmlAnswers Device)} {reads : List (Option ℕ)}
    {i s : ℕ} (given : (slots (busNumbers nvml) reads)[i]? = some (some s)) :
    ∃ device, (answeredDevices nvml)[s]? = some device := by
  obtain ⟨read, -, at_⟩ := getElem?_slots.mp given
  have bound : s < (answeredDevices nvml).length := by
    rcases slot_eq_some_iff.mp at_ with ⟨k, -, first⟩ | ⟨-, rfl, bound⟩
    · obtain ⟨bound, -⟩ := List.getElem?_eq_some_iff.mp (firstSlot_eq_some_iff.mp first).1
      simpa [busNumbers] using bound
    · simpa [busNumbers] using bound
  exact ⟨_, List.getElem?_eq_getElem bound⟩

/-- No device is given twice exactly when no slot is. -/
theorem distinct_iff_oneToOne (nvml : Option (NvmlAnswers Device)) (reads : List (Option ℕ)) :
    (∀ (i j : ℕ) (nd nd' : NvmlDevInfo Device), (matchAll nvml reads)[i]? = some (some nd) →
        (matchAll nvml reads)[j]? = some (some nd') → nd.dev = nd'.dev → i = j) ↔
      OneToOne (slots (busNumbers nvml) reads) := by
  constructor
  · intro distinct i j s first second
    obtain ⟨device, here⟩ := exists_device_of_slot first
    have entry := getElem?_enumerateNvml.mpr ⟨device, here, rfl⟩
    exact distinct i j _ _ (getElem?_matchAll.mpr ⟨s, first, entry⟩)
      (getElem?_matchAll.mpr ⟨s, second, entry⟩) rfl
  · intro oneToOne i j nd nd' first second same
    obtain ⟨s, given, has⟩ := getElem?_matchAll.mp first
    obtain ⟨s', given', has'⟩ := getElem?_matchAll.mp second
    obtain ⟨device, here, rfl⟩ := getElem?_enumerateNvml.mp has
    obtain ⟨device', here', rfl⟩ := getElem?_enumerateNvml.mp has'
    obtain rfl := slot_eq_of_dev_eq here here' same
    exact oneToOne i j s given given'

/-- A single device of a bus stands somewhere in the list, with no other of its bus. -/
theorem exists_split_of_devicesOn {nvml : Option (NvmlAnswers Device)} {bus : ℕ} {dev : Device}
    (only : devicesOn nvml bus = [dev]) :
    ∃ before address after, answeredDevices nvml = before ++ (dev, some address) :: after ∧
      address.bus.toNat = bus ∧
        ∀ other ∈ before, ∀ address', other.2 = some address' → address'.bus.toNat ≠ bus := by
  obtain ⟨device, single, rfl⟩ := List.map_eq_singleton_iff.mp only
  obtain ⟨before, after, split, others, keep, -⟩ := List.filter_eq_cons_iff.mp single
  obtain ⟨dev, address⟩ := device
  cases address with
  | none => exact absurd keep (by simp)
  | some address =>
    refine ⟨before, address, after, split, by simpa using keep, fun other member address' has => ?_⟩
    have dropped := others other member
    rw [has] at dropped
    simpa using dropped

/-- The only device of a bus is the first entry with that number, unless the bus is 0 and
an unknown one stands in front of it. -/
theorem firstSlot_of_split {nvml : Option (NvmlAnswers Device)} {dev : Device}
    {address : PciAddress} {before after : List (Device × Option PciAddress)}
    (split : answeredDevices nvml = before ++ (dev, some address) :: after)
    (others : ∀ other ∈ before, busNumber other.2 ≠ address.bus.toNat) :
    firstSlot (busNumbers nvml) address.bus.toNat = some before.length := by
  refine firstSlot_eq_some_iff.mpr ⟨getElem?_busNumbers.mpr ⟨(dev, some address), ?_, rfl⟩, ?_⟩
  · simp [split]
  · intro earlier bound has
    obtain ⟨other, here, same⟩ := getElem?_busNumbers.mp has
    rw [split, List.getElem?_append_left bound] at here
    exact others other (List.mem_of_getElem? here) same

/-- **When GPUs and NVML devices are matched one to one**: for any GPUs, any answers of
NVML with distinct handles and any outcomes of the bus queries, exactly when no two
GPUs read one bus number that an entry has, no GPU falls back on the entry another one
has matched, and no device with an unknown bus is taken for one on bus 0. -/
theorem devicesMatched_iff (nvml : Option (NvmlAnswers Device)) (reads : List (Option ℕ)) :
    DevicesMatched nvml reads ↔ Separate (busNumbers nvml) reads ∧ CertainZero nvml reads := by
  constructor
  · intro matched
    refine ⟨(oneToOne_slots_iff reads).mp ((distinct_iff_oneToOne nvml reads).mp matched.distinct),
      ?_⟩
    intro zero before dev address after split only onZero other member unknown
    obtain ⟨i, has⟩ := List.getElem?_of_mem zero
    obtain ⟨nd, given, same⟩ := matched.own i 0 dev has only
    obtain ⟨s, at_, entry⟩ := getElem?_matchAll.mp given
    obtain ⟨device, here, rfl⟩ := getElem?_enumerateNvml.mp entry
    have place : (answeredDevices nvml)[before.length]? = some (dev, some address) := by
      simp [split]
    obtain rfl := slot_eq_of_dev_eq here place same
    obtain ⟨read, has', slotted⟩ := getElem?_slots.mp at_
    obtain rfl := Option.some.inj (has.symm.trans has')
    -- the unknown device in front is an earlier entry with the number 0
    obtain ⟨e, bound, at_e⟩ := List.getElem_of_mem member
    have early : (answeredDevices nvml)[e]? = some other := by
      rw [split, List.getElem?_append_left bound, List.getElem?_eq_getElem bound, at_e]
    have number : (busNumbers nvml)[e]? = some 0 :=
      getElem?_busNumbers.mpr ⟨other, early, by rw [unknown]; rfl⟩
    rcases slot_eq_some_iff.mp slotted with ⟨bus, is, first⟩ | ⟨fallback, -, -⟩
    · obtain rfl := Option.some.inj is
      exact (firstSlot_eq_some_iff.mp first).2 e bound number
    · exact fallback ⟨0, List.mem_of_getElem? number, rfl⟩
  · rintro ⟨separate, certain⟩
    refine ⟨(distinct_iff_oneToOne nvml reads).mpr ((oneToOne_slots_iff reads).mpr separate), ?_⟩
    intro i bus dev has only
    obtain ⟨before, address, after, split, rfl, known⟩ := exists_split_of_devicesOn only
    have others : ∀ other ∈ before, busNumber other.2 ≠ address.bus.toNat := by
      intro other member same
      cases unknown : other.2 with
      | some address' =>
        rw [unknown] at same
        exact known other member address' unknown same
      | none =>
        have onZero : address.bus.toNat = 0 := by
          rw [unknown] at same
          exact same.symm
        rw [onZero] at has only
        exact certain (List.mem_of_getElem? has) before dev address after split only onZero other
          member unknown
    have first := firstSlot_of_split split others
    have place : (answeredDevices nvml)[before.length]? = some (dev, some address) := by
      simp [split]
    refine ⟨nvmlDevInfo dev (some address), getElem?_matchAll.mpr ⟨before.length, ?_, ?_⟩, rfl⟩
    · exact getElem?_slots.mpr ⟨_, has, slot_eq_some_iff.mpr (.inl ⟨_, rfl, first⟩)⟩
    · exact getElem?_enumerateNvml.mpr ⟨_, place, rfl⟩

/-! ## A device given twice -/

/-- Of two devices NVML gives no handle for the first; the second is on bus 2. -/
def firstDeviceLost : NvmlAnswers ℕ where
  byIndex := [none, some (1, some ⟨0, 2, 0⟩)]
  distinct := by decide

/-- With GPUs on buses 1 and 2 the only device left is given to both: to the second by its
bus, and to the first, whose bus no device has, by the index the list has closed up to. -/
theorem devices_not_always_matched :
    ¬ ∀ (nvml : Option (NvmlAnswers ℕ)) (reads : List (Option ℕ)), DevicesMatched nvml reads := by
  intro matched
  have distinct := (matched (some firstDeviceLost) [some 1, some 2]).distinct 0 1
    (nvmlDevInfo 1 (some ⟨0, 2, 0⟩)) (nvmlDevInfo 1 (some ⟨0, 2, 0⟩)) (by decide +kernel)
    (by decide +kernel) rfl
  exact absurd distinct (by simp)

end CapacityAgent

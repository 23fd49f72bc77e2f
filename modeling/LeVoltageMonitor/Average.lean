import Mathlib.Algebra.Order.BigOperators.Group.Finset
import Mathlib.Data.String.Basic

/- The averaging half of le_voltage_monitor.c and the bytes app.c builds from it, in the
   firmware's wrapping uint32 and uint16 arithmetic. `samplingBuffer` is the RAM from the array
   on, since the LDMA channel addresses memory, not the C array. -/

set_option autoImplicit false

namespace LeVoltageMonitor

def numOfSamples : Nat := 128

def leMonitorSignal : UInt32 := 0x01

@[simp] theorem le_monitor_signal_and_self : leMonitorSignal &&& leMonitorSignal ≠ 0 := by decide

@[simp] theorem zero_and_le_monitor_signal : (0 : UInt32) &&& leMonitorSignal = 0 := by decide

@[simp] theorem le_monitor_signal_ne_zero : leMonitorSignal ≠ 0 := by decide

@[simp] theorem or_le_monitor_signal_and (signals : UInt32) :
    (signals ||| leMonitorSignal) &&& leMonitorSignal = leMonitorSignal := by
  apply UInt32.eq_of_toBitVec_eq
  show (signals.toBitVec ||| 1#32) &&& 1#32 = 1#32
  ext i
  simp only [BitVec.getLsbD_and, BitVec.getLsbD_or]
  cases (1#32).getLsbD i <;> simp

theorem ne_zero_of_le_monitor_signal {signals : UInt32} (raised : signals &&& leMonitorSignal ≠ 0) :
    signals ≠ 0 :=
  fun zero => raised (by simp [zero])

def convertToMv (raw : UInt32) : UInt32 := raw * 3300 / 0xFFF

def averageLoop (samplingBuffer : Nat → UInt32) : Nat → UInt32
  | 0 => 0
  | count + 1 => averageLoop samplingBuffer count + convertToMv (samplingBuffer count)

def leVoltageMonitorGetAverageMv (samplingBuffer : Nat → UInt32) : UInt16 :=
  (averageLoop samplingBuffer numOfSamples / 128).toUInt16

def voltBufOf (dataMv : UInt16) : UInt8 × UInt8 :=
  (((dataMv >>> 8) &&& 0x00FF).toUInt8, (dataMv &&& 0x00FF).toUInt8)

def bigEndian (bytes : UInt8 × UInt8) : Nat := bytes.1.toNat * 256 + bytes.2.toNat

-- What the averaging is meant to compute, on unbounded naturals.
def rawToMv (raw : Nat) : Nat := raw * 3300 / 4095

def averageMv (samplingBuffer : Nat → UInt32) : Nat :=
  (∑ i ∈ Finset.range numOfSamples, rawToMv (samplingBuffer i).toNat) / numOfSamples

theorem raw_to_mv_le (raw : Nat) (code : raw ≤ 0xFFF) : rawToMv raw ≤ 3300 := by
  unfold rawToMv
  omega

theorem convert_to_mv_exact (raw : UInt32) (code : raw.toNat ≤ 0xFFF) :
    raw.toNat * 3300 < UInt32.size ∧ (convertToMv raw).toNat = rawToMv raw.toNat := by
  have product : raw.toNat * 3300 < UInt32.size := by
    show raw.toNat * 3300 < 4294967296
    omega
  refine ⟨product, ?_⟩
  show raw.toNat * 3300 % UInt32.size / 4095 = rawToMv raw.toNat
  rw [Nat.mod_eq_of_lt product]
  rfl

theorem partial_sum_le (samplingBuffer : Nat → UInt32) (count : Nat)
    (codes : ∀ i < count, (samplingBuffer i).toNat ≤ 0xFFF) :
    ∑ i ∈ Finset.range count, rawToMv (samplingBuffer i).toNat ≤ count * 3300 := by
  induction count with
  | zero => simp
  | succ count ih =>
    rw [Finset.sum_range_succ, Nat.succ_mul]
    have last := raw_to_mv_le _ (codes count (Nat.lt_succ_self count))
    have earlier := ih fun i below => codes i (Nat.lt_succ_of_lt below)
    omega

theorem average_loop_exact (samplingBuffer : Nat → UInt32) (count : Nat)
    (codes : ∀ i < count, (samplingBuffer i).toNat ≤ 0xFFF) (small : count ≤ numOfSamples) :
    (averageLoop samplingBuffer count).toNat =
      ∑ i ∈ Finset.range count, rawToMv (samplingBuffer i).toNat := by
  induction count with
  | zero => rfl
  | succ count ih =>
    have earlier := ih (fun i below => codes i (Nat.lt_succ_of_lt below)) (Nat.le_of_succ_le small)
    have last := (convert_to_mv_exact _ (codes count (Nat.lt_succ_self count))).2
    have bound := partial_sum_le samplingBuffer (count + 1) codes
    rw [Finset.sum_range_succ] at bound ⊢
    simp only [averageLoop, UInt32.toNat_add, earlier, last]
    apply Nat.mod_eq_of_lt
    unfold numOfSamples at small
    show _ < 4294967296
    omega

theorem average_mv_le (samplingBuffer : Nat → UInt32)
    (codes : ∀ i < numOfSamples, (samplingBuffer i).toNat ≤ 0xFFF) :
    averageMv samplingBuffer ≤ 3300 := by
  have bound := partial_sum_le samplingBuffer numOfSamples codes
  unfold averageMv numOfSamples at *
  omega

theorem average_quotient_exact (samplingBuffer : Nat → UInt32)
    (codes : ∀ i < numOfSamples, (samplingBuffer i).toNat ≤ 0xFFF) :
    (averageLoop samplingBuffer numOfSamples / 128).toNat = averageMv samplingBuffer := by
  rw [UInt32.toNat_div, average_loop_exact samplingBuffer numOfSamples codes le_rfl]
  rfl

theorem get_average_mv_eq_average_mv (samplingBuffer : Nat → UInt32)
    (codes : ∀ i < numOfSamples, (samplingBuffer i).toNat ≤ 0xFFF) :
    (leVoltageMonitorGetAverageMv samplingBuffer).toNat = averageMv samplingBuffer := by
  have mean := average_mv_le samplingBuffer codes
  rw [leVoltageMonitorGetAverageMv, UInt32.toUInt16_toNat, average_quotient_exact samplingBuffer codes]
  exact Nat.mod_eq_of_lt (by show _ < 65536; omega)

theorem get_average_mv_congr (first second : Nat → UInt32)
    (agree : ∀ i < numOfSamples, first i = second i) :
    leVoltageMonitorGetAverageMv first = leVoltageMonitorGetAverageMv second := by
  have loop : ∀ count ≤ numOfSamples, averageLoop first count = averageLoop second count := by
    intro count
    induction count with
    | zero => intro _; rfl
    | succ count ih =>
      intro below
      simp only [averageLoop, ih (Nat.le_of_succ_le below), agree count below]
  simp only [leVoltageMonitorGetAverageMv, loop numOfSamples le_rfl]

theorem volt_buf_big_endian (dataMv : UInt16) : bigEndian (voltBufOf dataMv) = dataMv.toNat := by
  have high : (dataMv >>> 8).toNat = dataMv.toNat / 256 := by
    show (dataMv.toBitVec >>> (UInt16.mod 8 16).toBitVec).toNat = _
    simp [BitVec.toNat_ushiftRight, Nat.shiftRight_eq_div_pow]
    rfl
  have mask (x : UInt16) : (x &&& 0x00FF).toNat = x.toNat % 256 := by
    rw [UInt16.and_toNat]
    exact Nat.and_pow_two_sub_one_eq_mod x.toNat 8
  simp only [bigEndian, voltBufOf, UInt16.toUInt8_toNat, mask, high]
  have := dataMv.toNat_lt
  omega

/-- For 12-bit codes the firmware arithmetic never wraps and returns the truncating mean. -/
theorem get_average_mv_exact (samplingBuffer : Nat → UInt32)
    (codes : ∀ i < numOfSamples, (samplingBuffer i).toNat ≤ 0xFFF) :
    (∀ i < numOfSamples, (samplingBuffer i).toNat * 3300 < UInt32.size) ∧
    (∀ i < numOfSamples, (averageLoop samplingBuffer i).toNat +
      (convertToMv (samplingBuffer i)).toNat < UInt32.size) ∧
    (averageLoop samplingBuffer numOfSamples / 128).toNat < UInt16.size ∧
    (leVoltageMonitorGetAverageMv samplingBuffer).toNat = averageMv samplingBuffer ∧
    averageMv samplingBuffer ≤ 3300 ∧
    bigEndian (voltBufOf (leVoltageMonitorGetAverageMv samplingBuffer)) = averageMv samplingBuffer := by
  have quotient := average_quotient_exact samplingBuffer codes
  have result := get_average_mv_eq_average_mv samplingBuffer codes
  have mean := average_mv_le samplingBuffer codes
  refine ⟨fun i below => (convert_to_mv_exact _ (codes i below)).1, fun i below => ?_,
    by rw [quotient]; show _ < 65536; omega, result, mean, by rw [volt_buf_big_endian, result]⟩
  have upTo := partial_sum_le samplingBuffer (i + 1) fun j lower => codes j (by omega)
  rw [Finset.sum_range_succ] at upTo
  rw [average_loop_exact samplingBuffer i (fun j lower => codes j (by omega)) (by omega),
    (convert_to_mv_exact _ (codes i below)).2]
  unfold numOfSamples at below
  show _ < 4294967296
  omega

theorem get_average_mv_exact_full_scale :
    let samplingBuffer : Nat → UInt32 := fun _ => 0xFFF
    (∀ i < numOfSamples, (samplingBuffer i).toNat ≤ 0xFFF) ∧
    (∀ i < numOfSamples, (samplingBuffer i).toNat * 3300 < UInt32.size) ∧
    (∀ i < numOfSamples, (averageLoop samplingBuffer i).toNat +
      (convertToMv (samplingBuffer i)).toNat < UInt32.size) ∧
    (averageLoop samplingBuffer numOfSamples / 128).toNat < UInt16.size ∧
    (leVoltageMonitorGetAverageMv samplingBuffer).toNat = averageMv samplingBuffer ∧
    averageMv samplingBuffer ≤ 3300 ∧
    bigEndian (voltBufOf (leVoltageMonitorGetAverageMv samplingBuffer)) = averageMv samplingBuffer :=
  have codes : ∀ i < numOfSamples, ((fun _ => 0xFFF : Nat → UInt32) i).toNat ≤ 0xFFF :=
    fun _ _ => le_rfl
  ⟨codes, get_average_mv_exact _ codes⟩

/-- The average lies between the smallest and the largest converted sample. -/
theorem get_average_mv_within (samplingBuffer : Nat → UInt32) (lo hi : Nat)
    (codes : ∀ i < numOfSamples, (samplingBuffer i).toNat ≤ 0xFFF)
    (within : ∀ i < numOfSamples,
      lo ≤ (convertToMv (samplingBuffer i)).toNat ∧ (convertToMv (samplingBuffer i)).toNat ≤ hi) :
    lo ≤ (leVoltageMonitorGetAverageMv samplingBuffer).toNat ∧
      (leVoltageMonitorGetAverageMv samplingBuffer).toNat ≤ hi := by
  have converted : ∀ i ∈ Finset.range numOfSamples,
      lo ≤ rawToMv (samplingBuffer i).toNat ∧ rawToMv (samplingBuffer i).toNat ≤ hi := by
    intro i member
    have below := Finset.mem_range.mp member
    rw [← (convert_to_mv_exact _ (codes i below)).2]
    exact within i below
  have lower := Finset.card_nsmul_le_sum _ _ lo fun i member => (converted i member).1
  have upper := Finset.sum_le_card_nsmul _ _ hi fun i member => (converted i member).2
  rw [Finset.card_range, Nat.nsmul_eq_mul] at lower upper
  rw [get_average_mv_eq_average_mv _ codes, averageMv]
  exact ⟨(Nat.le_div_iff_mul_le (by decide)).mpr (by rw [mul_comm]; exact lower),
    Nat.div_le_of_le_mul upper⟩

theorem get_average_mv_within_two_levels :
    let samplingBuffer : Nat → UInt32 := fun i => if i < 64 then 2048 else 2049
    (∀ i < numOfSamples, (samplingBuffer i).toNat ≤ 0xFFF) ∧
    (∀ i < numOfSamples,
      1650 ≤ (convertToMv (samplingBuffer i)).toNat ∧ (convertToMv (samplingBuffer i)).toNat ≤ 1651) ∧
    1650 ≤ (leVoltageMonitorGetAverageMv samplingBuffer).toNat ∧
      (leVoltageMonitorGetAverageMv samplingBuffer).toNat ≤ 1651 := by
  intro samplingBuffer
  have codes : ∀ i < numOfSamples, (samplingBuffer i).toNat ≤ 0xFFF := by
    intro i _
    by_cases low : i < 64 <;> simp only [samplingBuffer, low, if_true, if_false] <;> decide
  have within : ∀ i < numOfSamples,
      1650 ≤ (convertToMv (samplingBuffer i)).toNat ∧ (convertToMv (samplingBuffer i)).toNat ≤ 1651 := by
    intro i _
    by_cases low : i < 64 <;> simp only [samplingBuffer, low, if_true, if_false] <;> decide
  exact ⟨codes, within, get_average_mv_within samplingBuffer 1650 1651 codes within⟩

end LeVoltageMonitor

import ProtocolSimulation.PcapRoutes

/-!
# How long a capture waits to be stopped

The task of a capture sleeps for what is left of its time. Once nothing is left
the difference is negative, and as an unsigned number of seconds it is huge.
-/
namespace ProtocolSimulation.Service

/-- The deadline of `finalize_expired_pcap_captures`, unless the subtraction overflows. -/
def expiredDeadline (now : ℤ) : Option ℤ :=
  let deadline := now - PCAP_MAX_DURATION_SECS
  if saturateI64 deadline = deadline then some deadline else none

/-- The task waits for what is left of the time of the capture, and does not wait exactly if the
scan after a restart takes the capture for expired. -/
structure DelayBounded (startedAt now : ℤ) : Prop where
  delay : (autoStopDelay startedAt now : ℤ) = max 0 (startedAt + PCAP_MAX_DURATION_SECS - now)
  bounded : autoStopDelay startedAt now ≤ 300
  agrees : ∃ deadline, expiredDeadline now = some deadline ∧
    (autoStopDelay startedAt now = 0 ↔ startedAt ≤ deadline)

theorem saturateI64_of_range {n : ℤ} (hlow : -2 ^ 63 ≤ n) (hhigh : n < 2 ^ 63) :
    saturateI64 n = n := by
  rw [saturateI64]
  omega

theorem expiredDeadline_of_le {now : ℤ} (hlow : -2 ^ 63 + 300 ≤ now) (hhigh : now < 2 ^ 63) :
    expiredDeadline now = some (now - 300) := by
  have hmax : PCAP_MAX_DURATION_SECS = 300 := rfl
  rw [expiredDeadline, hmax]
  exact if_pos (saturateI64_of_range (by omega) (by omega))

theorem range_of_expiredDeadline {now deadline : ℤ} (h : expiredDeadline now = some deadline) :
    -2 ^ 63 + 300 ≤ now := by
  have hmax : PCAP_MAX_DURATION_SECS = 300 := rfl
  rw [expiredDeadline, hmax] at h
  split at h
  next hrange =>
    rw [saturateI64] at hrange
    omega
  next => cases h

/-- Before the deadline the delay is what is left of the time. -/
theorem autoStopDelay_of_le {startedAt now : ℤ} (hstart : startedAt + 300 < 2 ^ 63)
    (hnow : now ≤ startedAt + 300) (h : startedAt ≤ now) (hlow : -2 ^ 63 ≤ startedAt) :
    (autoStopDelay startedAt now : ℤ) = startedAt + 300 - now := by
  have hmax : PCAP_MAX_DURATION_SECS = 300 := rfl
  have hdeadline : saturateI64 (startedAt + 300) = startedAt + 300 :=
    saturateI64_of_range (by omega) hstart
  have hdelay : saturateI64 (startedAt + 300 - now) = startedAt + 300 - now :=
    saturateI64_of_range (by omega) (by omega)
  rw [autoStopDelay, hmax, hdeadline, hdelay]
  omega

/-- Past the deadline the delay is beyond every signed number of seconds. -/
theorem autoStopDelay_of_lt {startedAt now : ℤ} (hnow : startedAt + 300 < now)
    (hlow : -2 ^ 63 ≤ startedAt) (hhigh : now < 2 ^ 63) :
    2 ^ 63 ≤ autoStopDelay startedAt now := by
  have hmax : PCAP_MAX_DURATION_SECS = 300 := rfl
  have hdeadline : saturateI64 (startedAt + 300) = startedAt + 300 :=
    saturateI64_of_range (by omega) (by omega)
  rw [autoStopDelay, hmax, hdeadline, saturateI64]
  omega

/-- A deadline beyond the range of the clock is brought into it. -/
theorem autoStopDelay_of_ge {startedAt now : ℤ} (hstart : 2 ^ 63 ≤ startedAt + 300)
    (h : startedAt ≤ now) (hhigh : now < 2 ^ 63) :
    (autoStopDelay startedAt now : ℤ) = 2 ^ 63 - 1 - now := by
  have hmax : PCAP_MAX_DURATION_SECS = 300 := rfl
  have hdeadline : saturateI64 (startedAt + 300) = 2 ^ 63 - 1 := by
    rw [saturateI64]
    omega
  have hdelay : saturateI64 (2 ^ 63 - 1 - now) = 2 ^ 63 - 1 - now :=
    saturateI64_of_range (by omega) (by omega)
  rw [autoStopDelay, hmax, hdeadline, hdelay]
  omega

/-- The delay is bounded exactly if the deadline has not passed, and neither it nor the one of the
scan is out of the range of the clock. -/
theorem delayBounded_iff {startedAt now : Int64} (h : startedAt ≤ now) :
    DelayBounded startedAt.toInt now.toInt ↔ now.toInt ≤ startedAt.toInt + 300 ∧
      startedAt.toInt + 300 < 2 ^ 63 ∧ -2 ^ 63 + 300 ≤ now.toInt := by
  have hmax : PCAP_MAX_DURATION_SECS = 300 := rfl
  have hle : startedAt.toInt ≤ now.toInt := Int64.le_iff_toInt_le.mp h
  have hlow := startedAt.le_toInt
  have hhigh := now.toInt_lt
  constructor
  · intro hbounded
    obtain ⟨deadline, hdeadline, _⟩ := hbounded.agrees
    have hdelay := hbounded.delay
    rw [hmax] at hdelay
    refine ⟨?_, ?_, range_of_expiredDeadline hdeadline⟩
    · by_contra hpast
      have hhuge := autoStopDelay_of_lt (not_le.mp hpast) hlow hhigh
      have hsmall := hbounded.bounded
      omega
    · by_contra hfar
      have hshort := autoStopDelay_of_ge (not_lt.mp hfar) hle hhigh
      omega
  · intro hrange
    obtain ⟨hnow, hstart, hscan⟩ := hrange
    have hdelay := autoStopDelay_of_le hstart hnow hle hlow
    constructor
    · rw [hdelay, hmax]
      omega
    · omega
    · exact ⟨_, expiredDeadline_of_le hscan hhigh, by omega⟩

/-- Two minutes into a capture. -/
theorem delayBounded_twoMinutes : DelayBounded 1700000000 1700000120 :=
  (@delayBounded_iff 1700000000 1700000120 (by decide)).mpr (by decide)

/-- A second too late the task waits for longer than any clock runs. -/
theorem not_delayBounded_late : autoStopDelay 1700000000 1700000301 = 18446744073709551615 ∧
    ¬ DelayBounded 1700000000 1700000301 := by
  have hdelay : autoStopDelay 1700000000 1700000301 = 18446744073709551615 := by decide
  refine ⟨hdelay, ?_⟩
  intro h
  have hbounded := h.bounded
  omega

end ProtocolSimulation.Service

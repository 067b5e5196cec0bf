import TcOtel.Ads.RoundTrip
import TcOtel.Service.DiagnosticsBridge
import TcOtel.Service.SpanLife

/-!
# Three conversions of a DC time

The log parser, the span dispatcher and the diagnostics bridge each turn nanoseconds since 2000 into a
date. They agree up to 2262, where the sum of the span dispatcher leaves the range of an `i64`.
-/

namespace TcOtel.Service

open Decoding Ads

/-- All three yield the instant so many nanoseconds after 2000, whatever the calendar and the clock. -/
def DcTimesAgree (dcNs : Int64) : Prop :=
  ∀ (chrono : Chrono) (now : Nat → DateTime) (reading : Nat) (address : String),
    Decodes (readDcTaskTime ⟨chrono, now⟩) (encodeI64 dcNs) (dcDate dcNs) ∧
      dcTimeToDatetime chrono (now reading) dcNs = dcDate dcNs ∧
      DiagnosticsBridge.dcTimeToDatetime ⟨chrono, now, address⟩ reading dcNs = dcDate dcNs

section

variable {dcNs : Int64}

theorem dcTimeToDatetime_bridge (env : DiagnosticsBridge.Surroundings) (reading : Nat) (positive : 0 < dcNs.toInt) :
    DiagnosticsBridge.dcTimeToDatetime env reading dcNs = dcDate dcNs := by
  have width : dcNs.toInt < 2 ^ 63 := dcNs.toInt_lt
  have since : unixToDcEpochSecs = 946684800 := rfl
  rw [DiagnosticsBridge.dcTimeToDatetime, Int.tdiv_eq_ediv_of_nonneg (by omega),
    env.chrono.fromTimestamp_inRange _ _ (by omega) (by omega) (by omega)]
  rfl

/-- Beyond 2262 the sum wraps to a time before 1970. -/
theorem dcTimeToDatetime_wrapped (large : 2 ^ 63 ≤ dcNs.toInt + 946684800000000000) :
    (dcTimeToDatetime .unlimited ⟨0, 0⟩ dcNs).secs ≤ 0 := by
  have width : dcNs.toInt < 2 ^ 63 := dcNs.toInt_lt
  have offset : dcEpochOffsetNs.toInt = 946684800000000000 := by decide
  have billion : (1000000000 : Int64).toInt = 1000000000 := by decide
  have sum : (dcNs + dcEpochOffsetNs).toInt = -(2 ^ 64 - 946684800000000000 - dcNs.toInt) := by
    rw [Int64.toInt_add, offset, ← Int.sub_bmod_right, Int.bmod_eq_of_le (by omega) (by omega)]
    omega
  have early : ((dcNs + dcEpochOffsetNs) / 1000000000).toInt ≤ 0 := by
    rw [Int64.toInt_div, billion, sum, Int.neg_tdiv, Int.tdiv_eq_ediv_of_nonneg (by omega),
      Int.bmod_eq_of_le (by omega) (by omega)]
    omega
  rw [dcTimeToDatetime]
  split
  · exact Int.le_refl 0
  · exact early

end

/-- The three conversions agree on a DC time as long as it can be counted from 1970 in an `i64`. -/
theorem dcTimesAgree_iff (dcNs : Int64) :
    (0 < dcNs.toInt → DcTimesAgree dcNs) ↔ dcNs.toInt + 946684800000000000 < 2 ^ 63 := by
  constructor
  · intro agree
    by_contra large
    rw [not_lt] at large
    have width : dcNs.toInt < 2 ^ 63 := dcNs.toInt_lt
    have date := (agree (by omega) .unlimited (fun _ => ⟨0, 0⟩) 0 "").2.1
    have early := dcTimeToDatetime_wrapped large
    rw [date] at early
    simp only [dcDate] at early
    omega
  · intro small positive chrono now reading address
    exact ⟨decodes_readDcTaskTime _ ⟨dcNs, positive⟩, dcTimeToDatetime_eq _ _ ⟨positive, small⟩,
      dcTimeToDatetime_bridge _ _ positive⟩

/-- A time in 2285, of which the sum wraps to a whole second in 1700. -/
theorem dcTimes_disagree : 0 < (9000000000709551616 : Int64).toInt ∧ ¬DcTimesAgree 9000000000709551616 := by
  refine ⟨by decide, fun agree => ?_⟩
  have date := (agree .unlimited (fun _ => ⟨0, 0⟩) 0 "").2.1
  exact absurd date (by decide)

end TcOtel.Service

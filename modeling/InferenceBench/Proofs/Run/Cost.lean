import InferenceBench.Proofs.Numeral.Scale
import InferenceBench.Run.Config
import InferenceBench.Run.Report

/-! # Rates and costs

A rate is positive exactly if something was counted and time has passed. Its scale is known
then, and with a cost per hour that is not extreme, what a million tokens cost is a finite
number.
-/

namespace InferenceBench

open Numeral

/-- What the counters and the clock of a tally can hold. -/
structure Tally.Fits (tally : Tally) : Prop where
  promptTokens : tally.promptTokens < 2 ^ 64
  completionTokens : tally.completionTokens < 2 ^ 64
  wallTime : tally.wallTime.nanoseconds < 2 ^ 64 * 1000000000
  successful : tally.successful < 2 ^ 64
  failed : tally.failed < 2 ^ 64

/-! ## Constants -/

theorem scaled_secondsPerHour : Scaled (-41) (-38) (3600 : Float).toModel.unpack :=
  @scaled_ofNat 3600 (by decide) (by decide)

theorem scaled_million : Scaled (-33) (-30) (1000000 : Float).toModel.unpack :=
  @scaled_ofNat 1000000 (by decide) (by decide)

theorem scaled_billion : Scaled (-23) (-20) (1000000000 : Float).toModel.unpack :=
  @scaled_ofNat 1000000000 (by decide) (by decide)

/-! ## Seconds -/

theorem zero_div_billion : Float.ofNat 0 / 1000000000 = 0 := zero_div_scaled scaled_billion

theorem seconds_zero : Span.zero.seconds = 0 := by
  rw [Span.seconds, Span.zero, Nat.zero_div, Nat.zero_mod, zero_div_billion]
  rfl

theorem scaled_counter {n : Nat} (positive : 0 < n) (below : n < 2 ^ 64) :
    Scaled (-52) 14 (Float.ofNat n).toModel.unpack := by
  have bits := log2_lt_of_lt below (by decide)
  exact (scaled_ofNat positive below).mono (by omega) (by omega)

theorem scaled_fraction {n : Nat} (positive : 0 < n) (below : n < 1000000000) :
    Scaled (-85) (-48) (Float.ofNat n / 1000000000).toModel.unpack := by
  have bits := log2_lt_of_lt (below.trans (by decide : 1000000000 < 2 ^ 30)) (by decide)
  refine (scaled_div_double (scaled_ofNat positive (by omega)) scaled_billion (by omega)
    (by unfold largestExponent; omega)).mono ?_ ?_ <;> omega

theorem scaled_seconds {span : Span} (some : 0 < span.nanoseconds)
    (below : span.nanoseconds < 2 ^ 64 * 1000000000) :
    Scaled (-85) 16 span.seconds.toModel.unpack := by
  have whole_lt : span.nanoseconds / 1000000000 < 2 ^ 64 :=
    Nat.div_lt_of_lt_mul (by omega)
  have rest_lt : span.nanoseconds % 1000000000 < 1000000000 := Nat.mod_lt _ (by decide)
  rw [Span.seconds]
  -- a part that is zero has no scale, and leaves the other part as it is
  obtain none | wholeSome := Nat.eq_zero_or_pos (span.nanoseconds / 1000000000)
  · have fraction := scaled_fraction (by omega) rest_lt
    rw [none]
    exact (scaled_zero_add fraction (by decide) (by decide)).mono (by decide) (by decide)
  · have whole := scaled_counter wholeSome whole_lt
    obtain none | restSome := Nat.eq_zero_or_pos (span.nanoseconds % 1000000000)
    · rw [none, zero_div_billion]
      exact (scaled_add_zero whole (by decide) (by decide)).mono (by decide) (by decide)
    · have fraction := scaled_fraction restSome rest_lt
      exact (scaled_add_double whole fraction (by decide) (by decide)).mono (by decide) (by decide)

/-! ## Rates -/

theorem not_zero_lt_zero : ¬ (0 : Float) < 0 := by decide

theorem rate_of_no_time (count : Nat) : Tally.rate count .zero = 0 := by
  rw [Tally.rate, seconds_zero, if_neg not_zero_lt_zero]

theorem rate_of_no_count {elapsed : Span} (below : elapsed.nanoseconds < 2 ^ 64 * 1000000000) :
    Tally.rate 0 elapsed = 0 := by
  obtain none | some := Nat.eq_zero_or_pos elapsed.nanoseconds
  · obtain rfl : elapsed = .zero := congrArg Span.mk none
    exact rate_of_no_time 0
  · have seconds := scaled_seconds some below
    rw [Tally.rate, if_pos (zero_lt_scaled seconds)]
    exact zero_div_scaled seconds

theorem scaled_rate {count : Nat} {elapsed : Span} (counted : 0 < count) (fits : count < 2 ^ 64)
    (some : 0 < elapsed.nanoseconds) (below : elapsed.nanoseconds < 2 ^ 64 * 1000000000) :
    Scaled (-121) 48 (Tally.rate count elapsed).toModel.unpack := by
  have seconds := scaled_seconds some below
  rw [Tally.rate, if_pos (zero_lt_scaled seconds)]
  exact scaled_div_double (scaled_counter counted fits) seconds (by decide) (by decide)

/-! ## Costs -/

theorem isFinite_div {x y : Float} {bound low high : Int} (left : Within bound x.toModel.unpack)
    (right : Scaled low high y.toModel.unpack)
    (fits : max (bound - low) (-1074) + 316 ≤ largestExponent) : (x / y).isFinite = true :=
  isFinite_pack (div_within left right) (by omega) fits

theorem ofThroughput_of_scaled {tokensPerSecond costPerHour : Float}
    (scaled : Scaled (-121) 48 tokensPerSecond.toModel.unpack) (nonneg : ¬ costPerHour < 0)
    (atMost : costPerHour ≤ 1000000000) :
    ∃ dollars, CostFigure.ofThroughput tokensPerSecond costPerHour = .perMillionTokens dollars ∧
      dollars.isFinite = true := by
  -- the cost may be zero or have few bits, so that its exponent is bounded from above only
  have cost := within_of_le scaled_billion nonneg atMost
  have millions : Within 160 (costPerHour * 1000000).toModel.unpack :=
    pack_within (mul_within cost scaled_million.within) (by decide) (by decide)
  have tokensPerHour := scaled_mul_double scaled scaled_secondsPerHour (by decide) (by decide)
  exact ⟨_, if_pos (zero_lt_scaled scaled), isFinite_div millions tokensPerHour (by decide)⟩

/-- A figure that documents can hold, if it is one. -/
inductive CostFigure.Finite : CostFigure → Prop where
  | perMillionTokens {dollars : Float} (finite : dollars.isFinite = true) :
      Finite (.perMillionTokens dollars)
  | unbounded : Finite .unbounded

theorem ofThroughput_zero (costPerHour : Float) :
    CostFigure.ofThroughput 0 costPerHour = .unbounded :=
  if_neg not_zero_lt_zero

/-- Whether a workload has counted tokens in some time. -/
def WorkloadKind.HasThroughput (kind : WorkloadKind) (tally : Tally) : Prop :=
  0 < kind.measuredTokens tally ∧ tally.wallTime ≠ .zero

theorem tokensPerSecond_eq (kind : WorkloadKind) (tally : Tally) :
    kind.tokensPerSecond tally = Tally.rate (kind.measuredTokens tally) tally.wallTime := by
  cases kind <;> rfl

section Summary

variable {tally : Tally} (fits : tally.Fits) (kind : WorkloadKind)

include fits

theorem Tally.Fits.measuredTokens : kind.measuredTokens tally < 2 ^ 64 := by
  cases kind with
  | prefill => exact fits.promptTokens
  | decode => exact fits.completionTokens

theorem tokensPerSecond_eq_zero (none : ¬ kind.HasThroughput tally) :
    kind.tokensPerSecond tally = 0 := by
  rw [tokensPerSecond_eq]
  obtain zero | counted := Nat.eq_zero_or_pos (kind.measuredTokens tally)
  · rw [zero, rate_of_no_count fits.wallTime]
  · have stopped : tally.wallTime = .zero := by
      by_contra some
      exact none ⟨counted, some⟩
    rw [stopped, rate_of_no_time]

theorem scaled_tokensPerSecond (throughput : kind.HasThroughput tally) :
    Scaled (-121) 48 (kind.tokensPerSecond tally).toModel.unpack := by
  obtain ⟨counted, passed⟩ := throughput
  have some : 0 < tally.wallTime.nanoseconds :=
    Nat.pos_of_ne_zero fun zero => passed (congrArg Span.mk zero)
  rw [tokensPerSecond_eq]
  exact scaled_rate counted (fits.measuredTokens kind) some fits.wallTime

theorem cost_of_throughput (throughput : kind.HasThroughput tally) {costPerHour : Float}
    (nonneg : ¬ costPerHour < 0) (atMost : costPerHour ≤ 1000000000) :
    ∃ dollars, (WorkloadSummary.ofTally kind tally costPerHour).cost = .perMillionTokens dollars ∧
      dollars.isFinite = true :=
  ofThroughput_of_scaled (scaled_tokensPerSecond fits kind throughput) nonneg atMost

theorem cost_of_no_throughput (none : ¬ kind.HasThroughput tally) (costPerHour : Float) :
    (WorkloadSummary.ofTally kind tally costPerHour).cost = .unbounded := by
  rw [WorkloadSummary.ofTally, tokensPerSecond_eq_zero fits kind none, ofThroughput_zero]

theorem finite_cost {costPerHour : Float} (nonneg : ¬ costPerHour < 0)
    (atMost : costPerHour ≤ 1000000000) :
    (WorkloadSummary.ofTally kind tally costPerHour).cost.Finite := by
  by_cases throughput : kind.HasThroughput tally
  · obtain ⟨dollars, cost, finite⟩ := cost_of_throughput fits kind throughput nonneg atMost
    rw [cost]
    exact .perMillionTokens finite
  · rw [cost_of_no_throughput fits kind throughput]
    exact .unbounded

theorem exists_cost_iff {costPerHour : Float} (nonneg : ¬ costPerHour < 0)
    (atMost : costPerHour ≤ 1000000000) :
    (∃ dollars,
        (WorkloadSummary.ofTally kind tally costPerHour).cost = .perMillionTokens dollars) ↔
      kind.HasThroughput tally := by
  constructor
  · rintro ⟨dollars, cost⟩
    by_contra none
    rw [cost_of_no_throughput fits kind none] at cost
    cases cost
  · intro throughput
    obtain ⟨dollars, cost, -⟩ := cost_of_throughput fits kind throughput nonneg atMost
    exact ⟨dollars, cost⟩

end Summary

end InferenceBench

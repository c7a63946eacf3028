import InferenceBench.Proofs.Run.Quantile
import InferenceBench.Proofs.Run.Tally

/-! # Latencies as order statistics

What stands at an index of a sorted list is known by counting alone: how many elements are not above
it, and how many are not below it. So it is known of the unsorted list as well, and of two such
elements the one with the higher index is not below the other. All order among the median and the
quantiles follows from the order of their indices.
-/

namespace InferenceBench

/-- A span of a list that stands at the rank, counted from zero, once the list is sorted. -/
structure Ranks (spans : List Span) (rank : Nat) (span : Span) : Prop where
  mem : span ∈ spans
  notAbove : rank + 1 ≤ spans.countP (·.atMost span)
  notBelow : spans.length - rank ≤ spans.countP span.atMost

namespace Ranks

variable {spans other : List Span} {i j : Nat} {a b : Span}

theorem lt_length (ranks : Ranks spans i a) : i < spans.length :=
  ranks.notAbove.trans List.countP_le_length

theorem perm (ranks : Ranks spans i a) (same : spans.Perm other) : Ranks other i a where
  mem := same.mem_iff.mp ranks.mem
  notAbove := by
    rw [← same.countP_eq]
    exact ranks.notAbove
  notBelow := by
    rw [← same.countP_eq, ← same.length_eq]
    exact ranks.notBelow

/-- Were the one with the higher rank below, too many would be counted. -/
theorem atMost (lower : Ranks spans i a) (upper : Ranks spans j b) (le : i ≤ j) :
    a.atMost b = true := by
  by_contra above
  have apart : spans.countP a.atMost ≤ spans.countP fun span => !span.atMost b := by
    apply List.countP_mono_left
    intro span _ notBelow
    rw [Bool.not_eq_true']
    by_contra notAbove
    exact above (Span.atMost_trans notBelow (by simpa using notAbove))
  have all := List.length_eq_countP_add_countP (·.atMost b) (l := spans)
  have inside := lower.lt_length
  have notAbove := upper.notAbove
  have notBelow := lower.notBelow
  simp at all
  omega

theorem of_parts {before after : List Span}
    (ordered : (before ++ a :: after).Pairwise fun a b => a.atMost b = true) :
    Ranks (before ++ a :: after) before.length a := by
  obtain ⟨-, fromHere, across⟩ := List.pairwise_append.mp ordered
  have notAbove : before.countP (·.atMost a) = before.length :=
    List.countP_eq_length.mpr fun span mem => across span mem a List.mem_cons_self
  have notBelow : after.countP a.atMost = after.length :=
    List.countP_eq_length.mpr (List.pairwise_cons.mp fromHere).1
  refine ⟨List.mem_append_right _ List.mem_cons_self, ?_, ?_⟩
  · rw [List.countP_append, notAbove, List.countP_cons, if_pos a.atMost_refl]
    omega
  · rw [List.countP_append, List.countP_cons, if_pos a.atMost_refl, notBelow, List.length_append,
      List.length_cons]
    omega

theorem of_ordered (ordered : spans.Pairwise fun a b => a.atMost b = true)
    (held : spans[i]? = some a) : Ranks spans i a := by
  obtain ⟨inside, rfl⟩ := List.getElem?_eq_some_iff.mp held
  have parts : spans = spans.take i ++ spans[i] :: spans.drop (i + 1) := by
    rw [← List.drop_eq_getElem_cons inside, List.take_append_drop]
  have before : (spans.take i).length = i := List.length_take_of_le inside.le
  rw [parts] at ordered
  have ranks := of_parts ordered
  rwa [← parts, before] at ranks

end Ranks

namespace Tally

variable {tally : Tally}

theorem length_sortedLatencies (tally : Tally) :
    tally.sortedLatencies.length = tally.latencies.length := List.length_mergeSort _

theorem ranks_sortedLatencies {index : Nat} {span : Span}
    (held : tally.sortedLatencies[index]? = some span) : Ranks tally.latencies index span :=
  (Ranks.of_ordered tally.sortedLatencies_ordered held).perm (List.mergeSort_perm _ _)

theorem exists_ranks_index {index : Nat} (inside : index < tally.latencies.length) :
    ∃ span, tally.sortedLatencies[index]? = some span ∧ Ranks tally.latencies index span := by
  rw [← length_sortedLatencies] at inside
  have held := List.getElem?_eq_getElem inside
  exact ⟨_, held, ranks_sortedLatencies held⟩

theorem exists_ranks_mem {span : Span} (mem : span ∈ tally.latencies) :
    ∃ index, Ranks tally.latencies index span := by
  have mem : span ∈ tally.sortedLatencies := List.mem_mergeSort.mpr mem
  obtain ⟨index, held⟩ := List.mem_iff_getElem?.mp mem
  exact ⟨index, ranks_sortedLatencies held⟩

/-! ## Quantiles -/

theorem percentileIndex?_lt {length : Nat} (positive : 0 < length) (quantile : Float) :
    ∃ index, percentileIndex? length quantile = some index ∧ index < length := by
  rw [percentileIndex?, if_neg positive.ne']
  exact ⟨_, rfl, by omega⟩

theorem ranks_latencyAt {index : Nat} {quantile : Float}
    (at_index : percentileIndex? tally.latencies.length quantile = some index)
    (inside : index < tally.latencies.length) :
    Ranks tally.latencies index (tally.latencyAt quantile) := by
  obtain ⟨span, held, ranks⟩ := exists_ranks_index inside
  have here : tally.latencyAt quantile = span := by
    rw [latencyAt, percentile?, length_sortedLatencies, at_index, Option.bind_some, held,
      Option.getD_some]
  rwa [here]

/-! ## The median -/

theorem median_odd (odd : tally.latencies.length % 2 = 1) :
    Ranks tally.latencies (tally.latencies.length / 2) tally.medianLatency := by
  obtain ⟨span, held, ranks⟩ := @exists_ranks_index tally (tally.latencies.length / 2) (by omega)
  have here : tally.medianLatency = span := by
    rw [medianLatency, median?]
    simp only [length_sortedLatencies, odd, if_true, held, Option.getD_some]
  rwa [here]

theorem median_even (even : tally.latencies.length % 2 = 0) (some : tally.latencies ≠ []) :
    ∃ lower upper, Ranks tally.latencies (tally.latencies.length / 2 - 1) lower ∧
      Ranks tally.latencies (tally.latencies.length / 2) upper ∧
      tally.medianLatency = lower.mean upper := by
  have positive := List.length_pos_iff.mpr some
  obtain ⟨lower, lowerHeld, lowerRanks⟩ :=
    @exists_ranks_index tally (tally.latencies.length / 2 - 1) (by omega)
  obtain ⟨upper, upperHeld, upperRanks⟩ :=
    @exists_ranks_index tally (tally.latencies.length / 2) (by omega)
  refine ⟨lower, upper, lowerRanks, upperRanks, ?_⟩
  rw [medianLatency, median?]
  simp only [length_sortedLatencies, even, lowerHeld, upperHeld]
  rfl

/-- The median lies between the elements around the middle, which are the same where one element
stands there. -/
theorem median_between (some : tally.latencies ≠ []) :
    ∃ lower upper, Ranks tally.latencies ((tally.latencies.length - 1) / 2) lower ∧
      Ranks tally.latencies (tally.latencies.length / 2) upper ∧
      lower.atMost tally.medianLatency = true ∧ tally.medianLatency.atMost upper = true := by
  have positive := List.length_pos_iff.mpr some
  obtain even | odd := Nat.mod_two_eq_zero_or_one tally.latencies.length
  · obtain ⟨lower, upper, lowerRanks, upperRanks, mean⟩ := median_even even some
    have between := Span.mean_between (lowerRanks.atMost upperRanks (Nat.sub_le _ _))
    have index : tally.latencies.length / 2 - 1 = (tally.latencies.length - 1) / 2 := by omega
    rw [index] at lowerRanks
    rw [mean]
    exact ⟨lower, upper, lowerRanks, upperRanks, between⟩
  · have ranks := median_odd odd
    have index : tally.latencies.length / 2 = (tally.latencies.length - 1) / 2 := by omega
    exact ⟨_, _, index ▸ ranks, ranks, Span.atMost_refl _, Span.atMost_refl _⟩

/-! ## All statistics -/

/-- What the median and the quantiles that are reported are among the latencies. -/
structure OrderStatistics (tally : Tally) : Prop where
  quantile : ∀ quantile, ∃ index,
    percentileIndex? tally.latencies.length quantile = some index ∧
      Ranks tally.latencies index (tally.latencyAt quantile)
  middle : tally.latencies.length % 2 = 1 →
    Ranks tally.latencies (tally.latencies.length / 2) tally.medianLatency
  middles : tally.latencies.length % 2 = 0 → ∃ lower upper,
    Ranks tally.latencies (tally.latencies.length / 2 - 1) lower ∧
      Ranks tally.latencies (tally.latencies.length / 2) upper ∧
      tally.medianLatency.nanoseconds = (lower.nanoseconds + upper.nanoseconds) / 2
  halfNotAbove : tally.latencies.length ≤
    2 * tally.latencies.countP (·.atMost tally.medianLatency)
  halfNotBelow : tally.latencies.length ≤ 2 * tally.latencies.countP tally.medianLatency.atMost
  ordered : ∃ least ∈ tally.latencies, ∃ greatest ∈ tally.latencies,
    (∀ latency ∈ tally.latencies, least.atMost latency ∧ latency.atMost greatest) ∧
      least.atMost tally.medianLatency ∧ tally.medianLatency.atMost (tally.latencyAt 0.95) ∧
      (tally.latencyAt 0.95).atMost (tally.latencyAt 0.99) ∧
      (tally.latencyAt 0.99).atMost greatest

theorem half_not_above (some : tally.latencies ≠ []) :
    tally.latencies.length ≤ 2 * tally.latencies.countP (·.atMost tally.medianLatency) := by
  obtain ⟨lower, _, ranks, _, below, _⟩ := median_between some
  have more : tally.latencies.countP (·.atMost lower) ≤
      tally.latencies.countP (·.atMost tally.medianLatency) :=
    List.countP_mono_left fun _ _ atMost => Span.atMost_trans atMost below
  have counted := ranks.notAbove
  omega

theorem half_not_below (some : tally.latencies ≠ []) :
    tally.latencies.length ≤ 2 * tally.latencies.countP tally.medianLatency.atMost := by
  obtain ⟨_, upper, _, ranks, _, above⟩ := median_between some
  have more : tally.latencies.countP upper.atMost ≤
      tally.latencies.countP tally.medianLatency.atMost :=
    List.countP_mono_left fun _ _ atMost => Span.atMost_trans above atMost
  have counted := ranks.notBelow
  omega

theorem latencies_ordered (some : tally.latencies ≠ [])
    (short : tally.latencies.length ≤ 2 ^ 40) :
    ∃ least ∈ tally.latencies, ∃ greatest ∈ tally.latencies,
      (∀ latency ∈ tally.latencies, least.atMost latency ∧ latency.atMost greatest) ∧
        least.atMost tally.medianLatency ∧ tally.medianLatency.atMost (tally.latencyAt 0.95) ∧
        (tally.latencyAt 0.95).atMost (tally.latencyAt 0.99) ∧
        (tally.latencyAt 0.99).atMost greatest := by
  have positive := List.length_pos_iff.mpr some
  obtain ⟨least, _, first⟩ := @exists_ranks_index tally 0 positive
  obtain ⟨greatest, _, last⟩ :=
    @exists_ranks_index tally (tally.latencies.length - 1) (by omega)
  obtain ⟨lower, upper, lowerRanks, upperRanks, below, above⟩ := median_between some
  have p95 := ranks_latencyAt (hundredths_95.percentileIndex?_eq positive short) (by omega)
  have p99 := ranks_latencyAt (hundredths_99.percentileIndex?_eq positive short) (by omega)
  refine ⟨least, first.mem, greatest, last.mem, ?_, ?_, ?_, ?_, ?_⟩
  · intro latency mem
    obtain ⟨index, ranks⟩ := exists_ranks_mem mem
    have inside := ranks.lt_length
    exact ⟨first.atMost ranks (Nat.zero_le _), ranks.atMost last (by omega)⟩
  · exact Span.atMost_trans (first.atMost lowerRanks (Nat.zero_le _)) below
  · exact Span.atMost_trans above (upperRanks.atMost p95 (by omega))
  · exact p95.atMost p99 (by omega)
  · exact p99.atMost last (by omega)

/-- Each quantile is the latency that its index ranks, the median stands in the middle, and the
figures that are reported are in order. -/
theorem latencies_are_order_statistics {tally : Tally} (some : tally.latencies ≠ [])
    (short : tally.latencies.length ≤ 2 ^ 40) : OrderStatistics tally where
  quantile := by
    intro quantile
    obtain ⟨index, is, inside⟩ := percentileIndex?_lt (List.length_pos_iff.mpr some) quantile
    exact ⟨index, is, ranks_latencyAt is inside⟩
  middle := median_odd
  middles := by
    intro even
    obtain ⟨lower, upper, lowerRanks, upperRanks, mean⟩ := median_even even some
    exact ⟨lower, upper, lowerRanks, upperRanks, congrArg Span.nanoseconds mean⟩
  halfNotAbove := half_not_above some
  halfNotBelow := half_not_below some
  ordered := latencies_ordered some short

/-- Four latencies that were not recorded in their order, so that the median is a mean. -/
theorem latencies_are_order_statistics_four :
    OrderStatistics { empty with latencies := [⟨30⟩, ⟨10⟩, ⟨41⟩, ⟨20⟩] } ∧
      medianLatency { empty with latencies := [⟨30⟩, ⟨10⟩, ⟨41⟩, ⟨20⟩] } = ⟨25⟩ :=
  ⟨latencies_are_order_statistics (by decide) (by decide), by cbv⟩

end Tally

end InferenceBench

import InferenceBench.Pricing.Update
import InferenceBench.Proofs.Run.Report

/-! # Prices from results

The prices of a model are read from the results document of a benchmark. The document has them
exactly if both workloads had throughput, and they are then the figures of the report.
-/

namespace InferenceBench.Pricing

open Json

/-! ## Reading prices -/

theorem bind_eq_ok {ε α β : Type} {first : Except ε α} {next : α → Except ε β} {result : β} :
    (first >>= next) = .ok result ↔ ∃ held, first = .ok held ∧ next held = .ok result := by
  cases first <;> simp [bind, Except.bind]

theorem bind_eq_error {ε α β : Type} {first : Except ε α} {next : α → Except ε β} {error : ε} :
    (first >>= next) = .error error ↔
      first = .error error ∨ ∃ held, first = .ok held ∧ next held = .error error := by
  cases first <;> simp [bind, Except.bind]

theorem requiredCost_eq_ok_iff {results : Value} {workload : String} {cost : Float} :
    requiredCost results workload = .ok cost ↔
      workloadCost results workload = .ok (some cost) := by
  rw [requiredCost, bind_eq_ok]
  constructor
  · rintro ⟨held, read, same⟩
    cases held with
    | none => cases same
    | some cost =>
        cases same
        exact read
  · intro read
    exact ⟨some cost, read, rfl⟩

theorem ofResults_eq_ok_iff {results : Value} {prices : Prices} :
    Prices.ofResults results = .ok prices ↔
      requiredCost results "prefill" = .ok prices.input ∧
        requiredCost results "decode" = .ok prices.output ∧
        workloadCost results "cached" = .ok prices.cachedInput := by
  simp only [Prices.ofResults, bind_eq_ok]
  constructor
  · rintro ⟨input, prefill, output, decode, cachedInput, cached, same⟩
    cases same
    exact ⟨prefill, decode, cached⟩
  · rintro ⟨prefill, decode, cached⟩
    exact ⟨prices.input, prefill, prices.output, decode, prices.cachedInput, cached, rfl⟩

/-- The error is about the cost of a workload. -/
inductive PricesError.About (workload : String) : PricesError → Prop
  | missing : About workload (.missing workload)
  | notANumber : About workload (.notANumber workload)

theorem workloadCost_error {results : Value} {workload : String} {error : PricesError}
    (failed : workloadCost results workload = .error error) : error.About workload := by
  simp only [workloadCost] at failed
  split at failed
  · cases failed
  · cases failed
  · split at failed
    · cases failed
    · cases failed
      exact .notANumber

theorem requiredCost_error {results : Value} {workload : String} {error : PricesError}
    (failed : requiredCost results workload = .error error) : error.About workload := by
  rw [requiredCost, bind_eq_error] at failed
  obtain failed | ⟨held, -, missing⟩ := failed
  · exact workloadCost_error failed
  · cases held with
    | none =>
        cases missing
        exact .missing
    | some cost => cases missing

theorem ofResults_error {results : Value} {error : PricesError}
    (failed : Prices.ofResults results = .error error) :
    ∃ workload ∈ ["prefill", "decode", "cached"], error.About workload := by
  simp only [Prices.ofResults, bind_eq_error] at failed
  obtain prefill | ⟨input, -, decode | ⟨output, -, cached | ⟨cachedInput, -, impossible⟩⟩⟩ := failed
  · exact ⟨"prefill", by simp, requiredCost_error prefill⟩
  · exact ⟨"decode", by simp, requiredCost_error decode⟩
  · exact ⟨"cached", by simp, workloadCost_error cached⟩
  · cases impossible

/-! ## Reports -/

theorem requiredCost_of_summary {results : Value} {workload : String} {summary : WorkloadSummary}
    (held : results.field? workload = some summary.value) (finite : summary.cost.Finite)
    {cost : Float} :
    requiredCost results workload = .ok cost ↔ summary.cost = .perMillionTokens cost := by
  rw [requiredCost_eq_ok_iff, workloadCost, held, Option.bind_some, summary.cost_value]
  generalize summary.cost = figure at finite ⊢
  cases finite with
  | perMillionTokens finite =>
      simp [CostFigure.value, Value.ofDouble, finite, Value.asDouble?, Value.asNumber?,
        Number.toDouble]
  | unbounded => simp [CostFigure.value]

theorem ofResults_of_report {report : BenchmarkReport} (prefill : report.prefill.cost.Finite)
    (decode : report.decode.cost.Finite) {prices : Prices} :
    Prices.ofResults report.value = .ok prices ↔
      report.prefill.cost = .perMillionTokens prices.input ∧
        report.decode.cost = .perMillionTokens prices.output ∧ prices.cachedInput = none := by
  have cached : workloadCost report.value "cached" = .ok none := by
    rw [workloadCost, report.cached_value]
    rfl
  rw [ofResults_eq_ok_iff, requiredCost_of_summary report.prefill_value prefill,
    requiredCost_of_summary report.decode_value decode, cached]
  simp [eq_comm]

section

variable {baseUrl model : String} {concurrency numRequests maxNewTokens : Nat}
  {costPerHour : Float} {config : BenchmarkConfig} {prefill decode : Tally}

/-- The results document of a benchmark has prices exactly if both workloads had throughput. The
prices are then the figures of the report, and there is none for cached tokens. -/
theorem prices_iff_throughput
    (accepted : BenchmarkConfig.ofFigures baseUrl model concurrency numRequests maxNewTokens
      costPerHour = .ok config)
    (atMost : costPerHour ≤ 1000000000) (concurrency_lt : concurrency < 2 ^ 64)
    (numRequests_lt : numRequests < 2 ^ 64) (prefillFits : prefill.Fits)
    (decodeFits : decode.Fits) (retry : RetryPolicy) (provenance : Provenance)
    (prefillTimeout decodeTimeout : Option Span) :
    let report := BenchmarkReport.ofTallies
      { config with retry, provenance, prefillTimeout, decodeTimeout } prefill decode
    ∃ results, Value.ofText? report.document = some results ∧
      ((∃ prices, Prices.ofResults results = .ok prices) ↔
        0 < prefill.promptTokens ∧ 0 < decode.completionTokens ∧
          prefill.wallTime ≠ .zero ∧ decode.wallTime ≠ .zero) ∧
      ∀ prices, Prices.ofResults results = .ok prices →
        report.prefill.cost = .perMillionTokens prices.input ∧
          report.decode.cost = .perMillionTokens prices.output ∧ prices.cachedInput = none := by
  intro report
  obtain ⟨nonneg, rfl, rfl, rfl⟩ := BenchmarkConfig.of_ofFigures accepted
  have fits : report.Fits :=
    ⟨concurrency_lt, numRequests_lt, WorkloadSummary.fits_ofTally prefillFits .prefill _,
      WorkloadSummary.fits_ofTally decodeFits .decode _⟩
  have figures {prices : Prices} := @ofResults_of_report report
    (finite_cost prefillFits .prefill nonneg atMost) (finite_cost decodeFits .decode nonneg atMost)
    prices
  refine ⟨report.value, BenchmarkReport.ofText?_document fits, ?_, fun prices => figures.mp⟩
  have input := exists_cost_iff prefillFits .prefill nonneg atMost
  have output := exists_cost_iff decodeFits .decode nonneg atMost
  calc (∃ prices, Prices.ofResults report.value = .ok prices)
      ↔ (∃ dollars, report.prefill.cost = .perMillionTokens dollars) ∧
          ∃ dollars, report.decode.cost = .perMillionTokens dollars := by
        constructor
        · rintro ⟨prices, read⟩
          obtain ⟨input, output, -⟩ := figures.mp read
          exact ⟨⟨_, input⟩, _, output⟩
        · rintro ⟨⟨input, prefillCost⟩, output, decodeCost⟩
          exact ⟨⟨input, output, none⟩, figures.mpr ⟨prefillCost, decodeCost, rfl⟩⟩
    _ ↔ WorkloadKind.HasThroughput .prefill prefill ∧ WorkloadKind.HasThroughput .decode decode :=
        and_congr input output
    _ ↔ 0 < prefill.promptTokens ∧ 0 < decode.completionTokens ∧
          prefill.wallTime ≠ .zero ∧ decode.wallTime ≠ .zero := by
        rw [WorkloadKind.HasThroughput, WorkloadKind.HasThroughput]
        exact and_and_and_comm.trans and_assoc

end

/-- One request in two seconds has prices, and none in no time has not. -/
theorem prices_iff_throughput_once :
    let served : Tally := ⟨1000, 10, .ofSeconds 2, 1, 0, [.ofSeconds 2], []⟩
    ∃ config, BenchmarkConfig.ofFigures "http://h" "m" 32 64 128 0.16 = .ok config ∧
      (∃ results prices,
        Value.ofText? (BenchmarkReport.ofTallies config served served).document = some results ∧
          Prices.ofResults results = .ok prices) ∧
      ∃ results,
        Value.ofText? (BenchmarkReport.ofTallies config served .empty).document = some results ∧
          ¬ ∃ prices, Prices.ofResults results = .ok prices := by
  intro served
  have served_fits : served.Fits := ⟨by decide, by decide, by decide, by decide, by decide⟩
  have empty_fits : Tally.empty.Fits := ⟨by decide, by decide, by decide, by decide, by decide⟩
  have isOk : (BenchmarkConfig.ofFigures "http://h" "m" 32 64 128 0.16).isOk = true := by
    decide +kernel
  have atMost : (0.16 : Float) ≤ 1000000000 := by decide +kernel
  cases accepted : BenchmarkConfig.ofFigures "http://h" "m" 32 64 128 0.16 with
  | error error =>
      rw [accepted] at isOk
      cases isOk
  | ok config =>
      refine ⟨config, rfl, ?_, ?_⟩
      · obtain ⟨results, read, priced, -⟩ := prices_iff_throughput accepted atMost (by decide)
          (by decide) served_fits served_fits config.retry config.provenance
          config.prefillTimeout config.decodeTimeout
        obtain ⟨prices, held⟩ := priced.mpr ⟨by decide, by decide, by decide, by decide⟩
        exact ⟨results, prices, read, held⟩
      · obtain ⟨results, read, priced, -⟩ := prices_iff_throughput accepted atMost (by decide)
          (by decide) served_fits empty_fits config.retry config.provenance
          config.prefillTimeout config.decodeTimeout
        exact ⟨results, read, fun held => absurd (priced.mp held).2.1 (by decide)⟩

end InferenceBench.Pricing

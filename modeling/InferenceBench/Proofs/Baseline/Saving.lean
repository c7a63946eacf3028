import InferenceBench.Baseline.Update
import InferenceBench.Proofs.Json.Written

/-! # Saved baselines

What an update puts into a baseline is a text, a number, or a value from the results. This value
lies as deep in the baseline as it did in the results, so a baseline never has more containers
inside each other than can be read. Thus every baseline is read back from the file that it was saved
to, after any number of updates.
-/

namespace InferenceBench

open Json

namespace Json.Value.Readable

variable {depth : Nat} {fields : Fields}

theorem insert (readable : Readable (depth + 1) (.object fields)) (key : String) {value : Value}
    (fits : value.Readable depth) : Readable (depth + 1) (.object (fields.insert key value)) := by
  cases readable with
  | object sorted all =>
      refine .object (Fields.sorted_insert sorted key value) fun field member => ?_
      obtain rfl | earlier := Fields.of_mem_insert member
      · exact fits
      · exact all field earlier

theorem field? {value held : Value} {key : String} (readable : value.Readable depth)
    (found : value.field? key = some held) : ∃ inner, depth = inner + 1 ∧ held.Readable inner := by
  cases readable with
  | object sorted all => exact ⟨_, rfl, all _ (Fields.mem_of_find? found)⟩
  | null | boolean | number | text | array => simp [Value.field?] at found

theorem childFields? {child : Fields} {key : String}
    (readable : Readable (depth + 2) (.object fields))
    (found : InferenceBench.childFields? key fields = some child) :
    Readable (depth + 1) (.object child) := by
  unfold InferenceBench.childFields? at found
  split at found
  · obtain rfl := Option.some.inj found
    exact .object .nil (by simp)
  · next held =>
      obtain rfl := Option.some.inj found
      obtain ⟨inner, same, child⟩ := readable.field? held
      obtain rfl : inner = depth + 1 := by omega
      exact child
  · cases found

theorem numberOrZero {held : Option Value}
    (readable : ∀ value ∈ held, ∃ inner, value.Readable inner) :
    (InferenceBench.numberOrZero held).Readable depth := by
  unfold InferenceBench.numberOrZero
  split
  · next value =>
      obtain ⟨inner, number⟩ := readable _ rfl
      cases number with
      | number canonical => exact .number canonical
  · exact .number (.natural (by decide))

end Json.Value.Readable

variable {depth : Nat}

theorem readable_numberOrZero_field? {current : Value} {inner : Nat}
    (readable : current.Readable inner) (key : String) :
    (numberOrZero (current.field? key)).Readable depth := by
  refine .numberOrZero fun held found => ?_
  obtain ⟨innermost, -, fits⟩ := readable.field? found
  exact ⟨innermost, fits⟩

theorem readable_currentScores {results : Value} (readable : results.Readable depth) :
    ∃ inner, (currentScores results).Readable inner := by
  unfold currentScores
  split
  · next accuracy found =>
      obtain ⟨inner, -, accuracyFits⟩ := readable.field? found
      cases scores : accuracy.field? "ifeval" with
      | none => exact ⟨0, .null⟩
      | some held =>
          obtain ⟨innermost, -, fits⟩ := accuracyFits.field? scores
          exact ⟨innermost, fits⟩
  · exact ⟨depth, readable⟩

theorem readable_replaceScores {current : Value} {inner : Nat} (readable : current.Readable inner)
    (mappings : List MetricMapping) {scores : Fields}
    (fits : Value.Readable (depth + 1) (.object scores)) :
    Value.Readable (depth + 1) (.object (replaceScores current mappings scores)) := by
  refine Value.Readable.insert ?_ _ (readable_numberOrZero_field? readable _)
  induction mappings generalizing scores with
  | nil => exact fits
  | cons mapping mappings ih =>
      exact ih (fits.insert _ (readable_numberOrZero_field? readable _))

theorem readable_replaceAccuracy {current : Value} {inner : Nat}
    (readable : current.Readable inner) {mappings : List MetricMapping} {root updated : Fields}
    (fits : Value.Readable (depth + 3) (.object root))
    (replaced : replaceAccuracy current mappings root = .ok updated) :
    Value.Readable (depth + 3) (.object updated) := by
  simp only [replaceAccuracy] at replaced
  split at replaced
  · cases replaced
  · next accuracy held =>
      split at replaced
      · cases replaced
      · next scores inAccuracy =>
          obtain rfl := Except.ok.inj replaced
          have accuracyFits := fits.childFields? held
          have scoresFit := accuracyFits.childFields? inAccuracy
          exact fits.insert _ (accuracyFits.insert _
            (readable_replaceScores readable mappings scoresFit))

theorem readable_stamp (now : Instant) (runId : Option String) {root : Fields}
    (fits : Value.Readable (depth + 1) (.object root)) :
    Value.Readable (depth + 1) (.object (stamp now runId root)) := by
  have stamped := fits.insert "last_updated" (.text (String.ofList now.text))
  cases runId with
  | none => exact stamped
  | some runId => exact stamped.insert "run_id" (.text runId)

/-- The throughput of a section lies two containers deep in the results, and in the baseline. -/
theorem readable_replaceThroughput {results : Value} (readable : results.Readable (depth + 2))
    (sections : List String) {root : Fields}
    (fits : Value.Readable (depth + 2) (.object root)) :
    Value.Readable (depth + 2) (.object (replaceThroughput results root sections).1) := by
  induction sections generalizing root with
  | nil => exact fits
  | cons part rest ih =>
      simp only [replaceThroughput]
      split
      · exact ih fits
      · next workload inResults =>
          obtain ⟨inner, same, workloadFits⟩ := readable.field? inResults
          obtain rfl : inner = depth + 1 := by omega
          split
          · exact fits
          · next performance held =>
              refine ih (fits.insert _ ((fits.childFields? held).insert _ ?_))
              cases rate : workload.field? "tokens_per_second" with
              | none => exact .null
              | some value =>
                  obtain ⟨innermost, same, valueFits⟩ := workloadFits.field? rate
                  obtain rfl : innermost = depth := by omega
                  exact valueFits

/-- An update keeps a baseline readable, whether it goes through or not. -/
theorem readable_updateBaseline {baseline results : Value}
    (baselineFits : baseline.Readable (depth + 3)) (resultsFit : results.Readable (depth + 3))
    (mappings : List MetricMapping) (runId : Option String) (now : Instant) :
    (updateBaseline baseline results mappings runId now).1.Readable (depth + 3) := by
  cases baseline with
  | null | boolean | number | text | array => exact baselineFits
  | object root =>
      simp only [updateBaseline]
      split
      · exact baselineFits
      · next updated replaced =>
          obtain ⟨inner, scores⟩ := readable_currentScores resultsFit
          exact readable_replaceThroughput resultsFit _
            (readable_stamp now runId (readable_replaceAccuracy scores baselineFits replaced))

/-- The documents that were read from a file, and what successful updates with results from files
have made of them. -/
inductive Maintained : Value → Prop where
  | read {path : String} {bytes : Option (List UInt8)} {document : Value}
      (loaded : readDocument path bytes = .ok document) : Maintained document
  | update {baseline updated results : Value} {path : String} {bytes : Option (List UInt8)}
      {mappings : List MetricMapping} {runId : Option String} {now : Instant}
      (maintained : Maintained baseline) (loaded : readDocument path bytes = .ok results)
      (updates : updateBaseline baseline results mappings runId now = (updated, none)) :
      Maintained updated

theorem Maintained.readable {document : Value} (maintained : Maintained document) :
    document.Readable depthLimit := by
  induction maintained with
  | read loaded => exact Value.readable_of_readDocument loaded
  | @update _ _ _ _ _ mappings runId now _ loaded updates ih =>
      have kept := readable_updateBaseline ih (Value.readable_of_readDocument loaded) mappings runId
        now
      rwa [updates] at kept

/-- A document that was read is read back unchanged from the file that it is saved to, and so is
every baseline that updates have made of it. -/
theorem saved_document_is_read_back {document : Value} (maintained : Maintained document)
    (path : String) :
    readDocument path (some (Utf8.encode document.document)) = .ok document :=
  maintained.readable.readDocument_document path

/-- A baseline that is not written as documents are saved. -/
def storedText : List Char :=
  "\x7B\"b\":[ ],\"a\\u0001\\\"\":[-7,null], \"b\": \x7B\x7D\x7D".toList

def stored : Value :=
  .object [("a\x01\"", .array [.number (.negative 7), .null]), ("b", .object [])]

/-- Results with a throughput that is no number. -/
def measured : Value :=
  .object [("decode", .object [("tokens_per_second", .array [.number (.real 0.1), .object []])])]

theorem readable_measured : measured.Readable depthLimit := by
  have rate : Value.Readable 125 (.array [.number (.real 0.1), .object []]) :=
    .array (List.forall_mem_cons.mpr ⟨.number (.real rfl),
      List.forall_mem_singleton.mpr (.object .nil (by simp))⟩)
  have decode : Value.Readable 126 (.object [("tokens_per_second",
      .array [.number (.real 0.1), .object []])]) :=
    .object (List.pairwise_singleton _ _) (List.forall_mem_singleton.mpr rate)
  exact .object (List.pairwise_singleton _ _) (List.forall_mem_singleton.mpr decode)

def renewed : Value :=
  (updateBaseline stored measured MetricMapping.standard (some "\x07") ⟨0, 0⟩).1

theorem saved_document_is_read_back_renewed :
    readDocument "stored" (some (Utf8.encode storedText)) = .ok stored ∧
      updateBaseline stored measured MetricMapping.standard (some "\x07") ⟨0, 0⟩ = (renewed, none) ∧
      readDocument "stored" (some (Utf8.encode renewed.document)) = .ok renewed := by
  have first : readDocument "stored" (some (Utf8.encode storedText)) = .ok stored := by
    decide +kernel
  have second := readable_measured.readDocument_document "measured"
  have updates : updateBaseline stored measured MetricMapping.standard (some "\x07") ⟨0, 0⟩ =
      (renewed, none) := rfl
  exact ⟨first, updates,
    saved_document_is_read_back (.update (.read first) second updates) "stored"⟩

end InferenceBench

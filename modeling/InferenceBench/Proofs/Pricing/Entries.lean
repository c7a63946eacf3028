import InferenceBench.Pricing.Update
import InferenceBench.Proofs.Text.Split

/-! # The entries of a page

An entry is a place in a page: the text before its block, read backwards, gives the key, and the
text after its opening brace closes the block. The scanner finds exactly these places, each once
and in the order of the page. A page may be embedded in a longer text without losing an entry.
-/

namespace InferenceBench.Pricing

/-! ## Keys -/

theorem keyBefore?_eq_some {backwards key : List Char} :
    keyBefore? backwards = some key ↔
      ∃ blanks rest, (∀ c ∈ blanks, Text.isBlank c = true) ∧
        backwards = blanks ++ ':' :: '"' :: (key.reverse ++ '"' :: rest) ∧
        key ≠ [] ∧ '"' ∉ key := by
  constructor
  · intro found
    have parts := List.takeWhile_append_dropWhile (p := Text.isBlank) (l := backwards)
    simp only [keyBefore?] at found
    split at found
    · next rest stripped =>
        split at found
        · next quoted after split =>
            obtain ⟨rfl, closed⟩ := Text.splitAtChar?_eq_some.mp split
            split at found
            · simp at found
            · next nonempty =>
                obtain rfl := by simpa using found
                refine ⟨backwards.takeWhile Text.isBlank, after,
                  List.all_eq_true.mp List.all_takeWhile, ?_, by simpa using nonempty,
                  by simpa using closed⟩
                rw [stripped] at parts
                simpa using parts.symm
        · simp at found
    · simp at found
  · rintro ⟨blanks, rest, blank, rfl, nonempty, closed⟩
    have colon : Text.isBlank ':' = false := by decide
    have stripped : (blanks ++ ':' :: '"' :: (key.reverse ++ '"' :: rest)).dropWhile Text.isBlank =
        ':' :: '"' :: (key.reverse ++ '"' :: rest) := by
      rw [List.dropWhile_append_of_pos blank, List.dropWhile_cons_of_neg (by simp [colon])]
    have split : Text.splitAtChar? '"' (key.reverse ++ '"' :: rest) = some (key.reverse, rest) :=
      Text.splitAtChar?_eq_some.mpr ⟨rfl, by simpa using closed⟩
    simp [keyBefore?, stripped, split, nonempty]

theorem keyBefore?_reverse_eq_some {before key : List Char} :
    keyBefore? before.reverse = some key ↔
      ∃ start blanks, before = start ++ '"' :: (key ++ '"' :: ':' :: blanks) ∧
        (∀ c ∈ blanks, Text.isBlank c = true) ∧ key ≠ [] ∧ '"' ∉ key := by
  rw [keyBefore?_eq_some]
  constructor
  · rintro ⟨blanks, rest, blank, same, nonempty, unquoted⟩
    refine ⟨rest.reverse, blanks.reverse, ?_, by simpa using blank, nonempty, unquoted⟩
    simpa using congrArg List.reverse same
  · rintro ⟨start, blanks, rfl, blank, nonempty, unquoted⟩
    exact ⟨blanks.reverse, start.reverse, by simpa using blank, by simp, nonempty, unquoted⟩

theorem keyBefore?_append {backwards key : List Char} (more : List Char)
    (found : keyBefore? backwards = some key) : keyBefore? (backwards ++ more) = some key := by
  obtain ⟨blanks, rest, blank, rfl, nonempty, closed⟩ := keyBefore?_eq_some.mp found
  exact keyBefore?_eq_some.mpr ⟨blanks, rest ++ more, blank, by simp, nonempty, closed⟩

theorem entryAt?_eq_some {backwards rest : List Char} {entry : Entry} :
    entryAt? backwards rest = some entry ↔
      keyBefore? backwards = some entry.key ∧ '\x7D' ∈ rest ∧
        entry.backwards = backwards ∧ entry.rest = rest := by
  obtain ⟨key, entryBackwards, entryRest⟩ := entry
  simp only [entryAt?]
  cases keyBefore? backwards with
  | none => simp
  | some found =>
      by_cases closes : '\x7D' ∈ rest
      · simp [closes, eq_comm]
      · simp [closes]

/-! ## Places -/

namespace Entry

/-- Where the block of an entry starts. -/
def position (entry : Entry) : Nat := entry.backwards.length

/-- An entry is at home where its key and its closing brace are. -/
def IsWellFormed (entry : Entry) : Prop :=
  keyBefore? entry.backwards = some entry.key ∧ '\x7D' ∈ entry.rest

theorem block_of_rest {entry : Entry} {body after : List Char}
    (same : entry.rest = body ++ '\x7D' :: after) (unclosed : '\x7D' ∉ body) :
    entry.block = '\x7B' :: (body ++ ['\x7D']) ∧ entry.after = after := by
  have inside : ∀ c ∈ body, decide (c ≠ '\x7D') = true := by
    intro c member
    simpa using fun brace : c = '\x7D' => unclosed (brace ▸ member)
  have stops : ∀ c ∈ ('\x7D' :: after).head?, decide (c ≠ '\x7D') = false := by
    rintro c ⟨⟩
    decide
  simp only [block, Entry.after, same, Text.takeWhile_boundary inside stops,
    Text.dropWhile_boundary inside stops]
  simp

theorem block_append_after {entry : Entry} (closes : '\x7D' ∈ entry.rest) :
    entry.block ++ entry.after = '\x7B' :: entry.rest := by
  obtain ⟨body, tail, same, unclosed⟩ := List.eq_append_cons_of_mem closes
  obtain ⟨block, after⟩ := block_of_rest same unclosed
  simp [block, after, same]

theorem text_of_parts {entry : Entry} (closes : '\x7D' ∈ entry.rest) :
    entry.before ++ entry.block ++ entry.after = entry.before ++ '\x7B' :: entry.rest := by
  rw [List.append_assoc, block_append_after closes]

end Entry

/-! ## The scanner -/

theorem mem_entriesAfter {entry : Entry} {passed text : List Char} :
    entry ∈ entriesAfter passed text ↔
      entry.IsWellFormed ∧ ∃ between, text = between ++ '\x7B' :: entry.rest ∧
        entry.backwards = between.reverse ++ passed := by
  induction text generalizing passed with
  | nil => simp [entriesAfter]
  | cons c text ih =>
      simp only [entriesAfter, List.mem_append, ih]
      constructor
      · rintro (here | ⟨formed, between, rfl, same⟩)
        · split at here
          · next brace =>
              obtain ⟨key, closes, same, rest⟩ :=
                entryAt?_eq_some.mp (Option.mem_toList.mp here)
              exact ⟨⟨same ▸ key, rest ▸ closes⟩, [], by simp [brace, rest], by simp [same]⟩
          · simp at here
        · exact ⟨formed, c :: between, rfl, by simp [same]⟩
      · rintro ⟨formed, between, same, backwards⟩
        cases between with
        | nil =>
            simp only [List.nil_append, List.cons.injEq, List.reverse_nil] at same backwards
            obtain ⟨rfl, rfl⟩ := same
            refine .inl ?_
            rw [if_pos rfl, Option.mem_toList, ← backwards]
            exact entryAt?_eq_some.mpr ⟨formed.1, formed.2, rfl, rfl⟩
        | cons d between =>
            simp only [List.cons_append, List.cons.injEq] at same
            obtain ⟨rfl, rfl⟩ := same
            exact .inr ⟨formed, between, rfl, by simp [backwards]⟩

/-- The scanner accepts exactly the entries at home in the page. -/
theorem mem_entries {entry : Entry} {page : List Char} :
    entry ∈ entries page ↔
      entry.IsWellFormed ∧ page = entry.before ++ '\x7B' :: entry.rest := by
  simp only [entries, mem_entriesAfter, List.append_nil]
  constructor
  · rintro ⟨formed, between, rfl, same⟩
    exact ⟨formed, by simp [Entry.before, same]⟩
  · rintro ⟨formed, same⟩
    exact ⟨formed, entry.before, same, by simp [Entry.before]⟩

theorem entry_parts {entry : Entry} {page : List Char} (found : entry ∈ entries page) :
    page = entry.before ++ entry.block ++ entry.after := by
  obtain ⟨formed, same⟩ := mem_entries.mp found
  rw [Entry.text_of_parts formed.2, same]

theorem entriesAfter_increasing (passed text : List Char) :
    (entriesAfter passed text).Pairwise (·.position < ·.position) := by
  induction text generalizing passed with
  | nil => exact .nil
  | cons c text ih =>
      refine List.pairwise_append.mpr ⟨?_, ih _, ?_⟩
      · split
        · cases entryAt? passed text <;> simp
        · exact .nil
      · intro here first later found
        have herePosition : here.position = passed.length := by
          split at first
          · rw [Entry.position, (entryAt?_eq_some.mp (Option.mem_toList.mp first)).2.2.1]
          · simp at first
        obtain ⟨-, between, -, same⟩ := mem_entriesAfter.mp found
        rw [herePosition, Entry.position, same, List.length_append, List.length_cons]
        omega

theorem entries_increasing (page : List Char) :
    (entries page).Pairwise (·.position < ·.position) :=
  entriesAfter_increasing [] page

theorem eq_of_position {entry other : Entry} {page : List Char} (found : entry ∈ entries page)
    (also_found : other ∈ entries page) (same : entry.position = other.position) :
    entry = other := by
  obtain ⟨⟨key, -⟩, text⟩ := mem_entries.mp found
  obtain ⟨⟨otherKey, -⟩, otherText⟩ := mem_entries.mp also_found
  obtain ⟨before, rest⟩ := List.append_inj (text.symm.trans otherText)
    (by simpa [Entry.before, Entry.position] using same)
  have backwards : entry.backwards = other.backwards := List.reverse_inj.mp before
  rw [backwards, otherKey] at key
  obtain ⟨key', backwards', rest'⟩ := entry
  obtain ⟨otherKey', otherBackwards', otherRest'⟩ := other
  simp_all

/-! ## Searching the entries -/

theorem find?_least {page : List Char} {entry : Entry} {p : Entry → Bool}
    (found : (entries page).find? p = some entry) :
    entry ∈ entries page ∧ p entry = true ∧
      ∀ other ∈ entries page, p other = true → entry.position ≤ other.position := by
  obtain ⟨hit, before, after, same, missed⟩ := List.find?_eq_some_iff_append.mp found
  have increasing := entries_increasing page
  rw [same] at increasing ⊢
  refine ⟨by simp, hit, ?_⟩
  intro other place otherHit
  rcases List.mem_append.mp place with earlier | later
  · have := missed other earlier
    simp [otherHit] at this
  · rcases List.mem_cons.mp later with rfl | later
    · exact Nat.le_refl _
    · have ordered := (List.pairwise_cons.mp (List.pairwise_append.mp increasing).2.1).1
      exact Nat.le_of_lt (ordered other later)

/-- The first hit of a search is the hit at the least place. -/
theorem find?_entries {page : List Char} {entry : Entry} {p : Entry → Bool} :
    (entries page).find? p = some entry ↔
      entry ∈ entries page ∧ p entry = true ∧
        ∀ other ∈ entries page, p other = true → entry.position ≤ other.position := by
  refine ⟨find?_least, ?_⟩
  rintro ⟨place, hit, least⟩
  cases found : (entries page).find? p with
  | none => exact absurd hit (List.find?_eq_none.mp found entry place)
  | some first =>
      obtain ⟨firstPlace, firstHit, firstLeast⟩ := find?_least found
      have same : first.position = entry.position :=
        Nat.le_antisymm (firstLeast entry place hit) (least first firstPlace firstHit)
      rw [eq_of_position firstPlace place same]

end InferenceBench.Pricing

import InferenceBench.Proofs.Pricing.Neighbours

/-! # Lookups agree

A page is asked for an entry in four ways: for all its entries, for the key that a name means, for
the text of a key, and for the page with other prices under a key. All of them agree on which keys
there are, also where the key comes from the table of models, which is scanned on its own. The text
of a key begins where the key of the entry stands, since no other quotes come between that and the
block, and it still begins there when the block has other prices.
-/

namespace InferenceBench.Pricing

variable {key page : List Char}

/-! ## Which keys there are -/

theorem entryFor?_isSome :
    (entryFor? key page).isSome ↔ ∃ entry ∈ entries page, entry.key = key := by
  simp [entryFor?, List.find?_isSome]

theorem modelText?_isSome :
    (modelText? key page).isSome ↔ ∃ entry ∈ entries page, entry.key = key := by
  rw [← entryFor?_isSome]
  cases found : entryFor? key page with
  | none => simp [modelText?, found]
  | some entry =>
      obtain ⟨start, blanks, quoted, blank, unquoted⟩ := entryFor?_quoted found
      simp [modelText?_eq found quoted blank unquoted]

theorem reprice?_isSome (prices : Prices) :
    (reprice? key prices page).isSome ↔ ∃ entry ∈ entries page, entry.key = key := by
  rw [← entryFor?_isSome, reprice?, Option.isSome_map]

/-- A key that a name means is the key of an entry, be it found by what its block declares or in
the table of models. -/
theorem exists_entry_of_findKey? {name : List Char} (matched : findKey? name page = some key) :
    ∃ entry ∈ entries page, entry.key = key := by
  obtain ⟨entry, means, sameKey⟩ := findKey?_eq_some.mp matched
  exact ⟨entry, means.mem, sameKey⟩

/-! ## Where the text of a key is -/

/-- The text of a key in a page: it follows `start`, up to the end of the block of the entry, and
is what the search for the last quoted key leaves. -/
structure TextAt (page key start blanks : List Char) (entry : Entry) : Prop where
  found : entryFor? key page = some entry
  blank : ∀ c ∈ blanks, Text.isBlank c = true
  begins : entry.before = start ++ '"' :: (key ++ '"' :: ':' :: blanks)
  last : Text.tailAtLast? ('"' :: key ++ ['"']) entry.before =
    some ('"' :: (key ++ '"' :: ':' :: blanks))
  text : modelText? key page = some ('"' :: (key ++ '"' :: ':' :: blanks) ++ entry.block)
  whole : page = start ++ ('"' :: (key ++ '"' :: ':' :: blanks) ++ entry.block) ++ entry.after

theorem textAt_of_begins {start blanks : List Char} {entry : Entry}
    (found : entryFor? key page = some entry)
    (begins : entry.before = start ++ '"' :: (key ++ '"' :: ':' :: blanks))
    (blank : ∀ c ∈ blanks, Text.isBlank c = true) (unquoted : '"' ∉ key) :
    TextAt page key start blanks entry where
  found := found
  blank := blank
  begins := begins
  last := begins ▸ tailAtLast?_quoted blank unquoted
  text := modelText?_eq found begins blank unquoted
  whole := by
    have parts := entry_parts (entryFor?_eq_some.mp found).1
    rw [begins] at parts
    simpa using parts

/-- A repriced page has the text of the key at the same place, with the repriced block. -/
theorem textAt_reprice {prices : Prices} {updated : List Char}
    (repriced : reprice? key prices page = some updated) :
    ∃ start blanks entry again, TextAt page key start blanks entry ∧
      TextAt updated key start blanks again ∧ again.block = prices.applyTo entry.block ∧
      again.after = entry.after := by
  obtain ⟨entry, found, rfl⟩ := Option.map_eq_some_iff.mp repriced
  obtain ⟨start, blanks, begins, blank, unquoted⟩ := entryFor?_quoted found
  obtain ⟨again, foundAgain, before, block, after⟩ :=
    entryFor?_reprinted found (reprinted_applyTo prices entry.block)
  exact ⟨start, blanks, entry, again, textAt_of_begins found begins blank unquoted,
    textAt_of_begins foundAgain (before.trans begins) blank unquoted, block, after⟩

end InferenceBench.Pricing

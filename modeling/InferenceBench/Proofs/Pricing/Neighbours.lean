import InferenceBench.Proofs.Pricing.Structure

/-! # Entries with separate blocks

Repricing an entry moves what stands after its block, and nothing else. An entry whose block is
separate from this one is found again, at its place or at the place it was moved to, with the same
block: before the rewritten block because the text there is the same, after it because the page
keeps its structure. So the text of such an entry stays as it is, and two entries with separate
blocks may be repriced in either order.
-/

namespace InferenceBench.Pricing

/-! ## The text of an entry -/

theorem entryFor?_quoted {key page : List Char} {entry : Entry}
    (found : entryFor? key page = some entry) :
    ∃ start blanks, entry.before = start ++ '"' :: (key ++ '"' :: ':' :: blanks) ∧
      (∀ c ∈ blanks, Text.isBlank c = true) ∧ '"' ∉ key := by
  obtain ⟨place, rfl, -⟩ := entryFor?_eq_some.mp found
  have keyed : keyBefore? entry.before.reverse = some entry.key := by
    simpa [Entry.before] using (mem_entries.mp place).1.1
  obtain ⟨start, blanks, same, blank, -, unquoted⟩ := keyBefore?_reverse_eq_some.mp keyed
  exact ⟨start, blanks, same, blank, unquoted⟩

/-- The last place before the block where the key stands in quotes is the key of the entry. -/
theorem tailAtLast?_quoted {start key blanks : List Char}
    (blank : ∀ c ∈ blanks, Text.isBlank c = true) (unquoted : '"' ∉ key) :
    Text.tailAtLast? ('"' :: key ++ ['"']) (start ++ '"' :: (key ++ '"' :: ':' :: blanks)) =
      some ('"' :: (key ++ '"' :: ':' :: blanks)) := by
  have noBlank : blanks.count '"' = 0 :=
    List.count_eq_zero.mpr fun quote => absurd (blank _ quote) (by decide)
  have once : ¬ '"' :: key ++ ['"'] <:+: key ++ '"' :: ':' :: blanks := by
    intro within
    have := within.sublist.count_le '"'
    simp [List.count_eq_zero.mpr unquoted, noBlank] at this
  have starts : ('"' :: key ++ ['"']).isPrefixOf ('"' :: (key ++ '"' :: ':' :: blanks)) = true :=
    List.isPrefixOf_iff_prefix.mpr ⟨':' :: blanks, by simp⟩
  apply Text.tailAtLast?_append
  rw [Text.tailAtLast?, Text.tailAtLast?_eq_none once, Option.none_or, if_pos starts]

theorem modelText?_eq {key page start blanks : List Char} {entry : Entry}
    (found : entryFor? key page = some entry)
    (quoted : entry.before = start ++ '"' :: (key ++ '"' :: ':' :: blanks))
    (blank : ∀ c ∈ blanks, Text.isBlank c = true) (unquoted : '"' ∉ key) :
    modelText? key page =
      some ('"' :: (key ++ '"' :: ':' :: blanks) ++ entry.block) := by
  rw [modelText?, found, Option.bind_some, quoted, tailAtLast?_quoted blank unquoted]
  rfl

/-! ## Entries found again -/

/-- An entry moves along with the text before it if that text changes in prices only. -/
theorem entryFor?_moved {key page front : List Char} {entry : Entry} (plain : Unpriced key)
    (found : entryFor? key page = some entry) (before : Reprinted entry.before front) :
    entryFor? key (front ++ '\x7B' :: entry.rest) = some ⟨key, front.reverse, entry.rest⟩ := by
  have text := (mem_entries.mp (entryFor?_eq_some.mp found).1).2
  have matching := entryFor?_matches plain (before.append_right ('\x7B' :: entry.rest))
  rw [← text, found] at matching
  generalize moved : entryFor? key (front ++ '\x7B' :: entry.rest) = second at matching
  cases matching with
  | @some _ other here =>
      obtain ⟨place, sameKey, -⟩ := entryFor?_eq_some.mp moved
      -- Both entries open at the brace that has as many braces before it as the first one had.
      have braces : front.count '\x7B' = other.before.count '\x7B' := by
        rw [before.count_mark (by decide), here.before.count_mark (by decide)]
      obtain ⟨sameBefore, sameRest⟩ := Text.eq_of_count_eq (mem_entries.mp place).2 braces
      obtain ⟨otherKey, backwards, rest⟩ := other
      simp_all [Entry.before]

/-- The blocks have no character in common. -/
def Entry.Apart (entry other : Entry) : Prop :=
  entry.position + entry.block.length ≤ other.position ∨
    other.position + other.block.length ≤ entry.position

instance (entry other : Entry) : Decidable (entry.Apart other) :=
  inferInstanceAs (Decidable (_ ∨ _))

section Apart

variable {page key : List Char} {entry other : Entry}

theorem exists_between (place : entry ∈ entries page) (otherPlace : other ∈ entries page)
    (earlier : entry.position + entry.block.length ≤ other.position) :
    ∃ between, other.before = entry.before ++ entry.block ++ between ∧
      entry.after = between ++ other.block ++ other.after := by
  have first := entry_parts place
  have second := entry_parts otherPlace
  have begins : entry.before ++ entry.block <+: other.before := by
    refine List.prefix_of_prefix_length_le ⟨entry.after, first.symm⟩
      ⟨other.block ++ other.after, by rw [second]; simp⟩ ?_
    simpa [Entry.before, Entry.position] using earlier
  obtain ⟨between, same⟩ := begins
  refine ⟨between, same.symm, ?_⟩
  rw [second, ← same] at first
  simpa using first.symm

theorem entryFor?_after {block : List Char} (place : entry ∈ entries page) (plain : Unpriced key)
    (found : entryFor? key page = some other)
    (earlier : entry.position + entry.block.length ≤ other.position)
    (reprinted : Reprinted entry.block block) :
    ∃ between moved, entry.after = between ++ other.block ++ other.after ∧
      entryFor? key (entry.before ++ block ++ entry.after) = some moved ∧
      moved.before = entry.before ++ block ++ between ∧ Reprinted other.before moved.before ∧
      moved.block = other.block ∧ moved.after = other.after := by
  have otherPlace := (entryFor?_eq_some.mp found).1
  obtain ⟨between, before, after⟩ := exists_between place otherPlace earlier
  have front : Reprinted other.before (entry.before ++ block ++ between) := by
    rw [before]
    exact (reprinted.append_left entry.before).append_right between
  have text : entry.before ++ block ++ entry.after =
      entry.before ++ block ++ between ++ '\x7B' :: other.rest := by
    rw [after, ← Entry.block_append_after (mem_entries.mp otherPlace).1.2]
    simp
  let moved : Entry := ⟨key, (entry.before ++ block ++ between).reverse, other.rest⟩
  have movedBefore : moved.before = entry.before ++ block ++ between := List.reverse_reverse _
  refine ⟨between, moved, after, ?_, movedBefore, movedBefore ▸ front, rfl, rfl⟩
  rw [text]
  exact entryFor?_moved plain found front

theorem entryFor?_before (block : List Char) (place : entry ∈ entries page)
    (found : entryFor? key page = some other)
    (earlier : other.position + other.block.length ≤ entry.position) :
    ∃ between kept, entry.before = other.before ++ other.block ++ between ∧
      entryFor? key (entry.before ++ block ++ entry.after) = some kept ∧
      kept.before = other.before ∧ kept.block = other.block ∧
      kept.after = between ++ block ++ entry.after := by
  have otherPlace := (entryFor?_eq_some.mp found).1
  obtain ⟨between, before, -⟩ := exists_between otherPlace place earlier
  obtain ⟨body, tail, rest, unclosed⟩ :=
    List.eq_append_cons_of_mem (mem_entries.mp otherPlace).1.2
  obtain ⟨whole, -⟩ := Entry.block_of_rest rest unclosed
  let kept : Entry := { other with rest := body ++ '\x7D' :: (between ++ block ++ entry.after) }
  have keptRest : kept.rest = body ++ '\x7D' :: (between ++ block ++ entry.after) := rfl
  obtain ⟨keptBlock, keptAfter⟩ := Entry.block_of_rest keptRest unclosed
  have again := entryFor?_withRest found
    (show '\x7D' ∈ body ++ '\x7D' :: (between ++ block ++ entry.after) by simp)
  have text : entry.before ++ block ++ entry.after =
      other.before ++ '\x7B' :: (body ++ '\x7D' :: (between ++ block ++ entry.after)) := by
    rw [before, whole]
    simp
  exact ⟨between, kept, before, text ▸ again, rfl, keptBlock.trans whole.symm, keptAfter⟩

theorem modelText?_apart {block : List Char} (place : entry ∈ entries page) (plain : Unpriced key)
    (found : entryFor? key page = some other) (apart : entry.Apart other)
    (reprinted : Reprinted entry.block block) :
    ∃ text, modelText? key page = some text ∧
      modelText? key (entry.before ++ block ++ entry.after) = some text := by
  obtain ⟨start, blanks, quoted, blank, unquoted⟩ := entryFor?_quoted found
  refine ⟨_, modelText?_eq found quoted blank unquoted, ?_⟩
  cases apart with
  | inl earlier =>
      obtain ⟨between, moved, -, again, -, before, same, -⟩ :=
        entryFor?_after place plain found earlier reprinted
      rw [quoted] at before
      obtain ⟨front, written, text, -, keys⟩ := before.quoted blank
      rw [keys.eq_of_unpriced plain] at text
      rw [modelText?_eq again text blank unquoted, same]
  | inr later =>
      obtain ⟨between, kept, -, again, before, same, -⟩ := entryFor?_before block place found later
      rw [modelText?_eq again (before.trans quoted) blank unquoted, same]

end Apart

theorem reprice?_of_found {key page : List Char} {entry : Entry} (prices : Prices)
    (found : entryFor? key page = some entry) :
    reprice? key prices page =
      some (entry.before ++ prices.applyTo entry.block ++ entry.after) := by
  rw [reprice?, found, Option.map_some]

/-- Repricing an entry changes its block only: the text before and after it is the same, and so is
the text of every entry with a separate block. -/
theorem other_entries_kept (key other page : List Char) (prices : Prices) {entry neighbour : Entry}
    (found : entryFor? key page = some entry) (alsoFound : entryFor? other page = some neighbour)
    (apart : entry.Apart neighbour) (plain : Unpriced other) :
    page = entry.before ++ entry.block ++ entry.after ∧
      ∃ block, reprice? key prices page = some (entry.before ++ block ++ entry.after) ∧
        ∃ text, modelText? other page = some text ∧
          modelText? other (entry.before ++ block ++ entry.after) = some text := by
  have place := (entryFor?_eq_some.mp found).1
  refine ⟨entry_parts place, prices.applyTo entry.block, reprice?_of_found prices found, ?_⟩
  exact modelText?_apart place plain alsoFound apart (reprinted_applyTo prices entry.block)

/-- A page with two entries. The key of the second one has the brace in it that closes the block of
the first one. -/
def bracedPage : List Char :=
  "\"a\": \x7BinputPricePerM: 1, \"x\x7D b\": \x7BoutputPricePerM: 2\x7D".toList

def bracedFirst : Entry :=
  ⟨['a'], "\"a\": ".toList.reverse,
    "inputPricePerM: 1, \"x\x7D b\": \x7BoutputPricePerM: 2\x7D".toList⟩

def bracedSecond : Entry :=
  ⟨"x\x7D b".toList, "\"a\": \x7BinputPricePerM: 1, \"x\x7D b\": ".toList.reverse,
    "outputPricePerM: 2\x7D".toList⟩

/-- A line is inserted before the key of the second entry. -/
theorem other_entries_kept_braced :
    (∃ page, reprice? ['a'] ⟨3, 4, some 0.5⟩ bracedPage = some page ∧
      modelText? "x\x7D b".toList page = modelText? "x\x7D b".toList bracedPage) ∧
    modelText? "x\x7D b".toList bracedPage =
      some "\"x\x7D b\": \x7BoutputPricePerM: 2\x7D".toList := by
  have kept : modelText? "x\x7D b".toList bracedPage =
      some "\"x\x7D b\": \x7BoutputPricePerM: 2\x7D".toList := by decide +kernel
  refine ⟨?_, kept⟩
  have found : entryFor? ['a'] bracedPage = some bracedFirst := by decide +kernel
  have alsoFound : entryFor? "x\x7D b".toList bracedPage = some bracedSecond := by decide +kernel
  obtain ⟨-, block, repriced, text, here, there⟩ :=
    other_entries_kept ['a'] "x\x7D b".toList bracedPage ⟨3, 4, some 0.5⟩ found alsoFound
      (by decide +kernel) (by decide +kernel)
  exact ⟨_, repriced, there.trans here.symm⟩

/-- Two entries are repriced in either order, the one whose block stands first named first. -/
theorem repricings_in_order {key other page : List Char} (first second : Prices)
    {entry neighbour : Entry} (found : entryFor? key page = some entry)
    (alsoFound : entryFor? other page = some neighbour)
    (earlier : entry.position + entry.block.length ≤ neighbour.position)
    (plain : Unpriced other) :
    ∃ result, (reprice? key first page).bind (reprice? other second) = some result ∧
      (reprice? other second page).bind (reprice? key first) = some result := by
  have place := (entryFor?_eq_some.mp found).1
  have otherPlace := (entryFor?_eq_some.mp alsoFound).1
  obtain ⟨between, moved, after, movedFound, movedBefore, -, movedBlock, movedAfter⟩ :=
    entryFor?_after place plain alsoFound earlier (reprinted_applyTo first entry.block)
  obtain ⟨gap, kept, before, keptFound, keptBefore, keptBlock, keptAfter⟩ :=
    entryFor?_before (second.applyTo neighbour.block) otherPlace found earlier
  -- What stands between the two blocks is the same text, read from either of them.
  obtain rfl : between = gap := by
    have whole := (entry_parts place).symm.trans (entry_parts otherPlace)
    rw [after, before] at whole
    simpa using whole
  refine ⟨entry.before ++ first.applyTo entry.block ++ between ++
    second.applyTo neighbour.block ++ neighbour.after, ?_, ?_⟩
  · rw [reprice?_of_found first found, Option.bind_some, reprice?_of_found second movedFound,
      movedBefore, movedBlock, movedAfter]
  · rw [reprice?_of_found second alsoFound, Option.bind_some, reprice?_of_found first keptFound,
      keptBefore, keptBlock, keptAfter]
    simp

/-- Repricing two entries with separate blocks gives the same page in either order. -/
theorem repricings_commute (key other page : List Char) (first second : Prices)
    {entry neighbour : Entry} (found : entryFor? key page = some entry)
    (alsoFound : entryFor? other page = some neighbour) (apart : entry.Apart neighbour)
    (plain : Unpriced key) (plainOther : Unpriced other) :
    ∃ result, (reprice? key first page).bind (reprice? other second) = some result ∧
      (reprice? other second page).bind (reprice? key first) = some result := by
  cases apart with
  | inl earlier => exact repricings_in_order first second found alsoFound earlier plainOther
  | inr later =>
      obtain ⟨result, there, here⟩ :=
        repricings_in_order second first alsoFound found later plain
      exact ⟨result, here, there⟩

theorem repricings_commute_braced :
    let result := "\"a\": \x7BinputPricePerM: 3.00,\n        ".toList ++
      "cachedInputPricePerM: 0.5000, \"x\x7D b\": \x7BoutputPricePerM: -2.00\x7D".toList
    (reprice? ['a'] ⟨3, 4, some 0.5⟩ bracedPage).bind
        (reprice? "x\x7D b".toList ⟨1, -2, none⟩) = some result ∧
      (reprice? "x\x7D b".toList ⟨1, -2, none⟩ bracedPage).bind
        (reprice? ['a'] ⟨3, 4, some 0.5⟩) = some result := by
  have found : entryFor? ['a'] bracedPage = some bracedFirst := by decide +kernel
  have alsoFound : entryFor? "x\x7D b".toList bracedPage = some bracedSecond := by decide +kernel
  obtain ⟨result, here, there⟩ :=
    repricings_commute ['a'] "x\x7D b".toList bracedPage ⟨3, 4, some 0.5⟩ ⟨1, -2, none⟩ found
      alsoFound (by decide +kernel) (by decide +kernel) (by decide +kernel)
  intro expected
  have known : (reprice? ['a'] ⟨3, 4, some 0.5⟩ bracedPage).bind
      (reprice? "x\x7D b".toList ⟨1, -2, none⟩) = some expected := by decide +kernel
  exact ⟨known, there.trans (here.symm.trans known)⟩

end InferenceBench.Pricing

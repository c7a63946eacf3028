import InferenceBench.Proofs.Pricing.Entries
import InferenceBench.Text.Utf8

/-! # The grammar of entries

An entry is written as a key in quotes, a colon, white space, and a block in braces. The scanner
looks for opening braces and reads backwards from each; what it finds is one entry for each way in
which the text can be cut at an entry, and no other. The blocks begin one after the other, at
different places, even where one of them is opened inside another one and both end at the same
brace.
-/

namespace InferenceBench.Pricing

/-- A text cut at an entry. The block ends at the first closing brace, whatever it opens itself. -/
structure EntryCut (text : List Char) where
  start : List Char
  key : List Char
  blanks : List Char
  body : List Char
  rest : List Char
  whole : text =
    start ++ '"' :: (key ++ '"' :: ':' :: (blanks ++ '\x7B' :: (body ++ '\x7D' :: rest)))
  named : key ≠ []
  unquoted : '"' ∉ key
  blank : ∀ c ∈ blanks, Text.isBlank c = true
  unclosed : '\x7D' ∉ body

/-- Where a part of a text begins and where it ends, in bytes, given the text before it. -/
def byteSpan (before part : List Char) : Nat × Nat :=
  ((Utf8.encode before).length, (Utf8.encode (before ++ part)).length)

def Entry.span (entry : Entry) : Nat × Nat := byteSpan entry.before entry.block

namespace EntryCut

variable {text : List Char} (cut : EntryCut text)

/-- The text before the block. -/
def before : List Char := cut.start ++ '"' :: (cut.key ++ '"' :: ':' :: cut.blanks)

/-- The block with its braces. -/
def block : List Char := '\x7B' :: (cut.body ++ ['\x7D'])

def span : Nat × Nat := byteSpan cut.before cut.block

/-- The entry at which the text is cut. -/
def entry : Entry := ⟨cut.key, cut.before.reverse, cut.body ++ '\x7D' :: cut.rest⟩

@[simp]
theorem entry_key : cut.entry.key = cut.key := rfl

@[simp]
theorem entry_span : cut.entry.span = cut.span := by
  have block : cut.entry.block = cut.block := (Entry.block_of_rest rfl cut.unclosed).1
  rw [Entry.span, span, block, Entry.before, entry, List.reverse_reverse]

theorem entry_mem : cut.entry ∈ entries text := by
  refine mem_entries.mpr ⟨⟨?_, by simp [entry]⟩, ?_⟩
  · exact keyBefore?_reverse_eq_some.mpr
      ⟨cut.start, cut.blanks, rfl, cut.blank, cut.named, cut.unquoted⟩
  · simpa [entry, Entry.before, before] using cut.whole

end EntryCut

theorem exists_cut {text : List Char} {entry : Entry} (found : entry ∈ entries text) :
    ∃ cut : EntryCut text, cut.entry = entry := by
  obtain ⟨⟨keyed, closes⟩, same⟩ := mem_entries.mp found
  obtain ⟨body, rest, after, unclosed⟩ := List.eq_append_cons_of_mem closes
  rw [← List.reverse_reverse entry.backwards] at keyed
  obtain ⟨start, blanks, before, blank, named, unquoted⟩ := keyBefore?_reverse_eq_some.mp keyed
  have whole : text = start ++ '"' ::
      (entry.key ++ '"' :: ':' :: (blanks ++ '\x7B' :: (body ++ '\x7D' :: rest))) := by
    rw [same, Entry.before, before, after]
    simp
  refine ⟨⟨start, entry.key, blanks, body, rest, whole, named, unquoted, blank, unclosed⟩, ?_⟩
  obtain ⟨key, backwards, entryRest⟩ := entry
  simp only [EntryCut.entry, EntryCut.before, Entry.mk.injEq, true_and]
  exact ⟨by rw [← before, List.reverse_reverse], after.symm⟩

/-! ## Spans -/

theorem length_encode_lt (text : List Char) (c : Char) (rest : List Char) :
    (Utf8.encode text).length < (Utf8.encode (text ++ c :: rest)).length := by
  have some : 0 < (String.utf8EncodeChar c).length := by
    rw [String.length_utf8EncodeChar]
    exact c.utf8Size_pos
  simp only [Utf8.encode, List.flatMap_append, List.flatMap_cons, List.length_append]
  omega

theorem span_lt_of_position {text : List Char} {entry later : Entry} (found : entry ∈ entries text)
    (laterFound : later ∈ entries text) (earlier : entry.position < later.position) :
    entry.span.1 < later.span.1 := by
  have first : entry.before ++ ['\x7B'] <+: text :=
    ⟨entry.rest, by simpa using (mem_entries.mp found).2.symm⟩
  have second : later.before <+: text := ⟨'\x7B' :: later.rest, (mem_entries.mp laterFound).2.symm⟩
  have begins : entry.before ++ ['\x7B'] <+: later.before := by
    refine List.prefix_of_prefix_length_le first second ?_
    simpa [Entry.before, Entry.position, Nat.succ_le_iff] using earlier
  obtain ⟨between, same⟩ := begins
  rw [List.append_assoc, List.singleton_append] at same
  simpa [Entry.span, byteSpan, ← same] using length_encode_lt entry.before '\x7B' between

theorem entries_spans_increasing (text : List Char) :
    (entries text).Pairwise fun entry later => entry.span.1 < later.span.1 :=
  (entries_increasing text).imp_of_mem span_lt_of_position

/-- The scanner finds exactly the places at which the text can be cut at an entry, each with its
key and the span of its block, in the order in which the blocks begin and each of them once. -/
theorem entries_are_cuts (text : List Char) :
    (∀ key span, (key, span) ∈ (entries text).map (fun entry => (entry.key, entry.span)) ↔
      ∃ cut : EntryCut text, cut.key = key ∧ cut.span = span) ∧
    (entries text).Pairwise (fun entry later => entry.span.1 < later.span.1) ∧
    ((entries text).map fun entry => (entry.key, entry.span)).Nodup := by
  refine ⟨fun key span => ?_, entries_spans_increasing text, ?_⟩
  · simp only [List.mem_map, Prod.mk.injEq]
    constructor
    · rintro ⟨entry, found, rfl, rfl⟩
      obtain ⟨cut, rfl⟩ := exists_cut found
      exact ⟨cut, cut.entry_key.symm, cut.entry_span.symm⟩
    · rintro ⟨cut, rfl, rfl⟩
      exact ⟨cut.entry, cut.entry_mem, cut.entry_key, cut.entry_span⟩
  · refine List.pairwise_map.mpr ((entries_spans_increasing text).imp ?_)
    intro entry later before same
    exact Nat.ne_of_lt before (congrArg (fun pair => pair.2.1) same)

/-- Two blocks that end at the same brace, the inner one after a wide blank. -/
example : (entries "\"é\": \x7B \"b\":\u2003\x7B\x7D \x7D".toList).map
    (fun entry => (entry.key, entry.span)) = [(['é'], 6, 17), (['b'], 15, 17)] := by
  decide +kernel

end InferenceBench.Pricing

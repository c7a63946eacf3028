import InferenceBench.Proofs.Pricing.Entries

/-! # Finding by name, repricing by key

A served model is found by what its entry says, in the whole page or in the table of models; its
prices are then written to the first entry of the page that has the key. Both are the same entry
exactly if no entry before the one that was found has its key.
-/

namespace InferenceBench.Pricing

/-! ## The table of models in its page -/

/-- A page cut at its table of models: the first one that opens, up to the semicolon after it. -/
structure TableOfModels (page opening table closing : List Char) : Prop where
  opens : ∃ before, opening = before ++ "const MODELS = \x7B".toList ∧
    Text.splitFirst? "const MODELS = \x7B".toList page = some (before, table ++ closing)
  closes : ∃ after, closing = '\x7D' :: ';' :: after
  closed : ';' ∉ table

theorem TableOfModels.parts {page opening table closing}
    (cut : TableOfModels page opening table closing) : page = opening ++ table ++ closing := by
  obtain ⟨before, rfl, split⟩ := cut.opens
  rw [Text.splitFirst?_parts split]
  simp

theorem modelsText?_eq_some {page table : List Char} :
    modelsText? page = some table ↔
      ∃ opening closing, TableOfModels page opening table closing := by
  constructor
  · intro found
    simp only [modelsText?] at found
    split at found
    · simp at found
    · next before rest opens =>
        split at found
        · simp at found
        · next segment after semicolon =>
            obtain ⟨rfl, closed⟩ := Text.splitAtChar?_eq_some.mp semicolon
            split at found
            · next last =>
                obtain ⟨body, rfl⟩ := List.getLast?_eq_some_iff.mp last
                obtain rfl : body = table := by simpa using found
                refine ⟨before ++ "const MODELS = \x7B".toList, '\x7D' :: ';' :: after,
                  ⟨before, rfl, ?_⟩, ⟨after, rfl⟩, fun member => closed (by simp [member])⟩
                rw [opens]
                simp
            · simp at found
  · rintro ⟨opening, closing, ⟨before, rfl, split⟩, ⟨after, rfl⟩, closed⟩
    have semicolon : Text.splitAtChar? ';' (table ++ '\x7D' :: ';' :: after) =
        some (table ++ ['\x7D'], after) :=
      Text.splitAtChar?_eq_some.mpr ⟨by simp, by simp [closed]⟩
    simp only [modelsText?, split, semicolon]
    simp

/-- An entry of a text as an entry of a longer text around it. -/
def Entry.within (opening closing : List Char) (entry : Entry) : Entry :=
  ⟨entry.key, entry.backwards ++ opening.reverse, entry.rest ++ closing⟩

theorem within_mem {entry : Entry} {table : List Char} (opening closing : List Char)
    (found : entry ∈ entries table) :
    entry.within opening closing ∈ entries (opening ++ table ++ closing) := by
  obtain ⟨⟨key, closes⟩, same⟩ := mem_entries.mp found
  refine mem_entries.mpr ⟨⟨keyBefore?_append _ key, List.mem_append_left _ closes⟩, ?_⟩
  simp [same, Entry.within, Entry.before]

/-- The block of an entry ends where it did, whatever follows the text. -/
theorem within_block {entry : Entry} (opening closing : List Char)
    (closes : '\x7D' ∈ entry.rest) : (entry.within opening closing).block = entry.block := by
  obtain ⟨body, tail, same, unclosed⟩ := List.eq_append_cons_of_mem closes
  have longer : (entry.within opening closing).rest = body ++ '\x7D' :: (tail ++ closing) := by
    simp [Entry.within, same]
  rw [(Entry.block_of_rest longer unclosed).1, (Entry.block_of_rest same unclosed).1]

/-! ## What a name means -/

/-- The entry of a page that a name means, as a place in the page itself. -/
inductive Means (name page : List Char) : Entry → Prop
  | declared {entry} : (entries page).find? (·.declares name) = some entry →
      Means name page entry
  /-- No block declares the name; an entry in the table of models resembles it. -/
  | resembling {opening table closing entry} :
      (entries page).find? (·.declares name) = none →
      TableOfModels page opening table closing →
      (entries table).find? (·.resembles (Text.lowercase name)) = some entry →
      Means name page (entry.within opening closing)

theorem findKey?_eq_some {name page key : List Char} :
    findKey? name page = some key ↔ ∃ entry, Means name page entry ∧ entry.key = key := by
  cases declared : (entries page).find? (·.declares name) with
  | some entry =>
      simp only [findKey?, findServed?, declared, Option.map_some, Option.some.injEq]
      constructor
      · rintro rfl
        exact ⟨entry, .declared declared, rfl⟩
      · rintro ⟨other, means, rfl⟩
        cases means with
        | declared found => rw [Option.some.inj (declared.symm.trans found)]
        | resembling missing => simp [declared] at missing
  | none =>
      simp only [findKey?, findServed?, declared, Option.map_eq_some_iff, Option.bind_eq_some_iff]
      constructor
      · rintro ⟨entry, ⟨table, text, found⟩, rfl⟩
        obtain ⟨opening, closing, cut⟩ := modelsText?_eq_some.mp text
        exact ⟨_, .resembling declared cut found, rfl⟩
      · rintro ⟨_, means, rfl⟩
        cases means with
        | declared found => simp [declared] at found
        | @resembling opening table closing entry _ cut found =>
            exact ⟨entry, ⟨table, modelsText?_eq_some.mpr ⟨opening, closing, cut⟩, found⟩, rfl⟩

theorem Means.mem {name page entry} (means : Means name page entry) : entry ∈ entries page := by
  cases means with
  | declared found => exact List.mem_of_find?_eq_some found
  | resembling _ cut found =>
      rw [cut.parts]
      exact within_mem _ _ (List.mem_of_find?_eq_some found)

/-! ## What is repriced -/

theorem entryFor?_eq_some {key page : List Char} {entry : Entry} :
    entryFor? key page = some entry ↔ entry ∈ entries page ∧ entry.key = key ∧
      ∀ other ∈ entries page, other.key = key → entry.position ≤ other.position := by
  simp only [entryFor?, find?_entries, decide_eq_true_eq]

theorem entryFor?_of_mem {page : List Char} {entry : Entry} (found : entry ∈ entries page) :
    ∃ first, entryFor? entry.key page = some first := by
  cases missing : entryFor? entry.key page with
  | none => simpa using List.find?_eq_none.mp missing entry found
  | some first => exact ⟨first, rfl⟩

/-- An entry is found again, whatever the text after its opening brace becomes. -/
theorem entryFor?_withRest {key page rest : List Char} {entry : Entry}
    (found : entryFor? key page = some entry) (closes : '\x7D' ∈ rest) :
    entryFor? key (entry.before ++ '\x7B' :: rest) = some { entry with rest := rest } := by
  obtain ⟨place, sameKey, least⟩ := entryFor?_eq_some.mp found
  obtain ⟨⟨keyed, closed⟩, text⟩ := mem_entries.mp place
  refine entryFor?_eq_some.mpr ⟨mem_entries.mpr ⟨⟨keyed, closes⟩, rfl⟩, sameKey, ?_⟩
  intro other otherPlace otherKey
  by_contra earlier
  obtain ⟨⟨otherKeyed, -⟩, otherText⟩ := mem_entries.mp otherPlace
  -- An entry that opens before the brace has been there with the other text as well.
  have shorter : other.before.length < entry.before.length := by
    simpa [Entry.before, Entry.position] using earlier
  obtain ⟨middle, before, -⟩ | ⟨middle, before, brace⟩ := List.append_eq_append_iff.mp otherText
  · have := congrArg List.length before
    simp at this
    omega
  · cases middle with
    | nil => simp [before] at shorter
    | cons c middle =>
        obtain ⟨rfl, -⟩ := List.cons.inj brace
        have there : { other with rest := middle ++ '\x7B' :: entry.rest } ∈ entries page :=
          mem_entries.mpr ⟨⟨otherKeyed, by simp [closed]⟩, by
            change page = other.before ++ '\x7B' :: (middle ++ '\x7B' :: entry.rest)
            rw [text, before]
            simp⟩
        have := least _ there otherKey
        exact earlier this

/-- The entry that a name means has its prices rewritten if and only if no entry before it in the
    page has the same key. Else the first entry with the key is rewritten in its place. -/
theorem repriced_entry (name page : List Char) :
    (∀ key, findKey? name page = some key ↔ ∃ entry, Means name page entry ∧ entry.key = key) ∧
    (∀ entry, Means name page entry →
      ∃ repriced ∈ entries page, entryFor? entry.key page = some repriced ∧
        page = repriced.before ++ repriced.block ++ repriced.after ∧
        (∀ prices, reprice? entry.key prices page =
          some (repriced.before ++ prices.applyTo repriced.block ++ repriced.after)) ∧
        (repriced = entry ↔
          ∀ other ∈ entries page, other.position < entry.position → other.key ≠ entry.key)) ∧
    ∀ opening table closing, TableOfModels page opening table closing → ∀ entry ∈ entries table,
      (entry.within opening closing).before = opening ++ entry.before ∧
        (entry.within opening closing).block = entry.block ∧
        table = entry.before ++ entry.block ++ entry.after := by
  refine ⟨fun key => findKey?_eq_some, ?_, ?_⟩
  · intro entry means
    obtain ⟨first, found⟩ := entryFor?_of_mem means.mem
    obtain ⟨place, sameKey, least⟩ := entryFor?_eq_some.mp found
    refine ⟨first, place, found, entry_parts place, fun prices => by simp [reprice?, found], ?_⟩
    constructor
    · rintro rfl other otherPlace before same
      exact Nat.not_le_of_lt before (least other otherPlace same)
    · intro alone
      have after : entry.position ≤ first.position :=
        Nat.not_lt.mp fun before => alone first place before sameKey
      exact eq_of_position place means.mem (Nat.le_antisymm (least entry means.mem rfl) after)
  · intro opening table closing _ entry found
    have closes := (mem_entries.mp found).1.2
    exact ⟨by simp [Entry.within, Entry.before], within_block opening closing closes,
      entry_parts found⟩

/-- The entry `m`, served as `b`, in the second table of a page; the first table has one entry. -/
def servedEntry (otherKey : Char) : Entry :=
  { key := ['m']
    backwards :=
      ("const OTHER = \x7B\"".toList ++ otherKey ::
        "\": \x7BbackendName: \"a\", inputPricePerM: 1.00\x7D\x7D;".toList ++
        "const MODELS = \x7B\"m\": ".toList).reverse
    rest := "backendName: \"b\", inputPricePerM: 2.00\x7D\x7D;".toList }

def twoTables (otherKey : Char) : List Char :=
  (servedEntry otherKey).before ++ '\x7B' :: (servedEntry otherKey).rest

theorem repriced_entry_twoTables :
    Means ['b'] (twoTables 'n') (servedEntry 'n') ∧
      ∀ prices, reprice? ['m'] prices (twoTables 'n') =
        some ((servedEntry 'n').before ++ prices.applyTo (servedEntry 'n').block ++
          (servedEntry 'n').after) := by
  have means : Means ['b'] (twoTables 'n') (servedEntry 'n') := .declared (by decide +kernel)
  obtain ⟨repriced, -, -, -, page, only⟩ := (repriced_entry ['b'] (twoTables 'n')).2.1 _ means
  obtain rfl := only.mpr (by decide +kernel)
  exact ⟨means, page⟩

/-- With one key in both tables, the entry of another model is repriced. -/
theorem other_entry_repriced :
    (entries (twoTables 'm')).find? (·.declares ['b']) = some (servedEntry 'm') ∧
      findKey? ['b'] (twoTables 'm') = some ['m'] ∧
      ∃ repriced : Entry, (∀ prices, reprice? ['m'] prices (twoTables 'm') =
          some (repriced.before ++ prices.applyTo repriced.block ++ repriced.after)) ∧
        repriced.position < (servedEntry 'm').position ∧ repriced.declares ['b'] = false := by
  have found : (entries (twoTables 'm')).find? (·.declares ['b']) = some (servedEntry 'm') := by
    decide +kernel
  have first : ((entryFor? ['m'] (twoTables 'm')).any fun entry =>
      entry.position < (servedEntry 'm').position && !entry.declares ['b']) = true := by
    decide +kernel
  obtain ⟨repriced, same, earlier⟩ := (Option.any_eq_true _ _).mp first
  simp only [Bool.and_eq_true, decide_eq_true_eq, Bool.not_eq_true'] at earlier
  refine ⟨found, findKey?_eq_some.mpr ⟨_, .declared found, rfl⟩, repriced, ?_, earlier⟩
  intro prices
  simp only [reprice?, same, Option.map_some]

end InferenceBench.Pricing

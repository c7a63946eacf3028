import InferenceBench.Proofs.Pricing.Outline
import Mathlib.Data.List.Forall2

/-! # The structure of a page

Pages that differ in prices only have the same structure: their entries correspond one to one, in
the order of the page, an entry is found by a name in one page if the corresponding entry is found
by it in the other, and their tables of models correspond. Repricing leads from one such page to
another, so any number of repricings leaves the keys of the page and what a name means unchanged.
-/

namespace InferenceBench.Pricing

/-! ## Keys -/

namespace Reprinted

variable {page other : List Char}

theorem quoted {start key blanks : List Char} (blank : ∀ c ∈ blanks, Text.isBlank c = true)
    (reprinted : Reprinted (start ++ '"' :: (key ++ '"' :: ':' :: blanks)) other) :
    ∃ front written, other = front ++ '"' :: (written ++ '"' :: ':' :: blanks) ∧
      Reprinted start front ∧ Reprinted key written := by
  obtain ⟨front, back, rfl, left, right⟩ := reprinted.split (by decide)
  obtain ⟨written, colon, rfl, middle, tail⟩ := right.split (by decide)
  have plain : Unpriced (':' :: blanks) := unpriced_of_notMem fun letter => by
    cases List.mem_cons.mp letter with
    | inl here => exact absurd here (by decide)
    | inr later => exact absurd (blank _ later) (by decide)
  exact ⟨front, written, by rw [tail.eq_of_unpriced plain], left, middle⟩

theorem eq_nil (reprinted : Reprinted [] other) : other = [] :=
  reprinted.eq_of_unpriced (by decide)

theorem keyBefore {passed passed' key : List Char}
    (reprinted : Reprinted passed.reverse passed'.reverse)
    (found : keyBefore? passed = some key) :
    ∃ written, keyBefore? passed' = some written ∧ Reprinted key written := by
  rw [← List.reverse_reverse passed, keyBefore?_reverse_eq_some] at found
  obtain ⟨start, blanks, same, blank, nonempty, unquoted⟩ := found
  rw [same] at reprinted
  obtain ⟨front, written, text, -, keys⟩ := quoted blank reprinted
  refine ⟨written, ?_, keys⟩
  rw [← List.reverse_reverse passed', keyBefore?_reverse_eq_some]
  refine ⟨front, blanks, text, blank, ?_,
    fun quote => unquoted ((keys.mem_mark (by decide)).mp quote)⟩
  rintro rfl
  exact nonempty keys.symm.eq_nil

end Reprinted

/-! ## Entries -/

/-- The entries differ in prices only. -/
structure Entry.Matches (entry other : Entry) : Prop where
  key : Reprinted entry.key other.key
  before : Reprinted entry.before other.before
  rest : Reprinted entry.rest other.rest

namespace Entry.Matches

variable {entry other : Entry}

theorem symm (matching : entry.Matches other) : other.Matches entry :=
  ⟨matching.key.symm, matching.before.symm, matching.rest.symm⟩

theorem key_eq (matching : entry.Matches other) (plain : Unpriced entry.key) :
    other.key = entry.key :=
  matching.key.eq_of_unpriced plain

theorem key_iff {key : List Char} (plain : Unpriced key) (matching : entry.Matches other) :
    entry.key = key ↔ other.key = key := by
  constructor
  · rintro rfl
    exact matching.key_eq plain
  · rintro rfl
    exact matching.symm.key_eq plain

theorem block (matching : entry.Matches other) : Reprinted entry.block other.block :=
  Reprinted.append_right (.cons '\x7B' (matching.rest.takeWhile_mark (by decide))) ['\x7D']

end Entry.Matches

/-- Two optional values are related if each of them has a partner in the other. -/
theorem rel_of_partners {α : Type} {related : α → α → Prop} {first second : Option α}
    (forth : ∀ a, first = some a → ∃ b, second = some b ∧ related a b)
    (back : ∀ b, second = some b → ∃ a, first = some a ∧ related b a) :
    Option.Rel related first second := by
  cases first with
  | some a =>
      obtain ⟨b, rfl, here⟩ := forth a rfl
      exact .some here
  | none =>
      cases second with
      | some b =>
          obtain ⟨a, there, -⟩ := back b rfl
          exact nomatch there
      | none => exact .none

theorem entryAt?_matches {passed passed' text text' : List Char}
    (before : Reprinted passed.reverse passed'.reverse) (rest : Reprinted text text') :
    Option.Rel Entry.Matches (entryAt? passed text) (entryAt? passed' text') := by
  have forth : ∀ {passed passed' text text' : List Char},
      Reprinted passed.reverse passed'.reverse → Reprinted text text' →
      ∀ entry, entryAt? passed text = some entry →
        ∃ other, entryAt? passed' text' = some other ∧ entry.Matches other := by
    intro passed passed' text text' before rest entry found
    obtain ⟨keyed, closes, rfl, rfl⟩ := entryAt?_eq_some.mp found
    obtain ⟨written, also, keys⟩ := before.keyBefore keyed
    refine ⟨⟨written, passed', text'⟩, ?_, ⟨keys, before, rest⟩⟩
    exact entryAt?_eq_some.mpr ⟨also, (rest.mem_mark (by decide)).mpr closes, rfl, rfl⟩
  exact rel_of_partners (forth before rest) (forth before.symm rest.symm)

theorem toList_matches {first second : Option Entry}
    (matching : Option.Rel Entry.Matches first second) :
    List.Forall₂ Entry.Matches first.toList second.toList := by
  cases matching with
  | none => exact .nil
  | some here => exact .cons here .nil

theorem entriesAfter_append {text : List Char} (unopened : '\x7B' ∉ text)
    (passed rest : List Char) :
    entriesAfter passed (text ++ rest) = entriesAfter (text.reverse ++ passed) rest := by
  induction text generalizing passed with
  | nil => rfl
  | cons c text ih =>
      rw [List.mem_cons, not_or] at unopened
      obtain ⟨notHere, later⟩ := unopened
      rw [List.cons_append, entriesAfter, if_neg (Ne.symm notHere), List.nil_append, ih later]
      simp

theorem entriesAfter_matches {passed passed' text text' : List Char}
    (before : Reprinted passed.reverse passed'.reverse) (reprinted : Reprinted text text') :
    List.Forall₂ Entry.Matches (entriesAfter passed text) (entriesAfter passed' text') := by
  induction length : text.length using Nat.strongRecOn generalizing passed passed' text text' with
  | _ n ih =>
      subst length
      by_cases opens : '\x7B' ∈ text
      · obtain ⟨front, rest, rfl, first⟩ := List.eq_append_cons_of_mem opens
        obtain ⟨front', rest', rfl, left, right⟩ := reprinted.split (by decide)
        have first' : '\x7B' ∉ front' := fun here => first ((left.mem_mark (by decide)).mp here)
        have through : Reprinted (front.reverse ++ passed).reverse
            (front'.reverse ++ passed').reverse := by
          simpa using before.append left
        have beyond : Reprinted ('\x7B' :: (front.reverse ++ passed)).reverse
            ('\x7B' :: (front'.reverse ++ passed')).reverse := by
          simpa using through.append_right ['\x7B']
        rw [entriesAfter_append first, entriesAfter_append first', entriesAfter, entriesAfter,
          if_pos rfl, if_pos rfl]
        have shorter : rest.length < (front ++ '\x7B' :: rest).length := by
          simp
          omega
        exact List.rel_append (toList_matches (entryAt?_matches through right))
          (ih _ shorter beyond right rfl)
      · have opens' : '\x7B' ∉ text' := fun here => opens ((reprinted.mem_mark (by decide)).mp here)
        rw [← List.append_nil text, ← List.append_nil text', entriesAfter_append opens,
          entriesAfter_append opens']
        exact .nil

theorem entries_match {page other : List Char} (reprinted : Reprinted page other) :
    List.Forall₂ Entry.Matches (entries page) (entries other) :=
  entriesAfter_matches (.refl []) reprinted

theorem find?_matches {xs ys : List Entry} {p : Entry → Bool}
    (matching : List.Forall₂ Entry.Matches xs ys)
    (agree : ∀ {entry other : Entry}, entry.Matches other → p entry = p other) :
    Option.Rel Entry.Matches (xs.find? p) (ys.find? p) := by
  induction matching with
  | nil => exact .none
  | @cons entry other xs ys here _ ih =>
      rw [List.find?_cons, List.find?_cons, ← agree here]
      cases p entry with
      | true => exact .some here
      | false => exact ih

theorem entryFor?_matches {page other key : List Char} (plain : Unpriced key)
    (reprinted : Reprinted page other) :
    Option.Rel Entry.Matches (entryFor? key page) (entryFor? key other) :=
  find?_matches (entries_match reprinted) fun matching =>
    decide_eq_decide.mpr (matching.key_iff plain)

theorem keys_eq {xs ys : List Entry} (matching : List.Forall₂ Entry.Matches xs ys)
    (plain : ∀ entry ∈ xs, Unpriced entry.key) : ys.map (·.key) = xs.map (·.key) := by
  induction matching with
  | nil => rfl
  | cons here _ ih =>
      obtain ⟨first, later⟩ := List.forall_mem_cons.mp plain
      rw [List.map_cons, List.map_cons, here.key_eq first, ih later]

/-! ## Names that blocks declare -/

theorem mem_followers {needle text rest : List Char} (some : needle ≠ []) :
    rest ∈ followers needle text ↔ ∃ before, text = before ++ (needle ++ rest) := by
  induction text with
  | nil =>
      obtain ⟨c, needle, rfl⟩ := List.exists_cons_of_ne_nil some
      simp [followers]
  | cons c text ih =>
      rw [followers, List.mem_append, Option.mem_toList, ih,
        List.isPrefixOf?_eq_some_iff_append_eq]
      constructor
      · rintro (here | ⟨before, rfl⟩)
        · exact ⟨[], here.symm⟩
        · exact ⟨c :: before, rfl⟩
      · rintro ⟨before, same⟩
        cases before with
        | nil => exact .inl same.symm
        | cons d before => exact .inr ⟨before, (List.cons.inj same).2⟩

theorem declares_iff {entry : Entry} {name : List Char} :
    entry.declares name = true ↔
      ∃ start blanks rest, entry.block = start ++ '"' :: (name ++ '"' :: rest) ∧
        (∀ c ∈ blanks, Text.isBlank c = true) ∧ "backendName:".toList ++ blanks <:+ start := by
  have someField : "backendName:".toList ≠ [] := by decide
  simp only [Entry.declares, List.any_eq_true, mem_followers someField,
    List.isPrefixOf_iff_prefix]
  constructor
  · rintro ⟨rest, ⟨before, same⟩, more, quoted⟩
    obtain ⟨blanks, tail, rfl, blank, stop⟩ := Text.exists_boundary Text.isBlank rest
    rw [Text.trimStart, Text.dropWhile_boundary blank stop] at quoted
    refine ⟨before ++ ("backendName:".toList ++ blanks), blanks, more, ?_, blank,
      List.suffix_append _ _⟩
    simp [same, ← quoted]
  · rintro ⟨_, blanks, rest, same, blank, start, rfl⟩
    refine ⟨blanks ++ '"' :: (name ++ '"' :: rest), ⟨start, by simp [same]⟩, rest, ?_⟩
    have quote : ∀ c ∈ ('"' :: (name ++ '"' :: rest)).head?, Text.isBlank c = false := by
      rintro c ⟨⟩
      decide
    rw [Text.trimStart, Text.dropWhile_boundary blank quote]
    simp

theorem Entry.Matches.declares_eq {entry other : Entry} {name : List Char} (plain : Unpriced name)
    (matching : entry.Matches other) : entry.declares name = other.declares name := by
  have forth : ∀ {entry other : Entry}, entry.Matches other →
      entry.declares name = true → other.declares name = true := by
    intro entry other matching declared
    obtain ⟨start, blanks, rest, same, blank, ends⟩ := declares_iff.mp declared
    have blocks := matching.block
    rw [same] at blocks
    obtain ⟨front, back, text, left, right⟩ := blocks.split (by decide)
    obtain ⟨written, more, rfl, names, -⟩ := right.split (by decide)
    rw [names.eq_of_unpriced plain] at text
    exact declares_iff.mpr
      ⟨front, blanks, more, text, blank, (left.suffix_iff (.declaration blank)).mpr ends⟩
  exact Bool.eq_iff_iff.mpr ⟨forth matching, forth matching.symm⟩

/-! ## The table of models -/

theorem tableOpening_eq (before after : List Char) :
    before ++ "const MODELS = \x7B".toList ++ after =
      before ++ "const MODELS = ".toList ++ '\x7B' :: after := by
  simp

/-- The first opening of a table stays the first one. -/
theorem Reprinted.tableOpens {page other before after : List Char}
    (reprinted : Reprinted page other)
    (opens : Text.splitFirst? "const MODELS = \x7B".toList page = some (before, after)) :
    ∃ before' after', Text.splitFirst? "const MODELS = \x7B".toList other =
      some (before', after') ∧ Reprinted after after' := by
  obtain ⟨rfl, least⟩ := Text.splitFirst?_eq_some.mp opens
  rw [tableOpening_eq] at reprinted
  obtain ⟨front, after', rfl, left, right⟩ := reprinted.split (by decide)
  obtain ⟨before', rfl⟩ := (left.suffix_iff .table).mpr (List.suffix_append _ _)
  refine ⟨before', after', Text.splitFirst?_eq_some.mpr ⟨(tableOpening_eq _ _).symm, ?_⟩, right⟩
  intro start rest same
  by_contra earlier
  -- An earlier opening would stand in the text before this one, and so in the first page as well.
  rw [tableOpening_eq] at same
  obtain ⟨middle, longer, -⟩ | ⟨middle, longer, brace⟩ := List.append_eq_append_iff.mp same
  · have := congrArg List.length longer
    simp at this
    omega
  · cases middle with
    | nil =>
        have := congrArg List.length longer
        simp at this
        omega
    | cons c middle =>
        obtain ⟨rfl, -⟩ := List.cons.inj brace
        rw [longer] at left
        obtain ⟨part, tail, parts, begins, -⟩ := left.symm.split (by decide)
        obtain ⟨part, rfl⟩ := (begins.suffix_iff .table).mpr (List.suffix_append _ _)
        have there := least part (tail ++ '\x7B' :: after) (by
          rw [tableOpening_eq, tableOpening_eq, parts]
          simp)
        have := congrArg List.length parts
        simp at this
        omega

theorem TableOfModels.reprinted {page other opening table closing : List Char}
    (cut : TableOfModels page opening table closing) (reprinted : Reprinted page other) :
    ∃ opening' table' closing', TableOfModels other opening' table' closing' ∧
      Reprinted table table' := by
  obtain ⟨before, -, opens⟩ := cut.opens
  obtain ⟨before', text, opens', rest⟩ := reprinted.tableOpens opens
  obtain ⟨after, closes⟩ := cut.closes
  rw [closes] at rest
  obtain ⟨table', back, rfl, tables, tail⟩ := rest.split (by decide)
  have semicolon : Reprinted ([] ++ ';' :: after) back := tail
  obtain ⟨nothing, after', rfl, empty, -⟩ := semicolon.split (by decide)
  obtain rfl := empty.eq_nil
  exact ⟨_, table', _, ⟨⟨before', rfl, opens'⟩, ⟨after', rfl⟩,
    fun here => cut.closed ((tables.mem_mark (by decide)).mp here)⟩, tables⟩

theorem modelsText?_reprinted {page other : List Char} (reprinted : Reprinted page other) :
    Option.Rel Reprinted (modelsText? page) (modelsText? other) := by
  have forth : ∀ {page other}, Reprinted page other → ∀ table, modelsText? page = some table →
      ∃ table', modelsText? other = some table' ∧ Reprinted table table' := by
    intro page other reprinted table found
    obtain ⟨opening, closing, cut⟩ := modelsText?_eq_some.mp found
    obtain ⟨opening', table', closing', cut', tables⟩ := cut.reprinted reprinted
    exact ⟨table', modelsText?_eq_some.mpr ⟨opening', closing', cut'⟩, tables⟩
  exact rel_of_partners (forth reprinted) (forth reprinted.symm)

/-! ## What a name means -/

/-- A page all of whose keys are without field names. -/
def UnpricedKeys (page : List Char) : Prop := ∀ entry ∈ entries page, Unpriced entry.key

instance (page : List Char) : Decidable (UnpricedKeys page) :=
  inferInstanceAs (Decidable (∀ entry ∈ entries page, Unpriced entry.key))

theorem UnpricedKeys.table {page table : List Char} (plain : UnpricedKeys page)
    (found : modelsText? page = some table) : UnpricedKeys table := by
  obtain ⟨opening, closing, cut⟩ := modelsText?_eq_some.mp found
  intro entry place
  refine plain (entry.within opening closing) ?_
  rw [cut.parts]
  exact within_mem _ _ place

theorem UnpricedKeys.keys_eq {page other : List Char} (plain : UnpricedKeys page)
    (reprinted : Reprinted page other) :
    (entries other).map (·.key) = (entries page).map (·.key) :=
  Pricing.keys_eq (entries_match reprinted) plain

theorem find?_resembles (name table : List Char) :
    ((entries table).find? (·.resembles name)).map (·.key) =
      ((entries table).map (·.key)).find? fun key => Entry.resembles ⟨key, [], []⟩ name := by
  rw [List.find?_map]
  rfl

theorem findKey?_eq (name page : List Char) :
    findKey? name page = (((entries page).find? (·.declares name)).map (·.key)).or
      (((modelsText? page).map fun table => (entries table).map (·.key)).bind
        (·.find? fun key => Entry.resembles ⟨key, [], []⟩ (Text.lowercase name))) := by
  rw [findKey?, findServed?]
  cases (entries page).find? (·.declares name) with
  | some entry => rfl
  | none =>
      simp only [Option.map_none, Option.none_or, Option.map_bind, Option.bind_map,
        Function.comp_def, ← find?_resembles]

theorem map_key_eq {first second : Option Entry}
    (matching : Option.Rel Entry.Matches first second)
    (plain : ∀ entry ∈ first, Unpriced entry.key) :
    second.map (·.key) = first.map (·.key) := by
  cases matching with
  | none => rfl
  | some here => simp [here.key_eq (plain _ rfl)]

theorem UnpricedKeys.tableKeys_eq {page other : List Char} (plain : UnpricedKeys page)
    (reprinted : Reprinted page other) :
    (modelsText? other).map (fun table => (entries table).map (·.key)) =
      (modelsText? page).map fun table => (entries table).map (·.key) := by
  have tables := modelsText?_reprinted reprinted
  have plainTable : ∀ table ∈ modelsText? page, UnpricedKeys table := fun _ => plain.table
  generalize modelsText? page = first at tables plainTable ⊢
  generalize modelsText? other = second at tables ⊢
  cases tables with
  | none => rfl
  | some here => simp [(plainTable _ rfl).keys_eq here]

theorem UnpricedKeys.findKey?_eq {page other name : List Char} (plain : UnpricedKeys page)
    (plainName : Unpriced name) (reprinted : Reprinted page other) :
    findKey? name other = findKey? name page := by
  have declaring := find?_matches (entries_match reprinted) fun matching =>
    matching.declares_eq plainName
  rw [Pricing.findKey?_eq, Pricing.findKey?_eq, plain.tableKeys_eq reprinted,
    map_key_eq declaring fun entry found => plain entry (List.mem_of_find?_eq_some found)]

/-! ## Repricing a page -/

/-- One step: an entry is repriced. -/
theorem reprinted_reprice {key page updated : List Char} {prices : Prices}
    (repriced : reprice? key prices page = some updated) : Reprinted page updated := by
  obtain ⟨entry, found, rfl⟩ := Option.map_eq_some_iff.mp repriced
  have block := (reprinted_applyTo prices entry.block).append_left entry.before
  rw [entry_parts (entryFor?_eq_some.mp found).1]
  exact block.append_right entry.after

/-- An entry is found again if its block changes in prices only. Its key may be a field name. -/
theorem entryFor?_reprinted {key page block : List Char} {entry : Entry}
    (found : entryFor? key page = some entry) (reprinted : Reprinted entry.block block) :
    ∃ again, entryFor? key (entry.before ++ block ++ entry.after) = some again ∧
      again.before = entry.before ∧ again.block = block ∧ again.after = entry.after := by
  have unclosed : '\x7D' ∉ entry.rest.takeWhile (· ≠ '\x7D') := fun member => by
    simpa using List.all_eq_true.mp List.all_takeWhile _ member
  -- The block is cut at its two braces, which the other block has as well.
  have braced : Reprinted ([] ++ '\x7B' :: (entry.rest.takeWhile (· ≠ '\x7D') ++ '\x7D' :: []))
      block := reprinted
  obtain ⟨front, inside, rfl, left, right⟩ := braced.split (by decide)
  obtain ⟨body, back, rfl, same, last⟩ := right.split (by decide)
  obtain rfl := left.eq_nil
  obtain rfl := last.eq_nil
  obtain ⟨block, after⟩ := entry.withBody_block (mt (same.mem_mark (by decide)).mp unclosed)
  refine ⟨entry.withBody body, ?_, rfl, block, after⟩
  rw [← entryFor?_withBody found]
  simp

theorem reprice?_again {key page updated : List Char} {prices : Prices}
    (repriced : reprice? key prices page = some updated) :
    reprice? key prices updated = some updated := by
  obtain ⟨entry, found, rfl⟩ := Option.map_eq_some_iff.mp repriced
  obtain ⟨again, foundAgain, before, block, after⟩ :=
    entryFor?_reprinted found (reprinted_applyTo prices entry.block)
  rw [reprice?, foundAgain, Option.map_some, before, block, after, applyTo_applyTo]

/-- The page after one repricing after the other. A key without an entry changes nothing. -/
def repriceAll (updates : List (List Char × Prices)) (page : List Char) : List Char :=
  updates.foldl (fun page update => (reprice? update.1 update.2 page).getD page) page

/-- A run: any number of entries are repriced. -/
theorem reprinted_repriceAll (updates : List (List Char × Prices)) (page : List Char) :
    Reprinted page (repriceAll updates page) := by
  induction updates generalizing page with
  | nil => exact .refl page
  | cons update updates ih =>
      have later := ih ((reprice? update.1 update.2 page).getD page)
      cases repriced : reprice? update.1 update.2 page with
      | some updated =>
          rw [repriced] at later
          have whole : repriceAll (update :: updates) page = repriceAll updates updated := by
            simp [repriceAll, repriced]
          rw [whole]
          exact (reprinted_reprice repriced).trans later
      | none =>
          rw [repriced] at later
          have whole : repriceAll (update :: updates) page = repriceAll updates page := by
            simp [repriceAll, repriced]
          rw [whole]
          exact later

/-- Repricing never changes the keys of a page, nor which of them a name means. -/
theorem structure_kept (updates : List (List Char × Prices)) (page : List Char)
    (plain : UnpricedKeys page) :
    (entries (repriceAll updates page)).map (·.key) = (entries page).map (·.key) ∧
      ∀ name, Unpriced name → findKey? name (repriceAll updates page) = findKey? name page :=
  ⟨plain.keys_eq (reprinted_repriceAll updates page),
    fun _ plainName => plain.findKey?_eq plainName (reprinted_repriceAll updates page)⟩

/-- A table whose first entry has the second one in its block. -/
def nestedPage : List Char :=
  "const MODELS = \x7B\"a\": \x7BinputPricePerM: 1, \"m b\":".toList ++
    "\x7BbackendName: \"org/m\", outputPricePerM: 2\x7D\x7D;".toList

/-- Prices that are negative or not finite, and a key that the page does not have. -/
theorem structure_kept_nested :
    let updates : List (List Char × Prices) := [(['a'], ⟨-1, 0 / 0, some 0.5⟩),
      (['x'], ⟨1, 1, none⟩), ("m b".toList, ⟨1 / 0, 2, some (-0.5)⟩)]
    (entries (repriceAll updates nestedPage)).map (·.key) = [['a'], "m b".toList] ∧
      findKey? "org/m".toList (repriceAll updates nestedPage) = some ['a'] := by
  intro updates
  obtain ⟨keys, names⟩ := structure_kept updates nestedPage (by decide +kernel)
  rw [keys, names "org/m".toList (by decide +kernel)]
  decide +kernel

end InferenceBench.Pricing

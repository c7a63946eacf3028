import InferenceBench.Proofs.Pricing.Structure
import InferenceBench.Proofs.Pricing.Substitution

/-! # What becomes of a price of cached input

A given price of cached input goes into the block at two kinds of places: it replaces the numbers
after the field, and if the block does not name the field at all, it is inserted where a comma
follows a price of input. On the price sheet of the block, the field is named by its items and by
the plain texts between them, where no number follows it. Repricing keeps the plain texts, so the
names without a number are neither lost nor filled in.
-/

namespace InferenceBench.Pricing

/-! ## Repriced sheets -/

namespace PriceSheet

variable (texts : PriceTexts) (value : PriceText) (sheet : PriceSheet)

theorem setBoth_invites : (sheet.setBoth texts).Invites ↔ sheet.Invites := by
  simp [Invites, setBoth, set]

theorem setCached_mentions :
    (sheet.setCached value).Mentions .cached ↔ sheet.Mentions .cached ∨ sheet.Invites := by
  unfold setCached
  by_cases present : sheet.Mentions .cached
  · simp [present]
  · rw [if_neg present, or_iff_right present]
    by_cases invites : sheet.Invites
    · exact iff_of_true (withCached_mentions value invites) invites
    · rw [withCached_of_not_invites value invites]
      exact iff_of_false present invites

theorem reprice_mentions (given : texts.cachedInput = some value) :
    (sheet.reprice texts).Mentions .cached ↔ sheet.Mentions .cached ∨ sheet.Invites := by
  rw [reprice, given]
  simp only [setCached_mentions, setBoth_invites]
  simp [setBoth]

theorem setCached_price {item : PriceItem} (member : item ∈ (sheet.setCached value).items)
    (own : item.field = .cached) : item.gap = [' '] ∧ item.number = value := by
  unfold setCached at member
  split at member
  · obtain ⟨before, -, rfl⟩ := List.mem_map.mp member
    rw [PriceItem.set_field] at own
    simp [PriceItem.set, own]
  · next absent =>
      obtain ⟨before, within, result⟩ := List.mem_flatMap.mp member
      have notCached : before.field ≠ .cached := fun here =>
        absent (.inr ⟨before, within, .inl here⟩)
      unfold PriceItem.withCached at result
      split at result
      · obtain rfl | rfl := by simpa using result
        · exact absurd own notCached
        · exact ⟨rfl, rfl⟩
      · obtain rfl := List.mem_singleton.mp result
        exact absurd own notCached

/-- The field is named without a number. -/
def NamesBare (sheet : PriceSheet) (field : PriceField) : Prop :=
  Text.contains field.text sheet.lead = true ∨
    ∃ item ∈ sheet.items, Text.contains field.text item.after = true

theorem set_namesBare (field other : PriceField) :
    (sheet.set field value).NamesBare other ↔ sheet.NamesBare other := by
  simp [NamesBare, set]

theorem withCached_namesBare (field : PriceField) :
    (sheet.withCached value).NamesBare field ↔ sheet.NamesBare field := by
  have comma : Text.contains field.text (',' :: newLine) = false := by cases field <;> decide
  have item (item : PriceItem) :
      (∃ result ∈ item.withCached value, Text.contains field.text result.after = true) ↔
        Text.contains field.text item.after = true := by
    unfold PriceItem.withCached
    split
    · simp [comma]
    · simp
  refine or_congr_right ⟨?_, ?_⟩
  · rintro ⟨result, member, bare⟩
    obtain ⟨origin, within, made⟩ := List.mem_flatMap.mp member
    exact ⟨origin, within, (item origin).mp ⟨result, made, bare⟩⟩
  · rintro ⟨origin, within, bare⟩
    obtain ⟨result, made, bare⟩ := (item origin).mpr bare
    exact ⟨result, List.mem_flatMap.mpr ⟨origin, within, made⟩, bare⟩

theorem reprice_namesBare (field : PriceField) :
    (sheet.reprice texts).NamesBare field ↔ sheet.NamesBare field := by
  have both : (sheet.setBoth texts).NamesBare field ↔ sheet.NamesBare field := by
    rw [setBoth, set_namesBare, set_namesBare]
  unfold reprice setCached
  split
  · split
    · rw [set_namesBare, both]
    · rw [withCached_namesBare, both]
  · exact both

end PriceSheet

/-! ## Names without a number -/

/-- After white space, the text goes on with a number. -/
def Numbered (text : List Char) : Prop := StartsPrice [] text

/-- The text has the field name at a place where no number follows it. -/
def HasBare (field : PriceField) (text : List Char) : Prop :=
  ∃ rest ∈ followers field.text text, ¬ Numbered rest

theorem startsPrice_field {field rest : List Char} :
    StartsPrice field (field ++ rest) ↔ Numbered rest := by
  simp [Numbered, StartsPrice]

theorem hasBare_cons {field : PriceField} {c : Char} {text : List Char} :
    HasBare field (c :: text) ↔
      ((∃ more, c :: text = field.text ++ more) ∧ ¬ StartsPrice field.text (c :: text)) ∨
        HasBare field text := by
  simp only [HasBare, followers, List.mem_append, Option.mem_toList,
    List.isPrefixOf?_eq_some_iff_append_eq, or_and_right, exists_or]
  refine or_congr_left ⟨?_, ?_⟩
  · rintro ⟨rest, same, bare⟩
    rw [← same]
    exact ⟨⟨rest, rfl⟩, mt startsPrice_field.mp bare⟩
  · rintro ⟨⟨rest, same⟩, bare⟩
    rw [same] at bare
    exact ⟨rest, same.symm, mt startsPrice_field.mpr bare⟩

theorem not_hasBare_nil (field : PriceField) : ¬ HasBare field [] := by simp [HasBare, followers]

/-- A text does not matter if each field name in it begins a price. -/
theorem hasBare_append {field : PriceField} {text rest : List Char}
    (priced : ∀ back, back <:+ text → back ≠ [] → ∀ more, back ++ rest = field.text ++ more →
      StartsPrice field.text (back ++ rest)) :
    HasBare field (text ++ rest) ↔ HasBare field rest := by
  induction text with
  | nil => rfl
  | cons c text ih =>
      rw [List.cons_append, hasBare_cons,
        ih fun back ends => priced back (ends.trans (List.suffix_cons _ _)), or_iff_right]
      rintro ⟨⟨more, same⟩, bare⟩
      exact bare (priced (c :: text) List.suffix_rfl (List.cons_ne_nil _ _) more same)

theorem hasBare_append_plain (field : PriceField) {text rest : List Char} (plain : IsPlain text)
    (separates : Separates rest) :
    HasBare field (text ++ rest) ↔
      Text.contains field.text text = true ∨ HasBare field rest := by
  induction text with
  | nil => simp [contains_field_nil]
  | cons c text ih =>
      have start : (∃ more, c :: text ++ rest = field.text ++ more) ↔
          ∃ more, c :: text = field.text ++ more :=
        separates.field_start (List.cons_ne_nil _ _)
      have bare : ¬ StartsPrice field.text (c :: text ++ rest) :=
        separates.not_startsPrice (List.cons_ne_nil _ _) ((isPlain_cons.mp plain).1 field)
      rw [List.cons_append] at start bare ⊢
      rw [hasBare_cons, Text.contains_cons, ih (isPlain_cons.mp plain).2, start, and_iff_left bare,
        or_assoc]

theorem hasBare_item (field : PriceField) (item : PriceItem) {rest : List Char}
    (separates : Separates rest) :
    HasBare field (item.text ++ rest) ↔
      Text.contains field.text item.after = true ∨ HasBare field rest := by
  rw [item.text_append, ← List.append_assoc, ← hasBare_append_plain field item.plain separates]
  refine hasBare_append fun back ends nonempty more same => ?_
  obtain ⟨rfl, rfl⟩ := item.starts_whole ends nonempty same
  simpa using (item.parts separates).starts

theorem hasBare_items (field : PriceField) (items : List PriceItem) :
    HasBare field (items.flatMap PriceItem.text) ↔
      ∃ item ∈ items, Text.contains field.text item.after = true := by
  induction items with
  | nil => simp [not_hasBare_nil]
  | cons item items ih =>
      rw [List.flatMap_cons, hasBare_item field item (separates_all items), ih,
        List.exists_mem_cons_iff]

theorem hasBare_text (field : PriceField) (sheet : PriceSheet) :
    HasBare field sheet.text ↔ sheet.NamesBare field := by
  rw [PriceSheet.text, hasBare_append_plain field sheet.plain (separates_all sheet.items),
    hasBare_items, PriceSheet.NamesBare]

/-! ## The block -/

theorem setCachedPrice_text (value : PriceText) (sheet : PriceSheet) :
    setCachedPrice value.chars sheet.text = (sheet.setCached value).text := by
  simp only [setCachedPrice_eq, contains_text, PriceSheet.setCached]
  split
  · exact replacePrices_set .cached value sheet
  · simpa [appendAfterPrices, pieces] using appendAfterPrices_sheet value sheet separates_nil

theorem applyTo_text {prices : Prices} (unsigned : prices.Unsigned) (sheet : PriceSheet) :
    prices.applyTo sheet.text = (sheet.reprice unsigned.texts).text := by
  obtain ⟨input, output, cachedInput⟩ := prices
  have both : replacePrices outputField (Numeral.fixed 2 output)
      (replacePrices inputField (Numeral.fixed 2 input) sheet.text) =
      (sheet.setBoth unsigned.texts).text := replacePrices_both unsigned.texts sheet
  cases cachedInput with
  | none => exact both
  | some cached =>
      simp only [Prices.applyTo, both]
      exact setCachedPrice_text (.ofUnsigned (unsigned.cachedInput cached rfl)) _

/-- The block has a number as price of input, and a comma right after it. -/
def InvitesCached (block : List Char) : Prop :=
  ∃ before gap number after, PriceSpan .input block before gap number (',' :: after)

theorem invitesCached_text {sheet : PriceSheet} : InvitesCached sheet.text ↔ sheet.Invites := by
  simp only [InvitesCached, PriceSheet.span_iff]
  constructor
  · rintro ⟨_, _, _, after, _, item, back, items, own, -, -, -, comma⟩
    have first : item.after.head? = some ',' := by
      cases same : item.after with
      | nil =>
          rw [same, List.nil_append] at comma
          exact absurd rfl ((separates_all back).notComma ',' (by simp [comma]))
      | cons c rest =>
          rw [same] at comma
          rw [(List.cons.inj comma).1, List.head?_cons]
    exact ⟨item, by simp [items], own, first⟩
  · rintro ⟨item, member, own, comma⟩
    obtain ⟨front, back, items⟩ := List.append_of_mem member
    obtain ⟨more, after⟩ := List.head?_eq_some_iff.mp comma
    exact ⟨_, _, _, _, front, item, back, items, own, rfl, rfl, rfl, by rw [after]; rfl⟩

/-- The text goes on with the price, and with nothing that makes another number of it. -/
def ShowsPrice (value text : List Char) : Prop :=
  ∃ after, text = ' ' :: value ++ after ∧ ∀ c ∈ after.head?, isPriceChar c = false

theorem ShowsPrice.numbered {value : PriceText} {text : List Char}
    (shows : ShowsPrice value.chars text) : Numbered text := by
  obtain ⟨after, rfl, stops⟩ := shows
  have parts : PriceParts [' '] value.chars after :=
    ⟨isBlank_space, value.digits, value.nonempty, stops⟩
  have starts : StartsPrice [] ([] ++ [' '] ++ value.chars ++ after) := parts.starts
  simpa [Numbered] using starts

section Repriced

variable {texts : PriceTexts} {value : PriceText} (given : texts.cachedInput = some value)
  (sheet : PriceSheet)
include given

theorem contains_reprice :
    Text.contains cachedField (sheet.reprice texts).text = true ↔
      Text.contains cachedField sheet.text = true ∨ InvitesCached sheet.text := by
  have before : Text.contains cachedField sheet.text = true ↔ sheet.Mentions .cached :=
    contains_text .cached sheet
  have after : Text.contains cachedField (sheet.reprice texts).text = true ↔
      (sheet.reprice texts).Mentions .cached := contains_text .cached _
  rw [before, after, invitesCached_text, sheet.reprice_mentions texts value given]

theorem showsPrice_reprice {rest : List Char}
    (follows : rest ∈ followers cachedField (sheet.reprice texts).text)
    (numbered : Numbered rest) : ShowsPrice value.chars rest := by
  obtain ⟨before, text⟩ := (mem_followers (by decide)).mp follows
  obtain ⟨gap, number, after, rfl, parts⟩ := numbered.parts
  have span : PriceSpan .cached (sheet.reprice texts).text before gap number after :=
    ⟨by rw [text]; simp [PriceField.text], parts⟩
  obtain ⟨front, item, back, items, own, rfl, rfl, -, -⟩ := PriceSheet.span_iff.mp span
  have member : item ∈ (sheet.reprice texts).items := by simp [items]
  rw [PriceSheet.reprice, given] at member
  obtain ⟨gap, price⟩ := PriceSheet.setCached_price value _ member own
  exact ⟨after, by simp [gap, price], parts.stops⟩

theorem showsPrice_reprice_iff :
    (∀ rest ∈ followers cachedField (sheet.reprice texts).text, ShowsPrice value.chars rest) ↔
      ∀ rest ∈ followers cachedField sheet.text, Numbered rest := by
  have bare : HasBare .cached (sheet.reprice texts).text ↔ HasBare .cached sheet.text := by
    rw [hasBare_text, hasBare_text, PriceSheet.reprice_namesBare]
  constructor
  · intro shown rest follows
    by_contra unnumbered
    obtain ⟨other, there, unnumbered⟩ := bare.mpr ⟨rest, follows, unnumbered⟩
    exact unnumbered (shown other there).numbered
  · intro numbered rest follows
    apply showsPrice_reprice given sheet follows
    by_contra unnumbered
    obtain ⟨other, there, unnumbered⟩ := bare.mp ⟨rest, follows, unnumbered⟩
    exact unnumbered (numbered other there)

end Repriced

/-- What becomes of a price of cached input. The rewritten block names its field exactly if the
block did before, or has a price of input that a comma follows. Wherever a number stands after the
field, it is the given price with four places; the field stands nowhere without it exactly if it
did not stand anywhere without a number before. -/
theorem cached_price_written (key page : List Char) (prices : Prices) (unsigned : prices.Unsigned)
    (cached : Float) (given : prices.cachedInput = some cached) (entry : Entry)
    (found : entryFor? key page = some entry) :
    ∃ block, reprice? key prices page = some (entry.before ++ block ++ entry.after) ∧
      (∃ again, entryFor? key (entry.before ++ block ++ entry.after) = some again ∧
        again.before = entry.before ∧ again.block = block ∧ again.after = entry.after) ∧
      (Text.contains cachedField block = true ↔
        Text.contains cachedField entry.block = true ∨ InvitesCached entry.block) ∧
      (∀ rest ∈ followers cachedField block, Numbered rest →
        ShowsPrice (Numeral.fixed 4 cached) rest) ∧
      ((∀ rest ∈ followers cachedField block, ShowsPrice (Numeral.fixed 4 cached) rest) ↔
        ∀ rest ∈ followers cachedField entry.block, Numbered rest) := by
  obtain ⟨input, output, _⟩ := prices
  obtain rfl : _ = some cached := given
  obtain ⟨sheet, inside⟩ := exists_sheet entry.block
  have texts : unsigned.texts.cachedInput =
      some (.ofUnsigned (unsigned.cachedInput cached rfl)) := rfl
  refine ⟨_, by rw [reprice?, found, Option.map_some],
    entryFor?_reprinted found (reprinted_applyTo _ entry.block), ?_⟩
  rw [← inside, applyTo_text unsigned]
  exact ⟨contains_reprice texts sheet, fun _ => showsPrice_reprice texts sheet,
    showsPrice_reprice_iff texts sheet⟩

/-- The entry of `uncachedPage`. -/
def uncachedEntry : Entry :=
  ⟨['m'], "\"m\": ".toList.reverse, "inputPricePerM: 1.00, outputPricePerM:3\x7D".toList⟩

theorem cached_price_written_uncached :
    Prices.Unsigned ⟨0.5, 1.5, some 0.125⟩ ∧ entryFor? ['m'] uncachedPage = some uncachedEntry ∧
      ∃ block, reprice? ['m'] ⟨0.5, 1.5, some 0.125⟩ uncachedPage =
          some (uncachedEntry.before ++ block ++ uncachedEntry.after) ∧
        Text.contains cachedField block = true ∧
        ∀ rest ∈ followers cachedField block, ShowsPrice (Numeral.fixed 4 0.125) rest := by
  have unsigned : Prices.Unsigned ⟨0.5, 1.5, some 0.125⟩ :=
    ⟨⟨rfl, by decide +kernel⟩, ⟨rfl, by decide +kernel⟩, by
      rintro x ⟨⟩
      exact ⟨rfl, by decide +kernel⟩⟩
  have found : entryFor? ['m'] uncachedPage = some uncachedEntry := by decide +kernel
  have invites : InvitesCached uncachedEntry.block :=
    ⟨['\x7B'], [' '], "1.00".toList, " outputPricePerM:3\x7D".toList, by decide +kernel⟩
  have unnamed : followers cachedField uncachedEntry.block = [] := by decide +kernel
  obtain ⟨block, repriced, -, named, -, shown⟩ :=
    cached_price_written ['m'] uncachedPage _ unsigned 0.125 rfl uncachedEntry found
  exact ⟨unsigned, found, block, repriced, named.mpr (.inr invites), shown.mpr (by simp [unnamed])⟩

/-- In the first block, no comma follows the price of input; in the second one, the price of cached
input is not a number. -/
def unwrittenPage : List Char :=
  "\"a\": \x7BinputPricePerM: 1\x7D, \"b\": ".toList ++
    "\x7BinputPricePerM: 1, cachedInputPricePerM: null\x7D".toList

def unwrittenFirst : Entry :=
  ⟨['a'], "\"a\": ".toList.reverse, "inputPricePerM: 1\x7D, \"b\": ".toList ++
    "\x7BinputPricePerM: 1, cachedInputPricePerM: null\x7D".toList⟩

def unwrittenSecond : Entry :=
  ⟨['b'], "\"a\": \x7BinputPricePerM: 1\x7D, \"b\": ".toList.reverse,
    "inputPricePerM: 1, cachedInputPricePerM: null\x7D".toList⟩

theorem cached_price_not_written :
    Prices.Unsigned ⟨0.5, 1.5, some 0.125⟩ ∧
    (entryFor? ['a'] unwrittenPage = some unwrittenFirst ∧
      PriceSpan .input unwrittenFirst.block ['\x7B'] [' '] ['1'] ['\x7D'] ∧
      ∃ block, reprice? ['a'] ⟨0.5, 1.5, some 0.125⟩ unwrittenPage =
          some (unwrittenFirst.before ++ block ++ unwrittenFirst.after) ∧
        Text.contains cachedField block = false) ∧
    entryFor? ['b'] unwrittenPage = some unwrittenSecond ∧
      PriceSpan .input unwrittenSecond.block ['\x7B'] [' '] ['1']
        ", cachedInputPricePerM: null\x7D".toList ∧
      ∃ block, reprice? ['b'] ⟨0.5, 1.5, some 0.125⟩ unwrittenPage =
          some (unwrittenSecond.before ++ block ++ unwrittenSecond.after) ∧
        ∃ rest ∈ followers cachedField block, ¬ ShowsPrice (Numeral.fixed 4 0.125) rest := by
  have unsigned : Prices.Unsigned ⟨0.5, 1.5, some 0.125⟩ :=
    ⟨⟨rfl, by decide +kernel⟩, ⟨rfl, by decide +kernel⟩, by
      rintro x ⟨⟩
      exact ⟨rfl, by decide +kernel⟩⟩
  have other : ¬ ShowsPrice (Numeral.fixed 4 0.125) " null\x7D".toList := by
    rintro ⟨after, same, -⟩
    have price : Numeral.fixed 4 0.125 = "0.1250".toList := by decide +kernel
    rw [price] at same
    cases same
  let first := "\x7BinputPricePerM: 0.50\x7D".toList
  let second := "\x7BinputPricePerM: 0.50, cachedInputPricePerM: null\x7D".toList
  refine ⟨unsigned, ⟨?_, ?_, first, ?_, ?_⟩, ?_, ?_, second, ?_, _, ?_, other⟩
  all_goals decide +kernel

end InferenceBench.Pricing

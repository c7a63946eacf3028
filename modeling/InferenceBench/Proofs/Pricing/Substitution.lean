import InferenceBench.Proofs.Pricing.Repricing

/-! # The passes as one substitution

The prices of a text, whatever their fields, are the items of its price sheet: no two of them
overlap, and none is missing. The passes over a block rewrite one text after the other, but what
they do together can be told on the sheet of the first text alone. Each item becomes another text,
and everything between the items is kept.
-/

namespace InferenceBench.Pricing

/-! ## The prices of a text -/

/-- The place of a price in a text: after the white space, its number goes on as far as it can. -/
structure PriceSpan (field : PriceField) (text before gap number after : List Char) : Prop where
  whole : text = before ++ (field.text ++ gap ++ number ++ after)
  parts : PriceParts gap number after

instance (field : PriceField) (text before gap number after : List Char) :
    Decidable (PriceSpan field text before gap number after) :=
  decidable_of_iff (text = before ++ (field.text ++ gap ++ number ++ after) ∧
      PriceParts gap number after)
    ⟨fun ⟨whole, parts⟩ => ⟨whole, parts⟩, fun ⟨whole, parts⟩ => ⟨whole, parts⟩⟩

theorem PriceParts.starts {field gap number rest : List Char}
    (parts : PriceParts gap number rest) :
    StartsPrice field (field ++ gap ++ number ++ rest) := by
  obtain ⟨digit, others, rfl⟩ := List.exists_cons_of_ne_nil parts.nonempty
  exact ⟨gap, digit, others ++ rest, by simp, parts.blank, parts.digits _ List.mem_cons_self⟩

theorem PriceParts.unique {gap number rest otherGap otherNumber otherRest : List Char}
    (parts : PriceParts gap number rest) (others : PriceParts otherGap otherNumber otherRest)
    (same : gap ++ number ++ rest = otherGap ++ otherNumber ++ otherRest) :
    gap = otherGap ∧ number = otherNumber ∧ rest = otherRest := by
  have first : priceAt? [] (gap ++ number ++ rest) = some (.price gap number, rest) :=
    priceAt?_of_parts parts
  have second : priceAt? [] (otherGap ++ otherNumber ++ otherRest) =
      some (.price otherGap otherNumber, otherRest) := priceAt?_of_parts others
  rw [same, second] at first
  simpa [eq_comm, and_assoc] using first

theorem separates_nil : Separates [] where
  noEnd _ _ _ _ _ _ nonempty same := by
    rw [eq_comm, List.append_eq_nil_iff] at same
    exact nonempty same.1
  notBlank := by simp
  notNumber := by simp
  notComma := by simp

theorem separates_all (items : List PriceItem) : Separates (items.flatMap PriceItem.text) := by
  simpa using separates_items items separates_nil

/-- A field name starts in an item only where the item does. -/
theorem PriceItem.starts_whole {item : PriceItem} {field : PriceField}
    {back rest more : List Char}
    (ends : back <:+ item.field.text ++ (item.gap ++ item.number.chars)) (nonempty : back ≠ [])
    (same : back ++ rest = field.text ++ more) :
    item.field = field ∧ back = item.field.text ++ (item.gap ++ item.number.chars) := by
  obtain value | ⟨middle, some, name, rfl⟩ := Text.suffix_append ends
  · exact absurd same (noStart_value field rest item.value_chars back value nonempty _)
  · rw [List.append_assoc] at same
    obtain ⟨whole, own⟩ := PriceField.eq_of_starts name some same.symm
    exact ⟨own.symm, by rw [whole]⟩

theorem starts_after_plain {field : PriceField} {lead before tail rest : List Char}
    (starts : StartsPrice field.text tail) (plain : IsPlain lead) (separates : Separates rest)
    (whole : lead ++ rest = before ++ tail) :
    ∃ skipped, before = lead ++ skipped ∧ rest = skipped ++ tail := by
  obtain ⟨skipped, same, more⟩ | ⟨back, rfl, rfl⟩ := List.append_eq_append_iff.mp whole
  · exact ⟨skipped, same, more⟩
  · cases back with
    | nil => exact ⟨[], by simp, by simp⟩
    | cons c back =>
        have free := plain field (c :: back) (List.suffix_append _ _)
        exact absurd starts (separates.not_startsPrice (List.cons_ne_nil _ _) free)

theorem starts_item {field : PriceField} {tail : List Char} (starts : StartsPrice field.text tail)
    (items : List PriceItem) {before : List Char}
    (whole : items.flatMap PriceItem.text = before ++ tail) :
    ∃ front item back, items = front ++ item :: back ∧ item.field = field ∧
      before = front.flatMap PriceItem.text := by
  -- by induction on the items: a price that does not start with the first item does not start in
  -- it at all, nor in the plain text after it
  induction items generalizing before with
  | nil =>
      obtain ⟨-, rfl⟩ := List.append_eq_nil_iff.mp whole.symm
      exact absurd starts (not_startsPrice_nil _)
  | cons item items ih =>
      rw [List.flatMap_cons, item.text_append, ← List.append_assoc] at whole
      -- Past the name and the number of the item, only the rest of the items is left to look at.
      have later {more : List Char}
          (past : before = item.field.text ++ (item.gap ++ item.number.chars) ++ more)
          (rest : item.after ++ items.flatMap PriceItem.text = more ++ tail) :
          ∃ front found back, item :: items = front ++ found :: back ∧ found.field = field ∧
            before = front.flatMap PriceItem.text := by
        obtain ⟨skipped, rfl, others⟩ :=
          starts_after_plain starts item.plain (separates_all items) rest
        obtain ⟨front, found, back, rfl, own, rfl⟩ := ih others
        exact ⟨item :: front, found, back, rfl, own, by simp [past, PriceItem.text]⟩
      obtain ⟨more, past, rest⟩ | ⟨back, name, rest⟩ := List.append_eq_append_iff.mp whole
      · exact later past rest
      · cases back with
        | nil =>
            have past : before = item.field.text ++ (item.gap ++ item.number.chars) ++ [] := by
              simpa using name.symm
            exact later past (by simpa using rest.symm)
        | cons c back =>
            have ends : c :: back <:+ item.field.text ++ (item.gap ++ item.number.chars) :=
              name ▸ List.suffix_append before (c :: back)
            obtain ⟨gap, digit, more, same, -, -⟩ := starts
            rw [rest, List.append_assoc] at same
            obtain ⟨own, all⟩ := item.starts_whole ends (List.cons_ne_nil _ _) same
            have first : before = [] := by
              rw [← all] at name
              simpa using name
            exact ⟨[], item, items, rfl, own, first⟩

theorem PriceSheet.span_iff {sheet : PriceSheet} {field : PriceField}
    {before gap number after : List Char} :
    PriceSpan field sheet.text before gap number after ↔
      ∃ front item back, sheet.items = front ++ item :: back ∧ item.field = field ∧
        item.gap = gap ∧ item.number.chars = number ∧
        sheet.lead ++ front.flatMap PriceItem.text = before ∧
        item.after ++ back.flatMap PriceItem.text = after := by
  constructor
  · rintro ⟨whole, parts⟩
    obtain ⟨skipped, rfl, inside⟩ :=
      starts_after_plain parts.starts sheet.plain (separates_all sheet.items) whole
    obtain ⟨front, item, back, same, rfl, rfl⟩ := starts_item parts.starts sheet.items inside
    rw [same, List.flatMap_append, List.append_cancel_left_eq, List.flatMap_cons] at inside
    obtain ⟨gaps, numbers, rests⟩ := (item.parts (separates_all back)).unique parts
      (by simpa [PriceItem.text] using inside)
    exact ⟨front, item, back, same, rfl, gaps, numbers, rfl, rests⟩
  · rintro ⟨front, item, back, same, rfl, rfl, rfl, rfl, rfl⟩
    exact ⟨by simp [PriceSheet.text, PriceItem.text, same], item.parts (separates_all back)⟩

/-! ## The substitution -/

/-- What new prices make of a price. The price of cached input is inserted after prices of input
where the block does not name its field. -/
def Prices.substitute (prices : Prices) (named : Bool) (item : PriceItem) : List Char :=
  match item.field, prices.cachedInput with
  | .input, none => inputField ++ ' ' :: Numeral.fixed 2 prices.input ++ item.after
  | .input, some cached =>
    inputField ++ ' ' :: Numeral.fixed 2 prices.input ++
      if named then item.after else withCachedLine (Numeral.fixed 4 cached) item.after
  | .output, _ => outputField ++ ' ' :: Numeral.fixed 2 prices.output ++ item.after
  | .cached, none => item.text
  | .cached, some cached => cachedField ++ ' ' :: Numeral.fixed 4 cached ++ item.after

theorem replacePrices_text (field : PriceField) (value : List Char) (sheet : PriceSheet) :
    replacePrices field.text value sheet.text =
      sheet.lead ++ sheet.items.flatMap (PriceItem.repriced field value) := by
  simpa [replacePrices, pieces] using replacePrices_items field value sheet separates_nil

theorem appendAfterPrices_all (value : List Char) (sheet : PriceSheet) :
    appendAfterPrices PriceField.input.text (cachedLine value)
        (pieces PriceField.input.text sheet.text) =
      sheet.lead ++ sheet.items.flatMap (PriceItem.appended value) := by
  simpa [appendAfterPrices, pieces] using appendAfterPrices_text value sheet separates_nil

theorem replacePrices_set (field : PriceField) (value : PriceText) (sheet : PriceSheet) :
    replacePrices field.text value.chars sheet.text = (sheet.set field value).text := by
  simpa [replacePrices, pieces] using replacePrices_sheet field value sheet separates_nil

theorem replacePrices_both (texts : PriceTexts) (sheet : PriceSheet) :
    replacePrices PriceField.output.text texts.output.chars
        (replacePrices PriceField.input.text texts.input.chars sheet.text) =
      (sheet.setBoth texts).text := by
  rw [replacePrices_set, replacePrices_set, PriceSheet.setBoth]

theorem contains_text (field : PriceField) (sheet : PriceSheet) :
    Text.contains field.text sheet.text = true ↔ sheet.Mentions field := by
  simpa [contains_field_nil] using contains_sheet field sheet separates_nil

section Items

variable (texts : PriceTexts) (item : PriceItem)

/-- The item after the passes for input and output. -/
def PriceItem.setBoth : PriceItem := (item.set .input texts.input).set .output texts.output

theorem PriceSheet.flatMap_setBoth {sheet : PriceSheet} {rewritten result : PriceItem → List Char}
    (same : ∀ item ∈ sheet.items, rewritten (item.setBoth texts) = result item) :
    (sheet.setBoth texts).lead ++ (sheet.setBoth texts).items.flatMap rewritten =
      sheet.lead ++ sheet.items.flatMap result := by
  have items : (sheet.setBoth texts).items = sheet.items.map (PriceItem.setBoth texts) := by
    simp [PriceSheet.setBoth, PriceSheet.set, PriceItem.setBoth, Function.comp_def]
  rw [items, List.flatMap_map, List.flatMap_congr same]
  rfl

variable {prices : Prices} (input : texts.input.chars = Numeral.fixed 2 prices.input)
  (output : texts.output.chars = Numeral.fixed 2 prices.output)
include input output

theorem substitute_uncached (none : prices.cachedInput = none) (named : Bool) :
    (item.setBoth texts).text = prices.substitute named item := by
  cases own : item.field <;>
    simp [PriceItem.setBoth, PriceItem.set, PriceItem.text, Prices.substitute, own, none, input,
      output, PriceField.text]

theorem substitute_named {cached : Float} (given : prices.cachedInput = some cached) :
    (item.setBoth texts).repriced .cached (Numeral.fixed 4 cached) =
      prices.substitute true item := by
  cases own : item.field <;>
    simp [PriceItem.setBoth, PriceItem.set, PriceItem.repriced, PriceItem.text, Prices.substitute,
      own, given, input, output, PriceField.text]

theorem substitute_unnamed {cached : Float} (given : prices.cachedInput = some cached)
    (others : item.field ≠ .cached) :
    (item.setBoth texts).appended (Numeral.fixed 4 cached) = prices.substitute false item := by
  cases own : item.field with
  | cached => exact absurd own others
  | input | output =>
      simp [PriceItem.setBoth, PriceItem.set, PriceItem.appended, PriceItem.text,
        Prices.substitute, own, given, input, output, PriceField.text]

end Items

theorem applyTo_sheet {prices : Prices} (input : Numeral.Unsigned 2 prices.input)
    (output : Numeral.Unsigned 2 prices.output) (sheet : PriceSheet) :
    prices.applyTo sheet.text =
      sheet.lead ++ sheet.items.flatMap
        (prices.substitute (Text.contains PriceField.cached.text sheet.text)) := by
  let texts : PriceTexts := ⟨.ofUnsigned input, .ofUnsigned output, none⟩
  have both : replacePrices outputField (Numeral.fixed 2 prices.output)
      (replacePrices inputField (Numeral.fixed 2 prices.input) sheet.text) =
      (sheet.setBoth texts).text := replacePrices_both texts sheet
  have named : Text.contains PriceField.cached.text (sheet.setBoth texts).text =
      Text.contains PriceField.cached.text sheet.text := by
    rw [Bool.eq_iff_iff, contains_text, contains_text, PriceSheet.setBoth,
      PriceSheet.set_mentions, PriceSheet.set_mentions]
  cases given : prices.cachedInput with
  | none =>
      simp only [Prices.applyTo, both, given]
      apply PriceSheet.flatMap_setBoth
      intro item _
      exact substitute_uncached texts item rfl rfl given _
  | some cached =>
      simp only [Prices.applyTo, both, given]
      rw [setCachedPrice_eq, named]
      cases present : Text.contains PriceField.cached.text sheet.text with
      | true =>
          rw [if_pos rfl, replacePrices_text]
          apply PriceSheet.flatMap_setBoth
          intro item _
          exact substitute_named texts item rfl rfl given
      | false =>
          rw [if_neg Bool.false_ne_true, appendAfterPrices_all]
          apply PriceSheet.flatMap_setBoth
          intro item member
          refine substitute_unnamed texts item rfl rfl given fun own => ?_
          exact Bool.eq_false_iff.mp present
            ((contains_text .cached sheet).mpr (.inr ⟨item, member, .inl own⟩))

/-- The three passes over a block are one substitution. The block is cut at once at all of its
prices of the three fields, which never overlap; then each price of input and of output is
replaced, and so is each price of cached input, if there is a new one and the block names the
field; if it does not, a line for it is inserted after the comma of each price of input that a
comma follows. All other text is kept. -/
theorem reprice_is_one_substitution (prices : Prices) (input : Numeral.Unsigned 2 prices.input)
    (output : Numeral.Unsigned 2 prices.output) (block : List Char) :
    (∃ sheet : PriceSheet, sheet.text = block) ∧
    ∀ sheet : PriceSheet, sheet.text = block →
      (∀ field before gap number after, PriceSpan field block before gap number after ↔
        ∃ front item back, sheet.items = front ++ item :: back ∧ item.field = field ∧
          item.gap = gap ∧ item.number.chars = number ∧
          sheet.lead ++ front.flatMap PriceItem.text = before ∧
          item.after ++ back.flatMap PriceItem.text = after) ∧
      prices.applyTo block =
        sheet.lead ++ sheet.items.flatMap
          (prices.substitute (Text.contains cachedField block)) ∧
      ∀ key page entry, entryFor? key page = some entry → entry.block = block →
        reprice? key prices page = some (entry.before ++ (sheet.lead ++ sheet.items.flatMap
          (prices.substitute (Text.contains cachedField block))) ++ entry.after) := by
  refine ⟨exists_sheet block, ?_⟩
  rintro sheet rfl
  have passes := applyTo_sheet input output sheet
  refine ⟨fun field before gap number after => sheet.span_iff, passes, ?_⟩
  intro key page entry found inside
  rw [reprice?, found, Option.map_some, inside, passes]
  rfl

/-- A block that lists the prices of two inputs. -/
def twoInputs : List Char :=
  "\x7BinputPricePerM: 1.00, outputPricePerM:3,\ninputPricePerM:\n 2\x7D".toList

/-- A negative price is inserted after the input that a comma follows. -/
theorem reprice_is_one_substitution_twoInputs :
    Numeral.Unsigned 2 0.5 ∧ Numeral.Unsigned 2 1.5 ∧
      ∃ sheet : PriceSheet, sheet.text = twoInputs ∧
        sheet.lead ++ sheet.items.flatMap (Prices.substitute ⟨0.5, 1.5, some (-0.25)⟩ false) =
          "\x7BinputPricePerM: 0.50,\n        cachedInputPricePerM: -0.2500,".toList ++
            " outputPricePerM: 1.50,\ninputPricePerM: 0.50\x7D".toList := by
  have input : Numeral.Unsigned 2 0.5 := ⟨rfl, by decide +kernel⟩
  have output : Numeral.Unsigned 2 1.5 := ⟨rfl, by decide +kernel⟩
  obtain ⟨⟨sheet, text⟩, every⟩ :=
    reprice_is_one_substitution ⟨0.5, 1.5, some (-0.25)⟩ input output twoInputs
  obtain ⟨-, passes, -⟩ := every sheet text
  have unnamed : Text.contains cachedField twoInputs = false := by decide +kernel
  rw [unnamed] at passes
  exact ⟨input, output, sheet, text, passes.symm.trans (by decide +kernel)⟩

end InferenceBench.Pricing

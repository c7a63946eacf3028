import InferenceBench.Proofs.Numeral.Fixed
import InferenceBench.Proofs.Pricing.Lookup
import InferenceBench.Proofs.Pricing.Sheet

/-! # Repricing twice

On the price sheet of a block, new prices for input and output leave the cut and everything that
decides about the price of cached input. So a second repricing finds what the first one has found,
together with the items that the first one has inserted, and overwrites it all. In the page, the
block still opens at the same place and closes at its first closing brace, and what stands before
it is unchanged: the same entry is repriced again.
-/

namespace InferenceBench.Pricing

/-! ## Prices without sign -/

/-- The texts of prices. -/
structure PriceTexts where
  input : PriceText
  output : PriceText
  cachedInput : Option PriceText

/-- Finite prices that are written without minus sign. -/
structure Prices.Unsigned (prices : Prices) : Prop where
  input : Numeral.Unsigned 2 prices.input
  output : Numeral.Unsigned 2 prices.output
  cachedInput : ∀ x ∈ prices.cachedInput, Numeral.Unsigned 4 x

def PriceText.ofUnsigned {places : Nat} {x : Float} (unsigned : Numeral.Unsigned places x) :
    PriceText where
  chars := Numeral.fixed places x
  nonempty := unsigned.ne_nil
  digits c member := by simpa [isPriceChar] using unsigned.chars c member

def Prices.Unsigned.texts {prices : Prices} (unsigned : prices.Unsigned) : PriceTexts where
  input := .ofUnsigned unsigned.input
  output := .ofUnsigned unsigned.output
  cachedInput := prices.cachedInput.pmap (fun _ => PriceText.ofUnsigned) unsigned.cachedInput

/-! ## Repricing a sheet -/

namespace PriceItem

variable (field other : PriceField) (value next : PriceText) (item : PriceItem)

@[simp]
theorem set_field : (item.set field value).field = item.field := by
  unfold set
  split <;> rfl

@[simp]
theorem set_after : (item.set field value).after = item.after := by
  unfold set
  split <;> rfl

variable {field item} in
theorem set_of_ne (others : item.field ≠ field) : item.set field value = item := if_neg others

@[simp]
theorem set_set : (item.set field value).set field next = item.set field next := by
  by_cases own : item.field = field
  · simp [set, own]
  · rw [set_of_ne value own]

variable {field other} in
theorem set_comm (distinct : field ≠ other) :
    (item.set field value).set other next = (item.set other next).set field value := by
  by_cases own : item.field = field
  · rw [set_of_ne next (by simpa [own] using distinct),
      set_of_ne next (by simpa [own] using distinct)]
  · rw [set_of_ne value own, set_of_ne value (by simpa using own)]

@[simp]
theorem set_invites : (item.set field value).Invites ↔ item.Invites := by
  simp [Invites]

variable {field} in
theorem withCached_set (notCached : field ≠ .cached) :
    (item.set field value).withCached next =
      (item.withCached next).map (PriceItem.set field value) := by
  by_cases invites : item.Invites
  · rw [withCached, withCached, if_pos invites, if_pos ((set_invites ..).mpr invites)]
    by_cases own : item.field = field
    · simp [set, own, Ne.symm notCached]
    · simp [set, own, Ne.symm notCached]
  · simp [withCached, invites]

variable {item} in
theorem set_withCached (notCached : item.field ≠ .cached) :
    (item.withCached value).map (PriceItem.set .cached next) = item.withCached next := by
  by_cases invites : item.Invites
  · simp [withCached, invites, set, notCached]
  · simp [withCached, invites, set, notCached]

variable {item} in
theorem exists_cached (invites : item.Invites) :
    ∃ added ∈ item.withCached value, added.field = .cached := by
  rw [withCached, if_pos invites]
  exact ⟨_, List.mem_cons_of_mem _ List.mem_cons_self, rfl⟩

variable {item} in
theorem withCached_of_not_invites (plain : ¬ item.Invites) : item.withCached value = [item] :=
  if_neg plain

end PriceItem

namespace PriceSheet

variable (field other : PriceField) (value next : PriceText) (sheet : PriceSheet)

@[simp]
theorem set_set : (sheet.set field value).set field next = sheet.set field next := by
  simp [set, List.map_map, Function.comp_def]

variable {field other} in
theorem set_comm (distinct : field ≠ other) :
    (sheet.set field value).set other next = (sheet.set other next).set field value := by
  simp [set, List.map_map, Function.comp_def, PriceItem.set_comm _ _ _ distinct]

@[simp]
theorem set_mentions : (sheet.set field value).Mentions other ↔ sheet.Mentions other := by
  simp [set, Mentions]

variable {field} in
theorem withCached_set (notCached : field ≠ .cached) :
    (sheet.set field value).withCached next = (sheet.withCached next).set field value := by
  simp [set, withCached, List.flatMap_map, List.map_flatMap,
    PriceItem.withCached_set _ _ _ notCached]

variable {sheet} in
theorem set_withCached (absent : ¬ sheet.Mentions .cached) :
    (sheet.withCached value).set .cached next = sheet.withCached next := by
  have notCached : ∀ item ∈ sheet.items, item.field ≠ .cached := fun item member own =>
    absent (.inr ⟨item, member, .inl own⟩)
  simp only [set, withCached, List.map_flatMap]
  congr 1
  exact List.flatMap_congr fun item member => PriceItem.set_withCached _ _ (notCached item member)

/-- A price of input that a comma follows. -/
def Invites (sheet : PriceSheet) : Prop := ∃ item ∈ sheet.items, item.Invites

variable {sheet} in
theorem withCached_mentions (invites : sheet.Invites) :
    (sheet.withCached value).Mentions .cached := by
  obtain ⟨item, member, invites⟩ := invites
  obtain ⟨added, fromItem, cached⟩ := item.exists_cached value invites
  exact .inr ⟨added, List.mem_flatMap.mpr ⟨item, member, fromItem⟩, .inl cached⟩

variable {sheet} in
theorem withCached_of_not_invites (plain : ¬ sheet.Invites) : sheet.withCached value = sheet := by
  have items : ∀ item ∈ sheet.items, item.withCached value = [item] := fun item member =>
    item.withCached_of_not_invites value fun here => plain ⟨item, member, here⟩
  simp only [withCached, List.flatMap_congr items]
  simp

/-- The price of cached input: in place where the sheet mentions the field, else inserted. -/
def setCached (value : PriceText) (sheet : PriceSheet) : PriceSheet :=
  if sheet.Mentions .cached then sheet.set .cached value else sheet.withCached value

variable {field} in
theorem setCached_set (notCached : field ≠ .cached) :
    (sheet.set field value).setCached next = (sheet.setCached next).set field value := by
  unfold setCached
  by_cases present : sheet.Mentions .cached
  · simp [present, sheet.set_comm value next notCached]
  · simp [present, sheet.withCached_set value next notCached]

theorem setCached_setCached : (sheet.setCached value).setCached next = sheet.setCached next := by
  by_cases present : sheet.Mentions .cached
  · simp [setCached, present]
  · by_cases invites : sheet.Invites
    · simp [setCached, present, withCached_mentions value invites,
        set_withCached value next present]
    · simp [setCached, present, withCached_of_not_invites _ invites]

/-- The sheet with other prices for input and output. -/
def setBoth (texts : PriceTexts) (sheet : PriceSheet) : PriceSheet :=
  (sheet.set .input texts.input).set .output texts.output

theorem setBoth_setBoth (first second : PriceTexts) :
    (sheet.setBoth first).setBoth second = sheet.setBoth second := by
  unfold setBoth
  rw [set_comm first.output second.input _ (by decide), set_set, set_set]

theorem setCached_setBoth (texts : PriceTexts) :
    (sheet.setCached value).setBoth texts = (sheet.setBoth texts).setCached value := by
  unfold setBoth
  rw [setCached_set _ _ _ (by decide), setCached_set _ _ _ (by decide)]

/-- The sheet with other prices. -/
def reprice (texts : PriceTexts) (sheet : PriceSheet) : PriceSheet :=
  match texts.cachedInput with
  | some value => (sheet.setBoth texts).setCached value
  | none => sheet.setBoth texts

/-- The last prices stand, unless they leave out a price of cached input that was given before. -/
theorem reprice_reprice {first second : PriceTexts}
    (overwrites : second.cachedInput.isSome = true ∨ first.cachedInput = none) :
    (sheet.reprice first).reprice second = sheet.reprice second := by
  unfold reprice
  cases before : first.cachedInput with
  | none => simp only [setBoth_setBoth]
  | some value =>
      cases after : second.cachedInput with
      | none => simp [before, after] at overwrites
      | some next => simp only [setCached_setBoth, setBoth_setBoth, setCached_setCached]

end PriceSheet

/-! ## Repricing a block -/

/-- A block whose inside is the text of the sheet. -/
def PriceSheet.block (sheet : PriceSheet) : List Char := '\x7B' :: (sheet.text ++ ['\x7D'])

theorem pieces_opening (field : PriceField) (text : List Char) :
    pieces field.text ('\x7B' :: text) = .plain '\x7B' :: pieces field.text text := by
  refine pieces_of_plain (not_startsPrice_cons ?_)
  obtain ⟨c, name, same, -, -, -, opening⟩ := field.exists_cons
  simpa [same] using opening

theorem pieces_closing (field : PriceField) :
    pieces field.text ['\x7D'] = [.plain '\x7D'] := by
  have plain : ¬ StartsPrice field.text ['\x7D'] := by
    refine not_startsPrice_cons ?_
    cases field <;> decide
  rw [pieces_of_plain plain]
  simp [pieces]

theorem replacePrices_block (field : PriceField) (value : PriceText) (sheet : PriceSheet) :
    replacePrices field.text value.chars sheet.block = (sheet.set field value).block := by
  have closing : replacePrices field.text value.chars ['\x7D'] = ['\x7D'] := by
    simp [replacePrices, pieces_closing, Piece.repriced]
  calc replacePrices field.text value.chars sheet.block
      = '\x7B' :: replacePrices field.text value.chars (sheet.text ++ ['\x7D']) := by
        rw [PriceSheet.block, replacePrices, pieces_opening]
        rfl
    _ = (sheet.set field value).block := by
        rw [replacePrices_sheet field value sheet (separates_closing []), closing]
        rfl

theorem contains_block (field : PriceField) (sheet : PriceSheet) :
    Text.contains field.text sheet.block = true ↔ sheet.Mentions field := by
  have opening : ¬ ∃ more, '\x7B' :: (sheet.text ++ ['\x7D']) = field.text ++ more := by
    rintro ⟨more, same⟩
    obtain ⟨c, name, text, -, -, -, notOpening⟩ := field.exists_cons
    rw [text] at same
    exact notOpening (List.cons.inj same).1.symm
  have closing : Text.contains field.text ['\x7D'] = false := by
    cases field <;> decide
  rw [PriceSheet.block, Text.contains_cons, or_iff_right opening,
    contains_sheet field sheet (separates_closing []), closing]
  simp

theorem setCachedPrice_eq (value block : List Char) :
    setCachedPrice value block =
      if Text.contains PriceField.cached.text block = true then
        replacePrices PriceField.cached.text value block
      else
        appendAfterPrices PriceField.input.text (cachedLine value)
          (pieces PriceField.input.text block) := rfl

theorem setCachedPrice_block (value : PriceText) (sheet : PriceSheet) :
    setCachedPrice value.chars sheet.block = (sheet.setCached value).block := by
  rw [setCachedPrice_eq, PriceSheet.setCached]
  by_cases present : sheet.Mentions .cached
  · rw [if_pos present, if_pos ((contains_block .cached sheet).mpr present), replacePrices_block]
  · rw [if_neg present, if_neg fun found => present ((contains_block .cached sheet).mp found),
      PriceSheet.block, pieces_opening]
    have inside := appendAfterPrices_sheet value sheet (separates_closing [])
    rw [pieces_closing] at inside
    simp only [appendAfterPrices, Piece.text, inside, PriceSheet.block, List.append_nil,
      List.singleton_append]

theorem applyTo_block {prices : Prices} (unsigned : prices.Unsigned) (sheet : PriceSheet) :
    prices.applyTo sheet.block = (sheet.reprice unsigned.texts).block := by
  obtain ⟨input, output, cachedInput⟩ := prices
  have both : replacePrices outputField (Numeral.fixed 2 output)
      (replacePrices inputField (Numeral.fixed 2 input) sheet.block) =
      (sheet.setBoth unsigned.texts).block := by
    have first := replacePrices_block .input unsigned.texts.input sheet
    have second := replacePrices_block .output unsigned.texts.output
      (sheet.set .input unsigned.texts.input)
    rw [← first] at second
    exact second
  cases cachedInput with
  | none => exact both
  | some cached =>
      simp only [Prices.applyTo, both]
      exact setCachedPrice_block (.ofUnsigned (unsigned.cachedInput cached rfl)) _

/-! ## The block in its page -/

theorem closing_mem_text {sheet : PriceSheet} :
    '\x7D' ∈ sheet.text ↔ '\x7D' ∈ sheet.lead ∨ ∃ item ∈ sheet.items, '\x7D' ∈ item.after := by
  have item : ∀ item : PriceItem, '\x7D' ∈ item.text ↔ '\x7D' ∈ item.after := by
    intro item
    have gap : '\x7D' ∉ item.gap := fun member => absurd (item.blank _ member) (by decide)
    have number : '\x7D' ∉ item.number.chars := fun member =>
      absurd (item.number.digits _ member) (by decide)
    simp [PriceItem.text, item.field.closing_notMem, gap, number]
  simp [PriceSheet.text, item]

namespace PriceSheet

theorem closing_notMem_set {sheet : PriceSheet} (field : PriceField) (value : PriceText)
    (unclosed : '\x7D' ∉ sheet.text) : '\x7D' ∉ (sheet.set field value).text := by
  rw [closing_mem_text] at unclosed ⊢
  simpa [set] using unclosed

theorem closing_notMem_withCached {sheet : PriceSheet} (value : PriceText)
    (unclosed : '\x7D' ∉ sheet.text) : '\x7D' ∉ (sheet.withCached value).text := by
  rw [closing_mem_text] at unclosed ⊢
  rintro (lead | ⟨item, member, closing⟩)
  · exact unclosed (.inl lead)
  · obtain ⟨origin, within, member⟩ := List.mem_flatMap.mp member
    refine unclosed (.inr ⟨origin, within, ?_⟩)
    unfold PriceItem.withCached at member
    split at member
    · obtain rfl | rfl := by simpa using member
      · have : '\x7D' ∉ ',' :: newLine := by decide
        exact absurd closing this
      · exact closing
    · obtain rfl := by simpa using member
      exact closing

theorem closing_notMem_reprice {sheet : PriceSheet} (texts : PriceTexts)
    (unclosed : '\x7D' ∉ sheet.text) : '\x7D' ∉ (sheet.reprice texts).text := by
  have both : '\x7D' ∉ (sheet.setBoth texts).text :=
    closing_notMem_set _ _ (closing_notMem_set _ _ unclosed)
  unfold reprice
  split
  · unfold setCached
    split
    · exact closing_notMem_set _ _ both
    · exact closing_notMem_withCached _ both
  · exact both

end PriceSheet

/-- The entry with another inside of its block. -/
def Entry.withBody (entry : Entry) (body : List Char) : Entry :=
  { entry with rest := body ++ '\x7D' :: entry.after }

theorem Entry.withBody_block (entry : Entry) {body : List Char} (unclosed : '\x7D' ∉ body) :
    (entry.withBody body).block = '\x7B' :: (body ++ ['\x7D']) ∧
      (entry.withBody body).after = entry.after :=
  Entry.block_of_rest rfl unclosed

theorem entryFor?_withBody {key page body : List Char} {entry : Entry}
    (found : entryFor? key page = some entry) :
    entryFor? key (entry.before ++ '\x7B' :: (body ++ '\x7D' :: entry.after)) =
      some (entry.withBody body) :=
  entryFor?_withRest found (by simp)

theorem reprice?_eq_some {key page : List Char} {entry : Entry} {prices : Prices}
    (found : entryFor? key page = some entry) (unsigned : prices.Unsigned) {sheet : PriceSheet}
    (inside : entry.block = sheet.block) :
    reprice? key prices page = some (entry.before ++ (sheet.reprice unsigned.texts).block ++
      entry.after) := by
  simp [reprice?, found, inside, applyTo_block unsigned]

/-- Of two repricings of an entry only the last one counts, unless it leaves out a price of cached
input that the first one gives. -/
theorem reprice_twice (key page : List Char) (first second : Prices) (unsigned : first.Unsigned)
    (alsoUnsigned : second.Unsigned)
    (overwrites : second.cachedInput.isSome = true ∨ first.cachedInput = none) :
    (reprice? key first page).bind (reprice? key second) = reprice? key second page ∧
      (reprice? key second page = none ↔ ∀ entry ∈ entries page, entry.key ≠ key) := by
  constructor
  · cases found : entryFor? key page with
    | none => simp [reprice?, found]
    | some entry =>
        obtain ⟨sheet, text⟩ := exists_sheet (entry.rest.takeWhile (· ≠ '\x7D'))
        have inside : entry.block = sheet.block := by
          rw [Entry.block, PriceSheet.block, text]
          rfl
        have unclosed : '\x7D' ∉ (sheet.reprice unsigned.texts).text := by
          refine PriceSheet.closing_notMem_reprice _ ?_
          rw [text]
          intro member
          simpa using List.all_eq_true.mp List.all_takeWhile _ member
        obtain ⟨block, after⟩ := entry.withBody_block unclosed
        have rewritten : entry.before ++ (sheet.reprice unsigned.texts).block ++ entry.after =
            entry.before ++ '\x7B' :: ((sheet.reprice unsigned.texts).text ++
              '\x7D' :: entry.after) := by
          simp [PriceSheet.block]
        rw [reprice?_eq_some found unsigned inside, reprice?_eq_some found alsoUnsigned inside,
          Option.bind_some, rewritten,
          reprice?_eq_some (entryFor?_withBody found) alsoUnsigned block, after,
          sheet.reprice_reprice (by simpa [Prices.Unsigned.texts] using overwrites)]
        rfl
  · simp [reprice?, entryFor?]

/-- A page with one entry, which has no price of cached input. -/
def uncachedPage : List Char :=
  "\"m\": \x7BinputPricePerM: 1.00, outputPricePerM:3\x7D".toList

/-- The first prices insert a price of cached input, the second ones replace it. -/
theorem reprice_twice_insertedFirst :
    Prices.Unsigned ⟨0.5, 1.5, some 0.125⟩ ∧ Prices.Unsigned ⟨0.25, 2, some 0.0625⟩ ∧
      (reprice? ['m'] ⟨0.5, 1.5, some 0.125⟩ uncachedPage).bind
          (reprice? ['m'] ⟨0.25, 2, some 0.0625⟩) =
        some ("\"m\": \x7BinputPricePerM: 0.25,\n".toList ++
          "        cachedInputPricePerM: 0.0625, outputPricePerM: 2.00\x7D".toList) := by
  have first : Prices.Unsigned ⟨0.5, 1.5, some 0.125⟩ :=
    ⟨⟨rfl, by decide +kernel⟩, ⟨rfl, by decide +kernel⟩, by
      rintro x ⟨⟩
      exact ⟨rfl, by decide +kernel⟩⟩
  have second : Prices.Unsigned ⟨0.25, 2, some 0.0625⟩ :=
    ⟨⟨rfl, by decide +kernel⟩, ⟨rfl, by decide +kernel⟩, by
      rintro x ⟨⟩
      exact ⟨rfl, by decide +kernel⟩⟩
  refine ⟨first, second, ?_⟩
  rw [(reprice_twice ['m'] uncachedPage _ _ first second (.inl rfl)).1]
  decide +kernel

end InferenceBench.Pricing

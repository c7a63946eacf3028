import InferenceBench.Proofs.Pricing.Scan

/-! # Price sheets

A price sheet is a text taken apart at all its prices at once, whatever their fields. Every text
has one. The passes over a block, one for each field, look for the prices of their own field only;
on the sheet, each of them changes the items it is about and leaves the cut where it was, so that
the next pass sees the same prices at the same places.
-/

namespace InferenceBench.Pricing

/-- A text in which no price of any field starts. -/
def IsPlain (text : List Char) : Prop :=
  ∀ (field : PriceField) back, back <:+ text → ¬ StartsPrice field.text back

/-- Digits and points, which is how a price without sign is written. -/
structure PriceText where
  chars : List Char
  nonempty : chars ≠ []
  digits : ∀ c ∈ chars, isPriceChar c = true

/-- A price and the plain text up to the next one. -/
structure PriceItem where
  field : PriceField
  gap : List Char
  number : PriceText
  after : List Char
  blank : ∀ c ∈ gap, Text.isBlank c = true
  stops : ∀ c ∈ after.head?, isPriceChar c = false
  plain : IsPlain after

/-- The plain text before the first price, and the prices. -/
structure PriceSheet where
  lead : List Char
  items : List PriceItem
  plain : IsPlain lead

def PriceItem.text (item : PriceItem) : List Char :=
  item.field.text ++ item.gap ++ item.number.chars ++ item.after

def PriceSheet.text (sheet : PriceSheet) : List Char :=
  sheet.lead ++ sheet.items.flatMap PriceItem.text

/-! ## Plain texts -/

theorem startsPrice_append {field text : List Char} (rest : List Char)
    (starts : StartsPrice field text) : StartsPrice field (text ++ rest) := by
  obtain ⟨gap, digit, more, rfl, blank, price⟩ := starts
  exact ⟨gap, digit, more ++ rest, by simp, blank, price⟩

theorem not_startsPrice_nil (field : List Char) : ¬ StartsPrice field [] := by
  rintro ⟨gap, digit, rest, same, -, -⟩
  simp at same

theorem not_startsPrice_cons {field : PriceField} {c : Char} {rest : List Char}
    (notInitial : field.text.head? ≠ some c) : ¬ StartsPrice field.text (c :: rest) := by
  rintro ⟨gap, digit, more, same, -, -⟩
  obtain ⟨initial, name, text, -⟩ := field.exists_cons
  simp_all

theorem isPlain_nil : IsPlain [] := by
  intro field back ends
  rw [List.suffix_nil.mp ends]
  exact not_startsPrice_nil _

theorem isPlain_cons {c : Char} {text : List Char} :
    IsPlain (c :: text) ↔
      (∀ field : PriceField, ¬ StartsPrice field.text (c :: text)) ∧ IsPlain text := by
  simp only [IsPlain, List.suffix_cons_iff, or_imp, forall_and, forall_eq]

theorem exists_sheet (text : List Char) : ∃ sheet : PriceSheet, sheet.text = text := by
  induction length : text.length using Nat.strongRecOn generalizing text with
  | _ n ih =>
      subst length
      by_cases starts : ∃ field : PriceField, StartsPrice field.text text
      · obtain ⟨field, starts⟩ := starts
        obtain ⟨gap, number, rest, rfl, parts⟩ := starts.parts
        have shorter : rest.length < (field.text ++ gap ++ number ++ rest).length := by
          have := List.length_pos_iff.mpr parts.nonempty
          simp
          omega
        obtain ⟨sheet, rfl⟩ := ih rest.length shorter rest rfl
        have stops : ∀ c ∈ sheet.lead.head?, isPriceChar c = false := by
          intro c first
          exact parts.stops c (by simp_all [PriceSheet.text, List.head?_append])
        let item : PriceItem := ⟨field, gap, ⟨number, parts.nonempty, parts.digits⟩, sheet.lead,
          parts.blank, stops, sheet.plain⟩
        refine ⟨⟨[], item :: sheet.items, isPlain_nil⟩, ?_⟩
        simp [PriceSheet.text, PriceItem.text, item]
      · cases text with
        | nil => exact ⟨⟨[], [], isPlain_nil⟩, rfl⟩
        | cons c rest =>
            obtain ⟨sheet, rfl⟩ := ih rest.length (by simp) rest rfl
            refine ⟨⟨c :: sheet.lead, sheet.items, isPlain_cons.mpr ⟨fun field here => ?_,
              sheet.plain⟩⟩, rfl⟩
            exact starts ⟨field, startsPrice_append (sheet.items.flatMap PriceItem.text) here⟩

/-! ## The pieces of a sheet -/

/-- The pieces of one field in an item. -/
def PriceItem.pieces (field : PriceField) (item : PriceItem) : List Piece :=
  (if item.field = field then [.price item.gap item.number.chars]
    else (item.field.text ++ item.gap ++ item.number.chars).map .plain) ++
  item.after.map .plain

theorem PriceItem.text_append (item : PriceItem) (rest : List Char) :
    item.text ++ rest =
      item.field.text ++ ((item.gap ++ item.number.chars) ++ (item.after ++ rest)) := by
  simp [PriceItem.text]

theorem separates_items (items : List PriceItem) {rest : List Char} (separates : Separates rest) :
    Separates (items.flatMap PriceItem.text ++ rest) := by
  cases items with
  | nil => exact separates
  | cons item items =>
      rw [List.flatMap_cons, List.append_assoc, item.text_append]
      exact separates_field _ _

theorem pieces_append_plain (field : PriceField) {text rest : List Char} (plain : IsPlain text)
    (separates : Separates rest) :
    pieces field.text (text ++ rest) = text.map .plain ++ pieces field.text rest :=
  pieces_append fun back ends some => separates.not_startsPrice some (plain field back ends)

/-- The field does not start in a text, whatever part of the rest it may end in. -/
def NoStart (field : PriceField) (text rest : List Char) : Prop :=
  ∀ back, back <:+ text → back ≠ [] → ∀ more, back ++ rest ≠ field.text ++ more

theorem noStart_field {field other : PriceField} (distinct : other ≠ field) (rest : List Char) :
    NoStart field other.text rest := fun _ ends some _ same =>
  distinct (PriceField.eq_of_starts ends some same.symm).2.symm

theorem noStart_value (field : PriceField) {value : List Char} (rest : List Char)
    (values : ∀ c ∈ value, Text.isBlank c = true ∨ isPriceChar c = true) :
    NoStart field value rest := by
  intro back ends some more same
  obtain ⟨c, tail, rfl⟩ := List.exists_cons_of_ne_nil some
  obtain ⟨initial, name, text, notBlank, notPrice, -⟩ := field.exists_cons
  rw [text] at same
  obtain ⟨rfl, -⟩ := List.cons.inj same
  have := values c (ends.subset List.mem_cons_self)
  simp [notBlank, notPrice] at this

theorem pieces_of_noStart {field : PriceField} {text rest : List Char}
    (noStart : NoStart field text rest) :
    pieces field.text (text ++ rest) = text.map .plain ++ pieces field.text rest := by
  refine pieces_append fun back ends some => ?_
  rintro ⟨gap, digit, more, same, -, -⟩
  rw [List.append_assoc] at same
  exact noStart back ends some _ same

theorem PriceItem.value_chars (item : PriceItem) : ∀ c ∈ item.gap ++ item.number.chars,
    Text.isBlank c = true ∨ isPriceChar c = true := fun c member =>
  (List.mem_append.mp member).imp (item.blank c) (item.number.digits c)

/-- The number of an item ends with the item, whatever prices come next. -/
theorem PriceItem.parts (item : PriceItem) {rest : List Char} (separates : Separates rest) :
    PriceParts item.gap item.number.chars (item.after ++ rest) where
  blank := item.blank
  digits := item.number.digits
  nonempty := item.number.nonempty
  stops := by
    cases same : item.after with
    | nil => exact separates.notNumber
    | cons c tail => simpa [same] using item.stops

theorem pieces_item (field : PriceField) (item : PriceItem) {rest : List Char}
    (separates : Separates rest) :
    pieces field.text (item.text ++ rest) = item.pieces field ++ pieces field.text rest := by
  have after := pieces_append_plain field item.plain separates
  by_cases own : item.field = field
  · subst own
    have price : pieces item.field.text (item.field.text ++ item.gap ++ item.number.chars ++
        (item.after ++ rest)) =
        .price item.gap item.number.chars :: pieces item.field.text (item.after ++ rest) :=
      pieces_of_parts (item.parts separates)
    simp_all [PriceItem.text, PriceItem.pieces]
  · rw [PriceItem.pieces, if_neg own, item.text_append, pieces_of_noStart (noStart_field own _),
      pieces_of_noStart (noStart_value field _ item.value_chars), after]
    simp

theorem pieces_items (field : PriceField) (items : List PriceItem) {rest : List Char}
    (separates : Separates rest) :
    pieces field.text (items.flatMap PriceItem.text ++ rest) =
      items.flatMap (PriceItem.pieces field) ++ pieces field.text rest := by
  induction items with
  | nil => rfl
  | cons item items ih =>
      rw [List.flatMap_cons, List.append_assoc,
        pieces_item field item (separates_items items separates), ih, List.flatMap_cons,
        List.append_assoc]

theorem pieces_sheet (field : PriceField) (sheet : PriceSheet) {rest : List Char}
    (separates : Separates rest) :
    pieces field.text (sheet.text ++ rest) = sheet.lead.map .plain ++
      sheet.items.flatMap (PriceItem.pieces field) ++ pieces field.text rest := by
  rw [PriceSheet.text, List.append_assoc,
    pieces_append_plain field sheet.plain (separates_items sheet.items separates),
    pieces_items field sheet.items separates, List.append_assoc]

/-! ## Replacing the prices of a field -/

theorem isBlank_space : ∀ c ∈ [' '], Text.isBlank c = true :=
  List.forall_mem_singleton.mpr (by decide)

/-- The item with another price, if it is one of the field. -/
def PriceItem.set (field : PriceField) (value : PriceText) (item : PriceItem) : PriceItem :=
  if item.field = field then
    { item with
      gap := [' ']
      number := value
      blank := isBlank_space }
  else item

/-- The sheet with another price in a field. -/
def PriceSheet.set (field : PriceField) (value : PriceText) (sheet : PriceSheet) : PriceSheet :=
  { sheet with items := sheet.items.map (PriceItem.set field value) }

theorem flatMap_repriced_plain (field value text : List Char) :
    (text.map Piece.plain).flatMap (Piece.repriced field value) = text := by
  induction text with
  | nil => rfl
  | cons c text ih => simpa [Piece.repriced] using ih

/-- The text of the item with another value, if it is one of the field. -/
def PriceItem.repriced (field : PriceField) (value : List Char) (item : PriceItem) : List Char :=
  if item.field = field then field.text ++ ' ' :: value ++ item.after else item.text

theorem PriceItem.repriced_price (field : PriceField) (value : PriceText) (item : PriceItem) :
    item.repriced field value.chars = (item.set field value).text := by
  by_cases own : item.field = field
  · simp [repriced, set, text, own]
  · simp [repriced, set, own]

theorem flatMap_repriced_item (field : PriceField) (value : List Char) (item : PriceItem) :
    (item.pieces field).flatMap (Piece.repriced field.text value) = item.repriced field value := by
  by_cases own : item.field = field
  · simp [PriceItem.pieces, PriceItem.repriced, own, Piece.repriced, flatMap_repriced_plain]
  · simp [PriceItem.pieces, PriceItem.repriced, PriceItem.text, own, flatMap_repriced_plain,
      ← List.map_append]

theorem replacePrices_items (field : PriceField) (value : List Char) (sheet : PriceSheet)
    {rest : List Char} (separates : Separates rest) :
    replacePrices field.text value (sheet.text ++ rest) =
      sheet.lead ++ sheet.items.flatMap (PriceItem.repriced field value) ++
        replacePrices field.text value rest := by
  simp only [replacePrices, pieces_sheet field sheet separates, List.flatMap_append,
    flatMap_repriced_plain, List.flatMap_assoc, flatMap_repriced_item]

theorem replacePrices_sheet (field : PriceField) (value : PriceText) (sheet : PriceSheet)
    {rest : List Char} (separates : Separates rest) :
    replacePrices field.text value.chars (sheet.text ++ rest) =
      (sheet.set field value).text ++ replacePrices field.text value.chars rest := by
  rw [replacePrices_items field value.chars sheet separates]
  simp [← PriceItem.repriced_price, PriceSheet.text, PriceSheet.set, List.flatMap_map]

/-! ## Inserting the price of cached input -/

/-- The start of a line in the block. -/
def newLine : List Char := "\n        ".toList

theorem isPlain_comma_newLine : IsPlain (',' :: newLine) := by
  intro field back ends
  have notInitial : (',' :: newLine).all (fun c => field.text.head? ≠ some c) = true := by
    cases field <;> decide
  cases back with
  | nil => exact not_startsPrice_nil _
  | cons c rest =>
      have := List.all_eq_true.mp notInitial c (ends.subset List.mem_cons_self)
      exact not_startsPrice_cons (by simpa using this)

/-- A price of input that a comma follows. -/
def PriceItem.Invites (item : PriceItem) : Prop :=
  item.field = .input ∧ item.after.head? = some ','

instance (item : PriceItem) : Decidable item.Invites := inferInstanceAs (Decidable (_ ∧ _))

/-- The item, and the price of cached input after its comma if it invites one. -/
def PriceItem.withCached (value : PriceText) (item : PriceItem) : List PriceItem :=
  if item.Invites then
    [{ item with
        after := ',' :: newLine
        stops := by
          rintro c ⟨⟩
          decide
        plain := isPlain_comma_newLine },
      { item with
        field := .cached
        gap := [' ']
        number := value
        blank := isBlank_space }]
  else [item]

def PriceSheet.withCached (value : PriceText) (sheet : PriceSheet) : PriceSheet :=
  { sheet with items := sheet.items.flatMap (PriceItem.withCached value) }

/-- What is written after the comma. -/
def cachedLine (value : List Char) : List Char :=
  newLine ++ PriceField.cached.text ++ ' ' :: value ++ [',']

/-- The text after a price of input, with what is written if it begins with a comma. -/
def withCachedLine (value : List Char) : List Char → List Char
  | ',' :: after => ',' :: cachedLine value ++ after
  | after => after

/-- The text of the item with what is written after it. -/
def PriceItem.appended (value : List Char) (item : PriceItem) : List Char :=
  if item.field = .input then
    item.field.text ++ item.gap ++ item.number.chars ++ withCachedLine value item.after
  else item.text

theorem withCachedLine_of_plain {value after : List Char} (plain : after.head? ≠ some ',') :
    withCachedLine value after = after := by
  cases after with
  | nil => rfl
  | cons c after =>
      rw [withCachedLine]
      rintro _ ⟨⟩
      exact plain rfl

theorem PriceItem.appended_price (value : PriceText) (item : PriceItem) :
    item.appended value.chars = (item.withCached value).flatMap PriceItem.text := by
  by_cases own : item.field = .input
  · by_cases comma : item.after.head? = some ','
    · obtain ⟨more, after⟩ := List.head?_eq_some_iff.mp comma
      simp [appended, withCached, Invites, own, after, withCachedLine, cachedLine, text]
    · simp [appended, withCached, Invites, own, comma, withCachedLine_of_plain comma, text]
  · simp [appended, withCached, Invites, own]

section Appending

variable (field addition : List Char)

theorem appendAfterPrices_plain (text : List Char) (rest : List Piece) :
    appendAfterPrices field addition (text.map .plain ++ rest) =
      text ++ appendAfterPrices field addition rest := by
  induction text with
  | nil => rfl
  | cons c text ih => simp [appendAfterPrices, Piece.text, ih]

theorem appendAfterPrices_comma (gap number : List Char) (rest : List Piece) :
    appendAfterPrices field addition (.price gap number :: .plain ',' :: rest) =
      field ++ gap ++ number ++ ',' :: addition ++ appendAfterPrices field addition rest := by
  simp [appendAfterPrices]

theorem appendAfterPrices_other {gap number : List Char} {rest : List Piece}
    (noComma : rest.head? ≠ some (.plain ',')) :
    appendAfterPrices field addition (.price gap number :: rest) =
      field ++ gap ++ number ++ appendAfterPrices field addition rest := by
  cases rest with
  | nil => simp [appendAfterPrices, Piece.text]
  | cons piece rest =>
      rw [appendAfterPrices]
      · rfl
      · rintro _ _ _ ⟨⟩ ⟨⟩
        exact noComma rfl

end Appending

theorem head?_pieces {field text : List Char} {c : Char}
    (first : (pieces field text).head? = some (.plain c)) : text.head? = some c := by
  cases text with
  | nil => simp [pieces] at first
  | cons d text =>
      by_cases starts : StartsPrice field (d :: text)
      · obtain ⟨gap, number, rest, same, parts⟩ := starts.parts
        rw [same, pieces_of_parts parts] at first
        simp at first
      · rw [pieces_of_plain starts] at first
        simpa using first

theorem appendAfterPrices_item (value : List Char) (item : PriceItem) {rest : List Char}
    (separates : Separates rest) :
    appendAfterPrices PriceField.input.text (cachedLine value)
        (item.pieces .input ++ pieces PriceField.input.text rest) =
      item.appended value ++
        appendAfterPrices PriceField.input.text (cachedLine value)
          (pieces PriceField.input.text rest) := by
  by_cases own : item.field = .input
  · by_cases comma : item.after.head? = some ','
    · obtain ⟨more, after⟩ := List.head?_eq_some_iff.mp comma
      rw [PriceItem.pieces, if_pos own, after, List.map_cons, List.singleton_append,
        List.cons_append, List.cons_append, appendAfterPrices_comma, appendAfterPrices_plain]
      simp [PriceItem.appended, own, after, withCachedLine]
    · have noComma : (item.after.map Piece.plain ++ pieces PriceField.input.text rest).head? ≠
          some (.plain ',') := by
        intro first
        cases after : item.after with
        | nil =>
            rw [after] at first
            exact separates.notComma _ (head?_pieces first) rfl
        | cons c more =>
            rw [after] at first
            exact comma (by simpa [after] using first)
      rw [PriceItem.pieces, if_pos own, List.append_assoc, List.singleton_append,
        appendAfterPrices_other _ _ noComma, appendAfterPrices_plain]
      simp [PriceItem.appended, own, withCachedLine_of_plain comma]
  · simp only [PriceItem.pieces, own, if_false, ← List.map_append, appendAfterPrices_plain]
    simp [PriceItem.appended, PriceItem.text, own]

theorem appendAfterPrices_items (value : List Char) (items : List PriceItem) {rest : List Char}
    (separates : Separates rest) :
    appendAfterPrices PriceField.input.text (cachedLine value)
        (items.flatMap (PriceItem.pieces .input) ++ pieces PriceField.input.text rest) =
      items.flatMap (PriceItem.appended value) ++
        appendAfterPrices PriceField.input.text (cachedLine value)
          (pieces PriceField.input.text rest) := by
  induction items with
  | nil => rfl
  | cons item items ih =>
      rw [List.flatMap_cons, List.append_assoc, ← pieces_items .input items separates,
        appendAfterPrices_item value item (separates_items items separates),
        pieces_items .input items separates, ih]
      simp

theorem appendAfterPrices_text (value : List Char) (sheet : PriceSheet) {rest : List Char}
    (separates : Separates rest) :
    appendAfterPrices PriceField.input.text (cachedLine value)
        (pieces PriceField.input.text (sheet.text ++ rest)) =
      sheet.lead ++ sheet.items.flatMap (PriceItem.appended value) ++
        appendAfterPrices PriceField.input.text (cachedLine value)
          (pieces PriceField.input.text rest) := by
  rw [pieces_sheet .input sheet separates, List.append_assoc, appendAfterPrices_plain,
    appendAfterPrices_items value _ separates, List.append_assoc]

theorem appendAfterPrices_sheet (value : PriceText) (sheet : PriceSheet) {rest : List Char}
    (separates : Separates rest) :
    appendAfterPrices PriceField.input.text (cachedLine value.chars)
        (pieces PriceField.input.text (sheet.text ++ rest)) =
      (sheet.withCached value).text ++
        appendAfterPrices PriceField.input.text (cachedLine value.chars)
          (pieces PriceField.input.text rest) := by
  rw [appendAfterPrices_text value.chars sheet separates]
  simp [← PriceItem.appended_price, PriceSheet.text, PriceSheet.withCached, List.flatMap_assoc]

/-! ## Mentioning a field -/

/-- The field name occurs in the text, with a price or without. -/
def PriceSheet.Mentions (sheet : PriceSheet) (field : PriceField) : Prop :=
  Text.contains field.text sheet.lead = true ∨
    ∃ item ∈ sheet.items, item.field = field ∨ Text.contains field.text item.after = true

instance (sheet : PriceSheet) (field : PriceField) : Decidable (sheet.Mentions field) :=
  inferInstanceAs (Decidable (_ ∨ _))

theorem contains_field_nil (field : PriceField) : Text.contains field.text [] = false := by
  obtain ⟨c, name, same, -⟩ := field.exists_cons
  exact Text.contains_nil (by simp [same])

/-- Whether a field name starts in a text is decided before a separating text begins. -/
theorem Separates.field_start {field : PriceField} {text rest : List Char}
    (separates : Separates rest) (some : text ≠ []) :
    (∃ more, text ++ rest = field.text ++ more) ↔ ∃ more, text = field.text ++ more := by
  constructor
  · rintro ⟨more, same⟩
    obtain ⟨tail, before, -⟩ := separates.field_before some same
    exact ⟨tail, before⟩
  · rintro ⟨more, same⟩
    exact ⟨more ++ rest, by rw [same, List.append_assoc]⟩

theorem contains_append_separated (field : PriceField) (text : List Char) {rest : List Char}
    (separates : Separates rest) :
    Text.contains field.text (text ++ rest) = true ↔
      Text.contains field.text text = true ∨ Text.contains field.text rest = true := by
  induction text with
  | nil => simp [contains_field_nil]
  | cons c text ih =>
      have start : (∃ more, c :: text ++ rest = field.text ++ more) ↔
          ∃ more, c :: text = field.text ++ more :=
        separates.field_start (List.cons_ne_nil _ _)
      rw [List.cons_append] at start ⊢
      rw [Text.contains_cons, Text.contains_cons, start, ih, or_assoc]

theorem contains_item (field : PriceField) (item : PriceItem) {rest : List Char}
    (separates : Separates rest) :
    Text.contains field.text (item.text ++ rest) = true ↔
      (item.field = field ∨ Text.contains field.text item.after = true) ∨
        Text.contains field.text rest = true := by
  rw [item.text_append]
  by_cases own : item.field = field
  · refine iff_of_true ?_ (.inl (.inl own))
    obtain ⟨c, name, same, -⟩ := field.exists_cons
    rw [own, same, List.cons_append, Text.contains_cons]
    exact .inl ⟨_, rfl⟩
  · rw [Text.contains_append (noStart_field own _),
      Text.contains_append (noStart_value field _ item.value_chars),
      contains_append_separated field _ separates, or_iff_right own]

theorem contains_items (field : PriceField) (items : List PriceItem) {rest : List Char}
    (separates : Separates rest) :
    Text.contains field.text (items.flatMap PriceItem.text ++ rest) = true ↔
      (∃ item ∈ items, item.field = field ∨ Text.contains field.text item.after = true) ∨
        Text.contains field.text rest = true := by
  induction items with
  | nil => simp
  | cons item items ih =>
      rw [List.flatMap_cons, List.append_assoc,
        contains_item field item (separates_items items separates), ih, List.exists_mem_cons_iff]
      simp only [or_assoc]

theorem contains_sheet (field : PriceField) (sheet : PriceSheet) {rest : List Char}
    (separates : Separates rest) :
    Text.contains field.text (sheet.text ++ rest) = true ↔
      sheet.Mentions field ∨ Text.contains field.text rest = true := by
  rw [PriceSheet.text, List.append_assoc,
    contains_append_separated field _ (separates_items sheet.items separates),
    contains_items field _ separates, PriceSheet.Mentions, or_assoc]

end InferenceBench.Pricing

import InferenceBench.Proofs.Numeral.Fixed
import InferenceBench.Proofs.Pricing.Repricing

/-! # Passes over a block

A pass looks for the prices of one field from left to right. What it does to them says nothing
about signs: a price may be replaced by a text that is not a price, such as a negative number,
which no later pass finds. A second run of the passes changes nothing all the same. Whatever
prices of a field are found after its pass are as the pass has written them, and the passes for
the other fields neither add nor remove prices of this field.
-/

namespace InferenceBench.Pricing

open Numeral (FixedText)

/-! ## Cutting a text at the prices of a field -/

/-- No price of the field starts in the text. -/
def Free (field : PriceField) (text : List Char) : Prop :=
  ∀ back, back <:+ text → ¬ StartsPrice field.text back

theorem free_or_cut (field : PriceField) (text : List Char) : Free field text ∨
    ∃ lead gap number rest, text = lead ++ (field.text ++ gap ++ number ++ rest) ∧
      Free field lead ∧ PriceParts gap number rest := by
  induction text with
  | nil =>
      refine .inl fun back ends => ?_
      rw [List.suffix_nil.mp ends]
      exact not_startsPrice_nil _
  | cons c text ih =>
      by_cases starts : StartsPrice field.text (c :: text)
      · obtain ⟨gap, number, rest, same, parts⟩ := starts.parts
        refine .inr ⟨[], gap, number, rest, same, fun back ends => ?_, parts⟩
        rw [List.suffix_nil.mp ends]
        exact not_startsPrice_nil _
      · cases ih with
        | inl free =>
            refine .inl fun back ends => ?_
            cases List.suffix_cons_iff.mp ends with
            | inl whole => exact whole ▸ starts
            | inr later => exact free back later
        | inr cut =>
            obtain ⟨lead, gap, number, rest, rfl, free, parts⟩ := cut
            refine .inr ⟨c :: lead, gap, number, rest, rfl, fun back ends => ?_, parts⟩
            cases List.suffix_cons_iff.mp ends with
            | inl whole =>
                subst whole
                exact fun here => starts (startsPrice_append _ here)
            | inr later => exact free back later

theorem price_induction (field : PriceField) {motive : List Char → Prop}
    (free : ∀ text, Free field text → motive text)
    (cut : ∀ lead gap number rest, Free field lead → PriceParts gap number rest → motive rest →
      motive (lead ++ (field.text ++ gap ++ number ++ rest)))
    (text : List Char) : motive text := by
  induction length : text.length using Nat.strongRecOn generalizing text with
  | _ n ih =>
      subst length
      cases free_or_cut field text with
      | inl here => exact free text here
      | inr found =>
          obtain ⟨lead, gap, number, rest, rfl, before, parts⟩ := found
          have shorter : rest.length < (lead ++ (field.text ++ gap ++ number ++ rest)).length := by
            have := List.length_pos_iff.mpr parts.nonempty
            simp
            omega
          exact cut lead gap number rest before parts (ih _ shorter rest rfl)

theorem separates_price (field : PriceField) (gap number rest : List Char) :
    Separates (field.text ++ gap ++ number ++ rest) := by
  simpa using separates_field field (gap ++ (number ++ rest))

theorem separates_written (field : PriceField) (value rest : List Char) :
    Separates (field.text ++ ' ' :: value ++ rest) := by
  simpa using separates_field field (' ' :: value ++ rest)

section Cut

variable {field : PriceField} {lead gap number rest text : List Char}

theorem pieces_free (free : Free field text) : pieces field.text text = text.map .plain := by
  have plain : ∀ back, back <:+ text → back ≠ [] → ¬ StartsPrice field.text (back ++ []) :=
    fun back ends _ => (List.append_nil back).symm ▸ free back ends
  simpa [pieces] using pieces_append plain

theorem pieces_cut (free : Free field lead) (parts : PriceParts gap number rest) :
    pieces field.text (lead ++ (field.text ++ gap ++ number ++ rest)) =
      lead.map .plain ++ .price gap number :: pieces field.text rest := by
  have separates := separates_price field gap number rest
  rw [pieces_append fun back ends nonempty => separates.not_startsPrice nonempty (free back ends),
    pieces_of_parts parts]

theorem pieces_append_separated (field : PriceField) (text : List Char) {rest : List Char}
    (separates : Separates rest) :
    pieces field.text (text ++ rest) = pieces field.text text ++ pieces field.text rest := by
  induction text using price_induction field with
  | free text free =>
      rw [pieces_free free]
      exact pieces_append fun back ends nonempty =>
        separates.not_startsPrice nonempty (free back ends)
  | cut lead gap number more free parts ih =>
      have longer : PriceParts gap number (more ++ rest) := by
        refine { parts with stops := ?_ }
        cases more with
        | nil => exact separates.notNumber
        | cons c more => exact parts.stops
      have whole := pieces_cut free longer
      rw [ih] at whole
      rw [pieces_cut free parts]
      simpa using whole

end Cut

/-! ## The prices of a field -/

/-- The prices of a field, each with the white space before it. -/
def pricesIn (field : PriceField) (text : List Char) : List (List Char × List Char) :=
  (pieces field.text text).filterMap fun piece =>
    match piece with
    | .plain _ => none
    | .price gap number => some (gap, number)

section PricesIn

variable {field : PriceField} {gap number rest text : List Char}

theorem pricesIn_free (free : Free field text) : pricesIn field text = [] := by
  simp [pricesIn, pieces_free free]

theorem pricesIn_append (field : PriceField) (text : List Char) (separates : Separates rest) :
    pricesIn field (text ++ rest) = pricesIn field text ++ pricesIn field rest := by
  simp only [pricesIn, pieces_append_separated field text separates, List.filterMap_append]

theorem pricesIn_of_parts (parts : PriceParts gap number rest) :
    pricesIn field (field.text ++ gap ++ number ++ rest) =
      (gap, number) :: pricesIn field rest := by
  rw [pricesIn, pieces_of_parts parts]
  rfl

theorem pricesIn_cut {lead : List Char} (free : Free field lead)
    (parts : PriceParts gap number rest) :
    pricesIn field (lead ++ (field.text ++ gap ++ number ++ rest)) =
      (gap, number) :: pricesIn field rest := by
  rw [pricesIn, pieces_cut free parts, List.filterMap_append, ← pieces_free free]
  exact congrArg (· ++ _) (pricesIn_free free)

theorem pricesIn_of_plain
    (plain : ∀ back, back <:+ text → back ≠ [] → ¬ StartsPrice field.text (back ++ rest)) :
    pricesIn field (text ++ rest) = pricesIn field rest := by
  rw [pricesIn, pieces_append plain]
  simp [pricesIn, List.filterMap_append]

theorem pricesIn_of_noStart (noStart : NoStart field text rest) :
    pricesIn field (text ++ rest) = pricesIn field rest := by
  refine pricesIn_of_plain fun back ends nonempty => ?_
  rintro ⟨gap, digit, more, same, -, -⟩
  rw [List.append_assoc] at same
  exact noStart back ends nonempty _ same

theorem pricesIn_of_not_contains (absent : ¬ Text.contains field.text text = true) :
    pricesIn field text = [] := by
  induction text using price_induction field with
  | free text free => exact pricesIn_free free
  | cut lead gap number rest free parts ih =>
      refine absurd ?_ absent
      rw [Text.contains_iff_infix]
      exact ⟨lead, gap ++ number ++ rest, by simp⟩

end PricesIn

/-! ## The texts that passes write -/

section Written

variable {field other : PriceField} {value rest : List Char}

/-- A number with fixed places is read as a price, or it is not because of how it starts. -/
theorem price_or_hidden (written : FixedText value) :
    (value ≠ [] ∧ ∀ c ∈ value, isPriceChar c = true) ∨
      ∃ c more, value = c :: more ∧ Text.isBlank c = false ∧ isPriceChar c = false := by
  cases written with
  | digits nonempty chars =>
      exact .inl ⟨nonempty, fun c member => by simpa [isPriceChar] using chars c member⟩
  | negative => exact .inr ⟨'-', _, rfl, by decide⟩
  | name named =>
      simp only [List.mem_cons, List.not_mem_nil, or_false] at named
      obtain rfl | rfl | rfl := named <;> exact .inr ⟨_, _, rfl, by decide⟩

theorem noStart_written (field : PriceField) (rest : List Char) (written : FixedText value) :
    NoStart field value rest := by
  cases written with
  | digits _ chars =>
      exact noStart_value field rest fun c member =>
        .inr (by simpa [isPriceChar] using chars c member)
  | @negative number _ chars =>
      have digits : NoStart field number rest :=
        noStart_value field rest fun c member => .inr (by simpa [isPriceChar] using chars c member)
      intro back ends nonempty
      cases List.suffix_cons_iff.mp ends with
      | inl whole =>
          subst whole
          have clash : Clash ['-'] field.text := by cases field <;> decide
          intro more
          exact clash.not_prefix
      | inr later => exact digits back later nonempty
  | name named =>
      have clash : ∀ text ∈ ["NaN".toList, "inf".toList, "-inf".toList],
          ∀ back ∈ text.tails, back ≠ [] → Clash back field.text := by
        cases field <;> decide
      intro back ends nonempty more
      have here := clash value named back ((List.mem_tails _ _).mpr ends) nonempty
      exact here.not_prefix

theorem noStart_append {field : PriceField} {text more rest : List Char}
    (first : NoStart field text (more ++ rest)) (second : NoStart field more rest) :
    NoStart field (text ++ more) rest := by
  intro back ends nonempty tail same
  obtain later | ⟨middle, some, within, rfl⟩ := Text.suffix_append ends
  · exact second back later nonempty tail same
  · exact first middle within some tail (by simpa using same)

theorem noStart_spaced (field : PriceField) (rest : List Char) (written : FixedText value) :
    NoStart field (' ' :: value) rest := by
  have space : NoStart field [' '] (value ++ rest) :=
    noStart_value field _ fun c member => .inl (isBlank_space c member)
  exact noStart_append space (noStart_written field rest written)

theorem pricesIn_written_other (distinct : other ≠ field) (written : FixedText value) :
    pricesIn field (other.text ++ ' ' :: value ++ rest) = pricesIn field rest :=
  pricesIn_of_noStart
    (noStart_append (noStart_field distinct _) (noStart_spaced field rest written))

theorem pricesIn_of_parts_other {gap number : List Char} (distinct : other ≠ field)
    (parts : PriceParts gap number rest) :
    pricesIn field (other.text ++ gap ++ number ++ rest) = pricesIn field rest := by
  have value : NoStart field (gap ++ number) rest := noStart_value field rest fun c member =>
    (List.mem_append.mp member).imp (parts.blank c) (parts.digits c)
  rw [List.append_assoc other.text gap number]
  exact pricesIn_of_noStart (noStart_append (noStart_field distinct _) value)

/-- A text that does not start like a price hides the field name before it. -/
theorem pricesIn_hidden {c : Char} {more : List Char} (written : FixedText (c :: more))
    (notBlank : Text.isBlank c = false) (notPrice : isPriceChar c = false) :
    pricesIn field (field.text ++ ' ' :: c :: more ++ rest) = pricesIn field rest := by
  refine pricesIn_of_plain ?_
  rintro back ends nonempty ⟨gap, digit, tail, same, blank, price⟩
  rw [List.append_assoc] at same
  obtain later | ⟨middle, some, name, rfl⟩ := Text.suffix_append ends
  · exact noStart_spaced field rest written back later nonempty _ same
  · rw [List.append_assoc] at same
    obtain ⟨whole, -⟩ := PriceField.eq_of_starts name some same.symm
    rw [whole] at same
    have after := List.append_cancel_left same
    -- The number would have to start at the space or after it.
    match gap with
    | [] =>
        obtain ⟨rfl, -⟩ := List.cons.inj after
        exact absurd price (by decide)
    | [_] =>
        obtain ⟨rfl, -⟩ := List.cons.inj (List.cons.inj after).2
        simp [price] at notPrice
    | _ :: e :: _ =>
        obtain ⟨rfl, -⟩ := List.cons.inj (List.cons.inj after).2
        simp [blank c (by simp)] at notBlank

theorem mem_pricesIn_written {price : List Char × List Char} (written : FixedText value)
    (stops : ∀ c ∈ rest.head?, isPriceChar c = false)
    (found : price ∈ pricesIn field (field.text ++ ' ' :: value ++ rest)) :
    price = ([' '], value) ∨ price ∈ pricesIn field rest := by
  obtain ⟨nonempty, digits⟩ | ⟨c, more, rfl, notBlank, notPrice⟩ := price_or_hidden written
  · have parts : PriceParts [' '] value rest := ⟨isBlank_space, digits, nonempty, stops⟩
    have same : pricesIn field (field.text ++ [' '] ++ value ++ rest) =
        ([' '], value) :: pricesIn field rest := pricesIn_of_parts parts
    rw [List.append_assoc field.text, List.singleton_append] at same
    exact List.mem_cons.mp (same ▸ found)
  · exact .inr (pricesIn_hidden written notBlank notPrice ▸ found)

end Written

/-! ## Replacing the prices of a field -/

section Replacing

variable {field other : PriceField} {value lead gap number rest text : List Char}

theorem replacePrices_free (free : Free field text) :
    replacePrices field.text value text = text := by
  rw [replacePrices, pieces_free free, flatMap_repriced_plain]

theorem replacePrices_cut (free : Free field lead) (parts : PriceParts gap number rest) :
    replacePrices field.text value (lead ++ (field.text ++ gap ++ number ++ rest)) =
      lead ++ (field.text ++ ' ' :: value ++ replacePrices field.text value rest) := by
  rw [replacePrices, pieces_cut free parts, List.flatMap_append, flatMap_repriced_plain]
  rfl

theorem head?_replacePrices (field : PriceField) (value text : List Char) :
    (replacePrices field.text value text).head? = text.head? := by
  induction text using price_induction field with
  | free text free => rw [replacePrices_free free]
  | cut lead gap number rest free parts ih =>
      obtain ⟨c, name, same, -⟩ := field.exists_cons
      rw [replacePrices_cut free parts]
      simp [List.head?_append, same]

theorem mem_pricesIn_replacePrices {price : List Char × List Char} (written : FixedText value)
    (found : price ∈ pricesIn field (replacePrices field.text value text)) :
    price = ([' '], value) := by
  induction text using price_induction field with
  | free text free => simp [replacePrices_free free, pricesIn_free free] at found
  | cut lead gap number rest free parts ih =>
      rw [replacePrices_cut free parts, pricesIn_append field lead (separates_written ..),
        pricesIn_free free, List.nil_append] at found
      have stops : ∀ c ∈ (replacePrices field.text value rest).head?, isPriceChar c = false := by
        rw [head?_replacePrices]
        exact parts.stops
      cases mem_pricesIn_written written stops found with
      | inl here => exact here
      | inr later => exact ih later

theorem pricesIn_replacePrices_other (distinct : other ≠ field) (written : FixedText value)
    (text : List Char) :
    pricesIn field (replacePrices other.text value text) = pricesIn field text := by
  induction text using price_induction other with
  | free text free => rw [replacePrices_free free]
  | cut lead gap number rest free parts ih =>
      rw [replacePrices_cut free parts, pricesIn_append field lead (separates_price ..),
        pricesIn_append field lead (separates_written ..), pricesIn_written_other distinct written,
        pricesIn_of_parts_other distinct parts, ih]

/-- All prices of the field are written in the same way. -/
def Settled (field : PriceField) (value text : List Char) : Prop :=
  ∀ price ∈ pricesIn field text, price = ([' '], value)

theorem Settled.replacePrices_eq (settled : Settled field value text) :
    replacePrices field.text value text = text := by
  induction text using price_induction field with
  | free text free => exact replacePrices_free free
  | cut lead gap number rest free parts ih =>
      rw [Settled, pricesIn_cut free parts] at settled
      obtain ⟨here, later⟩ := List.forall_mem_cons.mp settled
      obtain ⟨rfl, rfl⟩ := Prod.mk.inj here
      rw [replacePrices_cut free parts, ih later]
      simp

theorem settled_replacePrices (written : FixedText value) (text : List Char) :
    Settled field value (replacePrices field.text value text) :=
  fun _ => mem_pricesIn_replacePrices written

theorem contains_replacePrices (field : PriceField) (value : List Char)
    (present : Text.contains field.text text = true) :
    Text.contains field.text (replacePrices field.text value text) = true := by
  induction text using price_induction field with
  | free text free => rwa [replacePrices_free free]
  | cut lead gap number rest free parts ih =>
      rw [replacePrices_cut free parts, Text.contains_iff_infix]
      exact ⟨lead, ' ' :: value ++ replacePrices field.text value rest, by simp⟩

end Replacing

/-! ## Inserting the price of cached input -/

/-- The text with a price of cached input after each price of input that a comma follows. -/
def insertCached (value text : List Char) : List Char :=
  appendAfterPrices PriceField.input.text (cachedLine value) (pieces PriceField.input.text text)

/-- What is written between a price of input and the text after it. With the comma in front and
not at the end, the text after the price stays as it is. -/
def insertion (value rest : List Char) : List Char :=
  if rest.head? = some ',' then ',' :: newLine ++ (PriceField.cached.text ++ ' ' :: value) else []

section Inserting

variable {field : PriceField} {value lead gap number rest text : List Char}

theorem insertCached_free (free : Free .input text) : insertCached value text = text := by
  have := appendAfterPrices_plain PriceField.input.text (cachedLine value) text []
  rw [insertCached, pieces_free free]
  simpa [appendAfterPrices] using this

theorem insertCached_comma (value more : List Char) :
    insertCached value (',' :: more) = ',' :: insertCached value more := by
  have plain : ¬ StartsPrice PriceField.input.text (',' :: more) :=
    not_startsPrice_cons (by decide)
  rw [insertCached, pieces_of_plain plain]
  exact appendAfterPrices_plain _ _ [','] _

theorem insertCached_cut (free : Free .input lead) (parts : PriceParts gap number rest) :
    insertCached value (lead ++ (PriceField.input.text ++ gap ++ number ++ rest)) =
      lead ++ (PriceField.input.text ++ gap ++ number ++
        (insertion value rest ++ insertCached value rest)) := by
  rw [insertCached, pieces_cut free parts, appendAfterPrices_plain]
  by_cases comma : rest.head? = some ','
  · obtain ⟨more, rfl⟩ := List.head?_eq_some_iff.mp comma
    have plain : ¬ StartsPrice PriceField.input.text (',' :: more) :=
      not_startsPrice_cons (by decide)
    rw [insertCached_comma, pieces_of_plain plain, appendAfterPrices_comma]
    simp [insertion, cachedLine, insertCached]
  · rw [appendAfterPrices_other _ _ fun first => comma (head?_pieces first)]
    simp [insertion, comma, insertCached]

theorem head?_insertCached (value text : List Char) :
    (insertCached value text).head? = text.head? := by
  induction text using price_induction .input with
  | free text free => rw [insertCached_free free]
  | cut lead gap number rest free parts ih =>
      obtain ⟨c, name, same, -⟩ := PriceField.input.exists_cons
      rw [insertCached_cut free parts]
      simp [List.head?_append, same]

theorem noStart_comma_newLine (field : PriceField) (rest : List Char) :
    NoStart field (',' :: newLine) rest := by
  have clash : ∀ back ∈ (',' :: newLine).tails, back ≠ [] → Clash back field.text := by
    cases field <;> decide
  intro back ends nonempty more
  have here := clash back ((List.mem_tails _ _).mpr ends) nonempty
  exact here.not_prefix

theorem pricesIn_insertion (notCached : field ≠ .cached) (written : FixedText value)
    (rest more : List Char) :
    pricesIn field (insertion value rest ++ more) = pricesIn field more := by
  by_cases comma : rest.head? = some ','
  · have noStart : NoStart field
        (',' :: newLine ++ (PriceField.cached.text ++ ' ' :: value)) more :=
      noStart_append (noStart_comma_newLine field _)
        (noStart_append (noStart_field notCached.symm _) (noStart_spaced field more written))
    rw [insertion, if_pos comma, pricesIn_of_noStart noStart]
  · rw [insertion, if_neg comma, List.nil_append]

theorem PriceParts.before_insertion (parts : PriceParts gap number rest) (value : List Char) :
    PriceParts gap number (insertion value rest ++ insertCached value rest) := by
  refine { parts with stops := ?_ }
  by_cases comma : rest.head? = some ','
  · simp only [insertion, if_pos comma]
    rintro c ⟨⟩
    decide
  · rw [insertion, if_neg comma, List.nil_append, head?_insertCached]
    exact parts.stops

theorem pricesIn_insertCached (notCached : field ≠ .cached) (written : FixedText value)
    (text : List Char) : pricesIn field (insertCached value text) = pricesIn field text := by
  induction text using price_induction .input with
  | free text free => rw [insertCached_free free]
  | cut lead gap number rest free parts ih =>
      rw [insertCached_cut free parts, pricesIn_append field lead (separates_price ..),
        pricesIn_append field lead (separates_price ..)]
      by_cases own : field = .input
      · subst own
        rw [pricesIn_of_parts parts, pricesIn_of_parts (parts.before_insertion value),
          pricesIn_insertion notCached written, ih]
      · rw [pricesIn_of_parts_other (Ne.symm own) parts,
          pricesIn_of_parts_other (Ne.symm own) (parts.before_insertion value),
          pricesIn_insertion notCached written, ih]

theorem mem_pricesIn_insertion {more : List Char} {price : List Char × List Char}
    (written : FixedText value) (stops : ∀ c ∈ more.head?, isPriceChar c = false)
    (found : price ∈ pricesIn .cached (insertion value rest ++ more)) :
    price = ([' '], value) ∨ price ∈ pricesIn .cached more := by
  by_cases comma : rest.head? = some ','
  · rw [insertion, if_pos comma, List.append_assoc,
      pricesIn_of_noStart (noStart_comma_newLine .cached _)] at found
    exact mem_pricesIn_written written stops found
  · rw [insertion, if_neg comma, List.nil_append] at found
    exact .inr found

theorem mem_pricesIn_insertCached {price : List Char × List Char} (written : FixedText value)
    (found : price ∈ pricesIn .cached (insertCached value text)) :
    price = ([' '], value) ∨ price ∈ pricesIn .cached text := by
  induction text using price_induction .input with
  | free text free =>
      rw [insertCached_free free] at found
      exact .inr found
  | cut lead gap number rest free parts ih =>
      have stops : ∀ c ∈ (insertCached value rest).head?, isPriceChar c = false := by
        rw [head?_insertCached]
        exact parts.stops
      rw [insertCached_cut free parts, pricesIn_append .cached lead (separates_price ..),
        pricesIn_of_parts_other (by decide) (parts.before_insertion value),
        List.mem_append] at found
      rw [pricesIn_append .cached lead (separates_price ..),
        pricesIn_of_parts_other (by decide) parts, List.mem_append]
      cases found with
      | inl before => exact .inr (.inl before)
      | inr after =>
          cases mem_pricesIn_insertion written stops after with
          | inl here => exact .inl here
          | inr later => exact (ih later).imp_right .inr

theorem insertCached_cases (value text : List Char) :
    Text.contains PriceField.cached.text (insertCached value text) = true ∨
      insertCached value text = text := by
  induction text using price_induction .input with
  | free text free => exact .inr (insertCached_free free)
  | cut lead gap number rest free parts ih =>
      rw [insertCached_cut free parts, Text.contains_iff_infix]
      by_cases comma : rest.head? = some ','
      · refine .inl ⟨lead ++ (PriceField.input.text ++ gap ++ number ++ ',' :: newLine),
          ' ' :: value ++ insertCached value rest, ?_⟩
        simp [insertion, comma]
      · rw [insertion, if_neg comma, List.nil_append]
        cases ih with
        | inl present =>
            refine .inl ((Text.contains_iff_infix.mp present).trans ?_)
            exact ((List.suffix_append _ _).trans (List.suffix_append _ _)).isInfix
        | inr same => exact .inr (by rw [same])

end Inserting

/-! ## The passes together -/

theorem setCachedPrice_eq_ite (value text : List Char) :
    setCachedPrice value text =
      if Text.contains PriceField.cached.text text = true then
        replacePrices PriceField.cached.text value text
      else insertCached value text :=
  setCachedPrice_eq value text

theorem Settled.setCachedPrice {field : PriceField} {value cached text : List Char}
    (settled : Settled field value text) (notCached : field ≠ .cached)
    (written : FixedText cached) : Settled field value (setCachedPrice cached text) := by
  rw [Settled, setCachedPrice_eq_ite]
  split
  · rwa [pricesIn_replacePrices_other notCached.symm written]
  · rwa [pricesIn_insertCached notCached written]

theorem setCachedPrice_setCachedPrice {value : List Char} (written : FixedText value)
    (text : List Char) :
    setCachedPrice value (setCachedPrice value text) = setCachedPrice value text := by
  by_cases present : Text.contains PriceField.cached.text text = true
  · have once : setCachedPrice value text = replacePrices PriceField.cached.text value text := by
      rw [setCachedPrice_eq_ite, if_pos present]
    rw [once, setCachedPrice_eq_ite, if_pos (contains_replacePrices .cached value present)]
    exact (settled_replacePrices written text).replacePrices_eq
  · have once : setCachedPrice value text = insertCached value text := by
      rw [setCachedPrice_eq_ite, if_neg present]
    rw [once, setCachedPrice_eq_ite]
    cases insertCached_cases value text with
    | inl inserted =>
        have settled : Settled .cached value (insertCached value text) := fun price found =>
          (mem_pricesIn_insertCached written found).resolve_right
            (by simp [pricesIn_of_not_contains present])
        rw [if_pos inserted]
        exact settled.replacePrices_eq
    | inr same => rw [same, if_neg present, same]

/-- Prices that have been written are written again without any change, whatever their signs and
even if they are not finite. -/
theorem applyTo_applyTo (prices : Prices) (text : List Char) :
    prices.applyTo (prices.applyTo text) = prices.applyTo text := by
  obtain ⟨input, output, cachedInput⟩ := prices
  have inputWritten := Numeral.fixedText_fixed 2 input
  have outputWritten := Numeral.fixedText_fixed 2 output
  generalize both : replacePrices PriceField.output.text (Numeral.fixed 2 output)
    (replacePrices PriceField.input.text (Numeral.fixed 2 input) text) = written
  have inputSettled : Settled .input (Numeral.fixed 2 input) written := by
    rw [← both, Settled, pricesIn_replacePrices_other (by decide) outputWritten]
    exact settled_replacePrices inputWritten text
  have outputSettled : Settled .output (Numeral.fixed 2 output) written :=
    both ▸ settled_replacePrices outputWritten _
  cases cachedInput with
  | none =>
      have once : Prices.applyTo ⟨input, output, none⟩ text = written := both
      rw [once]
      change replacePrices PriceField.output.text _ (replacePrices PriceField.input.text _ _) = _
      rw [inputSettled.replacePrices_eq, outputSettled.replacePrices_eq]
  | some cached =>
      have cachedWritten := Numeral.fixedText_fixed 4 cached
      have once : Prices.applyTo ⟨input, output, some cached⟩ text =
          setCachedPrice (Numeral.fixed 4 cached) written :=
        congrArg (setCachedPrice (Numeral.fixed 4 cached)) both
      rw [once]
      change setCachedPrice _
        (replacePrices PriceField.output.text _ (replacePrices PriceField.input.text _ _)) = _
      rw [(inputSettled.setCachedPrice (by decide) cachedWritten).replacePrices_eq,
        (outputSettled.setCachedPrice (by decide) cachedWritten).replacePrices_eq,
        setCachedPrice_setCachedPrice cachedWritten]

end InferenceBench.Pricing

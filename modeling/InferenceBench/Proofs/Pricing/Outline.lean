import InferenceBench.Proofs.Pricing.Passes

/-! # Texts that differ in prices only

Two texts of a page are compared that have different prices after the same field names. What is
replaced after a field name is a filler: it holds no mark, which is a quote, a brace or a
semicolon, and it does not run into what follows so that an opening could start in it and end in
the text after it. All the structure of a page hangs on its marks and on the openings before them,
so two such texts fall into the same parts at their marks, and parts without field names are equal.
-/

namespace InferenceBench.Pricing

open Numeral (FixedText)

/-- No price field is named in the text. -/
def Unpriced (text : List Char) : Prop :=
  ∀ field : PriceField, Text.contains field.text text = false

instance (text : List Char) : Decidable (Unpriced text) :=
  decidable_of_iff (∀ field ∈ [PriceField.input, .output, .cached],
    Text.contains field.text text = false)
    ⟨fun absent field => absent field (by cases field <;> simp), fun absent field _ => absent field⟩

theorem Unpriced.of_infix {part text : List Char} (absent : Unpriced text)
    (within : part <:+: text) : Unpriced part := by
  intro field
  by_contra named
  rw [Bool.not_eq_false, Text.contains_iff_infix] at named
  have := Text.contains_iff_infix.mpr (named.trans within)
  simp [absent field] at this

theorem not_unpriced_append (field : PriceField) (lead rest : List Char) :
    ¬ Unpriced (lead ++ (field.text ++ rest)) := by
  intro absent
  have named : Text.contains field.text (lead ++ (field.text ++ rest)) = true :=
    Text.contains_iff_infix.mpr ⟨lead, rest, by simp⟩
  simp [absent field] at named

/-- Field names have a letter that a text without it cannot hold. -/
theorem unpriced_of_notMem {text : List Char} (absent : 'P' ∉ text) : Unpriced text := by
  intro field
  by_contra named
  rw [Bool.not_eq_false, Text.contains_iff_infix] at named
  have letter : 'P' ∈ field.text := by cases field <;> decide
  exact absent (named.subset letter)

/-! ## Marks and openings -/

/-- The characters on which the structure of a page hangs. -/
def marks : List Char := ['"', '\x7B', '\x7D', ';']

/-- What says, right before a mark, that a name is declared or that the table of models opens. -/
inductive Opening : List Char → Prop
  | declaration {blanks} : (∀ c ∈ blanks, Text.isBlank c = true) →
      Opening ("backendName:".toList ++ blanks)
  | table : Opening "const MODELS = ".toList

theorem Opening.chars {opening : List Char} (opens : Opening opening) : ∀ c ∈ opening,
    isPriceChar c = false ∧ c ≠ 'f' ∧ c ≠ 'P' := by
  cases opens with
  | @declaration blanks blank =>
      have name : ∀ c ∈ "backendName:".toList, isPriceChar c = false ∧ c ≠ 'f' ∧ c ≠ 'P' := by
        simp [isPriceChar]
      intro c member
      cases List.mem_append.mp member with
      | inl here => exact name c here
      | inr after =>
          refine ⟨?_, ?_, ?_⟩
          · by_contra price
            have := isBlank_of_isPriceChar (by simpa using price)
            simp [blank c after] at this
          · rintro rfl
            exact absurd (blank _ after) (by decide)
          · rintro rfl
            exact absurd (blank _ after) (by decide)
  | table => simp [isPriceChar]

theorem Opening.unpriced {opening : List Char} (opens : Opening opening) : Unpriced opening :=
  unpriced_of_notMem fun letter => (opens.chars _ letter).2.2 rfl

theorem Opening.count_le {opening : List Char} (opens : Opening opening) :
    opening.count 'N' ≤ 1 := by
  cases opens with
  | @declaration blanks blank =>
      have none : blanks.count 'N' = 0 :=
        List.count_eq_zero.mpr fun member => absurd (blank _ member) (by decide)
      have one : "backendName:".toList.count 'N' = 1 := by decide
      rw [List.count_append, none, one]
  | table => decide

theorem Opening.head {opening rest : List Char} {c : Char} (opens : Opening opening)
    (starts : opening = c :: rest) : c = 'b' ∨ c = 'c' := by
  cases opens with
  | declaration _ => exact .inl (List.cons.inj starts).1.symm
  | table => exact .inr (List.cons.inj starts).1.symm

/-! ## Fillers -/

/-- An opening that ends in a text after this one has all of it there. -/
def Seals (text : List Char) : Prop :=
  ∀ opening, Opening opening → ∀ before after,
    opening <:+ before ++ text ++ after → opening <:+ after

/-- A text that may stand after a field name. -/
structure Filler (text : List Char) : Prop where
  unmarked : ∀ c ∈ text, c ∉ marks
  seals : Seals text

theorem seals_of_last {front : List Char} {last : Char}
    (strange : ∀ opening, Opening opening → last ∉ opening) : Seals (front ++ [last]) := by
  intro opening opens before after ends
  obtain here | ⟨middle, some, within, rfl⟩ := Text.suffix_append ends
  · exact here
  · have member : last ∈ middle := by
      rw [← List.append_assoc] at within
      obtain single | ⟨start, -, -, rfl⟩ := Text.suffix_append within
      · cases List.suffix_cons_iff.mp single with
        | inl whole => simp [whole]
        | inr empty => exact absurd (List.suffix_nil.mp empty) some
      · simp
    exact absurd (List.mem_append_left after member) (strange _ opens)

theorem seals_of_price {text : List Char} (nonempty : text ≠ [])
    (digits : ∀ c ∈ text, isPriceChar c = true) : Seals text := by
  rw [← List.dropLast_append_getLast nonempty]
  refine seals_of_last fun opening opens member => ?_
  have strange := (opens.chars _ member).1
  simp [digits _ (List.getLast_mem nonempty)] at strange

/-- The name of a number that is none ends in a letter that openings have, but not after this
other letter. -/
theorem seals_notANumber : Seals "NaN".toList := by
  intro opening opens before after ends
  obtain here | ⟨middle, some, within, rfl⟩ := Text.suffix_append ends
  · exact here
  · exfalso
    obtain within | ⟨start, -, -, rfl⟩ := Text.suffix_append within
    · obtain ⟨c, rest, rfl⟩ := List.exists_cons_of_ne_nil some
      have first := opens.head rfl
      have inside : c ∈ "NaN".toList := within.subset List.mem_cons_self
      obtain rfl | rfl := first <;> exact absurd inside (by decide)
    · have twice : "NaN".toList.count 'N' = 2 := by decide
      have := opens.count_le
      simp only [List.count_append, twice] at this
      omega

theorem Seals.append {text : List Char} (seals : Seals text) (front : List Char) :
    Seals (front ++ text) := by
  intro opening opens before after ends
  refine seals opening opens (before ++ front) after ?_
  simpa using ends

theorem seals_written {value : List Char} (written : FixedText value) : Seals value := by
  have letter : ∀ opening, Opening opening → 'f' ∉ opening := fun opening opens member =>
    (opens.chars _ member).2.1 rfl
  cases written with
  | digits nonempty chars =>
      exact seals_of_price nonempty fun c member => by simpa [isPriceChar] using chars c member
  | negative nonempty chars =>
      refine Seals.append ?_ ['-']
      exact seals_of_price nonempty fun c member => by simpa [isPriceChar] using chars c member
  | name named =>
      simp only [List.mem_cons, List.not_mem_nil, or_false] at named
      have infinite : ∀ front, Seals (front ++ ['f']) := fun front => seals_of_last letter
      obtain rfl | rfl | rfl := named
      · exact seals_notANumber
      · exact infinite "in".toList
      · exact infinite "-in".toList

theorem unmarked_value {text : List Char}
    (values : ∀ c ∈ text, Text.isBlank c = true ∨ isPriceChar c = true) :
    ∀ c ∈ text, c ∉ marks := by
  intro c member marked
  have strange : ∀ c ∈ marks, Text.isBlank c = false ∧ isPriceChar c = false := by
    simp [marks, Text.isBlank, isPriceChar]
  obtain ⟨notBlank, notPrice⟩ := strange c marked
  simpa [notBlank, notPrice] using values c member

theorem unmarked_written {value : List Char} (written : FixedText value) :
    ∀ c ∈ value, c ∉ marks := by
  cases written with
  | digits _ chars =>
      exact unmarked_value fun c member => .inr (by simpa [isPriceChar] using chars c member)
  | negative _ chars =>
      refine List.forall_mem_cons.mpr ⟨by decide, ?_⟩
      exact unmarked_value fun c member => .inr (by simpa [isPriceChar] using chars c member)
  | name named =>
      have names : ∀ text ∈ ["NaN".toList, "inf".toList, "-inf".toList],
          ∀ c ∈ text, c ∉ marks := by
        simp [marks]
      exact names value named

theorem PriceParts.filler {gap number rest : List Char} (parts : PriceParts gap number rest) :
    Filler (gap ++ number) where
  unmarked := unmarked_value fun c member =>
    (List.mem_append.mp member).imp (parts.blank c) (parts.digits c)
  seals := (seals_of_price parts.nonempty parts.digits).append gap

theorem filler_written {value : List Char} (written : FixedText value) : Filler (' ' :: value) where
  unmarked := List.forall_mem_cons.mpr ⟨by decide, unmarked_written written⟩
  seals := (seals_written written).append [' ']

theorem Filler.append {front text : List Char} (unmarked : ∀ c ∈ front, c ∉ marks)
    (filler : Filler text) : Filler (front ++ text) where
  unmarked c member := (List.mem_append.mp member).elim (unmarked c) (filler.unmarked c)
  seals := filler.seals.append front

/-! ## Two texts -/

/-- The texts differ in nothing but the fillers after field names. -/
inductive Reprinted : List Char → List Char → Prop
  | refl (text) : Reprinted text text
  | cons (c) {text other} : Reprinted text other → Reprinted (c :: text) (c :: other)
  | price (field : PriceField) {old new text other} : Filler old → Filler new →
      Reprinted text other → Reprinted (field.text ++ old ++ text) (field.text ++ new ++ other)
  | trans {text other third} : Reprinted text other → Reprinted other third →
      Reprinted text third

theorem PriceField.unmarked (field : PriceField) : ∀ c ∈ field.text, c ∉ marks := by
  have all : (field.text.all fun c => !marks.contains c) = true := by cases field <;> decide
  simpa using all

namespace Reprinted

variable {text other : List Char}

theorem symm (reprinted : Reprinted text other) : Reprinted other text := by
  induction reprinted with
  | refl text => exact .refl text
  | cons c _ ih => exact .cons c ih
  | price field old new _ ih => exact .price field new old ih
  | trans _ _ first second => exact .trans second first

theorem append_left (front : List Char) (reprinted : Reprinted text other) :
    Reprinted (front ++ text) (front ++ other) := by
  induction front with
  | nil => exact reprinted
  | cons c front ih => exact .cons c ih

theorem append_right (reprinted : Reprinted text other) (rest : List Char) :
    Reprinted (text ++ rest) (other ++ rest) := by
  induction reprinted with
  | refl text => exact .refl _
  | cons c _ ih => exact .cons c ih
  | price field old new _ ih => simpa using Reprinted.price field old new ih
  | trans _ _ first second => exact .trans first second

theorem append {rest more : List Char} (first : Reprinted text other)
    (second : Reprinted rest more) : Reprinted (text ++ rest) (other ++ more) :=
  (first.append_right rest).trans (second.append_left other)

theorem eq_of_unpriced (reprinted : Reprinted text other) (absent : Unpriced text) :
    other = text := by
  induction reprinted with
  | refl text => rfl
  | cons c _ ih => rw [ih (absent.of_infix (List.suffix_cons _ _).isInfix)]
  | price field _ _ _ _ =>
      rw [List.append_assoc] at absent
      exact absurd absent (not_unpriced_append field [] _)
  | trans _ _ first second =>
      obtain rfl := first absent
      exact second absent

theorem count_mark {mark : Char} (isMark : mark ∈ marks) (reprinted : Reprinted text other) :
    other.count mark = text.count mark := by
  induction reprinted with
  | refl text => rfl
  | cons c _ ih => rw [List.count_cons, List.count_cons, ih]
  | price field old new _ ih =>
      have none : ∀ filler, Filler filler → (field.text ++ filler).count mark = 0 := by
        intro filler fills
        refine List.count_eq_zero.mpr fun member => ?_
        exact (List.mem_append.mp member).elim (fun here => field.unmarked _ here isMark)
          fun here => fills.unmarked _ here isMark
      rw [List.count_append, none _ new, List.count_append, none _ old, ih]
  | trans _ _ first second => rw [second, first]

theorem mem_mark {mark : Char} (isMark : mark ∈ marks) (reprinted : Reprinted text other) :
    mark ∈ other ↔ mark ∈ text := by
  rw [← List.count_pos_iff, ← List.count_pos_iff, reprinted.count_mark isMark]

/-- At a mark, the other text has the same mark between parts like those of this one. -/
theorem split {before after : List Char} {mark : Char} (isMark : mark ∈ marks)
    (reprinted : Reprinted (before ++ mark :: after) other) :
    ∃ front back, other = front ++ mark :: back ∧ Reprinted before front ∧
      Reprinted after back := by
  generalize whole : before ++ mark :: after = text at reprinted
  induction reprinted generalizing before after with
  | refl text => exact ⟨before, after, whole.symm, .refl _, .refl _⟩
  | @cons c rest other tail ih =>
      cases before with
      | nil =>
          obtain ⟨rfl, rfl⟩ := List.cons.inj whole
          exact ⟨[], other, rfl, .refl _, tail⟩
      | cons d before =>
          obtain ⟨rfl, same⟩ := List.cons.inj whole
          obtain ⟨front, back, rfl, left, right⟩ := ih same
          exact ⟨d :: front, back, rfl, .cons d left, right⟩
  | @price field old new rest other oldFills newFills tail ih =>
      -- The mark is not in the field name or its filler, so it stands in the rest.
      obtain ⟨middle, region, same⟩ | ⟨middle, rfl, same⟩ := List.append_eq_append_iff.mp whole
      · cases middle with
        | nil =>
            have here : [] ++ mark :: after = rest := same
            obtain ⟨front, back, rfl, left, right⟩ := ih here
            refine ⟨field.text ++ new ++ front, back, by simp, ?_, right⟩
            rw [List.append_nil] at region
            rw [← region]
            simpa using Reprinted.price field oldFills newFills left
        | cons d middle =>
            obtain ⟨rfl, -⟩ := List.cons.inj same
            have member : mark ∈ field.text ++ old := by simp [region]
            exact absurd isMark ((List.mem_append.mp member).elim (field.unmarked mark)
              (oldFills.unmarked mark))
      · obtain ⟨front, back, rfl, left, right⟩ := ih same.symm
        exact ⟨field.text ++ new ++ front, back, by simp,
          .price field oldFills newFills left, right⟩
  | trans _ _ first second =>
      obtain ⟨front, back, rfl, left, right⟩ := first whole
      obtain ⟨front', back', rfl, left', right'⟩ := second rfl
      exact ⟨front', back', rfl, .trans left left', .trans right right'⟩

theorem suffix_iff {opening : List Char} (opens : Opening opening)
    (reprinted : Reprinted text other) : opening <:+ other ↔ opening <:+ text := by
  have forth : ∀ {text other}, Reprinted text other → opening <:+ text → opening <:+ other := by
    intro text other reprinted
    induction reprinted with
    | refl text => exact id
    | @cons c text other tail ih =>
        intro ends
        cases List.suffix_cons_iff.mp ends with
        | inl whole =>
            have same := (Reprinted.cons c tail).eq_of_unpriced (whole ▸ opens.unpriced)
            rwa [same]
        | inr later => exact (ih later).trans (List.suffix_cons _ _)
    | @price field old new text other oldFills newFills tail ih =>
        intro ends
        exact (ih (oldFills.seals opening opens field.text text ends)).trans
          (List.suffix_append _ _)
    | trans _ _ first second => exact fun ends => second (first ends)
  exact ⟨forth reprinted.symm, forth reprinted⟩

theorem takeWhile_mark {mark : Char} (isMark : mark ∈ marks) (reprinted : Reprinted text other) :
    Reprinted (text.takeWhile (· ≠ mark)) (other.takeWhile (· ≠ mark)) := by
  by_cases member : mark ∈ text
  · obtain ⟨before, after, rfl, first⟩ := List.eq_append_cons_of_mem member
    obtain ⟨front, back, rfl, left, -⟩ := reprinted.split isMark
    have stays : ∀ part after : List Char, mark ∉ part →
        (part ++ mark :: after).takeWhile (· ≠ mark) = part := by
      intro part after absent
      exact Text.takeWhile_boundary
        (fun c inside => by simpa using fun same : c = mark => absent (same ▸ inside)) (by simp)
    have alsoFirst : mark ∉ front := fun here => first ((left.mem_mark isMark).mp here)
    rw [stays before after first, stays front back alsoFirst]
    exact left
  · have whole : ∀ text : List Char, mark ∉ text → text.takeWhile (· ≠ mark) = text := by
      intro text absent
      refine List.takeWhile_eq_self_iff.mpr fun c inside => ?_
      simpa using fun same : c = mark => absent (same ▸ inside)
    rw [whole text member, whole other fun here => member ((reprinted.mem_mark isMark).mp here)]
    exact reprinted

end Reprinted

/-! ## Repricing a text -/

theorem reprinted_replacePrices (field : PriceField) {value : List Char}
    (written : FixedText value) (text : List Char) :
    Reprinted text (replacePrices field.text value text) := by
  induction text using price_induction field with
  | free text free =>
      rw [replacePrices_free free]
      exact .refl text
  | cut lead gap number rest free parts ih =>
      rw [replacePrices_cut free parts, List.append_assoc field.text gap number]
      exact Reprinted.append_left lead (.price field parts.filler (filler_written written) ih)

theorem filler_insertion {gap number rest value : List Char} (parts : PriceParts gap number rest)
    (written : FixedText value) : Filler (gap ++ number ++ insertion value rest) := by
  by_cases comma : rest.head? = some ','
  · have line : ∀ c ∈ ',' :: newLine, c ∉ marks := by
      have all : ((',' :: newLine).all fun c => !marks.contains c) = true := by decide
      simpa using all
    have inserted : Filler (insertion value rest) := by
      rw [insertion, if_pos comma]
      exact Filler.append line (Filler.append PriceField.cached.unmarked (filler_written written))
    exact Filler.append parts.filler.unmarked inserted
  · rw [insertion, if_neg comma, List.append_nil]
    exact parts.filler

theorem reprinted_insertCached {value : List Char} (written : FixedText value) (text : List Char) :
    Reprinted text (insertCached value text) := by
  induction text using price_induction .input with
  | free text free =>
      rw [insertCached_free free]
      exact .refl text
  | cut lead gap number rest free parts ih =>
      have price := Reprinted.price .input parts.filler (filler_insertion parts written) ih
      rw [insertCached_cut free parts]
      simpa using price.append_left lead

/-- New prices change nothing in a block but the fillers after field names. -/
theorem reprinted_applyTo (prices : Prices) (text : List Char) :
    Reprinted text (prices.applyTo text) := by
  obtain ⟨input, output, cachedInput⟩ := prices
  have both : Reprinted text (replacePrices PriceField.output.text (Numeral.fixed 2 output)
      (replacePrices PriceField.input.text (Numeral.fixed 2 input) text)) :=
    (reprinted_replacePrices .input (Numeral.fixedText_fixed 2 input) text).trans
      (reprinted_replacePrices .output (Numeral.fixedText_fixed 2 output) _)
  cases cachedInput with
  | none => exact both
  | some cached =>
      have written := Numeral.fixedText_fixed 4 cached
      refine both.trans ?_
      change Reprinted _ (setCachedPrice (Numeral.fixed 4 cached) _)
      rw [setCachedPrice_eq_ite]
      split
      · exact reprinted_replacePrices .cached written _
      · exact reprinted_insertCached written _

end InferenceBench.Pricing

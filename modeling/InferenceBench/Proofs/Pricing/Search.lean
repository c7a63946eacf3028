import InferenceBench.Proofs.Pricing.Grammar
import InferenceBench.Proofs.Pricing.Passes
import InferenceBench.Proofs.Pricing.Substitution

/-! # Searching for prices

A search looks for the next place where the name of a field stands, and passes the name over if no
number follows it. The scanner tries every place instead. Both find the leftmost price, because no
name begins inside of a name that is passed over. So to rewrite the prices of a field is to search
again and again, each time behind the price that was found last.
-/

namespace InferenceBench.Pricing

/-- A text cut at a price. -/
structure PriceCut where
  before : List Char
  gap : List Char
  number : List Char
  after : List Char
  deriving Repr, DecidableEq

namespace PriceCut

/-- The cut goes through a price of the field in the text. -/
def IsOf (cut : PriceCut) (field : PriceField) (text : List Char) : Prop :=
  PriceSpan field text cut.before cut.gap cut.number cut.after

/-- Where the price begins and where it ends, in bytes. -/
def span (cut : PriceCut) (field : PriceField) : Nat × Nat :=
  byteSpan cut.before (field.text ++ cut.gap ++ cut.number)

/-- The cut of a text that has more at its start. -/
def behind (cut : PriceCut) (passed : List Char) : PriceCut :=
  { cut with before := passed ++ cut.before }

end PriceCut

/-- The next price of a field. -/
def nextPrice? (field : PriceField) (text : List Char) : Option PriceCut :=
  match _found : Text.splitFirst? field.text text with
  | none => none
  | some (before, rest) =>
    match priceAt? field.text (field.text ++ rest) with
    | some (.price gap number, after) => some ⟨before, gap, number, after⟩
    | _ => (nextPrice? field rest).map (·.behind (before ++ field.text))
termination_by text.length
decreasing_by
  obtain ⟨c, name, same, -⟩ := field.exists_cons
  rw [Text.splitFirst?_parts _found, same]
  simp
  omega

/-- The bytes of the next price at the start of `rest` or later, in a text that has `passed` before
it. -/
def findPrice? (field : PriceField) (passed rest : List Char) : Option (Nat × Nat) :=
  (nextPrice? field rest).map fun cut => (cut.behind passed).span field

/-! ## The first price -/

/-- No price of the field begins further to the left. -/
structure FirstPrice (field : PriceField) (text : List Char) (cut : PriceCut) : Prop where
  cuts : cut.IsOf field text
  first : ∀ other : PriceCut, other.IsOf field text → cut.before.length ≤ other.before.length

section FirstPrice

variable {field : PriceField} {text before rest : List Char} {cut other : PriceCut}

theorem PriceCut.IsOf.behind (passed : List Char) (cuts : cut.IsOf field rest) :
    (cut.behind passed).IsOf field (passed ++ rest) where
  whole := by simp [PriceCut.behind, cuts.whole]
  parts := cuts.parts

theorem PriceCut.IsOf.eq_of_length (cuts : cut.IsOf field text) (others : other.IsOf field text)
    (same : cut.before.length = other.before.length) : cut = other := by
  obtain ⟨before, rest⟩ := List.append_inj (cuts.whole.symm.trans others.whole) same
  obtain ⟨gap, number, after⟩ := cuts.parts.unique others.parts (by simpa using rest)
  cases cut
  cases other
  simp_all

theorem exists_cut_of_starts (starts : StartsPrice field.text rest) (before : List Char) :
    ∃ cut : PriceCut, cut.IsOf field (before ++ rest) ∧ cut.before = before := by
  obtain ⟨gap, number, after, rfl, parts⟩ := starts.parts
  exact ⟨⟨before, gap, number, after⟩, ⟨rfl, parts⟩, rfl⟩

theorem free_iff : Free field text ↔ ∀ cut : PriceCut, ¬ cut.IsOf field text := by
  constructor
  · intro free cut cuts
    exact free _ ⟨cut.before, cuts.whole.symm⟩ cuts.parts.starts
  · rintro none back ⟨front, rfl⟩ starts
    obtain ⟨cut, cuts, -⟩ := exists_cut_of_starts starts front
    exact none cut cuts

theorem FirstPrice.of_free (cuts : cut.IsOf field text) (free : Free field cut.before) :
    FirstPrice field text cut := by
  refine ⟨cuts, fun other others => ?_⟩
  by_contra earlier
  obtain ⟨back, same, rest⟩ | ⟨back, same, -⟩ :=
    List.append_eq_append_iff.mp (others.whole.symm.trans cuts.whole)
  · have nonempty : back ≠ [] := by
      rintro rfl
      simp [same] at earlier
    have separates := separates_price field cut.gap cut.number cut.after
    have bare : ¬ StartsPrice field.text back := free back ⟨other.before, same.symm⟩
    exact separates.not_startsPrice nonempty bare (rest ▸ others.parts.starts)
  · simp [same] at earlier

theorem FirstPrice.free (first : FirstPrice field text cut) : Free field cut.before := by
  rintro back ⟨front, same⟩ starts
  obtain ⟨other, others, before⟩ := exists_cut_of_starts
    (startsPrice_append (field.text ++ cut.gap ++ cut.number ++ cut.after) starts) front
  rw [← List.append_assoc, same, ← first.cuts.whole] at others
  have least := first.first other others
  have length := congrArg List.length same
  obtain rfl : back = [] := by
    rw [← List.length_eq_zero_iff]
    simp [before] at least length
    omega
  exact not_startsPrice_nil _ starts

theorem FirstPrice.unique (first : FirstPrice field text cut) (also : FirstPrice field text other) :
    cut = other :=
  first.cuts.eq_of_length also.cuts
    (Nat.le_antisymm (first.first _ also.cuts) (also.first _ first.cuts))

end FirstPrice

/-! ## What a search finds -/

/-- What a search has to find: the first price, or nothing in a text without prices. -/
inductive Finds (field : PriceField) (text : List Char) : Option PriceCut → Prop where
  | price {cut : PriceCut} (first : FirstPrice field text cut) : Finds field text (some cut)
  | nothing (free : Free field text) : Finds field text none

section Search

variable {field : PriceField} {text before rest lead more : List Char} {cut : PriceCut}

/-- No price begins in a name without a number, nor before it if the name is the first one. -/
theorem free_behind_bare (first : ∀ front back, before ++ field.text ++ rest =
      front ++ field.text ++ back → before.length ≤ front.length)
    (bare : ¬ StartsPrice field.text (field.text ++ rest)) (begins : rest = lead ++ more)
    (free : Free field lead) : Free field (before ++ field.text ++ lead) := by
  intro back ends starts
  obtain later | ⟨middle, nonempty, ⟨front, same⟩, rfl⟩ := Text.suffix_append ends
  · exact free back later starts
  · obtain ⟨gap, digit, tail, named, -⟩ := id starts
    rw [List.append_assoc] at named
    have occurs : before ++ field.text ++ rest =
        front ++ field.text ++ (gap ++ digit :: tail ++ more) := by
      calc before ++ field.text ++ rest = front ++ (middle ++ lead) ++ more := by
            simp [begins, ← same]
        _ = front ++ field.text ++ (gap ++ digit :: tail ++ more) := by
            rw [named]
            simp
    have least := first front _ occurs
    have inside : middle <:+ field.text := by
      refine List.suffix_of_suffix_length_le ⟨front, same⟩ (List.suffix_append _ _) ?_
      have := congrArg List.length same
      simp at this
      omega
    obtain ⟨rfl, -⟩ := PriceField.eq_of_starts inside nonempty named.symm
    rw [begins, ← List.append_assoc] at bare
    exact bare (startsPrice_append more starts)

theorem parts_of_priceAt? {field gap number after text : List Char}
    (priced : priceAt? field text = some (.price gap number, after)) :
    text = field ++ gap ++ number ++ after ∧ PriceParts gap number after := by
  have starts : StartsPrice field text := by
    by_contra bare
    rw [priceAt?_eq_none.mpr bare] at priced
    cases priced
  obtain ⟨_, _, _, rfl, parts⟩ := starts.parts
  rw [priceAt?_of_parts parts] at priced
  cases priced
  exact ⟨rfl, parts⟩

theorem nextPrice?_finds (field : PriceField) (text : List Char) :
    Finds field text (nextPrice? field text) := by
  fun_induction nextPrice? field text with
  | case1 text missing =>
      refine .nothing ?_
      rintro back ends ⟨gap, digit, tail, rfl, -⟩
      have present : Text.contains field.text text = true := by
        rw [Text.contains_iff_infix]
        refine List.IsInfix.trans ?_ ends.isInfix
        exact ⟨[], gap ++ digit :: tail, by simp⟩
      simp [Text.contains, missing] at present
  | case2 text before rest found gap number after priced =>
      obtain ⟨whole, first⟩ := Text.splitFirst?_eq_some.mp found
      obtain ⟨name, parts⟩ := parts_of_priceAt? priced
      refine .price (.of_free ⟨?_, parts⟩ ?_)
      · rw [whole, List.append_assoc, name]
      · rintro back ⟨front, same⟩ ⟨blanks, digit, tail, rfl, -⟩
        have same : front ++ (field.text ++ blanks ++ digit :: tail) = before := same
        have least := first front (blanks ++ digit :: tail ++ field.text ++ rest) (by
          rw [whole, ← same]
          simp)
        have length := congrArg List.length same
        simp at length
        omega
  | case3 text before rest found unpriced ih =>
      obtain ⟨rfl, first⟩ := Text.splitFirst?_eq_some.mp found
      have bare : ¬ StartsPrice field.text (field.text ++ rest) := by
        intro starts
        obtain ⟨gap, number, after, same, parts⟩ := starts.parts
        exact unpriced gap number after (by rw [same, priceAt?_of_parts parts])
      cases same : nextPrice? field rest with
      | none =>
          rw [same] at ih
          cases ih with
          | nothing free =>
              exact .nothing (free_behind_bare first bare (List.append_nil rest).symm free)
      | some cut =>
          rw [same] at ih
          cases ih with
          | price inner =>
              refine .price (.of_free (inner.cuts.behind _) ?_)
              exact free_behind_bare first bare inner.cuts.whole inner.free

theorem nextPrice?_eq_some : nextPrice? field text = some cut ↔ FirstPrice field text cut := by
  have finds := nextPrice?_finds field text
  generalize nextPrice? field text = found at finds ⊢
  cases finds with
  | price first =>
      rw [Option.some.injEq]
      exact ⟨fun same => same ▸ first, first.unique⟩
  | nothing free => exact iff_of_false nofun fun first => free_iff.mp free cut first.cuts

theorem nextPrice?_eq_none : nextPrice? field text = none ↔ Free field text := by
  have finds := nextPrice?_finds field text
  generalize nextPrice? field text = found at finds ⊢
  cases finds with
  | price first => exact iff_of_false nofun fun free => free_iff.mp free _ first.cuts
  | nothing free => exact iff_of_true rfl free

/-- The scanner goes from one price that a search finds to the next. -/
theorem pieces_eq_search (field : PriceField) (text : List Char) :
    pieces field.text text =
      match nextPrice? field text with
      | some cut =>
          cut.before.map .plain ++ .price cut.gap cut.number :: pieces field.text cut.after
      | none => text.map .plain := by
  cases found : nextPrice? field text with
  | some cut =>
      have first := nextPrice?_eq_some.mp found
      rw [first.cuts.whole, pieces_cut first.free first.cuts.parts]
  | none => rw [pieces_free (nextPrice?_eq_none.mp found)]

end Search

/-! ## Searching from a place on -/

theorem length_encode_le_iff {text front other : List Char} (begins : front <+: text)
    (also : other <+: text) :
    (Utf8.encode front).length ≤ (Utf8.encode other).length ↔ front.length ≤ other.length := by
  rcases Nat.lt_or_ge other.length front.length with shorter | longer
  · obtain ⟨more, rfl⟩ := List.prefix_of_prefix_length_le also begins shorter.le
    cases more with
    | nil => simp at shorter
    | cons c more => exact iff_of_false (length_encode_lt other c more).not_ge shorter.not_ge
  · obtain ⟨more, rfl⟩ := List.prefix_of_prefix_length_le begins also longer
    refine iff_of_true ?_ longer
    simp [Utf8.encode]

/-- A span of a price that begins at the byte `start` or later, and no such price begins
earlier. -/
structure LeftmostSpan (field : PriceField) (text : List Char) (start : Nat) (span : Nat × Nat) :
    Prop where
  price : ∃ cut : PriceCut, cut.IsOf field text ∧ cut.span field = span
  notEarlier : start ≤ span.1
  leftmost : ∀ cut : PriceCut, cut.IsOf field text → start ≤ (cut.span field).1 →
    span.1 ≤ (cut.span field).1

section From

variable {field : PriceField} {text passed rest : List Char} {cut other : PriceCut} {start : Nat}
  {span found : Nat × Nat}

theorem PriceCut.IsOf.begins (cuts : cut.IsOf field text) : cut.before <+: text :=
  ⟨_, cuts.whole.symm⟩

theorem PriceCut.IsOf.exists_behind (cuts : cut.IsOf field (passed ++ rest))
    (later : (Utf8.encode passed).length ≤ (cut.span field).1) :
    ∃ inner : PriceCut, inner.IsOf field rest ∧ inner.behind passed = cut := by
  have longer := (length_encode_le_iff (List.prefix_append passed rest) cuts.begins).mp later
  obtain ⟨more, same⟩ :=
    List.prefix_of_prefix_length_le (List.prefix_append passed rest) cuts.begins longer
  refine ⟨{ cut with before := more }, ⟨?_, cuts.parts⟩, ?_⟩
  · have whole := cuts.whole
    rw [← same, List.append_assoc] at whole
    exact List.append_cancel_left whole
  · rw [PriceCut.behind, same]

theorem LeftmostSpan.unique (least : LeftmostSpan field text start span)
    (also : LeftmostSpan field text start found) : span = found := by
  obtain ⟨⟨cut, cuts, rfl⟩, notEarlier, leftmost⟩ := least
  obtain ⟨⟨other, others, rfl⟩, alsoNotEarlier, alsoLeftmost⟩ := also
  have first := leftmost other others alsoNotEarlier
  have second := alsoLeftmost cut cuts notEarlier
  have same := Nat.le_antisymm
    ((length_encode_le_iff cuts.begins others.begins).mp first)
    ((length_encode_le_iff others.begins cuts.begins).mp second)
  rw [cuts.eq_of_length others same]

theorem FirstPrice.leftmostSpan (first : FirstPrice field rest cut) :
    LeftmostSpan field (passed ++ rest) (Utf8.encode passed).length
      ((cut.behind passed).span field) where
  price := ⟨_, first.cuts.behind passed, rfl⟩
  notEarlier := by
    have begins := (first.cuts.behind passed).begins
    refine (length_encode_le_iff (List.prefix_append passed rest) begins).mpr ?_
    simp [PriceCut.behind]
  leftmost := by
    intro other others later
    obtain ⟨inner, inside, rfl⟩ := others.exists_behind later
    refine (length_encode_le_iff (first.cuts.behind passed).begins others.begins).mpr ?_
    simpa [PriceCut.behind] using first.first inner inside

theorem findPrice?_eq_some : findPrice? field passed rest = some span ↔
    LeftmostSpan field (passed ++ rest) (Utf8.encode passed).length span := by
  rw [findPrice?]
  cases found : nextPrice? field rest with
  | some cut =>
      have least : LeftmostSpan field (passed ++ rest) (Utf8.encode passed).length
          ((cut.behind passed).span field) := (nextPrice?_eq_some.mp found).leftmostSpan
      rw [Option.map_some, Option.some.injEq]
      exact ⟨fun same => same ▸ least, least.unique⟩
  | none =>
      have none := free_iff.mp (nextPrice?_eq_none.mp found)
      refine iff_of_false nofun ?_
      rintro ⟨⟨cut, cuts, rfl⟩, later, -⟩
      obtain ⟨inner, inside, -⟩ := cuts.exists_behind later
      exact none inner inside

theorem findPrice?_eq_none : findPrice? field passed rest = none ↔
    ∀ cut : PriceCut, cut.IsOf field (passed ++ rest) →
      (cut.span field).1 < (Utf8.encode passed).length := by
  rw [findPrice?, Option.map_eq_none_iff, nextPrice?_eq_none, free_iff]
  constructor
  · intro none cut cuts
    by_contra later
    obtain ⟨inner, inside, -⟩ := cuts.exists_behind (Nat.not_lt.mp later)
    exact none inner inside
  · intro earlier cut cuts
    have before := earlier _ (cuts.behind passed)
    rw [← Nat.not_le, PriceCut.span, byteSpan, length_encode_le_iff
      (List.prefix_append passed rest) (cuts.behind passed).begins] at before
    simp [PriceCut.behind] at before

end From

/-! ## Replacing price after price -/

/-- The text in which the prices of a field are replaced from left to right. Each search goes on
behind the price that was found last, and what stands between the prices is kept. -/
inductive Replaced (field : PriceField) (value : List Char) : List Char → List Char → Prop where
  | done {text : List Char} (none : ∀ cut : PriceCut, ¬ cut.IsOf field text) :
      Replaced field value text text
  | next {text out : List Char} {cut : PriceCut} (first : FirstPrice field text cut)
      (rest : Replaced field value cut.after out) :
      Replaced field value text (cut.before ++ (field.text ++ ' ' :: value) ++ out)

section Replaced

variable {field : PriceField} {value text out : List Char}

theorem replacePrices_first {cut : PriceCut} (first : FirstPrice field text cut) :
    replacePrices field.text value text =
      cut.before ++ (field.text ++ ' ' :: value) ++ replacePrices field.text value cut.after := by
  rw [first.cuts.whole, replacePrices_cut first.free first.cuts.parts]
  simp

theorem Replaced.eq (replaced : Replaced field value text out) :
    out = replacePrices field.text value text := by
  induction replaced with
  | done none => rw [replacePrices_free (free_iff.mpr none)]
  | next first rest ih => rw [replacePrices_first first, ih]

theorem replaced_replacePrices (field : PriceField) (value text : List Char) :
    Replaced field value text (replacePrices field.text value text) := by
  -- by induction on the prices of the text: it comes to an end, because each of them is cut off
  induction text using price_induction field with
  | free text free =>
      rw [replacePrices_free free]
      exact .done (free_iff.mp free)
  | cut lead gap number rest free parts ih =>
      let cut : PriceCut := ⟨lead, gap, number, rest⟩
      have first : FirstPrice field (lead ++ (field.text ++ gap ++ number ++ rest)) cut :=
        .of_free ⟨rfl, parts⟩ free
      rw [replacePrices_first first]
      exact .next first ih

theorem replaced_iff : Replaced field value text out ↔ out = replacePrices field.text value text :=
  ⟨Replaced.eq, fun same => same ▸ replaced_replacePrices field value text⟩

/-- What is replaced by a price is found again, with nothing of what follows it. -/
theorem replacePrices_replacePrices (field : PriceField) (value : PriceText)
    (next text : List Char) :
    replacePrices field.text next (replacePrices field.text value.chars text) =
      replacePrices field.text next text := by
  induction text using price_induction field with
  | free text free => rw [replacePrices_free free]
  | cut lead gap number rest free parts ih =>
      have written : PriceParts [' '] value.chars (replacePrices field.text value.chars rest) :=
        { blank := isBlank_space
          digits := value.digits
          -- An empty value would not be found again.
          nonempty := value.nonempty
          stops := by
            rw [head?_replacePrices]
            exact parts.stops }
      have again : replacePrices field.text next (lead ++ (field.text ++ [' '] ++ value.chars ++
            replacePrices field.text value.chars rest)) =
          lead ++ (field.text ++ ' ' :: next ++ replacePrices field.text next
            (replacePrices field.text value.chars rest)) := replacePrices_cut free written
      rw [replacePrices_cut free parts, replacePrices_cut free parts, ← ih, ← again]
      simp

end Replaced

/-- From every place on, a search finds the leftmost price, and nothing only where there is none.
The scanner goes from each price that a search finds to the next, so each of them in turn is
replaced by the name of its field, a space and the new value, and all else is kept. If the new value
is a price itself, it is replaced like the first one. -/
theorem searches_replace_all (field : PriceField) :
    (∀ passed rest span, findPrice? field passed rest = some span ↔
      LeftmostSpan field (passed ++ rest) (Utf8.encode passed).length span) ∧
    (∀ passed rest, findPrice? field passed rest = none ↔
      ∀ cut : PriceCut, cut.IsOf field (passed ++ rest) →
        (cut.span field).1 < (Utf8.encode passed).length) ∧
    (∀ text, pieces field.text text =
      match nextPrice? field text with
      | some cut =>
          cut.before.map .plain ++ .price cut.gap cut.number :: pieces field.text cut.after
      | none => text.map .plain) ∧
    (∀ value text out, Replaced field value text out ↔
      replacePrices field.text value text = out) ∧
    ∀ (value : PriceText) (next text : List Char),
      replacePrices field.text next (replacePrices field.text value.chars text) =
        replacePrices field.text next text := by
  refine ⟨?_, ?_, pieces_eq_search field, ?_, replacePrices_replacePrices field⟩
  · intro passed rest span
    exact findPrice?_eq_some
  · intro passed rest
    exact findPrice?_eq_none
  · intro value text out
    rw [replaced_iff, eq_comm]

end InferenceBench.Pricing

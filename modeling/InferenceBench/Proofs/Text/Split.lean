import InferenceBench.Text.Split
import Mathlib.Data.List.Basic

/-! # The parts of a text

Every way of taking a text apart gives parts that make up the text again. Scanners are reasoned
about through these equations and not through their recursion.
-/

namespace InferenceBench.Text

theorem splitAtChar?_eq_some {mark : Char} {text before after : List Char} :
    splitAtChar? mark text = some (before, after) ↔
      text = before ++ mark :: after ∧ mark ∉ before := by
  induction text generalizing before with
  | nil => simp [splitAtChar?]
  | cons c text ih =>
      by_cases found : c = mark
      · subst found
        simp only [splitAtChar?, if_true, Option.some.injEq, Prod.mk.injEq]
        constructor
        · rintro ⟨rfl, rfl⟩
          simp
        · rintro ⟨same, absent⟩
          cases before with
          | nil => simpa using same
          | cons d before =>
              simp only [List.cons_append, List.cons.injEq] at same
              exact absurd (same.1 ▸ List.mem_cons_self) absent
      · simp only [splitAtChar?, if_neg found, Option.map_eq_some_iff, Prod.exists,
          Prod.mk.injEq]
        constructor
        · rintro ⟨start, rest, split, rfl, rfl⟩
          obtain ⟨same, absent⟩ := ih.mp split
          exact ⟨by rw [same, List.cons_append], by simp [absent, Ne.symm found]⟩
        · rintro ⟨same, absent⟩
          cases before with
          | nil => exact absurd (List.cons.inj same).1 found
          | cons d start =>
              simp only [List.cons_append, List.cons.injEq] at same
              refine ⟨start, after, ih.mpr ⟨same.2, fun h => absent (List.mem_cons_of_mem _ h)⟩, ?_⟩
              exact ⟨by rw [same.1], rfl⟩

theorem splitFirst?_parts {needle text before after : List Char}
    (found : splitFirst? needle text = some (before, after)) :
    text = before ++ needle ++ after := by
  induction text generalizing before with
  | nil =>
      cases needle with
      | nil => simp_all [splitFirst?]
      | cons c needle => simp [splitFirst?] at found
  | cons c text ih =>
      simp only [splitFirst?] at found
      split at found
      · next rest isPrefix =>
          obtain ⟨rfl, rfl⟩ := by simpa using found
          simp [← List.isPrefixOf?_eq_some_iff_append_eq.mp isPrefix]
      · obtain ⟨⟨start, rest⟩, later, same⟩ := Option.map_eq_some_iff.mp found
        simp only [Prod.mk.injEq] at same
        obtain ⟨rfl, rfl⟩ := same
        rw [ih later]
        rfl

/-- The first occurrence is the one with the shortest text before it. -/
theorem splitFirst?_eq_some {needle text before after : List Char} :
    splitFirst? needle text = some (before, after) ↔
      text = before ++ needle ++ after ∧
        ∀ front back, text = front ++ needle ++ back → before.length ≤ front.length := by
  refine ⟨fun found => ⟨splitFirst?_parts found, ?_⟩, ?_⟩
  · induction text generalizing before with
    | nil =>
        cases needle with
        | nil => simp_all [splitFirst?]
        | cons c needle => simp [splitFirst?] at found
    | cons c text ih =>
        intro front back same
        simp only [splitFirst?] at found
        split at found
        · obtain ⟨rfl, rfl⟩ := by simpa using found
          exact Nat.zero_le _
        · next missing =>
            obtain ⟨⟨start, rest⟩, later, split⟩ := Option.map_eq_some_iff.mp found
            obtain ⟨rfl, rfl⟩ := Prod.mk.inj split
            cases front with
            | nil =>
                rw [List.nil_append] at same
                rw [List.isPrefixOf?_eq_some_iff_append_eq.mpr same.symm] at missing
                cases missing
            | cons d front =>
                have := ih later front back (List.cons.inj same).2
                simpa using this
  · rintro ⟨same, least⟩
    induction text generalizing before with
    | nil =>
        obtain ⟨rfl, rfl, rfl⟩ : before = [] ∧ needle = [] ∧ after = [] := by simpa using same
        rfl
    | cons c text ih =>
        simp only [splitFirst?]
        split
        · next rest found =>
            have start := (List.isPrefixOf?_eq_some_iff_append_eq.mp found).symm
            obtain rfl := List.length_eq_zero_iff.mp (Nat.le_zero.mp (least [] rest start))
            obtain rfl : rest = after :=
              List.append_cancel_left (start.symm.trans same)
            rfl
        · next missing =>
            cases before with
            | nil =>
                rw [List.nil_append] at same
                rw [List.isPrefixOf?_eq_some_iff_append_eq.mpr same.symm] at missing
                cases missing
            | cons d before =>
                obtain ⟨rfl, tail⟩ := List.cons.inj same
                have later : ∀ front back, text = front ++ needle ++ back →
                    before.length ≤ front.length := by
                  intro front back occurs
                  have := least (c :: front) back (by simp [occurs])
                  simpa using this
                rw [ih tail later]
                rfl

theorem takeWhile_boundary {p : Char → Bool} {body rest : List Char}
    (inside : ∀ c ∈ body, p c = true) (outside : ∀ c ∈ rest.head?, p c = false) :
    (body ++ rest).takeWhile p = body := by
  rw [List.takeWhile_append_of_pos inside]
  cases rest with
  | nil => simp
  | cons c rest => simp [outside c rfl]

theorem dropWhile_boundary {p : Char → Bool} {body rest : List Char}
    (inside : ∀ c ∈ body, p c = true) (outside : ∀ c ∈ rest.head?, p c = false) :
    (body ++ rest).dropWhile p = rest := by
  rw [List.dropWhile_append_of_pos inside]
  cases rest with
  | nil => rfl
  | cons c rest => rw [List.dropWhile_cons_of_neg (by simp [outside c rfl])]

theorem exists_boundary (p : Char → Bool) (text : List Char) :
    ∃ body rest, text = body ++ rest ∧ (∀ c ∈ body, p c = true) ∧
      ∀ c ∈ rest.head?, p c = false := by
  refine ⟨text.takeWhile p, text.dropWhile p, List.takeWhile_append_dropWhile.symm,
    List.all_eq_true.mp List.all_takeWhile, fun c first => ?_⟩
  have := List.head?_dropWhile_not p text
  rw [first] at this
  simpa using this

/-- An end of two texts is an end of the second one, or goes into the first one. -/
theorem suffix_append {text rest back : List Char} (ends : back <:+ text ++ rest) :
    back <:+ rest ∨ ∃ middle, middle ≠ [] ∧ middle <:+ text ∧ back = middle ++ rest := by
  obtain ⟨start, same⟩ := ends
  obtain ⟨middle, rfl, rfl⟩ | ⟨middle, -, rfl⟩ := List.append_eq_append_iff.mp same
  · cases middle with
    | nil => exact .inl List.suffix_rfl
    | cons c middle =>
        exact .inr ⟨c :: middle, List.cons_ne_nil _ _, List.suffix_append _ _, rfl⟩
  · exact .inl (List.suffix_append _ _)

theorem contains_nil {needle : List Char} (some : needle ≠ []) : contains needle [] = false := by
  cases needle with
  | nil => exact absurd rfl some
  | cons c needle => rfl

theorem contains_cons {needle rest : List Char} {c : Char} :
    contains needle (c :: rest) = true ↔
      (∃ more, c :: rest = needle ++ more) ∨ contains needle rest = true := by
  simp only [contains, splitFirst?]
  split
  · next more found =>
      have start := (List.isPrefixOf?_eq_some_iff_append_eq.mp found).symm
      exact iff_of_true rfl (.inl ⟨more, start⟩)
  · next missing =>
      rw [Option.isSome_map, or_iff_right]
      rintro ⟨more, start⟩
      rw [List.isPrefixOf?_eq_some_iff_append_eq.mpr start.symm] at missing
      cases missing

theorem contains_iff_infix {needle text : List Char} :
    contains needle text = true ↔ needle <:+: text := by
  induction text with
  | nil =>
      cases needle with
      | nil => exact iff_of_true rfl (List.infix_refl _)
      | cons c needle => simp [contains_nil (List.cons_ne_nil c needle)]
  | cons c text ih =>
      rw [contains_cons, ih, List.infix_cons_iff]
      exact or_congr_left (exists_congr fun _ => eq_comm)

theorem contains_append {needle text rest : List Char}
    (absent : ∀ back, back <:+ text → back ≠ [] → ∀ more, back ++ rest ≠ needle ++ more) :
    contains needle (text ++ rest) = true ↔ contains needle rest = true := by
  induction text with
  | nil => rfl
  | cons c text ih =>
      have here : ¬ ∃ more, c :: (text ++ rest) = needle ++ more := fun ⟨more, start⟩ =>
        absent (c :: text) List.suffix_rfl (List.cons_ne_nil _ _) more start
      rw [List.cons_append, contains_cons, or_iff_right here]
      exact ih fun back ends => absent back (ends.trans (List.suffix_cons _ _))

/-- A place of a mark in a text is known by the number of marks before it. -/
theorem eq_of_count_eq {mark : Char} {before after front back : List Char}
    (same : before ++ mark :: after = front ++ mark :: back)
    (count : before.count mark = front.count mark) : before = front ∧ after = back := by
  obtain ⟨middle, rfl, rest⟩ | ⟨middle, rfl, rest⟩ := List.append_eq_append_iff.mp same
  · cases middle with
    | nil => exact ⟨(List.append_nil _).symm, (List.cons.inj rest).2⟩
    | cons c middle =>
        obtain ⟨rfl, -⟩ := List.cons.inj rest
        simp at count
  · cases middle with
    | nil => exact ⟨List.append_nil _, (List.cons.inj rest).2.symm⟩
    | cons c middle =>
        obtain ⟨rfl, -⟩ := List.cons.inj rest
        simp at count

theorem tailAtLast?_eq_none {needle text : List Char} (absent : ¬ needle <:+: text) :
    tailAtLast? needle text = none := by
  induction text with
  | nil =>
      cases needle with
      | nil => exact absurd (List.infix_refl _) absent
      | cons c needle => rfl
  | cons c text ih =>
      rw [List.infix_cons_iff, not_or] at absent
      rw [tailAtLast?, ih absent.2, Option.none_or,
        if_neg fun here => absent.1 (List.isPrefixOf_iff_prefix.mp here)]

theorem tailAtLast?_append {needle text tail : List Char} (front : List Char)
    (found : tailAtLast? needle text = some tail) :
    tailAtLast? needle (front ++ text) = some tail := by
  induction front with
  | nil => exact found
  | cons c front ih => rw [List.cons_append, tailAtLast?, ih, Option.some_or]

end InferenceBench.Text

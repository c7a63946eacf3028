import InferenceBench.Proofs.Json.Token

/-! # Printed trees read back

A tree and its written forms are compared through the tokens between them. The pretty and the
compact form differ only in their spacing, and a form is read as the tree's tokens whatever its
spacing. From the tokens of a tree the building delivers that tree to the container around it.
-/

namespace InferenceBench.Json

mutual

/-- The tokens of a tree's written form. -/
def Tree.tokens : Tree → List Token
  | .null => [.null]
  | .boolean value => [.boolean value]
  | .number text => [.number text]
  | .text pieces => [.text pieces]
  | .array items => .openArray :: itemTokens items ++ [.closeArray]
  | .object fields => .openObject :: fieldTokens fields ++ [.closeObject]

def itemTokens : List Tree → List Token
  | [] => []
  | [item] => item.tokens
  | item :: next :: rest => item.tokens ++ .comma :: itemTokens (next :: rest)

def fieldTokens : List (List Piece × Tree) → List Token
  | [] => []
  | [(key, tree)] => .text key :: .colon :: tree.tokens
  | (key, tree) :: next :: rest =>
    .text key :: .colon :: tree.tokens ++ .comma :: fieldTokens (next :: rest)

end

/-! ## From tokens to trees -/

namespace Building

/-- What a building becomes after some tokens. -/
def after? (building : Building) (tokens : List Token) : Option Building :=
  tokens.foldlM step building

theorem after?_cons {building next : Building} {token : Token}
    (taken : building.step token = some next) (tokens : List Token) :
    building.after? (token :: tokens) = next.after? tokens := by
  simp [after?, taken]

theorem after?_append (building : Building) (tokens more : List Token) :
    building.after? (tokens ++ more) = (building.after? tokens).bind (·.after? more) := by
  simp [after?, List.foldlM_append]

theorem firstItem_after? {items : List Tree} (some : items ≠ []) (frames : List Frame)
    (more : List Token) :
    (firstItem frames).after? (itemTokens items ++ more) =
      (value (.array [] :: frames)).after? (itemTokens items ++ more) := by
  obtain ⟨item, rest, rfl⟩ := List.exists_cons_of_ne_nil some
  cases rest <;> cases item <;> rfl

mutual

theorem tree_after? : ∀ (tree : Tree) (frames : List Frame) (more : List Token),
    (value frames).after? (tree.tokens ++ more) = (deliver tree frames).after? more
  | .null, frames, more => rfl
  | .boolean flag, frames, more => rfl
  | .number text, frames, more => rfl
  | .text pieces, frames, more => rfl
  | .array [], frames, more => rfl
  | .array (item :: rest), frames, more => by
      have opened : (value frames).step .openArray = some (firstItem frames) := rfl
      have nonempty : item :: rest ≠ [] := List.cons_ne_nil _ _
      simp only [Tree.tokens, List.cons_append, List.append_assoc, List.nil_append]
      rw [after?_cons opened, firstItem_after? nonempty,
        items_after? (item :: rest) nonempty [] frames more]
      rfl
  | .object [], frames, more => rfl
  | .object (field :: rest), frames, more => by
      have opened : (value frames).step .openObject = some (firstKey frames) := rfl
      simp only [Tree.tokens, List.cons_append, List.append_assoc, List.nil_append]
      rw [after?_cons opened, fields_after? (field :: rest) (List.cons_ne_nil _ _) [] frames more
        fun _ => rfl]
      rfl

theorem items_after? : ∀ (items : List Tree), items ≠ [] → ∀ (before : List Tree)
    (frames : List Frame) (more : List Token),
    (value (.array before :: frames)).after? (itemTokens items ++ .closeArray :: more) =
      (deliver (.array (before.reverse ++ items)) frames).after? more
  | [], nonempty, before, frames, more => absurd rfl nonempty
  | [item], nonempty, before, frames, more => by
      have closed : (afterItem (item :: before) frames).step .closeArray =
          some (deliver (.array (item :: before).reverse) frames) := rfl
      rw [itemTokens, tree_after? item, deliver, after?_cons closed, List.reverse_cons]
  | item :: next :: rest, nonempty, before, frames, more => by
      have separated : (afterItem (item :: before) frames).step .comma =
          some (value (.array (item :: before) :: frames)) := rfl
      simp only [itemTokens, List.cons_append, List.append_assoc]
      rw [tree_after? item, deliver, after?_cons separated,
        items_after? (next :: rest) (List.cons_ne_nil _ _), List.reverse_cons, List.append_assoc]
      rfl

theorem fields_after? : ∀ (fields : List (List Piece × Tree)), fields ≠ [] →
    ∀ (before : List (List Piece × Tree)) (frames : List Frame) (more : List Token)
    {building : Building},
    (∀ name, building.step (.text name) = some (.afterKey before name frames)) →
    building.after? (fieldTokens fields ++ .closeObject :: more) =
      (deliver (.object (before.reverse ++ fields)) frames).after? more
  | [], nonempty, before, frames, more, building, named => absurd rfl nonempty
  | [(name, tree)], nonempty, before, frames, more, building, named => by
      have marked : (afterKey before name frames).step .colon =
          some (value (.object before name :: frames)) := rfl
      have closed : (afterField ((name, tree) :: before) frames).step .closeObject =
          some (deliver (.object ((name, tree) :: before).reverse) frames) := rfl
      simp only [fieldTokens, List.cons_append]
      rw [after?_cons (named name), after?_cons marked, tree_after? tree, deliver,
        after?_cons closed, List.reverse_cons]
  | (name, tree) :: next :: rest, nonempty, before, frames, more, building, named => by
      have marked : (afterKey before name frames).step .colon =
          some (value (.object before name :: frames)) := rfl
      have separated : (afterField ((name, tree) :: before) frames).step .comma =
          some (.key ((name, tree) :: before) frames) := rfl
      simp only [fieldTokens, List.cons_append, List.append_assoc]
      rw [after?_cons (named name), after?_cons marked, tree_after? tree, deliver,
        after?_cons separated,
        fields_after? (next :: rest) (List.cons_ne_nil _ _) _ frames more fun _ => rfl,
        List.reverse_cons, List.append_assoc]
      rfl

end

end Building

theorem ofTokens?_tokens (tree : Tree) : Tree.ofTokens? tree.tokens = some tree := by
  have delivered := Building.tree_after? tree [] []
  rw [List.append_nil] at delivered
  change (Building.after? (.value []) tree.tokens).bind Building.tree? = some tree
  rw [delivered]
  rfl

/-! ## Written forms -/

/-- A tree that can be written: its numbers are numbers, and its strings have a text. -/
inductive Tree.Writable : Tree → Prop where
  | null : Writable .null
  | boolean (flag : Bool) : Writable (.boolean flag)
  | number {text : List Char} (isNumber : NumberText text) : Writable (.number text)
  | text (text : List Char) : Writable (.ofChars text)
  | array {items : List Tree} (all : ∀ item ∈ items, Writable item) : Writable (.array items)
  | object {fields : List (List Piece × Tree)}
      (keys : ∀ field ∈ fields, ∃ key : List Char, field.1 = key.map Piece.char)
      (all : ∀ field ∈ fields, Writable field.2) : Writable (.object fields)

/-- What a printer writes between tokens: white space before each item of a container, which lies
inside `depth` containers, and white space after the colon of a field. -/
structure Spacing where
  line : (depth : Nat) → List Char
  gap : List Char
  skips_line : ∀ depth rest,
    Mode.between.tokens ((line depth).map some ++ rest) = Mode.between.tokens rest
  ends_line : ∀ depth rest, Ends rest → Ends ((line depth).map some ++ rest)
  skips_gap : ∀ rest, Mode.between.tokens (gap.map some ++ rest) = Mode.between.tokens rest

namespace Spacing

def none : Spacing where
  line _ := []
  gap := []
  skips_line _ _ := rfl
  ends_line _ _ ends := ends
  skips_gap _ := rfl

theorem skips_newLine (depth : Nat) (rest : List (Option Char)) :
    Mode.between.tokens ((newLine depth).map some ++ rest) = Mode.between.tokens rest := by
  have line : Mode.between.step (some '\n') = some ([], .between) := rfl
  have blank : Mode.between.step (some ' ') = some ([], .between) := rfl
  rw [newLine, List.map_cons, List.cons_append, tokens_quiet line]
  generalize 2 * depth = count
  induction count with
  | zero => rfl
  | succ count ih =>
      rw [List.replicate_succ, List.map_cons, List.cons_append, tokens_quiet blank, ih]

def lines : Spacing where
  line := newLine
  gap := [' ']
  skips_line := skips_newLine
  ends_line _ _ _ := ends_newLine _
  skips_gap rest := tokens_quiet rfl rest

end Spacing

mutual

/-- The form of a tree inside `depth` containers. -/
def Tree.spaced (spacing : Spacing) (depth : Nat) : Tree → List Char
  | .null => "null".toList
  | .boolean value => booleanText value
  | .number text => text
  | .text pieces => stringText pieces
  | .array [] => ['[', ']']
  | .array (item :: rest) =>
    '[' :: spacedItems spacing (depth + 1) (item :: rest) ++ spacing.line depth ++ [']']
  | .object [] => ['\x7B', '\x7D']
  | .object (field :: rest) =>
    '\x7B' :: spacedFields spacing (depth + 1) (field :: rest) ++ spacing.line depth ++ ['\x7D']

def spacedItems (spacing : Spacing) (depth : Nat) : List Tree → List Char
  | [] => []
  | [item] => spacing.line depth ++ item.spaced spacing depth
  | item :: next :: rest =>
    spacing.line depth ++ item.spaced spacing depth ++ ',' ::
      spacedItems spacing depth (next :: rest)

def spacedFields (spacing : Spacing) (depth : Nat) : List (List Piece × Tree) → List Char
  | [] => []
  | [(key, tree)] =>
    spacing.line depth ++ stringText key ++ ':' :: spacing.gap ++ tree.spaced spacing depth
  | (key, tree) :: next :: rest =>
    spacing.line depth ++ stringText key ++ ':' :: spacing.gap ++ tree.spaced spacing depth ++
      ',' :: spacedFields spacing depth (next :: rest)

end

mutual

theorem prettyAt_eq (depth : Nat) : ∀ tree : Tree, tree.prettyAt depth = tree.spaced .lines depth
  | .null | .boolean _ | .number _ | .text _ | .array [] | .object [] => rfl
  | .array (item :: rest) => by
      rw [Tree.prettyAt, prettyItems_eq (depth + 1) (item :: rest)]
      rfl
  | .object (field :: rest) => by
      rw [Tree.prettyAt, prettyFields_eq (depth + 1) (field :: rest)]
      rfl

theorem prettyItems_eq (depth : Nat) : ∀ items : List Tree,
    prettyItems depth items = spacedItems .lines depth items
  | [] => rfl
  | [item] => by
      rw [prettyItems, prettyAt_eq depth item]
      rfl
  | item :: next :: rest => by
      rw [prettyItems, prettyAt_eq depth item, prettyItems_eq depth (next :: rest)]
      rfl

theorem prettyFields_eq (depth : Nat) : ∀ fields : List (List Piece × Tree),
    prettyFields depth fields = spacedFields .lines depth fields
  | [] => rfl
  | [(key, tree)] => by
      rw [prettyFields, prettyAt_eq depth tree, spacedFields]
      simp [Spacing.lines]
  | (key, tree) :: next :: rest => by
      rw [prettyFields, prettyAt_eq depth tree, prettyFields_eq depth (next :: rest), spacedFields]
      simp [Spacing.lines]

end

mutual

theorem compact_eq (depth : Nat) : ∀ tree : Tree, tree.compact = tree.spaced .none depth
  | .null | .boolean _ | .number _ | .text _ | .array [] | .object [] => rfl
  | .array (item :: rest) => by
      rw [Tree.compact, compactItems_eq (depth + 1) (item :: rest), Tree.spaced]
      simp [Spacing.none]
  | .object (field :: rest) => by
      rw [Tree.compact, compactFields_eq (depth + 1) (field :: rest), Tree.spaced]
      simp [Spacing.none]

theorem compactItems_eq (depth : Nat) : ∀ items : List Tree,
    compactItems items = spacedItems .none depth items
  | [] => rfl
  | [item] => by
      rw [compactItems, compact_eq depth item]
      rfl
  | item :: next :: rest => by
      rw [compactItems, compact_eq depth item, compactItems_eq depth (next :: rest)]
      rfl

theorem compactFields_eq (depth : Nat) : ∀ fields : List (List Piece × Tree),
    compactFields fields = spacedFields .none depth fields
  | [] => rfl
  | [(key, tree)] => by
      rw [compactFields, compact_eq depth tree, spacedFields]
      simp [Spacing.none]
  | (key, tree) :: next :: rest => by
      rw [compactFields, compact_eq depth tree, compactFields_eq depth (next :: rest), spacedFields]
      simp [Spacing.none]

end

/-! ## From written forms to tokens -/

variable (spacing : Spacing)

mutual

/-- A written form of a tree is read as its tokens, before anything that ends a number. -/
theorem tokens_spaced (depth : Nat) : ∀ (tree : Tree) {rest : List (Option Char)},
    tree.Writable → Ends rest →
    Mode.between.tokens ((tree.spaced spacing depth).map some ++ rest) =
      (Mode.between.tokens rest).map (tree.tokens ++ ·)
  | .null, rest, writable, ends => tokens_null rest
  | .boolean flag, rest, writable, ends => tokens_boolean flag rest
  | .number text, rest, writable, ends => by
      cases writable with
      | number isNumber => exact tokens_numberText isNumber ends
  | .text pieces, rest, writable, ends => by
      cases writable with
      | text text => exact tokens_stringText text rest
  | .array [], rest, writable, ends => by
      have opened : Mode.between.step (some '[') = some ([.openArray], .between) := rfl
      have closed : Mode.between.step (some ']') = some ([.closeArray], .between) := rfl
      simp only [Tree.spaced, List.map_cons, List.map_nil, List.cons_append, List.nil_append]
      rw [tokens_complete opened, tokens_complete closed, Option.map_map]
      rfl
  | .array (item :: items), rest, writable, ends => by
      have all : ∀ tree ∈ item :: items, tree.Writable := by
        cases writable with
        | array all => exact all
      have opened : Mode.between.step (some '[') = some ([.openArray], .between) := rfl
      have closed : Mode.between.step (some ']') = some ([.closeArray], .between) := rfl
      simp only [Tree.spaced, List.map_append, List.map_cons, List.map_nil, List.cons_append,
        List.append_assoc, List.nil_append]
      rw [tokens_complete opened,
        tokens_spacedItems (depth + 1) (item :: items) all
          (spacing.ends_line depth _ (ends_closeArray _)),
        spacing.skips_line, tokens_complete closed]
      simp [Tree.tokens, Function.comp_def]
  | .object [], rest, writable, ends => by
      have opened : Mode.between.step (some '\x7B') = some ([.openObject], .between) := rfl
      have closed : Mode.between.step (some '\x7D') = some ([.closeObject], .between) := rfl
      simp only [Tree.spaced, List.map_cons, List.map_nil, List.cons_append, List.nil_append]
      rw [tokens_complete opened, tokens_complete closed, Option.map_map]
      rfl
  | .object (field :: fields), rest, writable, ends => by
      obtain ⟨keys, all⟩ : (∀ held ∈ field :: fields, ∃ key : List Char,
          held.1 = key.map Piece.char) ∧ ∀ held ∈ field :: fields, held.2.Writable := by
        cases writable with
        | object keys all => exact ⟨keys, all⟩
      have opened : Mode.between.step (some '\x7B') = some ([.openObject], .between) := rfl
      have closed : Mode.between.step (some '\x7D') = some ([.closeObject], .between) := rfl
      simp only [Tree.spaced, List.map_append, List.map_cons, List.map_nil, List.cons_append,
        List.append_assoc, List.nil_append]
      rw [tokens_complete opened,
        tokens_spacedFields (depth + 1) (field :: fields) keys all
          (spacing.ends_line depth _ (ends_closeObject _)),
        spacing.skips_line, tokens_complete closed]
      simp [Tree.tokens, Function.comp_def]

theorem tokens_spacedItems (depth : Nat) : ∀ (items : List Tree) {rest : List (Option Char)},
    (∀ item ∈ items, item.Writable) → Ends rest →
    Mode.between.tokens ((spacedItems spacing depth items).map some ++ rest) =
      (Mode.between.tokens rest).map (itemTokens items ++ ·)
  | [], rest, all, ends => by simp [spacedItems, itemTokens]
  | [item], rest, all, ends => by
      simp only [spacedItems, itemTokens, List.map_append, List.append_assoc]
      rw [spacing.skips_line, tokens_spaced depth item (all item (by simp)) ends]
  | item :: next :: items, rest, all, ends => by
      obtain ⟨first, others⟩ := List.forall_mem_cons.mp all
      have separated : Mode.between.step (some ',') = some ([.comma], .between) := rfl
      simp only [spacedItems, List.map_append, List.map_cons, List.append_assoc, List.cons_append]
      rw [spacing.skips_line, tokens_spaced depth item first (ends_comma _),
        tokens_complete separated, tokens_spacedItems depth (next :: items) others ends]
      simp [itemTokens, Function.comp_def]

theorem tokens_spacedFields (depth : Nat) : ∀ (fields : List (List Piece × Tree))
    {rest : List (Option Char)},
    (∀ field ∈ fields, ∃ key : List Char, field.1 = key.map Piece.char) →
    (∀ field ∈ fields, field.2.Writable) → Ends rest →
    Mode.between.tokens ((spacedFields spacing depth fields).map some ++ rest) =
      (Mode.between.tokens rest).map (fieldTokens fields ++ ·)
  | [], rest, keys, all, ends => by simp [spacedFields, fieldTokens]
  | [(key, tree)], rest, keys, all, ends => by
      obtain ⟨⟨text, same⟩, -⟩ := List.forall_mem_cons.mp keys
      obtain ⟨first, -⟩ := List.forall_mem_cons.mp all
      obtain rfl : key = text.map Piece.char := same
      have marked : Mode.between.step (some ':') = some ([.colon], .between) := rfl
      simp only [spacedFields, List.map_append, List.map_cons, List.append_assoc, List.cons_append]
      rw [spacing.skips_line, tokens_stringText, tokens_complete marked, spacing.skips_gap,
        tokens_spaced depth tree first ends]
      simp [fieldTokens, Function.comp_def]
  | (key, tree) :: next :: fields, rest, keys, all, ends => by
      obtain ⟨⟨text, same⟩, otherKeys⟩ := List.forall_mem_cons.mp keys
      obtain ⟨first, others⟩ := List.forall_mem_cons.mp all
      obtain rfl : key = text.map Piece.char := same
      have marked : Mode.between.step (some ':') = some ([.colon], .between) := rfl
      have separated : Mode.between.step (some ',') = some ([.comma], .between) := rfl
      simp only [spacedFields, List.map_append, List.map_cons, List.append_assoc, List.cons_append]
      rw [spacing.skips_line, tokens_stringText, tokens_complete marked, spacing.skips_gap,
        tokens_spaced depth tree first (ends_comma _), tokens_complete separated,
        tokens_spacedFields depth (next :: fields) otherKeys others ends]
      simp [fieldTokens, Function.comp_def]

end

theorem ofText?_spaced {tree : Tree} (writable : tree.Writable) :
    Tree.ofText? (tree.spaced spacing 0) = some tree := by
  have read := tokens_spaced spacing 0 tree writable ends_nil
  rw [List.append_nil] at read
  have text : tokens? ((tree.spaced spacing 0).map some) = some tree.tokens := by
    rw [tokens?, read]
    simp [Mode.tokens, Mode.finish]
  rw [Tree.ofText?, Tree.ofSymbols?, text]
  exact ofTokens?_tokens tree

theorem ofText?_pretty {tree : Tree} (writable : tree.Writable) :
    Tree.ofText? tree.pretty = some tree := by
  rw [Tree.pretty, prettyAt_eq]
  exact ofText?_spaced .lines writable

theorem ofText?_compact {tree : Tree} (writable : tree.Writable) :
    Tree.ofText? tree.compact = some tree := by
  rw [compact_eq 0]
  exact ofText?_spaced .none writable

end InferenceBench.Json

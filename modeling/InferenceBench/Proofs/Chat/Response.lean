import InferenceBench.Chat.Response
import InferenceBench.Proofs.Json.Lookup
import InferenceBench.Proofs.Text.Utf8

/-! # Responses and the values that they spell

A body that is a document without repeated keys is read as a response just where the fields that a
response knows have the right form in the value of the document, and then with what these fields
hold. So neither the order of the fields nor any other field matters.
-/

namespace InferenceBench

open Json

namespace Chat

/-! ## Responses from values -/

def Usage.ofValue? (value : Value) : Option Usage :=
  value.fields?.bind fun fields => do
    let promptTokens ← fields.withDefault? (Value.naturalBelow? UInt64.size) 0 "prompt_tokens"
    let completionTokens ←
      fields.withDefault? (Value.naturalBelow? UInt64.size) 0 "completion_tokens"
    pure ⟨promptTokens, completionTokens⟩

def contentOfMessage? (value : Value) : Option (Option String) :=
  value.fields?.bind (Fields.withDefault? (Value.nullable? Value.asText?) none "content")

def contentOfChoice? (value : Value) : Option (Option String) :=
  value.fields?.bind (Fields.required? contentOfMessage? "message")

def Response.ofFields? (fields : Fields) : Option Response := do
  let usage ← fields.withDefault? (Value.nullable? Usage.ofValue?) none "usage"
  let contents ← fields.withDefault? (Value.list? contentOfChoice?) [] "choices"
  pure ⟨usage, contents⟩

/-- No record of a response is written as an array of its fields. -/
structure RecordsPlain (fields : Fields) : Prop where
  usage : ∀ items, fields.find? "usage" ≠ some (.array items)
  choices : ∀ items, fields.find? "choices" = some (.array items) →
    ∀ choice ∈ items, ∀ inner, choice ≠ .array inner
  messages : ∀ items, fields.find? "choices" = some (.array items) →
    ∀ choice ∈ items, ∀ inner, choice.field? "message" ≠ some (.array inner)

theorem usage_eq {tree : Tree} {value : Value} (spells : tree.Spells value)
    (plain : ∀ items, value ≠ .array items) : Usage.ofTree? tree = Usage.ofValue? value := by
  refine record_eq spells plain fun slots (fields : Fields) _ agree => ?_
  have count : ∀ name ∈ ["prompt_tokens", "completion_tokens"],
      slots.withDefault 0 (Tree.naturalBelow? UInt64.size) name =
        fields.withDefault? (Value.naturalBelow? UInt64.size) 0 name := fun name known =>
    withDefault_eq agree known (fun _ _ _ spells => naturalBelow?_eq spells _) 0
  simp only [count "prompt_tokens" (by simp), count "completion_tokens" (by simp)]

theorem message_eq {tree : Tree} {value : Value} (spells : tree.Spells value)
    (plain : ∀ items, value ≠ .array items) : messageContent? tree = contentOfMessage? value :=
  record_eq spells plain fun _ _ _ agree =>
    withDefault_eq agree (by simp)
      (fun _ _ _ spells => nullable?_eq spells (string?_eq_asText? spells)) none

theorem choice_eq {tree : Tree} {value : Value} (spells : tree.Spells value)
    (plain : ∀ items, value ≠ .array items)
    (messagePlain : ∀ items, value.field? "message" ≠ some (.array items)) :
    choiceContent? tree = contentOfChoice? value := by
  refine record_eq spells plain fun slots fields same agree => ?_
  subst same
  refine required_eq agree (by simp) fun message found tree spells => message_eq spells ?_
  rintro items rfl
  exact messagePlain items found

theorem response_eq {tree : Tree} {fields : Fields} (spells : tree.Spells (.object fields))
    (plain : RecordsPlain fields) : Response.ofTree? tree = Response.ofFields? fields := by
  change Response.ofTree? tree = (Value.object fields).fields?.bind Response.ofFields?
  refine record_eq spells (by simp) fun slots others same agree => ?_
  obtain rfl := Value.object.inj same
  have usage : slots.withDefault none (Tree.nullable? Usage.ofTree?) "usage" =
      fields.withDefault? (Value.nullable? Usage.ofValue?) none "usage" := by
    refine withDefault_eq agree (by simp) (fun value found tree spells => ?_) none
    refine nullable?_eq spells (usage_eq spells ?_)
    rintro items rfl
    exact plain.usage items found
  have contents : slots.withDefault [] (Tree.list? choiceContent?) "choices" =
      fields.withDefault? (Value.list? contentOfChoice?) [] "choices" := by
    refine withDefault_eq agree (by simp) (fun value found tree spells => ?_) []
    refine list?_eq spells ?_
    rintro items rfl choice among tree spells
    exact choice_eq spells (plain.choices items found choice among)
      (plain.messages items found choice among)
  simp only [usage, contents, Response.ofFields?]

/-! ## The form of a response -/

/-- A number of tokens may be missing. -/
inductive CountFits : Option Value → Prop
  | absent : CountFits none
  | natural {n} : n < 2 ^ 64 → CountFits (some (.number (.natural n)))

inductive UsageFits : Option Value → Prop
  | absent : UsageFits none
  | null : UsageFits (some .null)
  | object {fields : Fields} : CountFits (fields.find? "prompt_tokens") →
      CountFits (fields.find? "completion_tokens") → UsageFits (some (.object fields))

inductive ContentFits : Option Value → Prop
  | absent : ContentFits none
  | null : ContentFits (some .null)
  | text (text : String) : ContentFits (some (.text text))

/-- A choice has a message, which must be an object. -/
inductive ChoiceFits : Value → Prop
  | object {fields message : Fields} : fields.find? "message" = some (.object message) →
      ContentFits (message.find? "content") → ChoiceFits (.object fields)

inductive ChoicesFit : Option Value → Prop
  | absent : ChoicesFit none
  | array {items} : (∀ choice ∈ items, ChoiceFits choice) → ChoicesFit (some (.array items))

structure ResponseFits (fields : Fields) : Prop where
  usage : UsageFits (fields.find? "usage")
  choices : ChoicesFit (fields.find? "choices")

/-- The number under a name in the usage, zero if there is none. -/
def tokensIn (fields : Fields) (name : String) : Nat :=
  (((fields.find? "usage").bind (Value.field? name)).bind Value.asNatural?).getD 0

def firstItem? : Value → Option Value
  | .array (item :: _) => some item
  | _ => none

def contentIn (choice : Value) : Option String :=
  ((choice.field? "message").bind (Value.field? "content")).bind Value.asText?

/-- The text of the message of the first choice. -/
def firstContentIn (fields : Fields) : Option String :=
  ((fields.find? "choices").bind firstItem?).bind contentIn

section

variable {held : Option Value}

theorem count_of_read {n : Nat}
    (read : held.elim (some 0) (Value.naturalBelow? UInt64.size) = some n) :
    CountFits held ∧ n = (held.bind Value.asNatural?).getD 0 := by
  cases held with
  | none =>
      obtain rfl := Option.some.inj read
      exact ⟨.absent, rfl⟩
  | some value =>
      simp only [Option.elim_some] at read
      cases value with
      | number number =>
          cases number with
          | natural m =>
              simp only [Value.naturalBelow?] at read
              split at read
              · next below =>
                  obtain rfl := Option.some.inj read
                  exact ⟨.natural below, rfl⟩
              · cases read
          | negative | real => cases read
      | null | boolean | text | array | object => cases read

theorem count_of_fits (fits : CountFits held) :
    ∃ n, held.elim (some 0) (Value.naturalBelow? UInt64.size) = some n := by
  cases fits with
  | absent => exact ⟨0, rfl⟩
  | natural below => exact ⟨_, if_pos below⟩

theorem usage_of_read {usage : Option Usage}
    (read : held.elim (some none) (Value.nullable? Usage.ofValue?) = some usage) :
    UsageFits held ∧
      (usage.elim 0 Usage.promptTokens =
        ((held.bind (Value.field? "prompt_tokens")).bind Value.asNatural?).getD 0) ∧
      usage.elim 0 Usage.completionTokens =
        ((held.bind (Value.field? "completion_tokens")).bind Value.asNatural?).getD 0 := by
  cases held with
  | none =>
      obtain rfl := Option.some.inj read
      exact ⟨.absent, rfl, rfl⟩
  | some value =>
      cases value with
      | null =>
          obtain rfl := Option.some.inj read
          exact ⟨.null, rfl, rfl⟩
      | object fields =>
          obtain ⟨usage, ofFields, rfl⟩ := Option.map_eq_some_iff.mp read
          obtain ⟨_, isObject, ofFields⟩ := Option.bind_eq_some_iff.mp ofFields
          obtain rfl := Option.some.inj isObject
          obtain ⟨promptTokens, prompt, ofFields⟩ := Option.bind_eq_some_iff.mp ofFields
          obtain ⟨completionTokens, completion, same⟩ := Option.bind_eq_some_iff.mp ofFields
          obtain rfl := Option.some.inj same
          obtain ⟨promptFits, promptIs⟩ := count_of_read prompt
          obtain ⟨completionFits, completionIs⟩ := count_of_read completion
          exact ⟨.object promptFits completionFits, promptIs, completionIs⟩
      | boolean | number | text | array => cases read

theorem usage_of_fits (fits : UsageFits held) :
    ∃ usage, held.elim (some none) (Value.nullable? Usage.ofValue?) = some usage := by
  cases fits with
  | absent | null => exact ⟨none, rfl⟩
  | @object fields promptFits completionFits =>
      obtain ⟨promptTokens, prompt⟩ := count_of_fits promptFits
      obtain ⟨completionTokens, completion⟩ := count_of_fits completionFits
      have ofFields : Usage.ofValue? (.object fields) = some ⟨promptTokens, completionTokens⟩ := by
        simp [Usage.ofValue?, Value.fields?, Fields.withDefault?, prompt, completion]
      exact ⟨_, congrArg (Option.map some) ofFields⟩

theorem content_of_read {content : Option String}
    (read : held.elim (some none) (Value.nullable? Value.asText?) = some content) :
    ContentFits held ∧ content = held.bind Value.asText? := by
  cases held with
  | none =>
      obtain rfl := Option.some.inj read
      exact ⟨.absent, rfl⟩
  | some value =>
      cases value with
      | null =>
          obtain rfl := Option.some.inj read
          exact ⟨.null, rfl⟩
      | text text =>
          obtain rfl := Option.some.inj read
          exact ⟨.text text, rfl⟩
      | boolean | number | array | object => cases read

theorem content_of_fits (fits : ContentFits held) :
    ∃ content, held.elim (some none) (Value.nullable? Value.asText?) = some content := by
  cases fits with
  | absent | null => exact ⟨none, rfl⟩
  | text text => exact ⟨some text, rfl⟩

theorem choice_of_read {choice : Value} {content : Option String}
    (read : contentOfChoice? choice = some content) :
    ChoiceFits choice ∧ content = contentIn choice := by
  obtain ⟨fields, isObject, read⟩ := Option.bind_eq_some_iff.mp read
  obtain ⟨message, found, read⟩ := Option.bind_eq_some_iff.mp read
  obtain ⟨inner, messageIsObject, read⟩ := Option.bind_eq_some_iff.mp read
  cases choice with
  | object _ =>
      obtain rfl := Option.some.inj isObject
      cases message with
      | object _ =>
          obtain rfl := Option.some.inj messageIsObject
          obtain ⟨fits, same⟩ := content_of_read read
          exact ⟨.object found fits, by simp [contentIn, Value.field?, found, same]⟩
      | null | boolean | number | text | array => cases messageIsObject
  | null | boolean | number | text | array => cases isObject

theorem choice_of_fits {choice : Value} (fits : ChoiceFits choice) :
    ∃ content, contentOfChoice? choice = some content := by
  cases fits with
  | object found fits =>
      obtain ⟨content, read⟩ := content_of_fits fits
      refine ⟨content, ?_⟩
      simp [contentOfChoice?, Value.fields?, Fields.required?, found, contentOfMessage?,
        Fields.withDefault?, read]

theorem items_of_read {items : List Value} {contents : List (Option String)}
    (read : items.mapM contentOfChoice? = some contents) :
    (∀ choice ∈ items, ChoiceFits choice) ∧ contents = items.map contentIn := by
  induction items generalizing contents with
  | nil =>
      obtain rfl := Option.some.inj read
      simp
  | cons choice items ih =>
      rw [List.mapM_cons] at read
      obtain ⟨content, first, read⟩ := Option.bind_eq_some_iff.mp read
      obtain ⟨rest, later, same⟩ := Option.bind_eq_some_iff.mp read
      obtain rfl := Option.some.inj same
      obtain ⟨fits, rfl⟩ := choice_of_read first
      obtain ⟨others, rfl⟩ := ih later
      exact ⟨List.forall_mem_cons.mpr ⟨fits, others⟩, rfl⟩

theorem items_of_fits {items : List Value} (fits : ∀ choice ∈ items, ChoiceFits choice) :
    ∃ contents, items.mapM contentOfChoice? = some contents := by
  induction items with
  | nil => exact ⟨[], rfl⟩
  | cons choice items ih =>
      obtain ⟨first, later⟩ := List.forall_mem_cons.mp fits
      obtain ⟨content, read⟩ := choice_of_fits first
      obtain ⟨contents, rest⟩ := ih later
      exact ⟨content :: contents, by simp [read, rest]⟩

theorem choices_of_read {contents : List (Option String)}
    (read : held.elim (some []) (Value.list? contentOfChoice?) = some contents) :
    ChoicesFit held ∧ contents.head?.join = (held.bind firstItem?).bind contentIn := by
  cases held with
  | none =>
      obtain rfl := Option.some.inj read
      exact ⟨.absent, rfl⟩
  | some value =>
      cases value with
      | array items =>
          obtain ⟨fits, rfl⟩ := items_of_read read
          exact ⟨.array fits, by cases items <;> rfl⟩
      | null | boolean | number | text | object => cases read

theorem choices_of_fits (fits : ChoicesFit held) :
    ∃ contents, held.elim (some []) (Value.list? contentOfChoice?) = some contents := by
  cases fits with
  | absent => exact ⟨[], rfl⟩
  | array all => exact items_of_fits all

end

section

variable {fields : Fields} {response : Response}

theorem response_of_read (read : Response.ofFields? fields = some response) :
    ResponseFits fields ∧ response.promptTokens = tokensIn fields "prompt_tokens" ∧
      response.completionTokens = tokensIn fields "completion_tokens" ∧
      response.firstContent? = firstContentIn fields := by
  obtain ⟨usage, usageRead, read⟩ := Option.bind_eq_some_iff.mp read
  obtain ⟨contents, choicesRead, same⟩ := Option.bind_eq_some_iff.mp read
  obtain rfl := Option.some.inj same
  obtain ⟨usageFits, prompt, completion⟩ := usage_of_read usageRead
  obtain ⟨choicesFit, first⟩ := choices_of_read choicesRead
  refine ⟨⟨usageFits, choicesFit⟩, ?_, ?_, ?_⟩
  · cases usage <;> exact prompt
  · cases usage <;> exact completion
  · cases contents <;> exact first

theorem response_of_fits (fits : ResponseFits fields) :
    ∃ response, Response.ofFields? fields = some response := by
  obtain ⟨usage, usageRead⟩ := usage_of_fits fits.usage
  obtain ⟨contents, choicesRead⟩ := choices_of_fits fits.choices
  exact ⟨⟨usage, contents⟩, by
    simp [Response.ofFields?, Fields.withDefault?, usageRead, choicesRead]⟩

end

/-! ## Fields that no response knows -/

/-- What is looked at of a usage, of a message and of a choice. -/
def usageFields : List (String × (Value → Value → Prop)) :=
  [("prompt_tokens", Eq), ("completion_tokens", Eq)]

def messageFields : List (String × (Value → Value → Prop)) := [("content", Eq)]

def choiceFields : List (String × (Value → Value → Prop)) :=
  [("message", Value.RecordsAlike messageFields)]

def responseFields : List (String × (Value → Value → Prop)) :=
  [("usage", Value.RecordsAlike usageFields),
    ("choices", Value.ListsAlike (Value.RecordsAlike choiceFields))]

theorem usage_congr {value other : Value} (alike : value.RecordsAlike usageFields other) :
    Usage.ofValue? value = Usage.ofValue? other := by
  refine record_congr alike fun fields others known => ?_
  have count : ∀ name ∈ ["prompt_tokens", "completion_tokens"],
      fields.withDefault? (Value.naturalBelow? UInt64.size) 0 name =
        others.withDefault? (Value.naturalBelow? UInt64.size) 0 name := fun name among =>
    withDefault?_congr (known name Eq (by simpa [usageFields] using among))
      (fun _ _ same => congrArg _ same) 0
  simp only [count "prompt_tokens" (by simp), count "completion_tokens" (by simp)]

theorem choice_congr {value other : Value} (alike : value.RecordsAlike choiceFields other) :
    contentOfChoice? value = contentOfChoice? other := by
  refine record_congr alike fun fields others known => ?_
  have messages := known "message" (Value.RecordsAlike messageFields) (by simp [choiceFields])
  refine required?_congr messages fun message another alike => ?_
  refine record_congr alike fun fields others known => ?_
  have contents := known "content" Eq (by simp [messageFields])
  exact withDefault?_congr contents (fun _ _ same => congrArg _ same) none

theorem response_congr {fields others : Fields} (alike : fields.AlikeUnder responseFields others) :
    Response.ofFields? fields = Response.ofFields? others := by
  have usages := alike "usage" (Value.RecordsAlike usageFields) (by simp [responseFields])
  have choices := alike "choices" (Value.ListsAlike (Value.RecordsAlike choiceFields))
    (by simp [responseFields])
  have usage := withDefault?_congr usages
    (fun _ _ alike => nullable?_congr alike (usage_congr alike)) none
  have contents := withDefault?_congr choices
    (fun _ _ alike => list?_congr alike fun _ _ => choice_congr) []
  simp only [Response.ofFields?, usage, contents]

/-! ## Bodies -/

/-- A body that is an object without repeated keys, none of whose records is an array. -/
structure PlainBody (text : List Char) (fields : Fields) : Prop where
  spelled : ∃ tree, Tree.ofText? text = some tree ∧ tree.value? = some (.object fields) ∧
    tree.Unrepeated
  plain : RecordsPlain fields

theorem PlainBody.ofBody?_eq {text : List Char} {fields : Fields} (body : PlainBody text fields) :
    Response.ofBody? (Utf8.encode text) = Response.ofFields? fields := by
  obtain ⟨tree, ofText, value, unrepeated⟩ := body.spelled
  have ofBytes : Tree.ofBytes? (Utf8.encode text) = some tree := by
    rw [Tree.ofBytes?, Utf8.symbols_encode]
    exact ofText
  rw [Response.ofBody?, ofBytes]
  exact response_eq ⟨⟨_, value⟩, unrepeated⟩ body.plain

/-! A completion, and the same one with further fields. -/

def usageTree : Tree := .object [field "prompt_tokens" (.number "12".toList)]

def messageTree : Tree := .object [field "content" (.ofChars "hi".toList)]

def completionTree : Tree :=
  .object
    [field "usage" usageTree, field "choices" (.array [.object [field "message" messageTree]])]

/-- The same with further fields, in another order. -/
def labelledTree : Tree :=
  .object [field "id" .null,
    field "choices" (.array [.object [field "index" .null, field "message" messageTree]]),
    field "usage" usageTree]

def usageValue : Value := .object [("prompt_tokens", .number (.natural 12))]

def messageValue : Value := .object [("content", .text "hi")]

def completionFields : Fields :=
  [("choices", .array [.object [("message", messageValue)]]), ("usage", usageValue)]

def labelledFields : Fields :=
  [("choices", .array [.object [("index", .null), ("message", messageValue)]]), ("id", .null),
    ("usage", usageValue)]

theorem plain_of_one_choice {fields choice : Fields}
    (usage : fields.find? "usage" = some usageValue)
    (choices : fields.find? "choices" = some (.array [.object choice]))
    (message : choice.find? "message" = some messageValue) : RecordsPlain fields where
  usage := by
    intro items isArray
    rw [usage] at isArray
    cases isArray
  choices := by
    intro items isArray
    obtain rfl := Value.array.inj (Option.some.inj (choices.symm.trans isArray))
    simp
  messages := by
    intro items isArray
    obtain rfl := Value.array.inj (Option.some.inj (choices.symm.trans isArray))
    simp [Value.field?, message, messageValue]

theorem completion_plain : PlainBody completionTree.compact completionFields where
  spelled := by
    refine ⟨completionTree, rfl, rfl, ?_⟩
    simp [completionTree, usageTree, messageTree, field, Tree.ofChars, keyName?, pieceText?]
  plain := plain_of_one_choice rfl rfl rfl

theorem labelled_plain : PlainBody labelledTree.compact labelledFields where
  spelled := by
    refine ⟨labelledTree, rfl, rfl, ?_⟩
    simp [labelledTree, usageTree, messageTree, field, Tree.ofChars, keyName?, pieceText?]
  plain := plain_of_one_choice rfl rfl rfl

theorem completion_alike : completionFields.AlikeUnder responseFields labelledFields := by
  intro name alike known
  simp only [responseFields, List.mem_cons, List.not_mem_nil, or_false, Prod.mk.injEq] at known
  rcases known with ⟨rfl, rfl⟩ | ⟨rfl, rfl⟩
  · exact .some (.same usageValue)
  · refine .some (.array (.cons (.object ?_) .nil))
    intro name alike known
    obtain ⟨rfl, rfl⟩ : name = "message" ∧ alike = Value.RecordsAlike messageFields := by
      simpa [choiceFields] using known
    exact .some (.same messageValue)

/-- A body is read as a response just where its value has the form of one, and with what the value
holds. Other fields than those of a response change nothing. -/
theorem response_agrees_with_value {text : List Char} {fields : Fields}
    (body : PlainBody text fields) :
    ((Response.ofBody? (Utf8.encode text)).isSome ↔ ResponseFits fields) ∧
    (∀ response, Response.ofBody? (Utf8.encode text) = some response →
      response.promptTokens = tokensIn fields "prompt_tokens" ∧
      response.completionTokens = tokensIn fields "completion_tokens" ∧
      response.firstContent? = firstContentIn fields) ∧
    ∀ other others, PlainBody other others → fields.AlikeUnder responseFields others →
      Response.ofBody? (Utf8.encode other) = Response.ofBody? (Utf8.encode text) := by
  rw [body.ofBody?_eq]
  refine ⟨⟨?_, ?_⟩, ?_, ?_⟩
  · intro isSome
    obtain ⟨response, read⟩ := Option.isSome_iff_exists.mp isSome
    exact (response_of_read read).1
  · intro fits
    exact Option.isSome_iff_exists.mpr (response_of_fits fits)
  · intro response read
    exact (response_of_read read).2
  · intro other others otherBody alike
    rw [otherBody.ofBody?_eq, response_congr alike]

/-- The counts and the text of a completion, also when it comes with further fields. -/
theorem response_agrees_with_value_completion :
    PlainBody completionTree.compact completionFields ∧
    PlainBody labelledTree.compact labelledFields ∧
    completionFields.AlikeUnder responseFields labelledFields ∧
    (∃ response, Response.ofBody? (Utf8.encode completionTree.compact) = some response ∧
      response.promptTokens = 12 ∧ response.completionTokens = 0 ∧
      response.firstContent? = some "hi") ∧
    Response.ofBody? (Utf8.encode labelledTree.compact) =
      Response.ofBody? (Utf8.encode completionTree.compact) := by
  obtain ⟨read, holds, unchanged⟩ := response_agrees_with_value completion_plain
  have fits : ResponseFits completionFields :=
    ⟨.object (.natural (by decide)) .absent, .array (by
      rintro choice (_ | ⟨_, ⟨⟩⟩)
      exact .object rfl (.text "hi"))⟩
  obtain ⟨response, ofBody⟩ := Option.isSome_iff_exists.mp (read.mpr fits)
  refine ⟨completion_plain, labelled_plain, completion_alike, ⟨response, ofBody, ?_⟩, ?_⟩
  · exact holds response ofBody
  · exact unchanged _ _ labelled_plain completion_alike

end Chat

end InferenceBench

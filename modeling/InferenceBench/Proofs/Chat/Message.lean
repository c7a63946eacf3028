import InferenceBench.Chat.Message
import InferenceBench.Proofs.Json.Record

/-! # Requests read back

A request is read back from the body in which it is sent, whatever characters its texts hold. So
two requests that differ are sent in different bodies.
-/

namespace InferenceBench.Chat

open Json

/-! ## Messages -/

/-- The fields of a message as it is written. -/
def Message.fields (message : Message) : List (String × Tree) :=
  [("role", .ofString message.role), ("content", .ofString message.content)]

theorem Message.slots?_tree (message : Message) :
    message.tree.slots? ["role", "content"] = some (.ofFields message.fields) :=
  slots?_object message.fields (show ["role", "content"].Nodup by decide)

@[simp]
theorem Message.ofTree?_tree (message : Message) : ofTree? message.tree = some message := by
  simp [ofTree?, slots?_tree, fields, Slots.ofFields, Slots.required, Slots.tree?]

theorem Message.writable_tree (message : Message) : message.tree.Writable := by
  apply Tree.Writable.record message.fields
  intro held member
  simp only [fields, List.mem_cons, List.not_mem_nil, or_false] at member
  obtain rfl | rfl := member
  · exact .text message.role.toList
  · exact .text message.content.toList

/-! ## Requests -/

namespace Request

/-- The fields of a request as it is written. -/
def fields (request : Request) : List (String × Tree) :=
  [("model", .ofString request.model), ("messages", .array (request.messages.map Message.tree)),
    ("max_tokens", .ofNat request.maxTokens), ("temperature", .ofSingle request.temperature)]

theorem slots?_tree (request : Request) :
    request.tree.slots? ["model", "messages", "max_tokens", "temperature"] =
      some (.ofFields request.fields) :=
  slots?_object request.fields
    (show ["model", "messages", "max_tokens", "temperature"].Nodup by decide)

theorem ofTree?_tree {request : Request} (short : request.maxTokens < UInt32.size)
    (temperature : (Tree.ofSingle request.temperature).single? = some request.temperature) :
    ofTree? request.tree = some request := by
  have messages : (Tree.array (request.messages.map Message.tree)).list? Message.ofTree? =
      some request.messages := list?_array _ fun message _ => message.ofTree?_tree
  have maxTokens := naturalBelow?_ofNat short (by decide)
  simp [ofTree?, slots?_tree, fields, Slots.ofFields, Slots.required, Slots.tree?, messages,
    maxTokens, temperature]

theorem writable_tree {request : Request} (short : request.maxTokens < UInt32.size)
    (temperature : (Tree.ofSingle request.temperature).Writable) : request.tree.Writable := by
  apply Tree.Writable.record request.fields
  intro held member
  simp only [fields, List.mem_cons, List.not_mem_nil, or_false] at member
  obtain rfl | rfl | rfl | rfl := member
  · exact .text request.model.toList
  · exact .array (List.forall_mem_map.mpr fun message _ => message.writable_tree)
  · exact writable_ofNat (short.trans (by decide))
  · exact temperature

theorem readBack_zero :
    (Tree.ofSingle 0).Writable ∧ (Tree.ofSingle 0).single? = some 0 := by
  have written : Tree.ofSingle 0 = .number ['0', '.', '0'] := rfl
  rw [written]
  exact ⟨.number (.unsigned ⟨.fraction, rfl, rfl⟩), rfl⟩

theorem ofBody?_body {request : Request} (spelled : Tree.ofText? request.body = some request.tree)
    (readBack : ofTree? request.tree = some request) :
    ofBody? (Utf8.encode request.body) = some request := by
  have spelled : Tree.ofSymbols? (request.body.map some) = some request.tree := spelled
  rw [ofBody?, Tree.ofBytes?, Utf8.symbols_encode, spelled, Option.bind_some, readBack]

section Deterministic

variable (model : String) (messages : List Message) (maxTokens : UInt32)

theorem ofText?_body_deterministic :
    let request := deterministic model messages maxTokens.toNat
    Tree.ofText? request.body = some request.tree :=
  ofText?_compact (writable_tree maxTokens.toNat_lt readBack_zero.1)

theorem ofBody?_body_deterministic :
    let request := deterministic model messages maxTokens.toNat
    ofBody? (Utf8.encode request.body) = some request :=
  ofBody?_body (ofText?_body_deterministic model messages maxTokens)
    (ofTree?_tree maxTokens.toNat_lt readBack_zero.2)

end Deterministic

end Request

/-- The body of a request is JSON for the request, and it is read as that request and no other:
requests that differ in the model, in a message or in the number of tokens have different
bodies. -/
theorem request_is_read_back (model : String) (messages : List Message) (maxTokens : UInt32) :
    let request := Request.deterministic model messages maxTokens.toNat
    Tree.ofText? request.body = some request.tree ∧
    Request.ofBody? (Utf8.encode request.body) = some request ∧
    ∀ (otherModel : String) (otherMessages : List Message) (otherTokens : UInt32),
      (Request.deterministic otherModel otherMessages otherTokens.toNat).body = request.body ↔
        otherModel = model ∧ otherMessages = messages ∧ otherTokens = maxTokens := by
  intro request
  have readBack : Request.ofBody? (Utf8.encode request.body) = some request :=
    Request.ofBody?_body_deterministic model messages maxTokens
  refine ⟨Request.ofText?_body_deterministic model messages maxTokens, readBack, ?_⟩
  intro otherModel otherMessages otherTokens
  constructor
  · intro same
    have other := Request.ofBody?_body_deterministic otherModel otherMessages otherTokens
    simp only [same, readBack, Option.some.injEq] at other
    obtain ⟨sameModel, sameMessages, sameTokens, -⟩ := Request.mk.inj other
    exact ⟨sameModel.symm, sameMessages.symm, (UInt32.toNat_inj.mp sameTokens).symm⟩
  · rintro ⟨rfl, rfl, rfl⟩
    rfl

/-- Quotes and line ends are escaped, other characters stand for themselves. -/
example : (Request.deterministic "m" [.user "\"é\"\n"] 1).body =
    ("\x7B\"model\":\"m\",\"messages\":[\x7B\"role\":\"user\",".toList ++
      "\"content\":\"\\\"é\\\"\\n\"\x7D],\"max_tokens\":1,\"temperature\":0.0\x7D".toList) := by
  decide +kernel

end InferenceBench.Chat

import Mathlib.Data.List.Sort

/-!
# `InteractionModel`

The interactions of a chat and the two questions asked about them: whether the chat is trusted
(`checkIfChatIsTrusted`) and which tool calls were blocked (`getBlockedToolCallIds`).  The table is the list of rows
in insertion order; `create` appends the row it is given.  A `Set` of ids is a list without duplicates.

* `checkIfChatIsTrusted_iff`, `mem_getBlockedToolCallIds`: what the two queries answer, over every table;
* `blocked_tool_call_in_trusted_chat`: an interaction created blocked but trusted leaves its chat trusted while its
  tool call is reported blocked;
* `checkIfChatIsTrusted_spec`: a chat is trusted exactly when each of its interactions was created trusted, and it
  has a blocked tool call only if one of them was created blocked; when every blocked interaction was created
  untrusted, a chat with a blocked tool call is untrusted.
-/

namespace Archestra

/-- The fields of an interaction's `content` that `getBlockedToolCallIds` reads. -/
structure InteractionContent where
  role : String
  toolCallId : Option String
  deriving DecidableEq, Repr

/-- A row of `interactions`: the columns the model reads. -/
structure Interaction where
  chatId : String
  content : InteractionContent
  trusted : Bool
  blocked : Bool
  createdAt : Nat
  deriving DecidableEq, Repr

namespace InteractionModel

/-- `create(data)`: the table with the new row, and the row. -/
def create (table : List Interaction) (data : Interaction) : List Interaction × Interaction := (table ++ [data], data)

/-- `findByChatId(chatId)`: the chat's interactions in ascending `createdAt`. -/
def findByChatId (table : List Interaction) (chatId : String) : List Interaction :=
  (table.filter (·.chatId == chatId)).insertionSort fun a b => a.createdAt ≤ b.createdAt

/-- `checkIfChatIsTrusted(chatId)`: no interaction of the chat has `trusted = false`. -/
def checkIfChatIsTrusted (table : List Interaction) (chatId : String) : Bool :=
  (table.filter fun i => i.chatId == chatId && i.trusted == false).length == 0

/-- One iteration of the loop of `getBlockedToolCallIds`: a blocked tool result adds its truthy `tool_call_id`. -/
def addBlocked (blockedToolCallIds : List String) (interaction : Interaction) : List String :=
  if interaction.blocked && interaction.content.role == "tool" then
    match interaction.content.toolCallId with
    | some toolCallId =>
      if toolCallId ≠ "" ∧ toolCallId ∉ blockedToolCallIds then blockedToolCallIds ++ [toolCallId]
      else blockedToolCallIds
    | none => blockedToolCallIds
  else blockedToolCallIds

/-- `getBlockedToolCallIds(chatId)`. -/
def getBlockedToolCallIds (table : List Interaction) (chatId : String) : List String :=
  (findByChatId table chatId).foldl addBlocked []

/-- The rows a sequence of `create` calls leaves: those before, then the new ones in order. -/
theorem create_foldl (table datas : List Interaction) :
    datas.foldl (fun t d => (create t d).1) table = table ++ datas := by
  induction datas generalizing table with
  | nil => simp
  | cons d datas ih =>
    rw [List.foldl_cons, ih]
    simp [create]

theorem mem_findByChatId {table : List Interaction} {chatId : String} {i : Interaction} :
    i ∈ findByChatId table chatId ↔ i ∈ table ∧ i.chatId = chatId := by
  simp [findByChatId, (List.perm_insertionSort _ _).mem_iff]

theorem checkIfChatIsTrusted_iff (table : List Interaction) (chatId : String) :
    checkIfChatIsTrusted table chatId = true ↔ ∀ i ∈ findByChatId table chatId, i.trusted = true := by
  simp [checkIfChatIsTrusted, mem_findByChatId, List.filter_eq_nil_iff]

/-- One iteration adds the `tool_call_id` of a blocked tool result, when it is truthy. -/
theorem mem_addBlocked (acc : List String) (i : Interaction) (x : String) :
    x ∈ addBlocked acc i ↔ x ∈ acc ∨ (i.blocked = true ∧ i.content.role = "tool" ∧
      i.content.toolCallId = some x ∧ x ≠ "") := by
  unfold addBlocked
  split_ifs with hb
  · simp only [Bool.and_eq_true, beq_iff_eq] at hb
    cases i.content.toolCallId with
    | none => simp
    | some y =>
      simp only [hb, Option.some.injEq, true_and]
      split_ifs with hy
      · simp only [List.mem_append, List.mem_singleton]
        constructor
        · rintro (h | rfl)
          exacts [.inl h, .inr ⟨rfl, hy.1⟩]
        · rintro (h | ⟨rfl, -⟩)
          exacts [.inl h, .inr rfl]
      · constructor
        · exact .inl
        · rintro (h | ⟨rfl, hne⟩)
          · exact h
          · exact not_not.1 fun h => hy ⟨hne, h⟩
  · simp only [Bool.and_eq_true, beq_iff_eq] at hb
    rw [iff_self_or]
    rintro ⟨h1, h2, -⟩
    exact absurd ⟨h1, h2⟩ hb

/-- An id is in the set the loop builds exactly when it was there before or a blocked tool result of the list
carries it. -/
theorem mem_foldl_addBlocked (is : List Interaction) (acc : List String) (x : String) :
    x ∈ is.foldl addBlocked acc ↔ x ∈ acc ∨ ∃ i ∈ is, i.blocked = true ∧ i.content.role = "tool" ∧
      i.content.toolCallId = some x ∧ x ≠ "" := by
  induction is generalizing acc with
  | nil => simp
  | cons i is ih =>
    rw [List.foldl_cons, ih, mem_addBlocked]
    simp only [List.mem_cons, exists_eq_or_imp]
    exact or_assoc

theorem mem_getBlockedToolCallIds (table : List Interaction) (chatId x : String) :
    x ∈ getBlockedToolCallIds table chatId ↔ ∃ i ∈ findByChatId table chatId, i.blocked = true ∧
      i.content.role = "tool" ∧ i.content.toolCallId = some x ∧ x ≠ "" := by
  simp [getBlockedToolCallIds, mem_foldl_addBlocked]

/-- An interaction created blocked but trusted: the chat stays trusted and its tool call is reported blocked. -/
theorem blocked_tool_call_in_trusted_chat :
    checkIfChatIsTrusted (create [] ⟨"chat", ⟨"tool", some "call"⟩, true, true, 0⟩).1 "chat" = true ∧
      getBlockedToolCallIds (create [] ⟨"chat", ⟨"tool", some "call"⟩, true, true, 0⟩).1 "chat" = ["call"] := by
  decide

/-- For every sequence of `create` calls: the chat is trusted exactly when each of its interactions was created
with `trusted = true`; a tool call is reported blocked exactly when an interaction of the chat created blocked, as
a tool result, carries it; and when every interaction created blocked was created untrusted, a chat with a blocked
tool call is not trusted. -/
theorem checkIfChatIsTrusted_spec (datas : List Interaction) (chatId : String) :
    (checkIfChatIsTrusted (datas.foldl (fun t d => (create t d).1) []) chatId = true ↔
      ∀ i ∈ datas, i.chatId = chatId → i.trusted = true) ∧
    (∀ x, x ∈ getBlockedToolCallIds (datas.foldl (fun t d => (create t d).1) []) chatId ↔
      ∃ i ∈ datas, i.chatId = chatId ∧ i.blocked = true ∧ i.content.role = "tool" ∧
        i.content.toolCallId = some x ∧ x ≠ "") ∧
    ((∀ i ∈ datas, i.blocked = true → i.trusted = false) →
      getBlockedToolCallIds (datas.foldl (fun t d => (create t d).1) []) chatId ≠ [] →
      checkIfChatIsTrusted (datas.foldl (fun t d => (create t d).1) []) chatId = false) := by
  simp only [create_foldl, List.nil_append]
  have htrust := checkIfChatIsTrusted_iff datas chatId
  have hblocked := mem_getBlockedToolCallIds datas chatId
  simp only [mem_findByChatId, and_imp] at htrust hblocked
  refine ⟨htrust, fun x => by rw [hblocked]; simp only [and_assoc], fun hbt hne => ?_⟩
  obtain ⟨x, hx⟩ := List.exists_mem_of_ne_nil _ hne
  obtain ⟨i, ⟨hi, hc⟩, hb, -⟩ := (hblocked x).1 hx
  refine Bool.eq_false_iff.2 fun h => ?_
  simpa [htrust.1 h i hi hc] using hbt i hi hb

/-- A blocked tool result created untrusted makes its chat untrusted. -/
theorem checkIfChatIsTrusted_blocked_untrusted :
    checkIfChatIsTrusted [⟨"chat", ⟨"tool", some "call"⟩, false, true, 0⟩] "chat" = false :=
  (checkIfChatIsTrusted_spec [⟨"chat", ⟨"tool", some "call"⟩, false, true, 0⟩] "chat").2.2 (by decide) (by decide)

end InteractionModel

end Archestra

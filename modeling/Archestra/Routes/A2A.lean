import Mathlib.Data.Rat.Defs

/-!
# The A2A JSON-RPC endpoint

The `POST {endpoint}/:promptId` handler of the A2A routes.  Each awaited dependency is a function from its
arguments to a value or a thrown value, so a theorem over all `Deps` covers every outcome of every dependency.  The
handler answers by `reply.send` (HTTP 200 with the JSON object) or its promise rejects, and Fastify's error handler
answers HTTP 500 with its own error body.

* `handlePost_send_wellFormed`: every object the handler sends is a JSON-RPC 2.0 envelope with the request's id and
  exactly one of `result` and `error`;
* `handlePost_sends_of_lookupsReturn`: when none of the four lookups before the `try` block throws at the arguments
  the request leads it to, the handler sends an envelope, whatever the tools, the model and the stream do, and what
  the `try` block throws is answered with `-32603`;
* `handlePost_rejects_of_findPromptById`, `a2a_post_rejects_when_prompt_lookup_throws`: a throwing
  `PromptModel.findById` escapes the handler, and the client gets HTTP 500.

The `GET {endpoint}/:promptId/.well-known/agent.json` handler (`getAgentCard`) makes the same four checks as the
`POST` handler, in the same order, but throws an `ApiError` with a status where the other sends an error envelope.

* `getAgentCard_gate_agrees`: over lookups the two routes share, each check fails on one route exactly when it
  fails on the other, with the same message, so the card is sent only to callers the `POST` route lets past.
-/

namespace Archestra

namespace A2A

/-- A value thrown by a dependency: an `Error` with its message, or any other value. -/
inductive Thrown where
  | error (message : String)
  | other
  deriving DecidableEq, Repr

/-- The JSON-RPC id: `z.union([z.string(), z.number()])`. -/
inductive RpcId where
  | string (s : String)
  | number (n : ℚ)
  deriving DecidableEq, Repr

/-- A message part; the schema makes `kind` the literal `"text"`. -/
structure Part where
  kind : String
  text : String
  deriving DecidableEq, Repr

/-- The request body after schema validation: `params?.message?.parts` are each optional. -/
structure Body where
  id : RpcId
  params : Option (Option (Option (List Part)))
  deriving DecidableEq, Repr

/-- What the handler reads of a request: the `promptId` parameter, the body, and what `extractBearerToken` finds. -/
structure Request where
  promptId : String
  body : Body
  bearerToken : Option String
  deriving DecidableEq, Repr

/-- The fields of a prompt the handler reads. -/
structure Prompt where
  agentId : String
  systemPrompt : Option String
  userPrompt : Option String
  deriving DecidableEq, Repr

structure Agent where
  id : String
  name : String
  deriving DecidableEq, Repr

/-- The fields of `validateMCPGatewayToken`'s result the handler reads. -/
structure TokenAuth where
  userId : Option String
  organizationId : String
  deriving DecidableEq, Repr

/-- The awaited dependencies of the handler, with the types of the tools, the language model and the stream left
open; `getUserById` answers whether `UserModel.getById` found a user. -/
structure Deps (Tools Model Stream : Type) where
  findPromptById : String → Except Thrown (Option Prompt)
  findAgentById : String → Except Thrown (Option Agent)
  validateMCPGatewayToken : String → String → Except Thrown (Option TokenAuth)
  getUserById : String → Except Thrown Bool
  /-- `getChatMcpTools({ agentName, agentId, userId, userIsProfileAdmin: true })`. -/
  getChatMcpTools : String → String → String → Except Thrown Tools
  /-- `createLLMModelForAgent({ organizationId, userId, agentId, model })`; its `provider` is only logged. -/
  createLLMModelForAgent : String → String → String → String → Except Thrown Model
  /-- `streamText({ model, system, prompt, tools, ... })`, which may throw at once. -/
  streamText : Model → Option String → String → Tools → Except Thrown Stream
  text : Stream → Except Thrown String
  usage : Stream → Except Thrown Unit
  finishReason : Stream → Except Thrown Unit

structure RpcError where
  code : Int
  message : String
  deriving DecidableEq, Repr

structure AgentMessage where
  messageId : String
  role : String
  parts : List Part
  deriving DecidableEq, Repr

/-- The object passed to `reply.send`. -/
structure Envelope where
  jsonrpc : String
  id : RpcId
  result : Option AgentMessage
  error : Option RpcError
  deriving DecidableEq, Repr

/-- The error envelope `{ jsonrpc: "2.0", id, error: { code, message } }`. -/
def rpcError (id : RpcId) (code : Int) (message : String) : Envelope :=
  ⟨"2.0", id, none, some ⟨code, message⟩⟩

/-- A JavaScript string used as a condition: `none` stands for `undefined`/`null`, and `""` is falsy. -/
def truthy (s : Option String) : Option String := s.filter (· ≠ "")

/-- `params?.message?.parts?.filter((p) => p.kind === "text").map((p) => p.text).join("\n") || ""`. -/
def userMessageOf (params : Option (Option (Option (List Part)))) : String :=
  match params with
  | some (some (some parts)) => "\n".intercalate ((parts.filter (·.kind == "text")).map (·.text))
  | _ => ""

/-- The system prompt: the prompt's `systemPrompt` and `userPrompt`, those that are set, joined by a blank line. -/
def systemPromptOf (prompt : Prompt) : Option String :=
  let allParts := (truthy prompt.systemPrompt).toList ++ (truthy prompt.userPrompt).toList
  if allParts.length > 0 then some ("\n\n".intercalate allParts) else none

/-- `error instanceof Error ? error.message : "Internal error"`. -/
def Thrown.messageOr : Thrown → String
  | .error message => message
  | .other => "Internal error"

section Handler

variable {Tools Model Stream : Type} (deps : Deps Tools Model Stream)

/-- The `try` block: the agent run and the result envelope it sends, or what it throws. -/
def tryBlock (id : RpcId) (prompt : Prompt) (agent : Agent) (userId organizationId userMessage defaultModel
    messageId : String) : Except Thrown Envelope := do
  let systemPrompt := systemPromptOf prompt
  let mcpTools ← deps.getChatMcpTools agent.name agent.id userId
  let model ← deps.createLLMModelForAgent organizationId userId agent.id defaultModel
  let stream ← deps.streamText model systemPrompt userMessage mcpTools
  let finalText ← deps.text stream
  let _ ← deps.usage stream
  let _ ← deps.finishReason stream
  pure ⟨"2.0", id, some ⟨messageId, "agent", [⟨"text", finalText⟩]⟩, none⟩

/-- The `try` block and its `catch`: the block's envelope, or the `-32603` envelope of what it threw. -/
def execute (id : RpcId) (prompt : Prompt) (agent : Agent) (userId organizationId userMessage defaultModel
    messageId : String) : Envelope :=
  match tryBlock deps id prompt agent userId organizationId userMessage defaultModel messageId with
  | .ok envelope => envelope
  | .error error => rpcError id (-32603) error.messageOr

/-- The handler: the envelope it sends, or the value its promise rejects with.  `defaultModel` is
`config.chat.defaultModel` and `messageId` the id built from `Date.now()` and `Math.random()`. -/
def handlePost (request : Request) (defaultModel messageId : String) : Except Thrown Envelope := do
  let id := request.body.id
  let some prompt ← deps.findPromptById request.promptId
    | return rpcError id (-32602) "Prompt not found"
  let some agent ← deps.findAgentById prompt.agentId
    | return rpcError id (-32602) "Agent not found for prompt"
  let some token := truthy request.bearerToken
    | return rpcError id (-32600) "Authorization header required. Use: Bearer <archestra_token>"
  let some tokenAuth ← deps.validateMCPGatewayToken agent.id token
    | return rpcError id (-32600) "Invalid or unauthorized token"
  let mut userId := "system"
  if let some tokenUserId := truthy tokenAuth.userId then
    userId := tokenUserId
    let user ← deps.getUserById tokenUserId
    if !user then return rpcError id (-32600) "User not found for token"
  let userMessage := userMessageOf request.body.params
  if userMessage = "" then return rpcError id (-32602) "No message content provided"
  return execute deps id prompt agent userId tokenAuth.organizationId userMessage defaultModel messageId

end Handler

/-! ### Every sent object is a JSON-RPC envelope -/

/-- A JSON-RPC 2.0 response to the request with id `id`: that id, and exactly one of `result` and `error`. -/
def Envelope.WellFormed (id : RpcId) (envelope : Envelope) : Prop :=
  envelope.jsonrpc = "2.0" ∧ envelope.id = id ∧ envelope.result.isSome ≠ envelope.error.isSome

instance (id : RpcId) (envelope : Envelope) : Decidable (envelope.WellFormed id) :=
  inferInstanceAs (Decidable (_ ∧ _ ∧ _))

theorem rpcError_wellFormed (id : RpcId) (code : Int) (message : String) : (rpcError id code message).WellFormed id :=
  ⟨rfl, rfl, by simp [rpcError]⟩

section Handler

variable {Tools Model Stream : Type} (deps : Deps Tools Model Stream)

/-- What the `try` block returns is a result envelope for the request. -/
theorem tryBlock_ok {id : RpcId} {prompt : Prompt} {agent : Agent}
    {userId organizationId userMessage defaultModel messageId : String} {envelope : Envelope}
    (h : tryBlock deps id prompt agent userId organizationId userMessage defaultModel messageId = .ok envelope) :
    ∃ finalText, envelope = ⟨"2.0", id, some ⟨messageId, "agent", [⟨"text", finalText⟩]⟩, none⟩ := by
  simp only [tryBlock, bind, Except.bind, pure, Except.pure] at h
  repeat' split at h
  all_goals cases h
  exact ⟨_, rfl⟩

/-- Whatever the `try` block's dependencies do, it ends in a well-formed envelope. -/
theorem execute_wellFormed (id : RpcId) (prompt : Prompt) (agent : Agent)
    (userId organizationId userMessage defaultModel messageId : String) :
    (execute deps id prompt agent userId organizationId userMessage defaultModel messageId).WellFormed id := by
  unfold execute
  split
  · next envelope h =>
    obtain ⟨_, rfl⟩ := tryBlock_ok deps h
    exact ⟨rfl, rfl, by simp⟩
  · exact rpcError_wellFormed _ _ _

/-- None of the four lookups before the `try` block throws at the arguments the request leads it to: the request's
`promptId`, the agent id of the prompt found, the request's token with the agent found, and the token's user. -/
def LookupsReturn (request : Request) : Prop :=
  (∀ e, deps.findPromptById request.promptId ≠ .error e) ∧
    ∀ prompt, deps.findPromptById request.promptId = .ok (some prompt) →
      (∀ e, deps.findAgentById prompt.agentId ≠ .error e) ∧
      ∀ agent, deps.findAgentById prompt.agentId = .ok (some agent) → ∀ token, truthy request.bearerToken = some token →
        (∀ e, deps.validateMCPGatewayToken agent.id token ≠ .error e) ∧
        ∀ tokenAuth, deps.validateMCPGatewayToken agent.id token = .ok (some tokenAuth) →
          ∀ userId, truthy tokenAuth.userId = some userId → ∀ e, deps.getUserById userId ≠ .error e

/-- The request passes the checks before the `try` block, which then runs on `prompt`, `agent`, `userId`, the token's
`organizationId` and `userMessage`. -/
def ReachesTry (request : Request) (prompt : Prompt) (agent : Agent) (userId organizationId userMessage : String) :
    Prop :=
  deps.findPromptById request.promptId = .ok (some prompt) ∧ deps.findAgentById prompt.agentId = .ok (some agent) ∧
    (∃ token tokenAuth, truthy request.bearerToken = some token ∧
      deps.validateMCPGatewayToken agent.id token = .ok (some tokenAuth) ∧
      organizationId = tokenAuth.organizationId ∧
      (truthy tokenAuth.userId = none ∧ userId = "system" ∨
        truthy tokenAuth.userId = some userId ∧ deps.getUserById userId = .ok true)) ∧
    userMessage = userMessageOf request.body.params ∧ userMessage ≠ ""

variable (request : Request) (defaultModel messageId : String)

/-- Every object the handler sends is a well-formed envelope for the request. -/
theorem handlePost_send_wellFormed {envelope : Envelope}
    (h : handlePost deps request defaultModel messageId = .ok envelope) : envelope.WellFormed request.body.id := by
  unfold handlePost at h
  simp only [bind, Except.bind, pure, Except.pure] at h
  repeat' split at h
  all_goals cases h <;> first | exact rpcError_wellFormed _ _ _ | exact execute_wellFormed ..

/-- The handler rejects only when one of the four lookups throws at the arguments the request leads it to. -/
theorem handlePost_ok_of_lookupsReturn (h : LookupsReturn deps request) :
    ∃ envelope, handlePost deps request defaultModel messageId = .ok envelope := by
  obtain ⟨hp, hrest⟩ := h
  unfold handlePost
  simp only [bind, Except.bind, pure, Except.pure]
  repeat' split
  all_goals first
    | exact ⟨_, rfl⟩
    | exact (hp _ (by assumption)).elim
    | exact ((hrest _ (by assumption)).1 _ (by assumption)).elim
    | exact (((hrest _ (by assumption)).2 _ (by assumption) _ (by assumption)).1 _ (by assumption)).elim
    | exact (((hrest _ (by assumption)).2 _ (by assumption) _ (by assumption)).2 _ (by assumption) _ (by assumption)
        _ (by assumption)).elim

/-- A request that passes the checks is answered by the `try` block and its `catch`. -/
theorem handlePost_of_reachesTry {prompt : Prompt} {agent : Agent} {userId organizationId userMessage : String}
    (h : ReachesTry deps request prompt agent userId organizationId userMessage) :
    handlePost deps request defaultModel messageId =
      .ok (execute deps request.body.id prompt agent userId organizationId userMessage defaultModel messageId) := by
  obtain ⟨hp, ha, ⟨token, tokenAuth, ht, hv, rfl, hu⟩, rfl, hm⟩ := h
  simp only [handlePost, hp, ha, ht, hv, bind, Except.bind, pure, Except.pure]
  rcases hu with ⟨hu, rfl⟩ | ⟨hu, hg⟩
  · simp [hu, hm]
  · simp [hu, hg, hm]

/-- When the lookups before the `try` block return, the handler's promise does not reject: it sends a well-formed
envelope, whatever the model, the tools and the stream do, and what the `try` block throws is answered with `-32603`
and the thrown message. -/
theorem handlePost_sends_of_lookupsReturn (h : LookupsReturn deps request) :
    ∃ envelope, handlePost deps request defaultModel messageId = .ok envelope ∧
      envelope.WellFormed request.body.id ∧
      ∀ prompt agent userId organizationId userMessage,
        ReachesTry deps request prompt agent userId organizationId userMessage → ∀ e,
          tryBlock deps request.body.id prompt agent userId organizationId userMessage defaultModel messageId =
            .error e →
          envelope = rpcError request.body.id (-32603) e.messageOr := by
  obtain ⟨envelope, hsend⟩ := handlePost_ok_of_lookupsReturn deps request defaultModel messageId h
  refine ⟨envelope, hsend, handlePost_send_wellFormed deps request defaultModel messageId hsend,
    fun prompt agent userId organizationId userMessage hreach e he => ?_⟩
  rw [handlePost_of_reachesTry deps request defaultModel messageId hreach, Except.ok.injEq] at hsend
  rw [← hsend, execute, he]

/-- The lookups find the prompt, its agent, the token's user; the model's stream throws at once. -/
def streamThrows : Deps Unit Unit Unit where
  findPromptById _ := .ok (some ⟨"agent-1", some "You are a helpful agent", none⟩)
  findAgentById _ := .ok (some ⟨"agent-1", "Helper"⟩)
  validateMCPGatewayToken _ _ := .ok (some ⟨some "user-1", "org-1"⟩)
  getUserById _ := .ok true
  getChatMcpTools _ _ _ := .ok ()
  createLLMModelForAgent _ _ _ _ := .ok ()
  streamText _ _ _ _ := .error (.error "429 Too Many Requests")
  text _ := .ok ""
  usage _ := .ok ()
  finishReason _ := .ok ()

theorem handlePost_sends_when_stream_throws :
    let request : Request := ⟨"prompt-1", ⟨.number 1, some (some (some [⟨"text", "hello"⟩]))⟩, some "token"⟩
    LookupsReturn streamThrows request ∧ ∃ envelope, handlePost streamThrows request "gpt-4o" "msg-1" = .ok envelope ∧
      envelope.WellFormed request.body.id ∧
      ∀ prompt agent userId organizationId userMessage,
        ReachesTry streamThrows request prompt agent userId organizationId userMessage → ∀ e,
          tryBlock streamThrows request.body.id prompt agent userId organizationId userMessage "gpt-4o" "msg-1" =
            .error e →
          envelope = rpcError request.body.id (-32603) e.messageOr :=
  have h : LookupsReturn streamThrows
      ⟨"prompt-1", ⟨.number 1, some (some (some [⟨"text", "hello"⟩]))⟩, some "token"⟩ :=
    ⟨nofun, fun _ _ => ⟨nofun, fun _ _ _ _ => ⟨nofun, fun _ _ _ _ => nofun⟩⟩⟩
  ⟨h, handlePost_sends_of_lookupsReturn streamThrows _ _ _ h⟩

/-- There the stream's throw is answered with `-32603` and its message. -/
example : handlePost streamThrows ⟨"prompt-1", ⟨.number 1, some (some (some [⟨"text", "hello"⟩]))⟩, some "token"⟩
    "gpt-4o" "msg-1" = .ok (rpcError (.number 1) (-32603) "429 Too Many Requests") :=
  rfl

/-- A throwing `PromptModel.findById` is not caught: the handler rejects with what it threw. -/
theorem handlePost_rejects_of_findPromptById {e : Thrown} (h : deps.findPromptById request.promptId = .error e) :
    handlePost deps request defaultModel messageId = .error e := by
  simp only [handlePost, bind, Except.bind, h]

end Handler

/-- What the client receives: the sent envelope with HTTP 200, or Fastify's HTTP 500 error for a rejection. -/
inductive Reply where
  | send (envelope : Envelope)
  | serverError (thrown : Thrown)
  deriving DecidableEq, Repr

def reply : Except Thrown Envelope → Reply
  | .ok envelope => .send envelope
  | .error thrown => .serverError thrown

def Reply.statusCode : Reply → Nat
  | .send _ => 200
  | .serverError _ => 500

/-- The database connection drops during the prompt lookup; every other dependency would succeed. -/
def promptLookupThrows : Deps Unit Unit Unit where
  findPromptById _ := .error (.error "Connection terminated unexpectedly")
  findAgentById _ := .ok none
  validateMCPGatewayToken _ _ := .ok none
  getUserById _ := .ok true
  getChatMcpTools _ _ _ := .ok ()
  createLLMModelForAgent _ _ _ _ := .ok ()
  streamText _ _ _ _ := .ok ()
  text _ := .ok ""
  usage _ := .ok ()
  finishReason _ := .ok ()

/-- A valid `message/send` request whose prompt lookup throws gets Fastify's HTTP 500, not a JSON-RPC envelope. -/
theorem a2a_post_rejects_when_prompt_lookup_throws :
    (reply (handlePost promptLookupThrows
      ⟨"00000000-0000-4000-8000-000000000000", ⟨.number 1, some (some (some [⟨"text", "hello"⟩]))⟩, some "token"⟩
      "gpt-4o" "msg-1")).statusCode = 500 := by
  decide

/-! ### The agent card -/

/-- The prompt as `PromptModel.findById` returns it to the agent-card route: the columns the `POST` handler reads,
and the id, name and version the card shows. -/
structure PromptRecord extends Prompt where
  id : String
  name : String
  version : Nat
  deriving DecidableEq, Repr

/-- The awaited dependencies of the agent-card handler. -/
structure CardDeps where
  findPromptById : String → Except Thrown (Option PromptRecord)
  findAgentById : String → Except Thrown (Option Agent)
  validateMCPGatewayToken : String → String → Except Thrown (Option TokenAuth)

/-- What the agent-card handler reads of a request: the `promptId` parameter, what `extractBearerToken` finds, and
the headers `x-forwarded-proto` and `host`. -/
structure CardRequest where
  promptId : String
  bearerToken : Option String
  forwardedProto : Option String
  host : Option String
  deriving DecidableEq, Repr

structure Capabilities where
  streaming : Bool
  pushNotifications : Bool
  stateTransitionHistory : Bool
  deriving DecidableEq, Repr

structure Skill where
  id : String
  name : String
  description : String
  tags : List String
  inputModes : List String
  outputModes : List String
  deriving DecidableEq, Repr

/-- The object `A2AAgentCardSchema` describes. -/
structure AgentCard where
  name : String
  description : String
  url : String
  version : String
  capabilities : Capabilities
  defaultInputModes : List String
  defaultOutputModes : List String
  skills : List Skill
  deriving DecidableEq, Repr

/-- Why the agent-card handler's promise rejects: a thrown `ApiError` with its status code and message, or what a
dependency threw. -/
inductive CardFailure where
  | apiError (statusCode : Nat) (message : String)
  | thrown (thrown : Thrown)
  deriving DecidableEq, Repr

/-- `GET {endpoint}/:promptId/.well-known/agent.json`: the card it sends, or why its promise rejects. -/
def getAgentCard (card : CardDeps) (endpoint : String) (request : CardRequest) : Except CardFailure AgentCard := do
  let some prompt ← (card.findPromptById request.promptId).mapError .thrown
    | throw (.apiError 404 "Prompt not found")
  let some agent ← (card.findAgentById prompt.agentId).mapError .thrown
    | throw (.apiError 404 "Agent not found for prompt")
  let some token := truthy request.bearerToken
    | throw (.apiError 401 "Authorization header required. Use: Bearer <archestra_token>")
  let some _ ← (card.validateMCPGatewayToken agent.id token).mapError .thrown
    | throw (.apiError 401 "Invalid or unauthorized token")
  let protocol := (truthy request.forwardedProto).getD "http"
  let host := (truthy request.host).getD "localhost:9000"
  let baseUrl := protocol ++ "://" ++ host
  return {
    name := prompt.name
    description := ((truthy prompt.systemPrompt).orElse fun _ => truthy prompt.userPrompt).getD ""
    url := baseUrl ++ endpoint ++ "/" ++ prompt.id
    version := toString prompt.version
    capabilities := ⟨false, false, false⟩
    defaultInputModes := ["text"]
    defaultOutputModes := ["text"]
    skills := [{ id := prompt.id ++ "-skill", name := prompt.name, description := (truthy prompt.userPrompt).getD "",
                 tags := [], inputModes := ["text"], outputModes := ["text"] }] }

/-- A prompt with its agent; no lookup throws. -/
def servedCard : CardDeps where
  findPromptById _ := .ok (some ⟨⟨"agent-1", some "You are a helpful agent", none⟩, "prompt-1", "Helper", 1⟩)
  findAgentById _ := .ok (some ⟨"agent-1", "Helper"⟩)
  validateMCPGatewayToken _ _ := .ok (some ⟨some "user-1", "org-1"⟩)

/-! ### The card route and the JSON-RPC route admit the same callers -/

/-- The four checks both routes make, in the same order, before any work: the status of the card route's `ApiError`,
the code of the JSON-RPC route's error envelope, and the message both use. -/
def gateChecks : List (Nat × Int × String) :=
  [(404, -32602, "Prompt not found"), (404, -32602, "Agent not found for prompt"),
    (401, -32600, "Authorization header required. Use: Bearer <archestra_token>"),
    (401, -32600, "Invalid or unauthorized token")]

/-- In the table of checks, the message determines the status and the code. -/
theorem gateChecks_message {s s' : Nat} {c c' : Int} {m : String} (h : (s, c, m) ∈ gateChecks)
    (h' : (s', c', m) ∈ gateChecks) : s = s' ∧ c = c' := by
  simp only [gateChecks, List.mem_cons, List.mem_singleton, List.not_mem_nil, or_false, Prod.mk.injEq] at h h'
  rcases h with ⟨rfl, rfl, rfl⟩ | ⟨rfl, rfl, rfl⟩ | ⟨rfl, rfl, rfl⟩ | ⟨rfl, rfl, rfl⟩ <;>
    rcases h' with ⟨rfl, rfl, h⟩ | ⟨rfl, rfl, h⟩ | ⟨rfl, rfl, h⟩ | ⟨rfl, rfl, h⟩ <;>
    first | exact ⟨rfl, rfl⟩ | exact absurd h (by decide)

/-- None of the checks answers like the JSON-RPC route past them. -/
theorem gateChecks_ne_past {s : Nat} {c : Int} {m : String} (h : (s, c, m) ∈ gateChecks) :
    ¬ (c = -32603 ∨ m = "User not found for token" ∨ m = "No message content provided") := by
  simp only [gateChecks, List.mem_cons, List.mem_singleton, List.not_mem_nil, or_false, Prod.mk.injEq] at h
  rcases h with ⟨rfl, rfl, rfl⟩ | ⟨rfl, rfl, rfl⟩ | ⟨rfl, rfl, rfl⟩ | ⟨rfl, rfl, rfl⟩ <;> decide

/-- Two rows of the table: the card route answers the first as the second exactly when the JSON-RPC route does. -/
theorem gateChecks_answer_iff (id : RpcId) {s₀ s : Nat} {c₀ c : Int} {m₀ m : String}
    (h₀ : (s₀, c₀, m₀) ∈ gateChecks) (h : (s, c, m) ∈ gateChecks) :
    (Except.error (.apiError s₀ m₀) : Except CardFailure AgentCard) = .error (.apiError s m) ↔
      (Except.ok (rpcError id c₀ m₀) : Except Thrown Envelope) = .ok (rpcError id c m) := by
  simp only [Except.error.injEq, CardFailure.apiError.injEq, Except.ok.injEq, rpcError, Envelope.mk.injEq,
    Option.some.injEq, RpcError.mk.injEq, true_and]
  constructor
  · rintro ⟨rfl, rfl⟩
    exact ⟨(gateChecks_message h₀ h).2, rfl⟩
  · rintro ⟨rfl, rfl⟩
    exact ⟨(gateChecks_message h₀ h).1, rfl⟩

/-- The two routes' lookups answer alike: the same prompts up to the columns the `POST` handler reads, the same
agents and the same token checks. -/
def CardDeps.Agrees {Tools Model Stream : Type} (card : CardDeps) (deps : Deps Tools Model Stream) : Prop :=
  (∀ promptId,
      deps.findPromptById promptId = (card.findPromptById promptId).map (Option.map PromptRecord.toPrompt)) ∧
    deps.findAgentById = card.findAgentById ∧ deps.validateMCPGatewayToken = card.validateMCPGatewayToken

section Handler

variable {Tools Model Stream : Type} (deps : Deps Tools Model Stream)

/-- The `try` block answers an error envelope only with the code `-32603`. -/
theorem execute_eq_rpcError {id : RpcId} {prompt : Prompt} {agent : Agent}
    {userId organizationId userMessage defaultModel messageId : String} {c : Int} {m : String}
    (h : execute deps id prompt agent userId organizationId userMessage defaultModel messageId = rpcError id c m) :
    c = -32603 := by
  unfold execute at h
  split at h
  · next envelope hrun =>
    obtain ⟨_, rfl⟩ := tryBlock_ok deps hrun
    cases h
  · cases h
    rfl

variable {deps} {request : Request} {defaultModel messageId : String}

/-- Once its four checks pass, the JSON-RPC route answers an error envelope only for a missing user, an empty
message, or with the code `-32603` of the `try` block. -/
theorem handlePost_past_gate {p : Prompt} {a : Agent} {t : String} {auth : TokenAuth}
    (hp : deps.findPromptById request.promptId = .ok (some p)) (ha : deps.findAgentById p.agentId = .ok (some a))
    (ht : truthy request.bearerToken = some t) (hv : deps.validateMCPGatewayToken a.id t = .ok (some auth))
    {c : Int} {m : String} (h : handlePost deps request defaultModel messageId = .ok (rpcError request.body.id c m)) :
    c = -32603 ∨ m = "User not found for token" ∨ m = "No message content provided" := by
  simp only [handlePost, hp, ha, ht, hv, bind, Except.bind, pure, Except.pure] at h
  repeat' split at h
  all_goals first
    | (cases h; done)
    | (injection h with h; cases h; simp)
    | exact .inl (execute_eq_rpcError deps (Except.ok.inj h))

/-- The agreement of the two routes' answers `get` and `post` on the checks. -/
def GateAgrees (id : RpcId) (get : Except CardFailure AgentCard) (post : Except Thrown Envelope) : Prop :=
  (∀ s c m, (s, c, m) ∈ gateChecks → (get = .error (.apiError s m) ↔ post = .ok (rpcError id c m))) ∧
    (∀ e, get = .error (.thrown e) → post = .error e)

theorem gateAgrees_of_fails {id : RpcId} {s₀ : Nat} {c₀ : Int} {m₀ : String}
    (h₀ : (s₀, c₀, m₀) ∈ gateChecks) :
    GateAgrees id (.error (.apiError s₀ m₀)) (.ok (rpcError id c₀ m₀)) :=
  ⟨fun _ _ _ h => gateChecks_answer_iff id h₀ h, fun _ h => by cases h⟩

theorem gateAgrees_of_throws (id : RpcId) (e : Thrown) : GateAgrees id (.error (.thrown e)) (.error e) :=
  ⟨fun _ _ _ _ => iff_of_false nofun nofun, fun _ h => by cases h; rfl⟩

theorem gateAgrees_of_passes {id : RpcId} (agentCard : AgentCard) {post : Except Thrown Envelope}
    (hpost : ∀ c m, post = .ok (rpcError id c m) →
      c = -32603 ∨ m = "User not found for token" ∨ m = "No message content provided") :
    GateAgrees id (.ok agentCard) post :=
  ⟨fun _ _ _ h => iff_of_false nofun fun hp => gateChecks_ne_past h (hpost _ _ hp), fun _ h => by cases h⟩

/-- For every request and every lookups the two routes share, each of the four checks fails on the card route,
with its status, exactly when it fails on the JSON-RPC route, with its code and the same message; and a lookup that
throws on the card route throws the same on the JSON-RPC route.  So the card is sent only to callers the JSON-RPC
route lets past its checks. -/
theorem getAgentCard_gate_agrees {card : CardDeps} (hagree : card.Agrees deps) (endpoint : String)
    (request : Request) (forwardedProto host : Option String) (defaultModel messageId : String) :
    let get := getAgentCard card endpoint ⟨request.promptId, request.bearerToken, forwardedProto, host⟩
    let post := handlePost deps request defaultModel messageId
    (∀ s c m, (s, c, m) ∈ gateChecks →
      (get = .error (.apiError s m) ↔ post = .ok (rpcError request.body.id c m))) ∧
      (∀ e, get = .error (.thrown e) → post = .error e) := by
  obtain ⟨hPr, hAg, hVa⟩ := hagree
  show GateAgrees _ _ _
  rcases hP : card.findPromptById request.promptId with e | _ | p
  · simp only [getAgentCard, handlePost, hPr, hP, Except.mapError, Except.map, bind, Except.bind]
    exact gateAgrees_of_throws _ e
  · simp only [getAgentCard, handlePost, hPr, hP, Except.mapError, Except.map, Option.map, bind, Except.bind]
    exact gateAgrees_of_fails (by simp [gateChecks])
  have hP' : deps.findPromptById request.promptId = .ok (some p.toPrompt) := by rw [hPr, hP]; rfl
  rcases hA : card.findAgentById p.agentId with e | _ | a
  · simp only [getAgentCard, handlePost, hP, hP', hAg, hA, Except.mapError, bind, Except.bind]
    exact gateAgrees_of_throws _ e
  · simp only [getAgentCard, handlePost, hP, hP', hAg, hA, Except.mapError, bind, Except.bind]
    exact gateAgrees_of_fails (by simp [gateChecks])
  rcases ht : truthy request.bearerToken with _ | t
  · simp only [getAgentCard, handlePost, hP, hP', hAg, hA, ht, Except.mapError, bind, Except.bind]
    exact gateAgrees_of_fails (by simp [gateChecks])
  rcases hV : card.validateMCPGatewayToken a.id t with e | _ | auth
  · simp only [getAgentCard, handlePost, hP, hP', hAg, hA, ht, hVa, hV, Except.mapError, bind, Except.bind]
    exact gateAgrees_of_throws _ e
  · simp only [getAgentCard, handlePost, hP, hP', hAg, hA, ht, hVa, hV, Except.mapError, bind, Except.bind]
    exact gateAgrees_of_fails (by simp [gateChecks])
  simp only [getAgentCard, hP, hA, ht, hV, Except.mapError, bind, Except.bind, pure, Except.pure]
  exact gateAgrees_of_passes _ fun c m => handlePost_past_gate hP' (hAg ▸ hA) ht (hVa ▸ hV)

/-- The JSON-RPC route's dependencies with the lookups of `servedCard`. -/
def servedDeps : Deps Unit Unit Unit where
  findPromptById _ := .ok (some ⟨"agent-1", some "You are a helpful agent", none⟩)
  findAgentById _ := .ok (some ⟨"agent-1", "Helper"⟩)
  validateMCPGatewayToken _ _ := .ok (some ⟨some "user-1", "org-1"⟩)
  getUserById _ := .ok true
  getChatMcpTools _ _ _ := .ok ()
  createLLMModelForAgent _ _ _ _ := .ok ()
  streamText _ _ _ _ := .ok ()
  text _ := .ok "Hello"
  usage _ := .ok ()
  finishReason _ := .ok ()

theorem getAgentCard_gate_agrees_served :
    servedCard.Agrees servedDeps ∧
      let request : Request := ⟨"prompt-1", ⟨.number 1, none⟩, none⟩
      let get := getAgentCard servedCard "/v1/a2a" ⟨request.promptId, request.bearerToken, none, none⟩
      let post := handlePost servedDeps request "gpt-4o" "msg-1"
      (∀ s c m, (s, c, m) ∈ gateChecks →
      (get = .error (.apiError s m) ↔ post = .ok (rpcError request.body.id c m))) ∧
        (∀ e, get = .error (.thrown e) → post = .error e) :=
  have h : servedCard.Agrees servedDeps := ⟨fun _ => rfl, rfl, rfl⟩
  ⟨h, getAgentCard_gate_agrees h "/v1/a2a" ⟨"prompt-1", ⟨.number 1, none⟩, none⟩ none none "gpt-4o" "msg-1"⟩

end Handler

end A2A

end Archestra

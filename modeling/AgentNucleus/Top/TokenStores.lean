/-
A turn of `generate` with its texts and tokens, from the lease on.  It is rendered by the
template of the model, and the answer is the text of the tokens that were generated.  With
the tokens left out it is the turn on the stores alone.
-/

import AgentNucleus.Top.RuntimeStores
import AgentNucleus.Top.TokenModel

set_option autoImplicit false

namespace AgentNucleus.Top

open AgentNucleus.Library
open AgentNucleus.Library.Checked (Erases)
open AgentNucleus.Runtime (ContextId InvocationRequest StdString cStr cString text)
open RuntimeStores (GeneratePayload RenderedTurn)

/-- `format_chat` with and without the prompt of the assistant. -/
abbrev Template := List (StdString × StdString) → Bool → Option StdString

def historyWith (conversation : Conversation) (created : Bool) (payload : GeneratePayload) :
    List (StdString × StdString) :=
  conversation.messages ++
    (if created ∧ payload.systemPrompt.isEmpty = false then
      [(text "system", payload.systemPrompt)] else []) ++ [(text "user", payload.prompt)]

/-- The renderings in the order in which a turn asks for them. -/
def templateAnswers (template : Template) (conversation : Conversation) (created : Bool)
    (payload : GeneratePayload) : Answers Answer
  | 0 =>
      if created then { rendered := template (historyWith conversation created payload) true }
      else { rendered := template conversation.messages false }
  | _ =>
      if created then
        { rendered := template [(text "system", payload.systemPrompt)] false }
      else { rendered := template (historyWith conversation created payload) true }

/-- The turn as it is rendered with this template. -/
def renderedWith (template : Template) (stores : RuntimeStores) (conversation : Conversation)
    (created : Bool) (payload : GeneratePayload) : Conversation × Except StdString RenderedTurn :=
  (RuntimeStores.renderTurn conversation created payload stores
    (templateAnswers template conversation created payload)).1.1

deriving instance DecidableEq for RenderedTurn

/-- The stores, and the token that each sequence has at a position. -/
structure TokenStores where
  stores : RuntimeStores
  cells : Int → Nat → Token := fun _ _ => 0

abbrev Telling := Checked Answer TokenStores

namespace TokenStores

/-- What no token depends on. -/
def onStores {α : Type} (program : Serve α) : Telling α :=
  Checked.lift (program.on TokenStores.stores fun whole stores => { whole with stores })

def model (whole : TokenStores) : TokenModel where
  llm := whole.stores.llm
  cells := whole.cells

def withModel (whole : TokenStores) (model : TokenModel) : TokenStores where
  stores := { whole.stores with llm := model.llm }
  cells := model.cells

def onModel {α : Type} (program : Spelling α) : Telling α :=
  program.on model withModel

variable (config : AcceptedServing) (vocabulary : Vocabulary) (template : Template)

/-- A run goes on only if the turn is rendered as the template does it. -/
def renderTurn (conversation : Conversation) (created : Bool) (payload : GeneratePayload) :
    Telling (Conversation × Except StdString RenderedTurn) := do
  let stores ← Checked.lift (Program.inspect TokenStores.stores)
  let rendered ← onStores (RuntimeStores.renderTurn conversation created payload)
  let known := renderedWith template stores conversation created payload
  Checked.require (rendered.1 = known.1 ∧ rendered.2.toOption = known.2.toOption)
  pure rendered

def completeTurn (lease : ContextLease) (applied : Bool) (response : LlmResponse)
    (generated : List Token) : Telling HandlerResult := do
  let answer ← onStores Program.ask
  Checked.require (answer.output = cString (vocabulary.spell generated))
  onStores (RuntimeStores.recordAnswer lease.contextId answer.output applied)
  let result ← onStores (RuntimeStores.makeTextResult answer.output true)
  pure { result with
    contextId := lease.contextId
    metrics :=
      { inputTokens := UInt64.ofNat response.promptTokens
        outputTokens := UInt64.ofNat response.tokensGenerated
        reusedTokens := UInt64.ofNat response.reusedTokens
        cacheBytes := response.cacheBytes
        cacheHit := response.cacheHit } }

/-- `llm_request`, filled in for a turn. -/
def turnRequest (payload : GeneratePayload) (lease : ContextLease) (turn : RenderedTurn) :
    LlmRequest where
  seqId := lease.sequenceId.toInt
  isFirstTurn := lease.created
  closeTurn := turn.applied
  systemPrompt := if turn.systemPrompt.isEmpty then none else some (cStr turn.systemPrompt)
  maxTokens := payload.maxTokens
  cancellable := true

def serveTurn (request : InvocationRequest) (payload : GeneratePayload) (lease : ContextLease)
    (previousCount : Nat) (turn : RenderedTurn) : Telling HandlerResult := do
  let outcome ← onModel (TokenModel.llmInference config.loaded vocabulary
    (turnRequest payload lease turn) (cStr turn.prompt))
  onStores (RuntimeStores.finish lease.contextId)
  if outcome.1.1 ≠ 0 then
    onStores (RuntimeStores.failTurn config request lease previousCount turn.applied outcome.1.2)
  else completeTurn vocabulary lease turn.applied outcome.1.2 outcome.2

def serveLease (request : InvocationRequest) (payload : GeneratePayload)
    (lease : ContextLease) : Telling HandlerResult := do
  let conversation ← onStores (Program.inspect (RuntimeStores.conversationOf config lease))
  let rendered ← renderTurn template conversation lease.created payload
  onStores (Program.change (RuntimeStores.storeConversation lease.contextId rendered.1))
  match rendered.2 with
  | .error message => do
      onStores (RuntimeStores.finish lease.contextId)
      pure (HandlerResult.failed message)
  | .ok turn =>
      serveTurn config vocabulary request payload lease conversation.messages.length turn

/-! ### The tokens left out -/

variable {config vocabulary template}

end TokenStores

end AgentNucleus.Top

/-
Which invocations stay without a reply.  A refusal that repeats the target of its request
can be longer than a message of a response may be; then nothing is sent.  Every other
outcome of `TopRuntime::handle` reaches the client.
-/

import AgentNucleus.Runtime.InvocationReplies
import AgentNucleus.Top.ToolMessages

set_option autoImplicit false

namespace AgentNucleus.Top

open AgentNucleus.Library
open AgentNucleus.Library.Program (Yields)
open AgentNucleus.Runtime (ClientConnection InvocationHandlerResult InvocationKind
  InvocationMappedInput InvocationRequest InvocationStatus Replied SharedDataType.textUtf8
  SharedMemoryRegion.create StdString caught handlerArguments kMaxStringSize text)
open AgentNucleus.Runtime.InvocationProtocol (jsonUtf8)

/-! ### Results with a region -/

namespace HandleEnvironment

variable (environment : HandleEnvironment)

theorem regionId_ne_zero : environment.regionId ≠ 0 := by
  intro zero
  have shifted := (UInt64.or_eq_zero_iff.mp zero).1
  have positive : 0 < environment.process.toInt := Int32.lt_iff_toInt_lt.mp environment.running
  have small := Int32.toInt_lt environment.process
  have nonnegative : 0 ≤ environment.process.toInt64 := by
    rw [Int64.le_iff_toInt_le, Int32.toInt_toInt64]
    exact positive.le
  have number : (environment.process.toInt64.toUInt64.toNat : Int) =
      environment.process.toInt := by
    rw [Int64.toNat_toUInt64_of_le nonnegative, Int64.cast_toNatClampNeg _ nonnegative,
      Int32.toInt_toInt64]
  have value := congrArg UInt64.toNat shifted
  have amount : (32 : UInt64).toNat % 64 = 32 := rfl
  rw [UInt64.toNat_shiftLeft, Nat.shiftLeft_eq, amount] at value
  change _ = 0 at value
  omega

/-- A region that was created is named, holds its text, and is open. -/
theorem textRegion_ok {content : StdString} {region : Runtime.MappedRegion}
    (created : environment.textRegion content = .ok region) :
    region.valid = true ∧ region.regionId ≠ 0 ∧
      UInt64.ofNat content.length ≤ region.size ∧ 0 ≤ region.descriptor := by
  unfold textRegion SharedMemoryRegion.create at created
  split at created
  · cases created
  · rename_i accepted
    cases created
    have size := (not_or.mp accepted).1
    have available : (true && decide (0 < UInt64.ofNat (max 1 content.length))) = true := by
      rw [Bool.true_and, decide_eq_true_eq]
      exact UInt64.pos_iff_ne_zero.mpr size
    refine ⟨available, environment.regionId_ne_zero, ?_, environment.opened⟩
    change UInt64.ofNat content.length ≤ UInt64.ofNat (max 1 content.length)
    by_cases empty : content.length = 0
    · rw [empty]
      exact UInt64.zero_le
    · rw [Nat.max_eq_right (Nat.one_le_iff_ne_zero.mpr empty)]
      exact UInt64.le_refl _

/-- What a response can carry. -/
structure Carried (result : InvocationHandlerResult) : Prop where
  shaped : result.Shaped
  message : result.message.length ≤ kMaxStringSize

theorem shaped_plain {result : InvocationHandlerResult}
    (status : result.status.value ≤ InvocationStatus.busy.value)
    (unmapped : result.output.valid = false) (length : result.outputLength = 0) :
    result.Shaped := by
  refine ⟨status, ?_, fun _ => length⟩
  intro available
  rw [unmapped] at available
  cases available

theorem withRegion_carried {outputType : UInt32} {result : HandlerResult}
    (known : outputType ≤ jsonUtf8) (sendable : result.Sendable) :
    Carried (environment.withRegion outputType result) := by
  unfold withRegion
  dsimp only
  split
  · exact ⟨shaped_plain sendable.status rfl rfl, sendable.message⟩
  · cases created : environment.textRegion result.output with
    | error message =>
        have failed : Runtime.InvocationStatus.failed.value ≤ InvocationStatus.busy.value := by
          decide
        refine ⟨shaped_plain failed rfl rfl, ?_⟩
        unfold textRegion SharedMemoryRegion.create at created
        split at created
        · cases created
          exact literal_fits _ (by decide)
        · cases created
    | ok region =>
        obtain ⟨available, named, inside, opened⟩ := environment.textRegion_ok created
        refine ⟨⟨sendable.status, fun _ => ⟨named, inside, known, opened⟩, ?_⟩, sendable.message⟩
        intro unmapped
        exact absurd available (Bool.eq_false_iff.mp unmapped)

theorem modelResult_carried (request : InvocationRequest) {result : HandlerResult}
    (sendable : result.Sendable) : Carried (environment.modelResult request result) := by
  unfold modelResult
  apply withRegion_carried
  · split
    · decide
    · decide
  · split
    · exact ⟨sendable.status, sendable.message⟩
    · exact sendable

/-- A refusal has no region. -/
theorem modelResult_rejected (request : InvocationRequest) (message : StdString) :
    environment.modelResult request (.rejected message) =
      { status := .rejected, message := message } := by
  have refused : InvocationStatus.rejected ≠ InvocationStatus.ok := by decide
  have plain (outputType : UInt32) (output : StdString) :
      environment.withRegion outputType { HandlerResult.rejected message with output } =
        { status := .rejected, message := message } := by
    unfold withRegion HandlerResult.rejected
    dsimp only
    rw [if_pos refused]
    rfl
  unfold modelResult
  by_cases statistics : request.operation = text "stats"
  · rw [if_pos statistics]
    exact plain _ environment.statistics
  · rw [if_neg statistics]
    exact plain _ []

theorem toolResult_shaped {tool : ToolResult} {stored : HandlerResult}
    (status : tool.status.value ≤ InvocationStatus.busy.value)
    (outputType : tool.outputType ≤ jsonUtf8) (sendable : stored.Sendable) :
    (environment.toolResult tool stored).Shaped := by
  have carried := environment.withRegion_carried outputType sendable
  refine ⟨?_, carried.shaped.output, carried.shaped.empty⟩
  change InvocationStatus.value (if tool.status ≠ .ok then _ else _) ≤ _
  split
  · exact status
  · exact carried.shaped.status

theorem toolResult_carried {tool : ToolResult} {stored : HandlerResult}
    (toolSendable : tool.Sendable) (sendable : stored.Sendable) :
    Carried (environment.toolResult tool stored) := by
  refine ⟨environment.toolResult_shaped toolSendable.status toolSendable.outputType sendable, ?_⟩
  change List.length (if tool.status ≠ .ok then _ else _) ≤ _
  split
  · exact toolSendable.message
  · exact (environment.withRegion_carried toolSendable.outputType sendable).message

/-- The texts of the system, which are those of `strerror` and of a system error, can be
sent. -/
structure Documented : Prop where
  reasons : ∀ index, Explained (environment.answers index)
  exceptions : ∀ what, environment.tool.watcher = .error what → what.length ≤ kMaxStringSize

end HandleEnvironment

/-! ### The outcome of a call -/

namespace ServingRuntime

variable (runtime : ServingRuntime) (environment : HandleEnvironment)

/-- The refusal of the request repeats its target, and is too long for a message. -/
def RefusalTooLong (request : InvocationRequest) : Prop :=
  (request.kind = .model ∧ request.target ≠ runtime.config.modelAlias ∧
      kMaxStringSize < (text "unknown model alias: ").length + request.target.length) ∨
    (request.kind = .tool ∧ runtime.tools.tools.lookup request.target = none ∧
      kMaxStringSize < (text "tool is not registered: ").length + request.target.length)

/-- The request gets as far as such a refusal. -/
def Unanswered (request : InvocationRequest) : Prop :=
  runtime.initialized = true ∧ (environment.answers 0).cancelled = false ∧
    runtime.RefusalTooLong request

/-- Whatever is returned or thrown can be carried by a response. -/
def OutcomeCarried (outcome : Outcome) : Prop :=
  ∀ returned, outcome = some returned → HandleEnvironment.Carried (caught returned)

theorem failed_carried {message : StdString} (fits : message.length ≤ kMaxStringSize) :
    HandleEnvironment.Carried { status := .failed, message := message } :=
  ⟨HandleEnvironment.shaped_plain
    (show Runtime.InvocationStatus.failed.value ≤ InvocationStatus.busy.value by decide) rfl rfl,
    fits⟩

theorem handleModel_carried (accepted : runtime.config.accepted = true)
    (request : InvocationRequest) (inputs : List InvocationMappedInput)
    (target : request.target ≠ runtime.config.modelAlias →
      (text "unknown model alias: " ++ request.target).length ≤ kMaxStringSize) :
    Yields Explained (runtime.handleModel environment accepted request inputs)
      OutcomeCarried := by
  unfold handleModel
  refine (RuntimeStores.handleModel_yields _ ?_ target).bind ?_
  · intro message refused
    change Except.map _ (appendDependencies _ inputs) = _ at refused
    cases appended : appendDependencies (if isObject request.payload then
        (jsonString request.payload (text "prompt")).getD [] else request.payload) inputs with
    | ok prompt =>
        rw [appended] at refused
        cases refused
    | error reason =>
        rw [appended] at refused
        cases refused
        rcases appendDependencies_refused _ inputs message appended with rfl | rfl
        · exact literal_fits _ (by decide)
        · exact literal_fits _ (by decide)
  · intro result sendable
    apply Yields.pure
    rintro _ ⟨⟩
    exact environment.modelResult_carried request sendable

theorem handleTool_carried (documented : environment.Documented) (request : InvocationRequest)
    (inputs : List InvocationMappedInput)
    (known : runtime.tools.tools.lookup request.target = none →
      (text "tool is not registered: " ++ request.target).length ≤ kMaxStringSize) :
    Yields Explained (runtime.handleTool environment request inputs) OutcomeCarried := by
  unfold handleTool
  have sendable := ToolManager.execute_sendable runtime.enableShellTool environment.tool request
    inputs known
  rcases executed : runtime.tools.execute environment.tool request inputs with
    _ | what | tool
  · apply Yields.pure
    rintro _ ⟨⟩
  · apply Yields.pure
    rintro _ ⟨⟩
    exact failed_carried (documented.exceptions what (sendable.2 what executed))
  · refine (RuntimeStores.makeTextResult_yields tool.output true).bind ?_
    intro stored storedSendable
    apply Yields.pure
    rintro _ ⟨⟩
    exact environment.toolResult_carried (sendable.1 tool executed) storedSendable

/-- A call that is not cancelled at its start. -/
theorem dispatched_carried (documented : environment.Documented)
    (accepted : runtime.config.accepted = true) (request : InvocationRequest)
    (inputs : List InvocationMappedInput) (short : ¬runtime.RefusalTooLong request) :
    Yields Explained
      (if request.kind = InvocationKind.model then
        runtime.handleModel environment accepted request inputs
      else if request.kind = InvocationKind.tool then
        runtime.handleTool environment request inputs
      else
        pure (some (.ok { status := .rejected, message := text "unsupported invocation kind" })))
      OutcomeCarried := by
  apply Yields.ite
  · intro model
    apply runtime.handleModel_carried environment accepted request inputs
    intro unknown
    rw [List.length_append]
    exact Nat.not_lt.mp fun long => short (Or.inl ⟨model, unknown, long⟩)
  · intro _
    apply Yields.ite
    · intro tool
      apply runtime.handleTool_carried environment documented request inputs
      intro unknown
      rw [List.length_append]
      exact Nat.not_lt.mp fun long => short (Or.inr ⟨tool, unknown, long⟩)
    · intro _
      apply Yields.pure
      rintro _ ⟨⟩
      exact ⟨HandleEnvironment.shaped_plain
        (show InvocationStatus.rejected.value ≤ InvocationStatus.busy.value by decide) rfl rfl,
        literal_fits _ (by decide)⟩

theorem outcome_carried (documented : environment.Documented) (request : InvocationRequest)
    (inputs : List InvocationMappedInput)
    (answered : ¬runtime.Unanswered environment request) :
    OutcomeCarried (runtime.outcome environment request inputs) := by
  unfold outcome handle
  by_cases ready : runtime.initialized = true
  · rw [dif_pos ready]
    change OutcomeCarried ((if (environment.answers 0).cancelled then _ else _ : Serve Outcome)
      runtime.stores fun index => environment.answers (index + 1)).1.1
    cases cancelled : (environment.answers 0).cancelled with
    | true =>
        rintro _ ⟨⟩
        exact ⟨HandleEnvironment.shaped_plain
          (show InvocationStatus.cancelled.value ≤ InvocationStatus.busy.value by decide) rfl rfl,
          literal_fits _ (by decide)⟩
    | false =>
        have short : ¬runtime.RefusalTooLong request := fun tooLong =>
          answered ⟨ready, cancelled, tooLong⟩
        exact ((runtime.dispatched_carried environment documented (runtime.accepted ready)
          request inputs short).run _ _ fun index => documented.reasons (index + 1)).1
  · rw [dif_neg ready]
    rintro _ ⟨⟩
    exact failed_carried (literal_fits _ (by decide))

/-- A refusal that is too long is a result like any other. -/
theorem outcome_unanswered (documented : environment.Documented) (request : InvocationRequest)
    (inputs : List InvocationMappedInput)
    (unanswered : runtime.Unanswered environment request) :
    ∃ result, runtime.outcome environment request inputs = some (.ok result) ∧
      result.Shaped ∧ kMaxStringSize < result.message.length := by
  obtain ⟨ready, going, tooLong⟩ := unanswered
  have later (index : Nat) := documented.reasons (index + 1)
  have rejected : InvocationStatus.rejected.value ≤ InvocationStatus.busy.value := by decide
  unfold outcome handle
  rw [dif_pos ready]
  change ∃ result, ((if (environment.answers 0).cancelled then _ else _ : Serve Outcome)
      runtime.stores fun index => environment.answers (index + 1)).1.1 = _ ∧ _
  rw [if_neg (Bool.eq_false_iff.mp going)]
  rcases tooLong with ⟨model, unknown, long⟩ | ⟨tool, unknown, long⟩
  · have refused : RuntimeStores.handleModel ⟨runtime.config, runtime.accepted ready⟩
        (runtime.call environment request inputs) =
          pure (HandlerResult.rejected (text "unknown model alias: " ++ request.target)) :=
      if_pos unknown
    rw [if_pos model]
    unfold handleModel
    rw [refused]
    refine ⟨environment.modelResult request (.rejected _), rfl, ?_, ?_⟩
    · rw [environment.modelResult_rejected]
      exact HandleEnvironment.shaped_plain rejected rfl rfl
    · rw [environment.modelResult_rejected, List.length_append]
      exact long
  · have other : request.kind ≠ InvocationKind.model := by
      rw [tool]
      decide
    have refused : runtime.tools.execute environment.tool request inputs =
        some (.ok (.rejected (text "tool is not registered: " ++ request.target))) := by
      unfold ToolManager.execute
      rw [unknown]
    have stored := ((RuntimeStores.makeTextResult_yields [] true).run runtime.stores _ later).1
    rw [if_neg other, if_pos tool]
    unfold handleTool
    rw [refused]
    refine ⟨environment.toolResult (.rejected _) _, rfl,
      environment.toolResult_shaped rejected
        (show SharedDataType.textUtf8 ≤ jsonUtf8 by decide) stored, ?_⟩
    rw [← List.length_append] at long
    exact long

end ServingRuntime

/-! ### Replies -/

section Replies

variable {runtime : ServingRuntime} {environment : HandleEnvironment}
  {connection : ClientConnection} {request : InvocationRequest}
  {inputs : List InvocationMappedInput}

theorem unanswered_not_replied (documented : environment.Documented)
    (called : handlerArguments connection = some (request, inputs))
    (unanswered : runtime.Unanswered environment request) :
    ¬Replied environment.process.toInt64 (runtime.handler environment) connection request
      inputs := by
  obtain ⟨result, same, shaped, long⟩ :=
    runtime.outcome_unanswered environment documented request inputs unanswered
  have handled : caught (runtime.handler environment request inputs) = result := by
    unfold ServingRuntime.handler
    rw [same]
    rfl
  rw [Runtime.replied_iff called _ _ (by rw [handled]; exact shaped), handled]
  exact fun replied => Nat.not_le.mpr long replied.1

theorem answered_replied_iff (documented : environment.Documented)
    (called : handlerArguments connection = some (request, inputs))
    (returned : (runtime.outcome environment request inputs).isSome = true)
    (answered : ¬runtime.Unanswered environment request) :
    Replied environment.process.toInt64 (runtime.handler environment) connection request
        inputs ↔
      connection.sent = .ok () := by
  obtain ⟨outcome, found⟩ := Option.isSome_iff_exists.mp returned
  have carried := runtime.outcome_carried environment documented request inputs answered
    outcome found
  have handled : runtime.handler environment request inputs = outcome := by
    unfold ServingRuntime.handler
    rw [found]
    rfl
  rw [← handled] at carried
  rw [Runtime.replied_iff called _ _ carried.shaped]
  exact and_iff_right carried.message

end Replies

/-- A call that returns is answered exactly if the kernel takes the response, unless its
refusal repeats a target that is too long. -/
theorem every_invocation_answered_iff (runtime : ServingRuntime)
    (environment : HandleEnvironment) (connection : ClientConnection)
    (request : InvocationRequest) (inputs : List InvocationMappedInput)
    (documented : environment.Documented)
    (called : handlerArguments connection = some (request, inputs))
    (returned : (runtime.outcome environment request inputs).isSome = true) :
    Replied environment.process.toInt64 (runtime.handler environment) connection request
        inputs ↔
      ¬runtime.Unanswered environment request ∧ connection.sent = .ok () := by
  by_cases unanswered : runtime.Unanswered environment request
  · constructor
    · intro replied
      exact absurd replied (unanswered_not_replied documented called unanswered)
    · rintro ⟨answered, _⟩
      exact absurd unanswered answered
  · rw [answered_replied_iff documented called returned unanswered]
    exact (and_iff_right unanswered).symm

/-- A runtime with the model `default` and the tools `echo` and `concat`. -/
def defaultRuntime : ServingRuntime where
  config := {}
  initialized := true
  accepted := fun _ => by decide
  stores := RuntimeStores.create ⟨{}, by decide⟩

theorem quietEnvironment_documented : quietEnvironment.Documented :=
  ⟨fun _ => nofun, nofun⟩

theorem echo_answered :
    Replied quietEnvironment.process.toInt64 (defaultRuntime.handler quietEnvironment)
      Runtime.echoConnection Runtime.echoRequest [Runtime.echoInput] := by
  have answered : ¬defaultRuntime.Unanswered quietEnvironment Runtime.echoRequest := by
    rintro ⟨_, _, tooLong⟩
    rcases tooLong with ⟨model, _⟩ | ⟨_, _, long⟩
    · exact absurd model (by decide)
    · have start : (text "tool is not registered: ").length = 24 := length_literal _
      have name : Runtime.echoRequest.target.length = 4 := length_literal _
      rw [start, name] at long
      exact absurd long (by decide)
  exact (every_invocation_answered_iff defaultRuntime quietEnvironment Runtime.echoConnection
    Runtime.echoRequest [Runtime.echoInput] quietEnvironment_documented Runtime.echo_called
    (by rfl)).mpr ⟨answered, rfl⟩

/-- A request for a model of this name. -/
def requestFor (target : StdString) : InvocationRequest :=
  { agentId := 1
    kind := .model
    target := target
    operation := text "generate" }

def connectionFor (target : StdString) : ClientConnection :=
  { received := .ok {
      packet := Runtime.frame Runtime.InvocationProtocol.protocol
        Runtime.InvocationProtocol.kRequestMessage
        (Runtime.InvocationProtocol.requestBytes (requestFor target)) }
    kernel := Runtime.eightByteFiles }

/-- A name that fills a string of the protocol still comes through. -/
private theorem requestFor_called (target : StdString) (full : target.length = kMaxStringSize) :
    handlerArguments (connectionFor target) = some (requestFor target, []) := by
  have bytes : (Runtime.InvocationProtocol.requestBytes (requestFor target)).length =
      73 + target.length := by
    have operation : (text "generate").length = 8 := length_literal _
    unfold Runtime.InvocationProtocol.requestBytes Runtime.InvocationProtocol.RequestFields.bytes
      Runtime.InvocationProtocol.requestFields requestFor bytes64 bytes32 bytes8
    simp only [List.length_append, length_littleEndian, length_lengthPrefixed,
      List.flatMap_nil, List.length_nil, operation]
    omega
  have decoded : Runtime.InvocationProtocol.decodeInvocationRequest
      (Runtime.frame Runtime.InvocationProtocol.protocol
        Runtime.InvocationProtocol.kRequestMessage
        (Runtime.InvocationProtocol.requestBytes (requestFor target))) {} =
      .ok (requestFor target) := by
    rw [Runtime.InvocationProtocol.decodeInvocationRequest_iff]
    refine ⟨⟨show (1 : Runtime.AgentId) ≠ 0 by decide, ?_, show text "generate" ≠ [] by decide,
      Nat.zero_le _, show (0 : Int64) ≤ 0 by decide, Or.inl rfl, nofun, full.le,
      literal_fits _ (by decide), Nat.zero_le _⟩, rfl, ?_⟩
    · intro empty
      have none : target = [] := empty
      rw [none] at full
      exact absurd full (by decide)
    · rw [Runtime.length_frame, bytes, full]
      decide
  have received : Runtime.receivePacket (connectionFor target).received =
      .ok (Runtime.frame Runtime.InvocationProtocol.protocol
        Runtime.InvocationProtocol.kRequestMessage
        (Runtime.InvocationProtocol.requestBytes (requestFor target)), []) := rfl
  unfold handlerArguments
  rw [received]
  simp only [decoded]
  rfl

private theorem requestFor_unanswered (target : StdString)
    (full : target.length = kMaxStringSize) :
    defaultRuntime.Unanswered quietEnvironment (requestFor target) := by
  refine ⟨rfl, rfl, Or.inl ⟨rfl, ?_, ?_⟩⟩
  · intro same
    have known : target = text "default" := same
    have short : (text "default").length = 7 := length_literal _
    rw [known, short] at full
    exact absurd full (by decide)
  · have start : (text "unknown model alias: ").length = 21 := length_literal _
    change _ < _ + target.length
    rw [full, start]
    exact Nat.lt_add_of_pos_left (by decide)

private theorem requestFor_dropped (target : StdString) (full : target.length = kMaxStringSize) :
    handlerArguments (connectionFor target) = some (requestFor target, []) ∧
      (defaultRuntime.outcome quietEnvironment (requestFor target) []).isSome = true ∧
      ¬Replied quietEnvironment.process.toInt64 (defaultRuntime.handler quietEnvironment)
        (connectionFor target) (requestFor target) [] := by
  have unanswered := requestFor_unanswered target full
  obtain ⟨result, same, _⟩ := defaultRuntime.outcome_unanswered quietEnvironment
    quietEnvironment_documented (requestFor target) [] unanswered
  refine ⟨requestFor_called target full, ?_, ?_⟩
  · rw [same]
    rfl
  · exact unanswered_not_replied quietEnvironment_documented (requestFor_called target full)
      unanswered

/-- An unknown model whose name has 262144 bytes. -/
theorem long_target_unanswered :
    handlerArguments (connectionFor (List.replicate kMaxStringSize 120)) =
        some (requestFor (List.replicate kMaxStringSize 120), []) ∧
      (defaultRuntime.outcome quietEnvironment
        (requestFor (List.replicate kMaxStringSize 120)) []).isSome = true ∧
      ¬Replied quietEnvironment.process.toInt64 (defaultRuntime.handler quietEnvironment)
        (connectionFor (List.replicate kMaxStringSize 120))
        (requestFor (List.replicate kMaxStringSize 120)) [] :=
  requestFor_dropped (List.replicate kMaxStringSize 120) List.length_replicate

end AgentNucleus.Top

/-
Every call of `TopRuntime::handle` keeps the sequences of the contexts apart and
their positions aligned, whatever fails in it, so that both hold over every run.
-/

import AgentNucleus.Top.StoreAlignment

set_option autoImplicit false

namespace AgentNucleus.Top.RuntimeStores

open AgentNucleus.Library
open AgentNucleus.Library.Program (Triple)
open AgentNucleus.Runtime (AgentId ContextId InvocationRequest StdString TimePoint cStr)
open AgentNucleus.Top.LlmModel (Aligned Checkpoint IsPrivate)

variable {config : AcceptedServing} {stores start : RuntimeStores}
  {loose returned : Option Int32}

/-! ### Conversations -/

theorem Apart.setConversations (apart : Apart config loose returned stores)
    (conversations : UnorderedMap ContextId Conversation) :
    Apart config loose returned { stores with conversations } :=
  ⟨apart.entries, apart.aligned, apart.once, apart.within, apart.idle, apart.taken, apart.filed⟩

private theorem rewrite_apart (contextId : ContextId) (applied : Bool)
    (rewritten : Conversation → Conversation) :
    Triple (Apart config none none)
      (if applied then
        Program.change fun stores =>
          match stores.conversations.lookup contextId with
          | none => stores
          | some conversation =>
              storeConversation contextId (rewritten conversation) stores
      else pure () : Serve Unit)
      fun _ => Apart config none none := by
  apply Triple.ite
  · intro templated
    apply Triple.change
    intro stores apart
    cases stores.conversations.lookup contextId with
    | none => exact apart
    | some conversation => exact apart.setConversations _
  · intro plain
    exact Triple.pure _ fun _ apart => apart

/-! ### Giving back -/

theorem Apart.finish (apart : Apart config none none stores) (contextId : ContextId)
    (now : TimePoint) :
    Apart config none none
      (RuntimeStores.setContexts (stores.contexts.finish contextId now).1 stores) := by
  have finished := ContextManager.finish_spec stores.contexts contextId now
  have counted (id : Int) := finished.occurrences id
  have free : (stores.contexts.finish contextId now).1.freeSequences =
      stores.contexts.freeSequences := by
    generalize (stores.contexts.finish contextId now).1 = after at finished
    generalize (stores.contexts.finish contextId now).2.2 = result at finished
    cases finished <;> rfl
  refine ⟨finished.sound apart.entries, apart.aligned, ?_, ?_, ?_, nofun, apart.filed⟩
  · intro id
    change (stores.contexts.finish contextId now).1.occurrences id + 0 ≤ 1
    rw [counted]
    exact apart.once id
  · intro id occurs
    change 0 < (stores.contexts.finish contextId now).1.occurrences id + 0 at occurs
    rw [counted] at occurs
    exact apart.within id occurs
  · intro sequence member spared
    change sequence ∈ (stores.contexts.finish contextId now).1.freeSequences at member
    rw [free] at member
    exact apart.idle sequence member spared

theorem finish_apart (contextId : ContextId) :
    Triple (Apart config none none) (finish contextId) fun _ => Apart config none none := by
  apply Triple.from_state
  intro start apart
  apply (finish_leaves contextId start).weaken
  intro value after left
  obtain ⟨now, rfl⟩ := left
  exact apart.finish contextId now

/-- The sequence of a removed context is in the free list before it is cleared. -/
private theorem Released.free {manager after : ContextManager} {agentId parentId : AgentId}
    {contextId : ContextId} {now : TimePoint} {outcome : ContextManager.Release}
    (released : manager.Released agentId parentId contextId now after outcome) :
    ∀ sequence ∈ after.freeSequences,
      sequence ∈ manager.freeSequences ∨
        outcome.released = true ∧ sequence = outcome.releasedSequence := by
  intro sequence member
  cases released with
  | refused message => exact Or.inl member
  | left entry owner found chosen held shared =>
      change sequence ∈ manager.dropOwner.freeSequences at member
      rw [ContextManager.freeSequences_dropOwner] at member
      exact Or.inl member
  | removed entry owner found chosen held last idle =>
      rw [ContextManager.freeSequences_removeContext,
        ContextManager.freeSequences_dropOwner] at member
      cases home : entry.resident with
      | true =>
          rw [home, if_pos rfl] at member
          rcases List.mem_cons.mp member with same | older
          · right
            refine ⟨rfl, ?_⟩
            rw [if_pos rfl]
            exact same
          · exact Or.inl older
      | false =>
          rw [home, if_neg Bool.false_ne_true] at member
          exact Or.inl member

private theorem release_apart (agentId parentId : AgentId) (contextId : ContextId) :
    Triple (Apart config none none) (release agentId parentId contextId)
      fun outcome => Apart config none
        (if outcome.released then some outcome.releasedSequence else none) := by
  apply Triple.from_state
  intro start apart
  apply (release_leaves agentId parentId contextId start).weaken
  intro outcome after left
  obtain ⟨now, rfl, rfl⟩ := left
  have released := ContextManager.release_spec start.contexts agentId parentId contextId now
  have counted (id : Int) := released.occurrences id
  refine ⟨released.sound apart.entries, apart.aligned, ?_, ?_, ?_, nofun, apart.filed⟩
  · intro id
    change (start.contexts.release agentId parentId contextId now).1.occurrences id + 0 ≤ 1
    rw [counted]
    exact apart.once id
  · intro id occurs
    change 0 < (start.contexts.release agentId parentId contextId now).1.occurrences id + 0
      at occurs
    rw [counted] at occurs
    exact apart.within id occurs
  · intro sequence member spared
    rcases Released.free released sequence member with older | ⟨success, given⟩
    · exact apart.idle sequence older nofun
    · rw [success, if_pos rfl, given] at spared
      exact absurd rfl spared

private theorem clearReleased_apart (sequenceId : Int32) :
    Triple (Apart config none (some sequenceId)) (clearReleased config sequenceId)
      fun _ => Apart config none none := by
  apply Triple.ite
  · intro positive
    apply Triple.from_state
    intro start apart
    apply (onLlm_frame (LlmModel.llmClearSeq_spec sequenceId.toInt apart.aligned)).weaken
    intro value after held
    obtain ⟨frame, aligned, others, emptied⟩ := held
    rw [frame]
    refine ⟨apart.entries, aligned, apart.once, apart.within, ?_, nofun, apart.filed⟩
    intro sequence member spared
    change (after.llm.seqStates sequence.toInt).inUse = false
    by_cases same : sequence.toInt = sequenceId.toInt
    · have found := apart.free_private member
      rw [same] at found
      rw [same, emptied found]
    · rw [others _ same]
      apply apart.idle sequence member
      intro equal
      cases equal
      exact same rfl
  · intro negative
    apply Triple.pure
    intro after apart
    refine ⟨apart.entries, apart.aligned, apart.once, apart.within, ?_, nofun, apart.filed⟩
    intro sequence member spared
    apply apart.idle sequence member
    intro equal
    cases equal
    exact negative (Int.le_of_lt (apart.free_private member).1)

private theorem removeSnapshot_apart (contextId : ContextId) :
    Triple (Apart config none none) (removeSnapshot contextId)
      fun _ => Apart config none none := by
  apply Triple.bind (Triple.inspects _)
  intro found
  cases found with
  | none => exact Triple.pure _ fun _ apart => apart
  | some snapshot =>
      apply Triple.from_state
      intro start apart
      apply Triple.bind (removeFile_frame contextId start)
      intro removed
      apply Triple.change
      intro after held
      obtain ⟨frame, _, kept⟩ := held
      have fewer : Filed config after := apart.filed.fewer (by rw [frame]) kept
      have contexts : after.contexts = start.contexts := by rw [frame]
      have llm : after.llm = start.llm := by rw [frame]
      refine ⟨?_, ?_, ?_, ?_, ?_, nofun, fewer.erased contextId⟩
      · change after.contexts.Sound
        rw [contexts]
        exact apart.entries
      · change Aligned config.loaded after.llm
        rw [llm]
        exact apart.aligned
      · change ∀ id, after.contexts.occurrences id + 0 ≤ 1
        rw [contexts]
        exact apart.once
      · change ∀ id, 0 < after.contexts.occurrences id + 0 → _
        rw [contexts]
        exact apart.within
      · intro sequence member spared
        change sequence ∈ after.contexts.freeSequences at member
        change (after.llm.seqStates sequence.toInt).inUse = false
        rw [contexts] at member
        rw [llm]
        exact apart.idle sequence member spared

private theorem forgetRemoved_apart (removed : Bool) (contextId : ContextId) :
    Triple (Apart config none none) (forgetRemoved removed contextId)
      fun _ => Apart config none none := by
  apply Triple.ite
  · intro last
    apply Triple.bind (removeSnapshot_apart contextId)
    intro erased
    exact Triple.change fun _ apart => apart.setConversations _
  · intro shared
    exact Triple.pure _ fun _ apart => apart

private theorem releaseContext_apart (request : InvocationRequest) :
    Triple (Apart config none none) (releaseContext config request)
      fun _ => Apart config none none := by
  apply Triple.ite
  · intro unnamed
    exact Triple.pure _ fun _ apart => apart
  · intro named
    apply Triple.bind (release_apart request.agentId request.parentId request.contextId)
    intro outcome
    cases outcome.released with
    | false => exact Triple.pure _ fun _ apart => apart
    | true =>
        apply Triple.bind (clearReleased_apart outcome.releasedSequence)
        intro cleared
        apply Triple.bind (forgetRemoved_apart outcome.contextRemoved request.contextId)
        intro forgotten
        exact makeTextResult_keeps _ _ _

/-! ### A turn -/

private theorem abandonContext_apart (request : InvocationRequest) (lease : ContextLease) :
    Triple (Apart config none none) (abandonContext config request lease)
      fun _ => Apart config none none := by
  apply Triple.ite
  · intro created
    apply Triple.bind (release_apart request.agentId request.parentId lease.contextId)
    intro outcome
    have cleared : Triple (Apart config none
        (if outcome.released then some outcome.releasedSequence else none))
        (clearOutcome config outcome) fun _ => Apart config none none := by
      unfold clearOutcome
      cases outcome.released with
      | false => exact Triple.pure _ fun _ apart => apart
      | true => exact clearReleased_apart outcome.releasedSequence
    apply Triple.bind cleared
    intro done
    exact Triple.change fun _ apart => apart.setConversations _
  · intro older
    exact Triple.pure _ fun _ apart => apart

theorem failTurn_apart (request : InvocationRequest) (lease : ContextLease)
    (previousCount : Nat) (applied : Bool) (response : LlmResponse) :
    Triple (Apart config none none)
      (failTurn config request lease previousCount applied response)
      fun _ => Apart config none none := by
  apply Triple.bind (rewrite_apart lease.contextId applied _)
  intro dropped
  apply Triple.bind (abandonContext_apart request lease)
  intro abandoned
  apply Triple.bind (cancelledDuring_keeps response _)
  intro cancelled
  exact Triple.pure _ fun _ apart => apart

theorem completeTurn_apart (lease : ContextLease) (applied : Bool) (response : LlmResponse) :
    Triple (Apart config none none) (completeTurn lease applied response)
      fun _ => Apart config none none := by
  apply Triple.ask_then
  intro generated
  apply Triple.bind (rewrite_apart lease.contextId applied _)
  intro recorded
  apply Triple.bind (makeTextResult_keeps _ _ _)
  intro result
  exact Triple.pure _ fun _ apart => apart

/-- The sequence of a lease is not free. -/
def Leased (config : AcceptedServing) (lease : ContextLease) (stores : RuntimeStores) : Prop :=
  Apart config none none stores ∧ ∀ sequence ∈ stores.contexts.freeSequences,
    sequence.toInt ≠ lease.sequenceId.toInt

theorem inference_apart (lease : ContextLease) (request : LlmRequest)
    (own : request.seqId = lease.sequenceId.toInt) :
    Triple (Leased config lease) (onLlm (LlmModel.llmInference config.loaded request))
      fun _ => Apart config none none := by
  apply Triple.from_state
  intro start leased
  apply (onLlm_frame (LlmModel.llmInference_spec request leased.1.aligned)).weaken
  intro outcome after held
  obtain ⟨frame, served⟩ := held
  rw [own] at served
  rw [frame]
  exact leased.1.setLlm lease.sequenceId.toInt served.aligned served.others
    (Or.inr ⟨leased.2, nofun⟩)

private theorem serveLease_apart (request : InvocationRequest) (payload : GeneratePayload)
    (lease : ContextLease) :
    Triple (Leased config lease) (serveLease config request payload lease)
      fun _ => Apart config none none := by
  apply Triple.bind (Triple.inspects _)
  intro conversation
  apply Triple.bind (renderTurn_spec conversation lease.created payload _)
  intro rendered
  have stored : Triple (fun stores => Leased config lease stores ∧
      (lease.created = true → ∃ turn, rendered.2 = .ok turn))
      (Program.change (storeConversation lease.contextId rendered.1) : Serve Unit)
      fun _ => Leased config lease :=
    Triple.change fun _ before => ⟨before.1.1.setConversations _, before.1.2⟩
  apply Triple.bind stored
  intro done
  cases rendered.2 with
  | error message =>
      apply Triple.bind ((finish_apart lease.contextId).strengthen fun _ leased => leased.1)
      intro finished
      exact Triple.pure _ fun _ apart => apart
  | ok turn =>
      apply Triple.bind (inference_apart lease _ rfl)
      intro outcome
      apply Triple.bind (finish_apart lease.contextId)
      intro finished
      apply Triple.ite
      · intro failed
        exact failTurn_apart request lease _ turn.applied outcome.2
      · intro done
        exact completeTurn_apart lease turn.applied outcome.2

private theorem generate_apart (request : InvocationRequest)
    (payload : Except StdString GeneratePayload) (order : IterationOrder ContextId) :
    Triple (Apart config none none) (generate config request payload order)
      fun _ => Apart config none none := by
  cases payload with
  | error message => exact Triple.pure _ fun _ apart => apart
  | ok payload =>
      apply Triple.ite
      · intro invalid
        exact Triple.pure _ fun _ apart => apart
      · intro valid
        apply Triple.from_state
        intro start apart
        apply Triple.bind (acquire_lent apart request.agentId request.parentId request.contextId
          order)
        intro acquired
        cases result : acquired.2 with
        | none => exact Triple.pure _ fun _ lent => lent.apart
        | some lease =>
            apply (serveLease_apart request payload lease).strengthen
            intro stores lent
            exact ⟨lent.apart, lent.held lease rfl⟩

/-! ### Any call -/

private theorem warmupPrefix_apart (systemPrompt : StdString) :
    Triple (Apart config none none) (warmupPrefix config systemPrompt)
      fun _ => Apart config none none := by
  apply Triple.ite
  · intro invalid
    exact Triple.pure _ fun _ apart => apart
  · intro valid
    apply Triple.bind (renderSystem_keeps config systemPrompt _)
    intro rendered
    have warmed : Triple (Apart config none none)
        (onLlm (LlmModel.llmWarmupSharedKv config.loaded (some (cStr rendered)) true))
        fun _ => Apart config none none := by
      apply Triple.from_state
      intro start apart
      apply (onLlm_frame (LlmModel.llmWarmupSharedKv_spec (some (cStr rendered)) true
        apart.aligned)).weaken
      intro value after held
      obtain ⟨frame, aligned, states⟩ := held
      rw [frame]
      refine ⟨apart.entries, aligned, apart.once, apart.within, ?_, nofun, apart.filed⟩
      intro sequence member spared
      change (after.llm.seqStates sequence.toInt).inUse = false
      rw [states]
      exact apart.idle sequence member spared
    apply Triple.bind warmed
    intro sequence
    apply Triple.ite
    · intro failed
      apply Triple.bind (cancelledBy_keeps sequence _)
      intro cancelled
      exact Triple.pure _ fun _ apart => apart
    · intro done
      exact makeTextResult_keeps _ _ _

theorem handle_apart (call : HandleCall) :
    Triple (Apart config none none) (handle config call) fun _ => Apart config none none := by
  have nothing (result : HandlerResult) : Triple (Apart config none none)
      (pure result : Serve HandlerResult) fun _ => Apart config none none :=
    Triple.pure _ fun _ apart => apart
  apply Triple.bind (cancelRequested_keeps _)
  intro cancelled
  apply Triple.ite
  · intro now
    exact nothing _
  · intro goesOn
    apply Triple.ite
    · intro model
      apply Triple.ite
      · intro unknown
        exact nothing _
      · intro known
        apply Triple.ite
        · intro release
          exact releaseContext_apart call.request
        · intro other
          apply Triple.ite
          · intro stats
            exact makeTextResult_keeps _ _ _
          · intro other
            apply Triple.ite
            · intro warmup
              exact warmupPrefix_apart call.warmupPrompt
            · intro other
              apply Triple.ite
              · intro generates
                exact generate_apart call.request call.payload call.order
              · intro unsupported
                exact nothing _
    · intro other
      apply Triple.ite
      · intro tool
        exact makeTextResult_keeps _ _ _
      · intro unsupported
        exact nothing _

theorem create_apart (config : AcceptedServing) : Apart config none none (create config) := by
  have few := config.contexts
  have limit : (max 1 config.val.maxContexts).toNat = config.val.maxContexts.toNat := by
    change (if 1 ≤ config.val.maxContexts then config.val.maxContexts else 1).toNat = _
    have one : (1 : UInt64) ≤ config.val.maxContexts := UInt64.le_iff_toNat_le.mpr few.1
    rw [if_pos one]
  have partitioned := ContextManager.create_partitioned config.val.maxContexts
    config.val.logicalContextLimit (by rw [limit]; omega)
  rw [limit] at partitioned
  refine ⟨nofun, LlmModel.aligned_initial, partitioned.atMostOnce, ?_, fun _ _ _ => rfl, nofun,
    nofun⟩
  intro id occurs
  rw [config.isPrivate]
  by_contra outside
  have nothing := partitioned.nothingElse id outside
  change 0 < (ContextManager.create _ _).occurrences id + 0 at occurs
  omega

/-- The sequences stay apart and aligned in every run. -/
theorem run_apart (config : AcceptedServing) (calls : List HandleCall) :
    Apart config none none ((machine config).run calls) := by
  apply (machine config).runFrom_invariant (Apart config none none)
  · intro stores call apart
    exact (handle_apart call).run stores call.answers apart
  · exact create_apart config

end AgentNucleus.Top.RuntimeStores

/-
The stores under other names for contexts and sequences.  A call that asks for a context
by its other name meets the same answers and leaves the stores alike; only the ids of its
result have other names.
-/

import AgentNucleus.Top.ContextRenaming
import AgentNucleus.Top.RuntimeStores

set_option autoImplicit false

namespace AgentNucleus.Top

open AgentNucleus.Library
open AgentNucleus.Library.Program (Coupled Leads)
open AgentNucleus.Runtime (AgentId ContextId InvocationKind InvocationRequest StdString TimePoint
  text)

/-- The same result, with the context under its other name. -/
def HandlerResult.Renamed {config : LoadedConfig} (names : ContextNames config)
    (first second : HandlerResult) : Prop :=
  second = { first with contextId := names.id first.contextId }

theorem HandlerResult.Renamed.unnamed {config : LoadedConfig} (names : ContextNames config)
    {result : HandlerResult} (none : result.contextId = 0) :
    HandlerResult.Renamed names result result := by
  unfold HandlerResult.Renamed
  rw [none, names.id_zero, ← none]

namespace RuntimeStores

variable {config : AcceptedServing}

/-- What a call reads of the stores. -/
structure Renamed (names : ContextNames config.loaded) (next : ContextId → Prop)
    (first second : RuntimeStores) : Prop where
  contexts : ContextManager.Renamed names next first.contexts second.contexts
  conversations : first.conversations.Renamed names.id Eq second.conversations
  snapshots : first.snapshots.Renamed names.id Eq second.snapshots
  snapshotBytes : second.snapshotBytes = first.snapshotBytes
  files : ∀ contextId, second.files (names.id contextId) = first.files contextId
  llm : LlmModel.Renamed names.sequences first.llm second.llm

namespace Renamed

variable {names : ContextNames config.loaded} {next : ContextId → Prop}
  {first second : RuntimeStores}

theorem mono (renamed : Renamed names next first second) {weaker : ContextId → Prop}
    (implied : ∀ id, next id → weaker id) : Renamed names weaker first second :=
  ⟨renamed.contexts.mono implied, renamed.conversations, renamed.snapshots,
    renamed.snapshotBytes, renamed.files, renamed.llm⟩

theorem bytesOf (renamed : Renamed names next first second) (contextId : ContextId) :
    RuntimeStores.bytesOf second.snapshots (names.id contextId) =
      RuntimeStores.bytesOf first.snapshots contextId := by
  unfold RuntimeStores.bytesOf
  rw [renamed.snapshots.lookup_eq]

theorem storeFile (renamed : Renamed names next first second) (contextId : ContextId)
    (content : Option (Finset Nat)) :
    Renamed names next (RuntimeStores.storeFile contextId content first)
      (RuntimeStores.storeFile (names.id contextId) content second) := by
  refine ⟨renamed.contexts, renamed.conversations, renamed.snapshots, renamed.snapshotBytes,
    ?_, renamed.llm⟩
  intro other
  change Function.update second.files _ content _ = Function.update first.files _ content _
  by_cases same : other = contextId
  · rw [same, Function.update_self, Function.update_self]
  · rw [Function.update_of_ne same,
      Function.update_of_ne fun equal => same (names.id.injective equal)]
    exact renamed.files other

theorem storeSnapshot (renamed : Renamed names next first second) (contextId : ContextId)
    (snapshot : Snapshot) :
    Renamed names next (RuntimeStores.storeSnapshot contextId snapshot first)
      (RuntimeStores.storeSnapshot (names.id contextId) snapshot second) := by
  refine ⟨renamed.contexts, renamed.conversations, renamed.snapshots.insert contextId rfl,
    ?_, renamed.files, renamed.llm⟩
  change second.snapshotBytes - RuntimeStores.bytesOf _ _ + _ =
    first.snapshotBytes - RuntimeStores.bytesOf _ _ + _
  rw [renamed.snapshotBytes, renamed.bytesOf]

theorem eraseSnapshot (renamed : Renamed names next first second) (contextId : ContextId) :
    Renamed names next (RuntimeStores.eraseSnapshot contextId first)
      (RuntimeStores.eraseSnapshot (names.id contextId) second) := by
  refine ⟨renamed.contexts, renamed.conversations, renamed.snapshots.erase contextId,
    ?_, renamed.files, renamed.llm⟩
  change second.snapshotBytes - RuntimeStores.bytesOf _ _ =
    first.snapshotBytes - RuntimeStores.bytesOf _ _
  rw [renamed.snapshotBytes, renamed.bytesOf]

theorem setContexts (renamed : Renamed names next first second)
    {contexts contexts' : ContextManager} {later : ContextId → Prop}
    (same : ContextManager.Renamed names later contexts contexts') :
    Renamed names later (RuntimeStores.setContexts contexts first)
      (RuntimeStores.setContexts contexts' second) :=
  ⟨same, renamed.conversations, renamed.snapshots, renamed.snapshotBytes, renamed.files,
    renamed.llm⟩

theorem notePark (renamed : Renamed names next first second) (key key' : ContextId)
    (position position' : Nat) :
    Renamed names next (RuntimeStores.notePark key position first)
      (RuntimeStores.notePark key' position' second) :=
  ⟨renamed.contexts, renamed.conversations, renamed.snapshots, renamed.snapshotBytes,
    renamed.files, renamed.llm⟩

theorem noteReturn (renamed : Renamed names next first second) (key key' : ContextId)
    (sequence sequence' : Int32) :
    Renamed names next (RuntimeStores.noteReturn key sequence first)
      (RuntimeStores.noteReturn key' sequence' second) :=
  ⟨renamed.contexts, renamed.conversations, renamed.snapshots, renamed.snapshotBytes,
    renamed.files, renamed.llm⟩

theorem storeConversation (renamed : Renamed names next first second) (contextId : ContextId)
    (conversation : Conversation) :
    Renamed names next (RuntimeStores.storeConversation contextId conversation first)
      (RuntimeStores.storeConversation (names.id contextId) conversation second) :=
  ⟨renamed.contexts, renamed.conversations.insert contextId rfl, renamed.snapshots,
    renamed.snapshotBytes, renamed.files, renamed.llm⟩

theorem eraseConversation (renamed : Renamed names next first second) (contextId : ContextId) :
    Renamed names next (RuntimeStores.eraseConversation contextId first)
      (RuntimeStores.eraseConversation (names.id contextId) second) :=
  ⟨renamed.contexts, renamed.conversations.erase contextId, renamed.snapshots,
    renamed.snapshotBytes, renamed.files, renamed.llm⟩

end Renamed

section Programs

variable {allowed : Answer → Prop}

/-! ### Programs that only ask -/

section Questions

variable {states : RuntimeStores → RuntimeStores → Prop}

private theorem asks_coupled {α : Type} (view : Answer → α) :
    Coupled allowed states (Program.ask >>= fun answer => (pure (view answer) : Serve α))
      (Program.ask >>= fun answer => (pure (view answer) : Serve α)) Eq :=
  Coupled.ask_then fun _ _ => Coupled.pure rfl

theorem clock_coupled : Coupled allowed states clock clock Eq :=
  asks_coupled Answer.now

theorem succeeds_coupled : Coupled allowed states succeeds succeeds Eq :=
  asks_coupled Answer.succeeded

theorem cancelRequested_coupled : Coupled allowed states cancelRequested cancelRequested Eq :=
  asks_coupled Answer.cancelled

theorem formatChat_coupled (messages : List (StdString × StdString)) :
    Coupled allowed states (formatChat messages) (formatChat messages) Eq := by
  unfold formatChat
  apply Coupled.ite Iff.rfl
  · intro _
    exact Coupled.pure rfl
  · intro _
    exact asks_coupled Answer.rendered

theorem makeTextResult_coupled (names : ContextNames config.loaded) (output : StdString)
    (reports : Bool) :
    Coupled allowed states (makeTextResult output reports) (makeTextResult output reports)
      (HandlerResult.Renamed names) := by
  unfold makeTextResult
  apply Coupled.ask_then
  intro answer _
  apply Coupled.ite Iff.rfl
  · intro _
    exact Coupled.pure (HandlerResult.Renamed.unnamed names rfl)
  · intro _
    exact Coupled.pure (HandlerResult.Renamed.unnamed names rfl)

theorem renderSystem_coupled (systemPrompt : StdString) :
    Coupled allowed states (renderSystem config systemPrompt) (renderSystem config systemPrompt)
      Eq := by
  unfold renderSystem
  apply Coupled.ite Iff.rfl
  · intro _
    refine (formatChat_coupled _).bind ?_
    rintro formatted _ rfl
    exact Coupled.pure rfl
  · intro _
    exact Coupled.pure rfl

theorem cancelledBy_coupled (result : Int) :
    Coupled allowed states (cancelledBy result) (cancelledBy result) Eq := by
  unfold cancelledBy
  apply Coupled.ite Iff.rfl
  · intro _
    exact Coupled.pure rfl
  · intro _
    exact cancelRequested_coupled

private theorem renderFirst_coupled (systemPrompt formatted : StdString) :
    Coupled allowed states (renderFirst systemPrompt formatted)
      (renderFirst systemPrompt formatted) Eq := by
  unfold renderFirst
  apply Coupled.ite Iff.rfl
  · intro _
    exact Coupled.pure rfl
  · intro _
    refine (formatChat_coupled _).bind ?_
    rintro formattedSystem _ rfl
    cases formattedSystem with
    | none => exact Coupled.pure rfl
    | some start =>
        apply Coupled.ite Iff.rfl
        · intro _
          exact Coupled.pure rfl
        · intro _
          exact Coupled.pure rfl

private theorem renderCreated_coupled (conversation : Conversation) (payload : GeneratePayload) :
    Coupled allowed states (renderCreated conversation payload)
      (renderCreated conversation payload) Eq := by
  unfold renderCreated
  refine (formatChat_coupled _).bind ?_
  rintro formatted _ rfl
  cases formatted with
  | none => exact Coupled.pure rfl
  | some formatted =>
      refine (renderFirst_coupled _ _).bind ?_
      rintro turn _ rfl
      exact Coupled.pure rfl

private theorem renderLater_coupled (conversation : Conversation) (payload : GeneratePayload) :
    Coupled allowed states (renderLater conversation payload) (renderLater conversation payload)
      Eq := by
  unfold renderLater
  refine (formatChat_coupled _).bind ?_
  rintro previous _ rfl
  cases previous with
  | none => exact Coupled.pure rfl
  | some previous =>
      refine (formatChat_coupled _).bind ?_
      rintro formatted _ rfl
      cases formatted with
      | none => exact Coupled.pure rfl
      | some formatted =>
          apply Coupled.ite Iff.rfl
          · intro _
            exact Coupled.pure rfl
          · intro _
            exact Coupled.pure rfl

theorem renderTurn_coupled (conversation : Conversation) (created : Bool)
    (payload : GeneratePayload) :
    Coupled allowed states (renderTurn conversation created payload)
      (renderTurn conversation created payload) Eq := by
  unfold renderTurn
  apply Coupled.ite Iff.rfl
  · intro _
    exact Coupled.pure rfl
  · intro _
    apply Coupled.ite Iff.rfl
    · intro _
      refine (renderCreated_coupled conversation payload).bind ?_
      rintro rendered _ rfl
      exact Coupled.pure rfl
    · intro _
      exact renderLater_coupled conversation payload

theorem cancelledDuring_coupled (response other : LlmResponse)
    (same : other.cancelled = response.cancelled) :
    Coupled allowed states (cancelledDuring response) (cancelledDuring other) Eq := by
  unfold cancelledDuring
  refine cancelRequested_coupled.bind ?_
  rintro cancelled _ rfl
  apply Coupled.pure
  rw [same]

end Questions

variable (names : ContextNames config.loaded) {next : ContextId → Prop}

/-! ### Files and the model -/

theorem onLlm_coupled {α β : Type} {program : Llm α} {program' : Llm β} {results : α → β → Prop}
    (coupled : Coupled allowed (LlmModel.Renamed names.sequences) program program' results) :
    Coupled allowed (Renamed names next) (onLlm program) (onLlm program') results := by
  apply coupled.on
  · intro first second renamed
    exact renamed.llm
  · intro first second llm llm' renamed same
    exact ⟨renamed.contexts, renamed.conversations, renamed.snapshots, renamed.snapshotBytes,
      renamed.files, same⟩

theorem llmClearSeq_coupled {sequence other : Int32} (taken : names.Sequence sequence other) :
    Coupled allowed (Renamed names next)
      (onLlm (LlmModel.llmClearSeq config.loaded sequence.toInt))
      (onLlm (LlmModel.llmClearSeq config.loaded other.toInt)) Eq := by
  rw [show other.toInt = names.sequences.rename sequence.toInt from taken]
  exact onLlm_coupled names (LlmModel.llmClearSeq_coupled names.sequences sequence.toInt)

theorem removeFile_coupled (contextId : ContextId) :
    Coupled allowed (Renamed names next) (removeFile contextId) (removeFile (names.id contextId))
      Eq := by
  unfold removeFile
  apply Coupled.ask_then
  intro answer _
  apply Coupled.ite Iff.rfl
  · intro _
    refine (Coupled.change fun _ _ renamed => renamed.storeFile contextId none).bind ?_
    intro _ _ _
    exact Coupled.pure rfl
  · intro _
    exact Coupled.pure rfl

theorem publishCheckpoint_coupled (contextId : ContextId) {sequence other : Int32}
    (taken : names.Sequence sequence other) (checkpoint : LlmModel.Checkpoint) (bytes : UInt64)
    (error : StdString) :
    Coupled allowed (Renamed names next)
      (publishCheckpoint config contextId sequence checkpoint bytes error)
      (publishCheckpoint config (names.id contextId) other checkpoint bytes error) Eq := by
  unfold publishCheckpoint
  refine succeeds_coupled.bind ?_
  rintro renamedInto _ rfl
  apply Coupled.ite Iff.rfl
  · intro _
    exact Coupled.pure rfl
  · intro _
    refine (Coupled.change fun _ _ renamed => renamed.storeFile contextId _).bind ?_
    intro _ _ _
    refine (Coupled.change fun _ _ renamed => renamed.storeSnapshot contextId _).bind ?_
    intro _ _ _
    refine (llmClearSeq_coupled names taken).bind ?_
    intro _ _ _
    exact Coupled.pure rfl

theorem swapOutContext_coupled (contextId : ContextId) {sequence other : Int32}
    (taken : names.Sequence sequence other) (error : StdString) :
    Coupled allowed (Renamed names next) (swapOutContext config contextId sequence error)
      (swapOutContext config (names.id contextId) other error) Eq := by
  unfold swapOutContext
  rw [show other.toInt = names.sequences.rename sequence.toInt from taken]
  refine (onLlm_coupled names
    (LlmModel.llmCheckpointSeq_coupled names.sequences sequence.toInt)).bind ?_
  rintro saved _ rfl
  cases saved with
  | none => exact Coupled.pure rfl
  | some saved =>
      refine succeeds_coupled.bind ?_
      rintro secured _ rfl
      apply Coupled.ite Iff.rfl
      · intro _
        exact Coupled.pure rfl
      · intro _
        refine (removeFile_coupled names contextId).bind ?_
        intro _ _ _
        exact publishCheckpoint_coupled names contextId taken saved.1 saved.2 error

theorem readSnapshot_coupled (contextId : ContextId) :
    Coupled allowed (Renamed names next)
      (Program.inspect fun stores => stores.snapshots.lookup contextId)
      (Program.inspect fun stores => stores.snapshots.lookup (names.id contextId)) Eq :=
  Coupled.inspect fun _ _ renamed => (renamed.snapshots.lookup_eq contextId).symm

theorem forgetRestored_coupled (contextId : ContextId) (error : StdString) :
    Coupled allowed (Renamed names next) (forgetRestored contextId error)
      (forgetRestored (names.id contextId) error) Eq := by
  unfold forgetRestored
  refine (removeFile_coupled names contextId).bind ?_
  rintro removed _ rfl
  apply Coupled.ite Iff.rfl
  · intro _
    refine (Coupled.change fun _ _ renamed => renamed.eraseSnapshot contextId).bind ?_
    intro _ _ _
    exact Coupled.pure rfl
  · intro _
    exact Coupled.pure rfl

theorem swapInContext_coupled (contextId : ContextId) {sequence other : Int32}
    (taken : names.Sequence sequence other) (error : StdString) :
    Coupled allowed (Renamed names next) (swapInContext config contextId sequence error)
      (swapInContext config (names.id contextId) other error) Eq := by
  unfold swapInContext
  refine (readSnapshot_coupled names contextId).bind ?_
  rintro found _ rfl
  cases found with
  | none => exact Coupled.pure rfl
  | some snapshot =>
      have file : Coupled allowed (Renamed names next)
          (Program.inspect fun stores => stores.files contextId)
          (Program.inspect fun stores => stores.files (names.id contextId)) Eq :=
        Coupled.inspect fun _ _ renamed => (renamed.files contextId).symm
      refine file.bind ?_
      rintro file _ rfl
      rw [show other.toInt = names.sequences.rename sequence.toInt from taken]
      refine (onLlm_coupled names
        (LlmModel.llmRestoreSeq_coupled names.sequences sequence.toInt file _)).bind ?_
      rintro restored _ rfl
      apply Coupled.ite Iff.rfl
      · intro _
        exact Coupled.pure rfl
      · intro _
        exact forgetRestored_coupled names contextId error

theorem removeSnapshot_coupled (contextId : ContextId) :
    Coupled allowed (Renamed names next) (removeSnapshot contextId)
      (removeSnapshot (names.id contextId)) Eq := by
  unfold removeSnapshot
  refine (readSnapshot_coupled names contextId).bind ?_
  rintro found _ rfl
  cases found with
  | none => exact Coupled.pure rfl
  | some snapshot =>
      refine (removeFile_coupled names contextId).bind ?_
      intro _ _ _
      exact Coupled.change fun _ _ renamed => renamed.eraseSnapshot contextId

/-! ### The context manager with these callbacks -/

/-- A text with what was sought, unless it is missing on both sides. -/
def Answered {α β : Type} (related : α → β → Prop) (first : StdString × Option α)
    (second : StdString × Option β) : Prop :=
  second.1 = first.1 ∧ Option.Rel related first.2 second.2

theorem answered_none {α β : Type} (related : α → β → Prop) (message : StdString) :
    Answered related (message, (none : Option α)) (message, (none : Option β)) :=
  ⟨rfl, Option.Rel.none⟩

theorem answered_some {α β : Type} {related : α → β → Prop} (message : StdString) {value : α}
    {other : β} (same : related value other) :
    Answered related (message, some value) (message, some other) :=
  ⟨rfl, Option.Rel.some same⟩

theorem contexts_coupled :
    Coupled allowed (Renamed names next) (Program.inspect RuntimeStores.contexts)
      (Program.inspect RuntimeStores.contexts) (ContextManager.Renamed names next) :=
  Coupled.inspect fun _ _ renamed => renamed.contexts

theorem setContexts_coupled {contexts contexts' : ContextManager}
    (same : ContextManager.Renamed names next contexts contexts') :
    Coupled allowed (Renamed names next) (Program.change (setContexts contexts))
      (Program.change (setContexts contexts')) Eq :=
  Coupled.change fun _ _ renamed => renamed.setContexts same

theorem saveCandidate_coupled {manager manager' : ContextManager}
    (managers : ContextManager.Renamed names next manager manager')
    {candidate candidate' : ContextId × Entry}
    (candidates : ContextManager.CandidateRenamed names candidate candidate')
    (error : StdString) :
    Coupled allowed (Renamed names next) (saveCandidate config manager candidate error)
      (saveCandidate config manager' candidate' error) (Answered names.Sequence) := by
  have entries := candidates.entry
  unfold saveCandidate
  rw [candidates.key, entries.id]
  have position : Coupled allowed (Renamed names next)
      (Program.inspect fun stores =>
        (stores.llm.seqStates candidate.2.sequenceId.toInt).currentPos)
      (Program.inspect fun stores =>
        (stores.llm.seqStates candidate'.2.sequenceId.toInt).currentPos) fun _ _ => True :=
    Coupled.inspect fun _ _ _ => trivial
  refine position.bind ?_
  intro before before' _
  refine (swapOutContext_coupled names candidate.2.id entries.sequenceId error).bind ?_
  rintro saved _ rfl
  apply Coupled.ite Iff.rfl
  · intro _
    refine (setContexts_coupled names (managers.swapOut candidate.1 entries)).bind ?_
    intro _ _ _
    refine (Coupled.change fun _ _ renamed => renamed.notePark _ _ before before').bind ?_
    intro _ _ _
    exact Coupled.pure (answered_some saved.2 entries.sequenceId)
  · intro _
    exact Coupled.pure (answered_none names.Sequence _)

theorem obtainSequenceLocked_coupled (excludedContext : ContextId) (error : StdString)
    (order : IterationOrder ContextId) :
    Coupled allowed (Renamed names next) (obtainSequenceLocked config excludedContext error order)
      (obtainSequenceLocked config (names.id excludedContext) error (order.renamed names.id))
      (Answered names.Sequence) := by
  unfold obtainSequenceLocked
  refine (contexts_coupled names).bind ?_
  intro manager manager' managers
  cases free : manager.freeSequences with
  | cons sequence rest =>
      obtain ⟨other, rest', there, taken, left⟩ := managers.popped free
      rw [there]
      refine (setContexts_coupled names (managers.withFree left)).bind ?_
      intro _ _ _
      exact Coupled.pure (answered_some error taken)
  | nil =>
      rw [managers.exhausted free]
      apply Coupled.ite Iff.rfl
      · intro _
        exact Coupled.pure (answered_none names.Sequence _)
      · intro _
        have searched := managers.swapOutCandidate excludedContext order
        generalize manager.swapOutCandidate excludedContext order = candidate at searched
        generalize manager'.swapOutCandidate _ _ = candidate' at searched
        cases searched with
        | none => exact Coupled.pure (answered_none names.Sequence _)
        | some candidates => exact saveCandidate_coupled names managers candidates error

theorem loadInto_coupled (key : ContextId) {entry entry' : Entry}
    (entries : ContextManager.EntryRenamed names entry entry') {sequence sequence' : Int32}
    (taken : names.Sequence sequence sequence') (error : StdString) :
    Coupled allowed (Renamed names next) (loadInto config key entry sequence error)
      (loadInto config (names.id key) entry' sequence' error)
      (Answered (ContextManager.EntryRenamed names)) := by
  unfold loadInto
  rw [entries.id]
  refine (contexts_coupled names).bind ?_
  intro obtained obtained' managers
  refine (swapInContext_coupled names entry.id taken error).bind ?_
  rintro loaded _ rfl
  apply Coupled.ite Iff.rfl
  · intro _
    refine (setContexts_coupled names (managers.swapIn key entries taken)).bind ?_
    intro _ _ _
    refine (Coupled.change fun _ _ renamed =>
      renamed.noteReturn key (names.id key) sequence sequence').bind ?_
    intro _ _ _
    rw [← entries.id]
    exact Coupled.pure (answered_some loaded.2 (entries.swappedIn taken))
  · intro _
    refine (setContexts_coupled names (managers.pushFree taken)).bind ?_
    intro _ _ _
    exact Coupled.pure (answered_none _ _)

theorem makeResidentLocked_coupled (key : ContextId) {entry entry' : Entry}
    (entries : ContextManager.EntryRenamed names entry entry') (error : StdString)
    (order : IterationOrder ContextId) :
    Coupled allowed (Renamed names next) (makeResidentLocked config key entry error order)
      (makeResidentLocked config (names.id key) entry' error (order.renamed names.id))
      (Answered (ContextManager.EntryRenamed names)) := by
  unfold makeResidentLocked
  rw [entries.resident, entries.id]
  apply Coupled.ite Iff.rfl
  · intro _
    exact Coupled.pure (answered_some error entries)
  · intro _
    apply Coupled.ite Iff.rfl
    · intro _
      exact Coupled.pure (answered_none _ _)
    · intro _
      refine (obtainSequenceLocked_coupled names entry.id error order).bind ?_
      rintro ⟨message, sequence⟩ ⟨_, sequence'⟩ ⟨rfl, taken⟩
      cases taken with
      | none => exact Coupled.pure (answered_none _ _)
      | some taken => exact loadInto_coupled names key entries taken _

theorem leaseEntry_coupled (key : ContextId) {entry entry' : Entry}
    (entries : ContextManager.EntryRenamed names entry entry') (agentId : AgentId)
    (now : TimePoint) (order : IterationOrder ContextId) :
    Coupled allowed (Renamed names next) (leaseEntry config key entry agentId now order)
      (leaseEntry config (names.id key) entry' agentId now (order.renamed names.id))
      (Answered (ContextManager.LeaseRenamed names)) := by
  unfold leaseEntry
  refine (makeResidentLocked_coupled names key entries [] order).bind ?_
  rintro ⟨message, current⟩ ⟨_, current'⟩ ⟨rfl, made⟩
  cases made with
  | none => exact Coupled.pure (answered_none _ _)
  | @some current current' made =>
      refine (contexts_coupled names).bind ?_
      intro manager manager' managers
      obtain ⟨shared, owned⟩ := managers.shareWith made agentId
      refine (setContexts_coupled names (shared.store key (owned.pin now))).bind ?_
      intro _ _ _
      apply Coupled.pure
      apply answered_some
      rw [entries.resident]
      exact owned.leaseOf _

/-- The next id is handed out, so that something else is known about the one after it. -/
theorem acquireNew_leads {later : ContextId → Prop}
    (fits : ∀ id, next id → IdFits names.base id ∧ later (id + 1))
    (kept : ∀ id, next id → later id) (agentId : AgentId) (now : TimePoint)
    (order : IterationOrder ContextId) :
    Leads allowed (Renamed names next) (Renamed names later)
      (acquireNew config agentId now order)
      (acquireNew config agentId now (order.renamed names.id))
      (Answered (ContextManager.LeaseRenamed names)) := by
  have still : ∀ first second, Renamed names next first second →
      Renamed names later first second := fun _ _ renamed => renamed.mono kept
  unfold acquireNew
  refine (Leads.ofCoupled (contexts_coupled names) fun _ _ renamed => renamed).bind ?_
  intro manager manager' managers
  have full : manager.maxLogicalContexts.toNat ≤ manager.contexts.keys.length ↔
      manager'.maxLogicalContexts.toNat ≤ manager'.contexts.keys.length := by
    rw [managers.maxLogicalContexts, managers.contexts.length]
  apply Leads.ite full
  · intro _
    exact Leads.ofCoupled (Coupled.pure (answered_none _ _)) still
  · intro _
    have obtained : Coupled allowed (Renamed names next)
        (obtainSequenceLocked config 0 [] order)
        (obtainSequenceLocked config 0 [] (order.renamed names.id))
        (Answered names.Sequence) := by
      have searched : Coupled allowed (Renamed names next)
          (obtainSequenceLocked config 0 [] order)
          (obtainSequenceLocked config (names.id 0) [] (order.renamed names.id))
          (Answered names.Sequence) := obtainSequenceLocked_coupled names 0 [] order
      rw [names.id_zero] at searched
      exact searched
    refine (Leads.ofCoupled obtained fun _ _ renamed => renamed).bind ?_
    rintro ⟨message, sequence⟩ ⟨_, sequence'⟩ ⟨rfl, taken⟩
    cases taken with
    | none => exact Leads.ofCoupled (Coupled.pure (answered_none _ _)) still
    | @some sequence sequence' taken =>
        refine (Leads.ofCoupled (contexts_coupled names) fun _ _ renamed => renamed).bind ?_
        intro manager manager' managers
        obtain ⟨shifted, moved⟩ := fits _ managers.next
        have given := managers.insertNew shifted moved taken agentId now
        refine (Leads.change fun _ _ renamed => renamed.setContexts given).bind ?_
        intro _ _ _
        refine Leads.ofCoupled (Coupled.pure (answered_some _ ?_)) fun _ _ renamed => renamed
        exact ⟨managers.nextContextId.trans (absoluteId_of_fits shifted).symm, taken, rfl, rfl⟩

theorem acquire_leads {later : ContextId → Prop}
    (fits : ∀ id, next id → IdFits names.base id ∧ later (id + 1))
    (kept : ∀ id, next id → later id) (agentId parentId : AgentId)
    (requestedContext : ContextId) (order : IterationOrder ContextId) :
    Leads allowed (Renamed names next) (Renamed names later)
      (acquire config agentId parentId requestedContext order)
      (acquire config agentId parentId (names.id requestedContext) (order.renamed names.id))
      (Answered (ContextManager.LeaseRenamed names)) := by
  have still : ∀ first second, Renamed names next first second →
      Renamed names later first second := fun _ _ renamed => renamed.mono kept
  unfold acquire
  apply Leads.ite Iff.rfl
  · intro _
    exact Leads.ofCoupled (Coupled.pure (answered_none _ _)) still
  · intro _
    refine (Leads.ofCoupled clock_coupled fun _ _ renamed => renamed).bind ?_
    rintro now _ rfl
    refine (Leads.ofCoupled (contexts_coupled names) fun _ _ renamed => renamed).bind ?_
    intro manager manager' managers
    apply Leads.ite (names.id_eq_zero_iff requestedContext)
    · intro _
      rw [managers.findForAgentLocked]
      cases manager.findForAgentLocked agentId order with
      | none => exact acquireNew_leads names fits kept agentId now order
      | some existing =>
          rw [Option.map_some]
          dsimp only
          cases present : manager.context? existing with
          | none =>
              rw [managers.missing present]
              exact Leads.ofCoupled (Coupled.pure (answered_none _ _)) still
          | some entry =>
              obtain ⟨other, there, entries⟩ := managers.found present
              rw [there]
              exact Leads.ofCoupled
                (leaseEntry_coupled names existing entries agentId now order) still
    · intro _
      cases present : manager.context? requestedContext with
      | none =>
          rw [managers.missing present]
          exact Leads.ofCoupled (Coupled.pure (answered_none _ _)) still
      | some entry =>
          obtain ⟨other, there, entries⟩ := managers.found present
          rw [there]
          dsimp only
          rw [entries.authorizedLocked]
          apply Leads.ite Iff.rfl
          · intro _
            exact Leads.ofCoupled (Coupled.pure (answered_none _ _)) still
          · intro _
            exact Leads.ofCoupled
              (leaseEntry_coupled names requestedContext entries agentId now order) still

theorem finish_coupled (contextId : ContextId) :
    Coupled allowed (Renamed names next) (finish contextId) (finish (names.id contextId)) Eq := by
  unfold finish
  refine clock_coupled.bind ?_
  rintro now _ rfl
  exact Coupled.change fun _ _ renamed =>
    renamed.setContexts (renamed.contexts.finish contextId now)

theorem release_coupled (agentId parentId : AgentId) (contextId : ContextId) :
    Coupled allowed (Renamed names next) (release agentId parentId contextId)
      (release agentId parentId (names.id contextId)) (ContextManager.ReleaseRenamed names) := by
  unfold release
  refine clock_coupled.bind ?_
  rintro now _ rfl
  have outcome : Coupled allowed (Renamed names next)
      (Program.inspect fun stores => stores.contexts.release agentId parentId contextId now)
      (Program.inspect fun stores =>
        stores.contexts.release agentId parentId (names.id contextId) now)
      fun first second => ContextManager.Renamed names next first.1 second.1 ∧
        ContextManager.ReleaseRenamed names first.2 second.2 :=
    Coupled.inspect fun _ _ renamed => renamed.contexts.release agentId parentId contextId now
  refine outcome.bind ?_
  rintro outcome outcome' ⟨managers, released⟩
  refine (setContexts_coupled names managers).bind ?_
  intro _ _ _
  exact Coupled.pure released

end Programs

end RuntimeStores

end AgentNucleus.Top

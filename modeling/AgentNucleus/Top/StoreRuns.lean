/-
The stores of `TopRuntime` over a run.  They stay coherent while fewer than
`2 ^ 64` contexts are created; a run that goes on takes an id that is in use and
removes the conversation that belongs to it.
-/

import AgentNucleus.Top.StoreTurns

set_option autoImplicit false

namespace AgentNucleus.Top.RuntimeStores

open AgentNucleus.Library
open AgentNucleus.Runtime (AgentId ContextId InvocationRequest StdString text)

/-! ### Every call -/

/-- A call that creates a context moves `next_context_id_`. -/
def createsContext (config : AcceptedServing) (stores : RuntimeStores) (call : HandleCall) :
    Bool :=
  ((machine config).step stores call).contexts.nextContextId != stores.contexts.nextContextId

/-- The stores agree, and the sum of the sizes is exact unless it is too large. -/
structure Consistent (stores : RuntimeStores) : Prop extends Coherent stores where
  exactBytes : snapshotTotal stores.snapshots < 2 ^ 64 →
    stores.snapshotBytes.toNat = snapshotTotal stores.snapshots

theorem Coherent.consistent {stores : RuntimeStores} (coherent : Coherent stores) :
    Consistent stores := by
  refine ⟨coherent, ?_⟩
  intro small
  rw [coherent.bytes]
  exact UInt64.toNat_ofNat_of_lt' small

theorem initial_coherent (config : AcceptedServing) : Coherent (machine config).initial := by
  constructor
  · constructor
    · exact nofun
    · exact nofun
    · exact nofun
    · exact nofun
    · rfl
  · intro id
    exact Iff.rfl

/-- One call, while an id is left. -/
theorem Coherent.step (config : AcceptedServing) {stores : RuntimeStores} {count : Nat}
    (coherent : Coherent stores) (numbered : ContextManager.Numbered count stores.contexts)
    (call : HandleCall) (few : count + (createsContext config stores call).toNat < 2 ^ 64) :
    Coherent ((machine config).step stores call) ∧
      ContextManager.Numbered (count + (createsContext config stores call).toNat)
        ((machine config).step stores call).contexts := by
  have fresh := numbered.fresh (by omega)
  obtain ⟨created, served⟩ := (handle_spec config call coherent fresh).run stores
    call.answers rfl
  have event : createsContext config stores call = created := served.advances.moved
  rw [event] at few ⊢
  exact ⟨served.coherent, numbered.advance served.advances few⟩

theorem Coherent.throughout (config : AcceptedServing) {stores : RuntimeStores}
    {count : Nat} (coherent : Coherent stores)
    (numbered : ContextManager.Numbered count stores.contexts)
    (calls : List HandleCall)
    (few : count + (machine config).count (createsContext config) stores calls < 2 ^ 64) :
    (machine config).Throughout Coherent stores calls := by
  induction calls generalizing stores count with
  | nil => exact coherent
  | cons call rest ih =>
      change count + ((createsContext config stores call).toNat +
        (machine config).count (createsContext config) _ rest) < 2 ^ 64 at few
      obtain ⟨next, numberedNext⟩ := coherent.step config numbered call (by omega)
      exact ⟨coherent, ih next numberedNext (by omega)⟩

/-- Until the ids have come round, every call leaves the stores consistent. -/
theorem stores_consistent (config : AcceptedServing) (calls : List HandleCall)
    (few : (machine config).count (createsContext config) (machine config).initial calls <
      2 ^ 64) :
    (machine config).Throughout Consistent (machine config).initial calls := by
  have numbered : ContextManager.Numbered 0 (machine config).initial.contexts :=
    ContextManager.create_numbered config.val.maxContexts config.val.logicalContextLimit
  have coherent := (initial_coherent config).throughout config numbered calls (by omega)
  exact coherent.mono fun stores holds => holds.consistent

/-! ### Agents that share one sequence -/

/-- One context is resident, and two more may be swapped out. -/
def oneSequence : AcceptedServing :=
  ⟨{ maxContexts := 1
     maxSwappedContexts := 2
     enableContextSwap := true
     useChatTemplate := false }, by decide⟩

/-- An agent asks for one token; every answer is the same. -/
def turnOf (agentId : AgentId) (answer : Answer) : HandleCall where
  request :=
    { agentId
      kind := .model
      target := text "default"
      operation := text "generate" }
  payload := .ok { prompt := text "a", maxTokens := 1 }
  answers := fun _ => answer

/-- Each of three agents has a turn, so that two contexts are swapped out. -/
def threeTurns (bytes : UInt64) : List HandleCall :=
  [turnOf 1 { bytes }, turnOf 2 { bytes }, turnOf 3 { bytes }]

theorem threeTurns_consistent :
    (machine oneSequence).Throughout Consistent (machine oneSequence).initial
      (threeTurns 16) := by
  apply stores_consistent oneSequence (threeTurns 16)
  apply Nat.lt_of_le_of_lt (Machine.count_le_length ..)
  decide

/-! ### A turn that fails -/

/-- There is a sequence for each of two agents. -/
def twoSequences : AcceptedServing :=
  ⟨{ maxContexts := 2
     maxSwappedContexts := 1
     enableContextSwap := true
     useChatTemplate := false }, by decide⟩

/-- The prompt of agent 1 has no tokens. -/
def failingTurn : HandleCall := turnOf 1 { tokens := 0 }

private def untokenized : Answers Answer := fun _ => { tokens := 0 }

private theorem llmInference_run (config : LoadedConfig) (sequence : Int32)
    (model : LlmModel) :
    ∃ response after, LlmModel.llmInference config
      { seqId := sequence.toInt, isFirstTurn := true, maxTokens := 1, cancellable := true }
      model untokenized = (((-1, response), after), untokenized) := by
  unfold LlmModel.llmInference
  split
  · exact ⟨_, _, rfl⟩
  · exact ⟨_, _, rfl⟩

private theorem onLlm_run {α : Type} (program : Llm α) (stores : RuntimeStores) {value : α}
    {llm : LlmModel}
    (run : program stores.llm untokenized = ((value, llm), untokenized)) :
    onLlm program stores untokenized = ((value, { stores with llm }), untokenized) :=
  Program.run_on RuntimeStores.llm (fun stores llm => { stores with llm }) program stores
    untokenized _ run

/-- Clearing a sequence changes only the model. -/
private theorem clearOutcome_run (outcome : ContextManager.Release) (stores : RuntimeStores) :
    ∃ llm, clearOutcome twoSequences outcome stores untokenized =
      (((), { stores with llm }), untokenized) := by
  unfold clearOutcome clearReleased LlmModel.llmClearSeq
  split
  · split
    · split
      · exact ⟨_, rfl⟩
      · exact ⟨_, rfl⟩
    · exact ⟨_, rfl⟩
  · exact ⟨_, rfl⟩

/-- The lease of a new context. -/
private def newLease (id : ContextId) (sequence : Int32) : ContextLease :=
  { contextId := id, sequenceId := sequence, created := true }

/-- The release may be refused; the conversation is erased in any case. -/
private theorem failTurn_run (stores : RuntimeStores) (id : ContextId) (sequence : Int32)
    (response : LlmResponse) :
    ∃ llm, (failTurn twoSequences failingTurn.request (newLease id sequence) 0 false
        response).after stores untokenized =
      eraseConversation id
        (setContexts (stores.contexts.release 1 0 id 0).1 { stores with llm }) := by
  obtain ⟨llm, cleared⟩ := clearOutcome_run (stores.contexts.release 1 0 id 0).2
    (setContexts (stores.contexts.release 1 0 id 0).1 stores)
  have erased := Program.run_bind _
    (fun _ => Program.change (eraseConversation id) : Unit → Serve Unit) _ _ _ cleared
  have abandoned : abandonContext twoSequences failingTurn.request (newLease id sequence) stores
      untokenized = (((), eraseConversation id
        (setContexts (stores.contexts.release 1 0 id 0).1 { stores with llm })),
        untokenized) := erased
  have answered := Program.run_bind _ (fun _ => do
    let cancelled ← cancelledDuring response
    pure (stopped cancelled (text "model generation cancelled")
      (text "model generation failed"))) _ _ _ abandoned
  exact ⟨llm, congrArg (fun result => result.1.2) answered⟩

private theorem serveLease_run (stores : RuntimeStores) (id : ContextId) (sequence : Int32) :
    ∃ llm, (serveLease twoSequences failingTurn.request { prompt := text "a", maxTokens := 1 }
        (newLease id sequence)).after stores untokenized =
      eraseConversation id
        (setContexts ((stores.contexts.finish id 0).1.release 1 0 id 0).1
          { storeConversation id { templateActive := false } stores with llm }) := by
  obtain ⟨response, model, inferred⟩ :=
    llmInference_run twoSequences.loaded sequence stores.llm
  have served : onLlm (LlmModel.llmInference twoSequences.loaded
      { seqId := sequence.toInt, isFirstTurn := true, maxTokens := 1, cancellable := true })
      (storeConversation id { templateActive := false } stores) untokenized =
      (((-1, response),
        { storeConversation id { templateActive := false } stores with llm := model }),
        untokenized) :=
    onLlm_run _ (storeConversation id { templateActive := false } stores) inferred
  have finished := Program.run_bind _ (fun outcome : Int × LlmResponse => do
    finish id
    if outcome.1 ≠ 0 then
      failTurn twoSequences failingTurn.request (newLease id sequence) 0 false outcome.2
    else completeTurn (newLease id sequence) false outcome.2) _ _ _ served
  obtain ⟨llm, failed⟩ := failTurn_run
    (setContexts (stores.contexts.finish id 0).1
      { storeConversation id { templateActive := false } stores with llm := model })
    id sequence response
  exact ⟨llm, (congrArg (fun result => result.1.2) finished).trans failed⟩

section Visit

variable {stores : RuntimeStores} {sequence : Int32} {rest : List Int32}

private theorem acquire_run
    (stranger : ∀ key entry, stores.contexts.context? key = some entry →
      ContextManager.owned entry 1 = false)
    (room : stores.contexts.contexts.keys.length < stores.contexts.maxLogicalContexts.toNat)
    (free : stores.contexts.freeSequences = sequence :: rest) :
    acquire twoSequences 1 0 0 .asStored stores untokenized =
      ((([], some (newLease stores.contexts.nextContextId sequence)),
        setContexts (stores.contexts.acquire 1 0 0 none 0 .asStored).1 stores), untokenized) := by
  rw [ContextManager.acquire_stranger stores.contexts 1 0 none 0 .asStored sequence rest
    (by decide) stranger room free]
  have search := ContextManager.findForAgentLocked_stranger stores.contexts 1 .asStored stranger
  have entered : acquire twoSequences 1 0 0 .asStored stores untokenized =
      acquireNew twoSequences 1 0 .asStored stores untokenized := by
    unfold acquire
    rw [if_neg (by decide), Program.run_bind clock _ _ _ ((0, stores), untokenized) rfl,
      Program.run_inspect, if_pos rfl]
    simp only [search]
  have obtained : obtainSequenceLocked twoSequences 0 [] .asStored stores untokenized =
      ((([], some sequence),
        setContexts { stores.contexts with freeSequences := rest } stores), untokenized) := by
    unfold obtainSequenceLocked
    rw [Program.run_inspect]
    simp only [free]
    rfl
  rw [entered]
  change (if stores.contexts.maxLogicalContexts.toNat ≤ stores.contexts.contexts.keys.length
    then _ else _ : Serve _) stores untokenized = _
  rw [if_neg (not_le.mpr room), Program.run_bind _ _ _ _ _ obtained]
  rfl

/-- The failing turn visits the context manager and leaves no conversation for the
id that it was given. -/
private theorem failingTurn_run
    (stranger : ∀ key entry, stores.contexts.context? key = some entry →
      ContextManager.owned entry 1 = false)
    (room : stores.contexts.contexts.keys.length < stores.contexts.maxLogicalContexts.toNat)
    (free : stores.contexts.freeSequences = sequence :: rest) :
    ((machine twoSequences).step stores failingTurn).contexts =
        (ContextManager.machine 2 3).runFrom stores.contexts
          (ContextManager.passage 1 none stores.contexts.nextContextId) ∧
      stores.contexts.nextContextId ∉
        ((machine twoSequences).step stores failingTurn).conversations := by
  obtain ⟨llm, served⟩ := serveLease_run
    (setContexts (stores.contexts.acquire 1 0 0 none 0 .asStored).1 stores)
    stores.contexts.nextContextId sequence
  have generated : (machine twoSequences).step stores failingTurn =
      (generate twoSequences failingTurn.request failingTurn.payload .asStored).after stores
        untokenized := rfl
  have turned : (machine twoSequences).step stores failingTurn =
      (serveLease twoSequences failingTurn.request { prompt := text "a", maxTokens := 1 }
        (newLease stores.contexts.nextContextId sequence)).after
        (setContexts (stores.contexts.acquire 1 0 0 none 0 .asStored).1 stores) untokenized := by
    rw [generated]
    unfold generate Program.after failingTurn turnOf
    simp only
    unfold Runtime.kInvalidAgentId Runtime.kInvalidContextId
    rw [if_neg (by decide), Program.run_bind _ _ _ _ _ (acquire_run stranger room free)]
  rw [turned, served]
  constructor
  · rfl
  · intro member
    exact (AList.mem_erase.mp member).1 rfl

end Visit

/-! ### Back to an id in use -/

section Round

open ContextManager (Waiting owned)

variable {contexts : UnorderedMap ContextId Entry} {stores : RuntimeStores}
  {sequence : Int32} {rest : List Int32} {next : ContextId} {active : UInt64}

private theorem waiting_run
    (waiting : Waiting contexts (sequence :: rest) next active stores.contexts)
    (stranger : ∀ key entry, contexts.lookup key = some entry → owned entry 1 = false) :
    ((machine twoSequences).step stores failingTurn).contexts =
        (ContextManager.machine 2 3).runFrom stores.contexts
          (ContextManager.passage 1 none next) ∧
      next ∉ ((machine twoSequences).step stores failingTurn).conversations := by
  have strange : ∀ key entry, stores.contexts.context? key = some entry →
      owned entry 1 = false := by
    unfold ContextManager.context?
    rw [waiting.contexts_eq]
    exact stranger
  have room : stores.contexts.contexts.keys.length <
      stores.contexts.maxLogicalContexts.toNat := by
    rw [waiting.contexts_eq]
    exact waiting.room
  rw [← waiting.next_eq]
  exact failingTurn_run strange room waiting.free_eq

/-- Failing turns use up one id each. -/
private theorem waiting_failingTurns {first : Nat} (count : Nat)
    (waiting : Waiting contexts (sequence :: rest) (UInt64.ofNat (first + 1)) active
      stores.contexts)
    (stranger : ∀ key entry, contexts.lookup key = some entry → owned entry 1 = false)
    (fresh : ∀ visited < count, contexts.lookup (UInt64.ofNat (first + visited + 1)) = none) :
    Waiting contexts (sequence :: rest) (UInt64.ofNat (first + count + 1)) active
      ((machine twoSequences).runFrom stores (List.replicate count failingTurn)).contexts := by
  induction count with
  | zero => exact waiting
  | succ count ih =>
      have before := ih fun visited below => fresh visited (Nat.lt_succ_of_lt below)
      have after := before.passage 2 3 1 none (by decide) stranger
        (fresh count (Nat.lt_succ_self count))
      rw [← (waiting_run before stranger).1] at after
      rw [ContextManager.id_succ (first + count + 1)] at after
      rw [List.replicate_succ', Machine.runFrom_append]
      exact after

/-- A visitor that is given an id in use changes no context. -/
private theorem passage_used {manager : ContextManager} {entry : Entry}
    (waiting : Waiting contexts (sequence :: rest) next active manager)
    (stranger : ∀ key entry, contexts.lookup key = some entry → owned entry 1 = false)
    (used : contexts.lookup next = some entry) (idle : entry.pinCount = 0) :
    ((ContextManager.machine 2 3).runFrom manager
      (ContextManager.passage 1 none next)).contexts = contexts := by
  obtain ⟨maxResident, maxLogical, table, free, counter, stats⟩ := manager
  obtain ⟨rfl, rfl, rfl, rfl, room⟩ := waiting
  have acquired := ContextManager.acquire_stranger
    { maxResidentContexts := maxResident, maxLogicalContexts := maxLogical, contexts := table,
      freeSequences := sequence :: rest, nextContextId := counter, stats := stats }
    1 0 none 0 .asStored sequence rest (by decide) stranger room rfl
  have dropped := ContextManager.contexts_insertNew_used
    { maxResidentContexts := maxResident, maxLogicalContexts := maxLogical, contexts := table,
      freeSequences := rest, nextContextId := counter, stats := stats }
    sequence 1 0 entry used
  change ((((ContextManager.acquire _ 1 0 0 none 0 .asStored).1.finish counter 0).1.release 1 0
    counter 0).1).contexts = table
  rw [acquired]
  simp only
  generalize ContextManager.insertNew _ sequence 1 0 = manager at dropped
  have found : manager.context? counter = some entry := by
    unfold ContextManager.context?
    rw [dropped]
    exact used
  have finished : (manager.finish counter 0).1 = manager := by
    unfold ContextManager.finish
    rw [found]
    simp only [if_pos idle]
  have foreign : owned entry 1 = false := stranger counter entry used
  have owner : ContextManager.ownerToRelease entry 1 0 = 1 := by
    unfold ContextManager.ownerToRelease
    rw [foreign]
    rfl
  have refused : (manager.release 1 0 counter 0).1 = manager := by
    unfold ContextManager.release
    rw [found]
    simp only [owner, foreign, Bool.not_false, if_true]
  rw [finished, refused]
  exact dropped

end Round

/-- The turn of agent 2 succeeds, and agent 1 fails in as many turns as there are
ids. -/
def comingRoundTurns : List HandleCall :=
  turnOf 2 {} :: (List.replicate (2 ^ 64 - 1) failingTurn ++ [failingTurn])

private theorem comingRound_split :
    1 ∈ ((machine twoSequences).run comingRoundTurns).contexts.contexts ∧
      1 ∉ ((machine twoSequences).run comingRoundTurns).conversations := by
  let first := (machine twoSequences).step (machine twoSequences).initial (turnOf 2 {})
  have keys : first.contexts.contexts.keys = [1] := by decide +kernel
  have alone : (first.contexts.context? 1).any (fun entry =>
      entry.pinCount == 0 && !ContextManager.owned entry 1) = true := by decide +kernel
  have start : ContextManager.Waiting first.contexts.contexts [2] (UInt64.ofNat (1 + 1))
      first.contexts.stats.activeContexts first.contexts :=
    ⟨rfl, by decide +kernel, by decide +kernel, rfl, by decide +kernel⟩
  have only (key : ContextId) (entry : Entry)
      (found : first.contexts.contexts.lookup key = some entry) :
      key = 1 ∧ entry.pinCount = 0 ∧ ContextManager.owned entry 1 = false := by
    have listed : key ∈ first.contexts.contexts.keys :=
      AList.mem_keys.mp ((UnorderedMap.mem_iff_lookup _ key).mpr ⟨entry, found⟩)
    rw [keys, List.mem_singleton] at listed
    subst listed
    unfold ContextManager.context? at alone
    rw [found, Option.any_some, Bool.and_eq_true, beq_iff_eq, Bool.not_eq_true'] at alone
    exact ⟨rfl, alone⟩
  have stranger : ∀ key entry, first.contexts.contexts.lookup key = some entry →
      ContextManager.owned entry 1 = false :=
    fun key entry found => (only key entry found).2.2
  have fresh : ∀ visited < 2 ^ 64 - 1,
      first.contexts.contexts.lookup (UInt64.ofNat (1 + visited + 1)) = none := by
    intro visited below
    cases found : first.contexts.contexts.lookup (UInt64.ofNat (1 + visited + 1)) with
    | none => rfl
    | some entry =>
        have same := congrArg UInt64.toNat (only _ entry found).1
        rw [UInt64.toNat_ofNat'] at same
        change (1 + visited + 1) % 2 ^ 64 = 1 at same
        omega
  have before := waiting_failingTurns (2 ^ 64 - 1) start stranger fresh
  have round : UInt64.ofNat (1 + (2 ^ 64 - 1) + 1) = 1 := by decide
  rw [round] at before
  have last := waiting_run before stranger
  obtain ⟨entry, used⟩ := (UnorderedMap.mem_iff_lookup first.contexts.contexts 1).mp
    (AList.mem_keys.mpr (by rw [keys]; exact List.mem_singleton_self 1))
  have unchanged := passage_used before stranger used (only 1 entry used).2.1
  unfold comingRoundTurns Machine.run
  rw [Machine.runFrom_cons, Machine.runFrom_append, Machine.runFrom_cons,
    Machine.runFrom_nil]
  constructor
  · rw [last.1, unchanged]
    exact (UnorderedMap.mem_iff_lookup first.contexts.contexts 1).mpr ⟨entry, used⟩
  · exact last.2

/-- Two snapshots can be too large for their counter; and when the ids have come
round, a failing turn of agent 1 removes the conversation of agent 2. -/
theorem stores_inconsistent :
    (((machine oneSequence).run (threeTurns (.ofNat (2 ^ 63)))).snapshotBytes = 0 ∧
      snapshotTotal ((machine oneSequence).run (threeTurns (.ofNat (2 ^ 63)))).snapshots = 2 ^ 64) ∧
    (1 ∈ ((machine twoSequences).run comingRoundTurns).contexts.contexts ∧
      1 ∉ ((machine twoSequences).run comingRoundTurns).conversations) := by
  constructor
  · constructor
    · decide +kernel
    · decide +kernel
  · exact comingRound_split

end AgentNucleus.Top.RuntimeStores

/-
Snapshots while contexts are swapped.  A save stores the position of the sequence
it empties, a load hands exactly that position to the sequence it fills, and a
file that cannot be removed leaves a snapshot that the next save replaces.
-/

import AgentNucleus.Top.ContextHistory
import AgentNucleus.Top.RuntimeStores

set_option autoImplicit false

namespace AgentNucleus.Top.RuntimeStores

open AgentNucleus.Library
open AgentNucleus.Library.Program (Triple)
open AgentNucleus.Runtime (AgentId ContextId StdString TimePoint)

/-- The sizes of all snapshots. -/
def snapshotTotal (snapshots : UnorderedMap ContextId Snapshot) : Nat :=
  UnorderedMap.total (fun _ snapshot => snapshot.bytes.toNat) snapshots

/-- What holds between contexts and snapshots at every point of a call. -/
structure Tracked (stores : RuntimeStores) : Prop where
  entries : stores.contexts.Sound
  live : ∀ id snapshot, stores.snapshots.lookup id = some snapshot →
    ∃ entry, stores.contexts.context? id = some entry
  parked : ∀ id entry, stores.contexts.context? id = some entry → entry.resident = false →
    ∃ snapshot, stores.snapshots.lookup id = some snapshot ∧
      snapshot.position = stores.parkedAt id
  returned : ∀ pair ∈ stores.returns, pair.2 = { currentPos := pair.1, inUse := true }
  bytes : stores.snapshotBytes = UInt64.ofNat (snapshotTotal stores.snapshots)

/-- Nothing but the model and the files may differ. -/
structure Untracked (before after : RuntimeStores) : Prop where
  contexts : after.contexts = before.contexts
  conversations : after.conversations = before.conversations
  snapshots : after.snapshots = before.snapshots
  snapshotBytes : after.snapshotBytes = before.snapshotBytes
  parkedAt : after.parkedAt = before.parkedAt
  returns : after.returns = before.returns

theorem Untracked.refl (stores : RuntimeStores) : Untracked stores stores :=
  ⟨rfl, rfl, rfl, rfl, rfl, rfl⟩

theorem Untracked.trans {first second third : RuntimeStores} (left : Untracked first second)
    (right : Untracked second third) : Untracked first third :=
  ⟨right.contexts.trans left.contexts, right.conversations.trans left.conversations,
    right.snapshots.trans left.snapshots, right.snapshotBytes.trans left.snapshotBytes,
    right.parkedAt.trans left.parkedAt, right.returns.trans left.returns⟩

theorem Tracked.untracked {before after : RuntimeStores} (tracked : Tracked before)
    (same : Untracked before after) : Tracked after := by
  constructor
  · rw [same.contexts]
    exact tracked.entries
  · rw [same.snapshots, same.contexts]
    exact tracked.live
  · rw [same.contexts, same.snapshots, same.parkedAt]
    exact tracked.parked
  · rw [same.returns]
    exact tracked.returned
  · rw [same.snapshotBytes, same.snapshots]
    exact tracked.bytes

/-! ### The sum of the sizes -/

private theorem ofNat_of_sum {whole part rest : Nat} (sum : rest + part = whole)
    {bytes : UInt64} (small : UInt64.ofNat part = bytes) :
    UInt64.ofNat whole - bytes = UInt64.ofNat rest := by
  rw [← sum, UInt64.ofNat_add, small]
  exact UInt64.add_sub_cancel ..

theorem erased_total (snapshots : UnorderedMap ContextId Snapshot) (id : ContextId) :
    UInt64.ofNat (snapshotTotal snapshots) - bytesOf snapshots id =
      UInt64.ofNat (snapshotTotal (snapshots.erase id)) := by
  unfold bytesOf
  cases found : snapshots.lookup id with
  | none =>
      rw [UnorderedMap.erase_missing snapshots id found]
      exact UInt64.sub_zero _
  | some snapshot =>
      exact ofNat_of_sum (UnorderedMap.total_erase _ snapshots id snapshot found)
        (UInt64.ofNat_toNat ..)

theorem stored_total (snapshots : UnorderedMap ContextId Snapshot) (id : ContextId)
    (snapshot : Snapshot) :
    UInt64.ofNat (snapshotTotal snapshots) - bytesOf snapshots id + snapshot.bytes =
      UInt64.ofNat (snapshotTotal (snapshots.insert id snapshot)) := by
  have inserted : snapshotTotal (snapshots.insert id snapshot) =
      snapshotTotal (snapshots.erase id) + snapshot.bytes.toNat := by
    unfold snapshotTotal UnorderedMap.total
    rw [AList.entries_insert, List.map_cons, List.sum_cons, Nat.add_comm]
    rfl
  rw [erased_total, inserted, UInt64.ofNat_add, UInt64.ofNat_toNat]

/-! ### Calls of the model and of the file system -/

/-- A call of the model library changes nothing else. -/
theorem onLlm_spec {α : Type} {program : Llm α} {start : RuntimeStores}
    {post : α → LlmModel → Prop}
    (triple : Triple (fun model => model = start.llm) program post) :
    Triple (fun stores => stores = start) (onLlm program)
      fun value after => Untracked start after ∧ post value after.llm := by
  apply Triple.on
  intro whole same
  subst same
  apply triple.weaken
  intro value model holds
  exact ⟨⟨rfl, rfl, rfl, rfl, rfl, rfl⟩, holds⟩

/-- Nothing need be known about the call. -/
theorem onLlm_untracked {α : Type} (program : Llm α) (start : RuntimeStores) :
    Triple (fun stores => stores = start) (onLlm program)
      fun _ after => Untracked start after := by
  have anything : Triple (fun model => model = start.llm) program fun _ _ => True :=
    ⟨fun _ _ _ => trivial⟩
  apply (onLlm_spec anything).weaken
  intro value after holds
  exact holds.1

theorem succeeds_keeps (before : RuntimeStores → Prop) :
    Triple before succeeds fun _ => before :=
  Triple.asks Answer.succeeded

theorem removeFile_spec (contextId : ContextId) (start : RuntimeStores) :
    Triple (fun stores => stores = start) (removeFile contextId)
      fun _ after => Untracked start after ∧ after.llm = start.llm := by
  apply Triple.ask_then
  intro answer
  apply Triple.ite
  · intro succeeded
    apply Triple.change_then
    apply Triple.pure
    intro after same
    subst same
    exact ⟨⟨rfl, rfl, rfl, rfl, rfl, rfl⟩, rfl⟩
  · intro failed
    apply Triple.pure
    intro after same
    subst same
    exact ⟨Untracked.refl after, rfl⟩

/-- The position that a checkpoint reports. -/
private theorem llmCheckpointSeq_position (loaded : LoadedConfig) (seqId : Int)
    (base : LlmModel) :
    Triple (fun model => model = base) (LlmModel.llmCheckpointSeq loaded seqId)
      fun saved _ => ∀ checkpoint bytes, saved = some (checkpoint, bytes) →
        checkpoint.position = (base.seqStates seqId).currentPos := by
  apply Triple.ite
  · intro outside
    exact Triple.pure _ fun _ _ => nofun
  · intro inside
    apply Triple.inspect_then
    apply Triple.ite
    · intro unused
      exact Triple.pure _ fun _ _ => nofun
    · intro used
      apply Triple.ask_then
      intro answer
      apply Triple.ite
      · intro failed
        exact Triple.pure _ fun _ _ => nofun
      · intro written
        apply Triple.inspect_then
        apply Triple.pure
        intro model same checkpoint bytes produced
        cases produced
        rfl

/-- The state that a successful restore records. -/
private theorem llmRestoreSeq_state (loaded : LoadedConfig) (seqId : Int)
    (file : Option (Finset Nat)) (position : Nat) (base : LlmModel) :
    Triple (fun model => model = base) (LlmModel.llmRestoreSeq loaded seqId file position)
      fun restored model => restored = true →
        model.seqStates seqId = { currentPos := position, inUse := true } := by
  apply Triple.ite
  · intro refused
    exact Triple.pure _ fun _ _ => nofun
  · intro accepted
    apply Triple.change_then
    apply Triple.ask_then
    intro answer
    cases file with
    | none =>
        apply Triple.change_then
        exact Triple.pure _ fun _ _ => nofun
    | some positions =>
        apply Triple.ite
        · intro loads
          apply Triple.change_then
          apply Triple.change_then
          apply Triple.pure
          intro model same _
          subst same
          exact LlmModel.seqStates_storeSeqState ..
        · intro fails
          apply Triple.change_then
          apply Triple.change_then
          exact Triple.pure _ fun _ _ => nofun

/-! ### The two callbacks -/

/-- What a save leaves: the snapshot with the position before it, or nothing. -/
inductive Saved (start : RuntimeStores) (contextId : ContextId) (sequenceId : Int32) :
    Bool → RuntimeStores → Prop where
  | refused {after : RuntimeStores} (same : Untracked start after) :
      Saved start contextId sequenceId false after
  | stored {after : RuntimeStores} (bytes : UInt64)
      (same : Untracked (storeSnapshot contextId
        { position := (start.llm.seqStates sequenceId.toInt).currentPos, bytes } start) after) :
      Saved start contextId sequenceId true after

variable (config : AcceptedServing)

theorem Untracked.storeSnapshot {before after : RuntimeStores} (same : Untracked before after)
    (contextId : ContextId) (snapshot : Snapshot) :
    Untracked (storeSnapshot contextId snapshot before)
      (RuntimeStores.storeSnapshot contextId snapshot after) := by
  refine ⟨same.contexts, same.conversations, ?_, ?_, same.parkedAt, same.returns⟩
  · exact congrArg (fun snapshots => snapshots.insert contextId snapshot) same.snapshots
  · change after.snapshotBytes - bytesOf after.snapshots contextId + snapshot.bytes =
      before.snapshotBytes - bytesOf before.snapshots contextId + snapshot.bytes
    rw [same.snapshotBytes, same.snapshots]

theorem Untracked.eraseSnapshot {before after : RuntimeStores} (same : Untracked before after)
    (contextId : ContextId) :
    Untracked (eraseSnapshot contextId before)
      (RuntimeStores.eraseSnapshot contextId after) := by
  refine ⟨same.contexts, same.conversations, ?_, ?_, same.parkedAt, same.returns⟩
  · exact congrArg (fun snapshots => snapshots.erase contextId) same.snapshots
  · change after.snapshotBytes - bytesOf after.snapshots contextId =
      before.snapshotBytes - bytesOf before.snapshots contextId
    rw [same.snapshotBytes, same.snapshots]

private theorem publishCheckpoint_spec (contextId : ContextId) (sequenceId : Int32)
    (checkpoint : LlmModel.Checkpoint) (bytes : UInt64) (error : StdString)
    {start middle : RuntimeStores} (same : Untracked start middle)
    (position : checkpoint.position = (start.llm.seqStates sequenceId.toInt).currentPos) :
    Triple (fun stores => stores = middle)
      (publishCheckpoint config contextId sequenceId checkpoint bytes error)
      fun outcome after => Saved start contextId sequenceId outcome.1 after := by
  apply Triple.bind (succeeds_keeps _)
  intro renamed
  apply Triple.ite
  · intro failed
    apply Triple.pure
    intro after equal
    subst equal
    exact Saved.refused same
  · intro published
    apply Triple.change_then
    apply Triple.change_then
    apply Triple.bind (onLlm_untracked _ _)
    intro cleared
    apply Triple.pure
    intro after last
    have filed : Untracked start (storeFile contextId (some checkpoint.positions) middle) :=
      same.trans ⟨rfl, rfl, rfl, rfl, rfl, rfl⟩
    have stored := (filed.storeSnapshot contextId
      { position := checkpoint.position, bytes }).trans last
    rw [position] at stored
    exact Saved.stored bytes stored

theorem swapOutContext_spec (contextId : ContextId) (sequenceId : Int32) (error : StdString)
    (start : RuntimeStores) :
    Triple (fun stores => stores = start)
      (swapOutContext config contextId sequenceId error)
      fun outcome after => Saved start contextId sequenceId outcome.1 after := by
  apply Triple.bind (onLlm_spec (llmCheckpointSeq_position config.loaded sequenceId.toInt
    start.llm))
  intro saved
  apply Triple.from_state
  intro middle held
  obtain ⟨same, positions⟩ := held
  obtain _ | ⟨checkpoint, bytes⟩ := saved
  · apply Triple.pure
    intro after equal
    subst equal
    exact Saved.refused same
  · apply Triple.bind (succeeds_keeps _)
    intro secured
    apply Triple.ite
    · intro failed
      apply Triple.pure
      intro after equal
      subst equal
      exact Saved.refused same
    · intro done
      apply Triple.bind (removeFile_spec contextId middle)
      intro removed
      apply Triple.from_state
      intro cleaned unchanged
      exact publishCheckpoint_spec config contextId sequenceId checkpoint bytes error
        (same.trans unchanged.1) (positions checkpoint bytes rfl)

/-- What a load leaves: the sequence at the position of the snapshot, which may
stay behind, or nothing. -/
inductive Loaded (start : RuntimeStores) (contextId : ContextId) (sequenceId : Int32) :
    Bool → RuntimeStores → Prop where
  | refused {after : RuntimeStores} (same : Untracked start after) :
      Loaded start contextId sequenceId false after
  | restored {after : RuntimeStores} (snapshot : Snapshot)
      (found : start.snapshots.lookup contextId = some snapshot)
      (state : after.llm.seqStates sequenceId.toInt =
        { currentPos := snapshot.position, inUse := true })
      (same : Untracked start after ∨ Untracked (eraseSnapshot contextId start) after) :
      Loaded start contextId sequenceId true after

theorem swapInContext_spec (contextId : ContextId) (sequenceId : Int32) (error : StdString)
    (start : RuntimeStores) :
    Triple (fun stores => stores = start)
      (swapInContext config contextId sequenceId error)
      fun outcome after => Loaded start contextId sequenceId outcome.1 after := by
  apply Triple.inspect_then
  cases found : start.snapshots.lookup contextId with
  | none =>
      apply Triple.pure
      intro after equal
      subst equal
      exact Loaded.refused (Untracked.refl after)
  | some snapshot =>
      apply Triple.inspect_then
      apply Triple.bind (onLlm_spec (llmRestoreSeq_state config.loaded sequenceId.toInt
        (start.files contextId) snapshot.position start.llm))
      intro restored
      apply Triple.ite
      · intro failed
        apply Triple.pure
        intro after held
        exact Loaded.refused held.1
      · intro done
        have success : restored = true := by
          cases restored with
          | false => exact absurd rfl done
          | true => rfl
        apply Triple.from_state
        intro middle held
        obtain ⟨same, recorded⟩ := held
        have state := recorded success
        apply Triple.bind (removeFile_spec contextId middle)
        intro removed
        apply Triple.ite
        · intro gone
          apply Triple.from_state
          intro cleaned unchanged
          obtain ⟨still, llm⟩ := unchanged
          apply Triple.change_then
          apply Triple.pure
          intro after equal
          subst equal
          have here : cleaned.llm.seqStates sequenceId.toInt =
              { currentPos := snapshot.position, inUse := true } := by
            rw [llm]
            exact state
          exact Loaded.restored snapshot found here
            (Or.inr ((same.trans still).eraseSnapshot contextId))
        · intro kept
          apply Triple.pure
          intro after unchanged
          obtain ⟨still, llm⟩ := unchanged
          have here : after.llm.seqStates sequenceId.toInt =
              { currentPos := snapshot.position, inUse := true } := by
            rw [llm]
            exact state
          exact Loaded.restored snapshot found here (Or.inl (same.trans still))

/-! ### Contexts and snapshots together -/

section Manager

variable {stores start : RuntimeStores}

/-- The manager may change entries as long as none of them is lost or swapped out. -/
theorem Tracked.setContexts (tracked : Tracked stores) (contexts : ContextManager)
    (entries : contexts.Sound)
    (keeps : ∀ id entry, stores.contexts.context? id = some entry →
      ∃ current, contexts.context? id = some current)
    (away : ∀ id current, contexts.context? id = some current → current.resident = false →
      ∃ entry, stores.contexts.context? id = some entry ∧ entry.resident = false) :
    Tracked (RuntimeStores.setContexts contexts stores) := by
  refine ⟨entries, ?_, ?_, tracked.returned, tracked.bytes⟩
  · intro id snapshot found
    obtain ⟨entry, present⟩ := tracked.live id snapshot found
    exact keeps id entry present
  · intro id current present gone
    obtain ⟨entry, before, parked⟩ := away id current present gone
    exact tracked.parked id entry before parked

/-- A context is swapped out after its snapshot has been stored. -/
theorem Tracked.swapOut {after : RuntimeStores} (tracked : Tracked start) (key : ContextId)
    (entry : Entry) (present : start.contexts.context? key = some entry) (bytes : UInt64)
    (position : Nat)
    (stored : Untracked (storeSnapshot key { position, bytes } start) after) :
    Tracked (notePark key position
      (RuntimeStores.setContexts (start.contexts.swapOut key entry) after)) := by
  have snapshots : after.snapshots = start.snapshots.insert key { position, bytes } :=
    stored.snapshots
  refine ⟨tracked.entries.swapOut key entry present, ?_, ?_, ?_, ?_⟩
  · intro id snapshot found
    change ∃ current, (start.contexts.swapOut key entry).context? id = some current
    rw [ContextManager.context?_swapOut]
    by_cases same : id = key
    · rw [if_pos same]
      exact ⟨_, rfl⟩
    · rw [if_neg same]
      change after.snapshots.lookup id = some snapshot at found
      rw [snapshots, UnorderedMap.lookup_insert_if, if_neg same] at found
      exact tracked.live id snapshot found
  · intro id current found gone
    change (start.contexts.swapOut key entry).context? id = some current at found
    change ∃ snapshot, after.snapshots.lookup id = some snapshot ∧
      snapshot.position = Function.update after.parkedAt key position id
    rw [snapshots, UnorderedMap.lookup_insert_if]
    rw [ContextManager.context?_swapOut] at found
    by_cases same : id = key
    · rw [if_pos same, same, Function.update_self]
      exact ⟨_, rfl, rfl⟩
    · rw [if_neg same] at found
      rw [if_neg same, Function.update_of_ne same, stored.parkedAt]
      exact tracked.parked id current found gone
  · change ∀ pair ∈ after.returns, _
    rw [stored.returns]
    exact tracked.returned
  · change after.snapshotBytes = UInt64.ofNat (snapshotTotal after.snapshots)
    rw [stored.snapshotBytes, snapshots]
    change start.snapshotBytes - bytesOf start.snapshots key + bytes = _
    rw [tracked.bytes]
    exact stored_total start.snapshots key { position, bytes }

/-- A snapshot may be erased together with a write to its context, unless that is
swapped out then. -/
theorem Tracked.forget (tracked : Tracked stores) (contexts : ContextManager) (key : ContextId)
    (entries : contexts.Sound)
    (others : ∀ id, id ≠ key → contexts.context? id = stores.contexts.context? id)
    (home : ∀ entry, contexts.context? key = some entry → entry.resident = true) :
    Tracked (RuntimeStores.setContexts contexts (RuntimeStores.eraseSnapshot key stores)) := by
  have lookup (id : ContextId) (different : id ≠ key) :
      (stores.snapshots.erase key).lookup id = stores.snapshots.lookup id :=
    AList.lookup_erase_ne different
  refine ⟨entries, ?_, ?_, tracked.returned, ?_⟩
  · intro id snapshot found
    change (stores.snapshots.erase key).lookup id = some snapshot at found
    change ∃ entry, contexts.context? id = some entry
    by_cases same : id = key
    · rw [same, AList.lookup_erase] at found
      cases found
    · rw [lookup id same] at found
      rw [others id same]
      exact tracked.live id snapshot found
  · intro id entry present gone
    change contexts.context? id = some entry at present
    change ∃ snapshot, (stores.snapshots.erase key).lookup id = some snapshot ∧ _
    by_cases same : id = key
    · rw [same] at present
      rw [home entry present] at gone
      cases gone
    · rw [others id same] at present
      rw [lookup id same]
      exact tracked.parked id entry present gone
  · change stores.snapshotBytes - bytesOf stores.snapshots key = _
    rw [tracked.bytes]
    exact erased_total stores.snapshots key

/-- What the search for a sequence leaves. -/
structure Sought (start : RuntimeStores) (excludedContext : ContextId)
    (outcome : Option Int32) (after : RuntimeStores) : Prop where
  conversations : after.conversations = start.conversations
  tracked : Tracked after
  nothing : outcome = none → after.contexts = start.contexts
  taken : ∀ sequence, outcome = some sequence →
    start.contexts.Obtained excludedContext after.contexts sequence

theorem Sought.refused {after : RuntimeStores} (tracked : Tracked start)
    (excludedContext : ContextId) (same : Untracked start after) :
    Sought start excludedContext none after :=
  ⟨same.conversations, tracked.untracked same, fun _ => same.contexts, nofun⟩

private theorem saveCandidate_spec (tracked : Tracked start) (excludedContext : ContextId)
    (order : IterationOrder ContextId) (exhausted : start.contexts.freeSequences = [])
    (candidate : ContextId × Entry)
    (chosen : start.contexts.swapOutCandidate excludedContext order = some candidate)
    (error : StdString) :
    Triple (fun stores => stores = start)
      (saveCandidate config start.contexts candidate error)
      fun outcome after => Sought start excludedContext outcome.2 after := by
  obtain ⟨key, entry⟩ := candidate
  have best := ContextManager.swapOutCandidate_some start.contexts excludedContext order _ chosen
  have own : entry.id = key := (tracked.entries key entry best.present).ownId
  apply Triple.inspect_then
  apply Triple.bind (swapOutContext_spec config entry.id entry.sequenceId error start)
  intro saved
  apply Triple.ite
  · intro success
    apply Triple.from_state
    intro middle stored
    rw [success] at stored
    cases stored with
    | stored bytes same =>
        apply Triple.change_then
        apply Triple.change_then
        apply Triple.pure
        intro after equal
        subst equal
        rw [own] at same
        refine ⟨same.conversations, tracked.swapOut key entry best.present bytes _ same, nofun,
          ?_⟩
        intro sequence given
        cases given
        exact ContextManager.Obtained.swappedOut order key entry exhausted best
  · intro failure
    apply Triple.pure
    intro after stored
    rw [Bool.eq_false_of_not_eq_true failure] at stored
    cases stored with
    | refused same => exact Sought.refused tracked excludedContext same

theorem obtainSequenceLocked_spec (tracked : Tracked start) (excludedContext : ContextId)
    (error : StdString) (order : IterationOrder ContextId) :
    Triple (fun stores => stores = start)
      (obtainSequenceLocked config excludedContext error order)
      fun outcome after => Sought start excludedContext outcome.2 after := by
  have nothing (after : RuntimeStores) (same : after = start) :
      Sought start excludedContext none after := by
    subst same
    exact Sought.refused tracked excludedContext (Untracked.refl after)
  apply Triple.inspect_then
  cases free : start.contexts.freeSequences with
  | cons sequence rest =>
      apply Triple.change_then
      apply Triple.pure
      intro after same
      subst same
      have entries : ({ start.contexts with freeSequences := rest } : ContextManager).Sound :=
        tracked.entries.congr _ rfl
      refine ⟨rfl, tracked.setContexts _ entries ?_ ?_, nofun, ?_⟩
      · exact fun id entry present => ⟨entry, present⟩
      · exact fun id entry present gone => ⟨entry, present, gone⟩
      · intro taken given
        cases given
        exact ContextManager.Obtained.popped sequence rest free
  | nil =>
      apply Triple.ite
      · intro disabled
        exact Triple.pure _ nothing
      · intro enabled
        cases chosen : start.contexts.swapOutCandidate excludedContext order with
        | none => exact Triple.pure _ nothing
        | some candidate =>
            exact saveCandidate_spec config tracked excludedContext order free candidate chosen
              error

/-! ### A context that becomes resident again -/

theorem Untracked.setContexts {before after : RuntimeStores} (same : Untracked before after)
    (contexts : ContextManager) :
    Untracked (RuntimeStores.setContexts contexts before)
      (RuntimeStores.setContexts contexts after) :=
  ⟨rfl, same.conversations, same.snapshots, same.snapshotBytes, same.parkedAt, same.returns⟩

theorem Tracked.noteReturn (tracked : Tracked stores) (key : ContextId) (sequence : Int32)
    (state : stores.llm.seqStates sequence.toInt =
      { currentPos := stores.parkedAt key, inUse := true }) :
    Tracked (RuntimeStores.noteReturn key sequence stores) := by
  refine ⟨tracked.entries, tracked.live, tracked.parked, ?_, tracked.bytes⟩
  intro pair member
  rcases List.mem_cons.mp member with same | earlier
  · rw [same]
    exact state
  · exact tracked.returned pair earlier

/-- The entry of a context that is swapped out receives a sequence, and its
snapshot may go. -/
theorem Tracked.swapIn {after : RuntimeStores} (tracked : Tracked start) (key : ContextId)
    (entry : Entry) (sequence : Int32) (present : start.contexts.context? key = some entry)
    (loaded : Untracked start after ∨
      Untracked (RuntimeStores.eraseSnapshot key start) after) :
    Tracked (RuntimeStores.setContexts (start.contexts.swapIn key entry sequence) after) := by
  have entries := tracked.entries.swapIn key entry sequence present
  have others (id : ContextId) (different : id ≠ key) :
      (start.contexts.swapIn key entry sequence).context? id = start.contexts.context? id := by
    rw [ContextManager.context?_swapIn, if_neg different]
  have home : ∀ current,
      (start.contexts.swapIn key entry sequence).context? key = some current →
        current.resident = true := by
    intro current found
    rw [ContextManager.context?_swapIn, if_pos rfl] at found
    cases found
    rfl
  cases loaded with
  | inl kept =>
      apply Tracked.untracked _ (kept.setContexts _)
      apply tracked.setContexts _ entries
      · intro id current found
        rw [ContextManager.context?_swapIn]
        by_cases same : id = key
        · rw [if_pos same]
          exact ⟨_, rfl⟩
        · rw [if_neg same]
          exact ⟨current, found⟩
      · intro id current found gone
        by_cases same : id = key
        · rw [same] at found
          rw [home current found] at gone
          cases gone
        · rw [others id same] at found
          exact ⟨current, found, gone⟩
  | inr erased =>
      exact (tracked.forget _ key entries others home).untracked (erased.setContexts _)

/-- What an attempt to make a context resident leaves. -/
structure Settled (start : RuntimeStores) (key : ContextId) (entry : Entry)
    (outcome : Option Entry) (after : RuntimeStores) : Prop where
  conversations : after.conversations = start.conversations
  tracked : Tracked after
  made : start.contexts.MadeResident key entry after.contexts outcome

private theorem loadInto_spec {middle : RuntimeStores} (tracked : Tracked middle)
    (conversations : middle.conversations = start.conversations) (key : ContextId)
    (entry : Entry) (present : start.contexts.context? key = some entry)
    (own : entry.id = key) (away : entry.resident = false) (sequence : Int32)
    (taken : start.contexts.Obtained entry.id middle.contexts sequence) (error : StdString) :
    Triple (fun stores => stores = middle) (loadInto config key entry sequence error)
      fun outcome after => Settled start key entry outcome.2 after := by
  have still := taken.context?_away key entry present away
  apply Triple.inspect_then
  apply Triple.bind (swapInContext_spec config entry.id sequence error middle)
  intro loaded
  apply Triple.ite
  · intro success
    apply Triple.from_state
    intro restored held
    rw [success, own] at held
    cases held with
    | restored snapshot found state same =>
        obtain ⟨parked, stored, position⟩ := tracked.parked key entry still away
        rw [found] at stored
        cases stored
        have unmoved : restored.parkedAt = middle.parkedAt := by
          cases same with
          | inl kept => exact kept.parkedAt
          | inr erased => exact erased.parkedAt
        have talk : restored.conversations = start.conversations := by
          cases same with
          | inl kept => exact kept.conversations.trans conversations
          | inr erased => exact erased.conversations.trans conversations
        rw [position, ← unmoved] at state
        apply Triple.change_then
        apply Triple.change_then
        apply Triple.pure
        intro after equal
        subst equal
        constructor
        · exact talk
        · exact (tracked.swapIn key entry sequence still same).noteReturn key sequence state
        · exact ContextManager.MadeResident.restored middle.contexts sequence away taken
  · intro failure
    apply Triple.from_state
    intro refused held
    rw [Bool.eq_false_of_not_eq_true failure] at held
    cases held with
    | refused same =>
        apply Triple.change_then
        apply Triple.pure
        intro after equal
        subst equal
        have unchanged : (middle.contexts.pushFree sequence).Sound :=
          tracked.entries.congr _ rfl
        have freed : Tracked
            (RuntimeStores.setContexts (middle.contexts.pushFree sequence) middle) := by
          apply tracked.setContexts _ unchanged
          · intro id current found
            exact ⟨current, found⟩
          · intro id current found gone
            exact ⟨current, found, gone⟩
        constructor
        · exact same.conversations.trans conversations
        · exact freed.untracked (same.setContexts _)
        · exact ContextManager.MadeResident.unrestored middle.contexts sequence away taken

theorem makeResidentLocked_spec (tracked : Tracked start) (key : ContextId) (entry : Entry)
    (present : start.contexts.context? key = some entry) (error : StdString)
    (order : IterationOrder ContextId) :
    Triple (fun stores => stores = start) (makeResidentLocked config key entry error order)
      fun outcome after => Settled start key entry outcome.2 after := by
  have own : entry.id = key := (tracked.entries key entry present).ownId
  apply Triple.ite
  · intro home
    apply Triple.pure
    intro after same
    subst same
    exact ⟨rfl, tracked, ContextManager.MadeResident.already home⟩
  · intro gone
    have away : entry.resident = false := Bool.eq_false_of_not_eq_true gone
    apply Triple.ite
    · intro disabled
      apply Triple.pure
      intro after same
      subst same
      exact ⟨rfl, tracked, ContextManager.MadeResident.refused⟩
    · intro enabled
      apply Triple.bind (obtainSequenceLocked_spec config tracked entry.id error order)
      intro obtained
      apply Triple.from_state
      intro middle sought
      cases outcome : obtained.2 with
      | none =>
          apply Triple.pure
          intro after same
          subst same
          have unchanged := sought.nothing outcome
          refine ⟨sought.conversations, sought.tracked, ?_⟩
          rw [unchanged]
          exact ContextManager.MadeResident.refused
      | some sequence =>
          exact loadInto_spec config sought.tracked sought.conversations key entry present own
            away sequence (sought.taken sequence outcome) obtained.1

end Manager

end AgentNucleus.Top.RuntimeStores

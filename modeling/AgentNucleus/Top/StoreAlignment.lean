/-
The sequences of the contexts inside the stores.  No two tables hold the same
sequence, a free one is not in use, the positions that llama.cpp stores are those
that are recorded, and a snapshot comes with the file that was written for it.
-/

import AgentNucleus.Top.SequenceLayout
import AgentNucleus.Top.StoreTurns

set_option autoImplicit false

namespace AgentNucleus.Top.RuntimeStores

open AgentNucleus.Library
open AgentNucleus.Library.Program (Triple)
open AgentNucleus.Runtime (AgentId ContextId InvocationRequest StdString TimePoint)
open AgentNucleus.Top.LlmModel (Aligned Checkpoint IsPrivate)

variable (config : AcceptedServing)

/-- How often a sequence occurs outside of the tables. -/
def looseTally (id : Int) (loose : Option Int32) : Nat :=
  loose.elim 0 (ContextManager.tally id)

/-- A file that belongs to a snapshot holds what was stored at its position. -/
def Filed (stores : RuntimeStores) : Prop :=
  ∀ id snapshot positions, stores.snapshots.lookup id = some snapshot →
    stores.files id = some positions →
      Checkpoint.Sound config.loaded { positions, position := snapshot.position }

def Unused (stores : RuntimeStores) (sequence : Int32) : Prop :=
  (stores.llm.seqStates sequence.toInt).inUse = false

/-- One sequence may be loose: a call has taken it out of the tables, and it is
not in use.  Another one may have been returned to the free list in use. -/
structure Apart (loose returned : Option Int32) (stores : RuntimeStores) : Prop where
  entries : stores.contexts.Sound
  aligned : Aligned config.loaded stores.llm
  once : ∀ id, stores.contexts.occurrences id + looseTally id loose ≤ 1
  within : ∀ id, 0 < stores.contexts.occurrences id + looseTally id loose →
    IsPrivate config.loaded id
  idle : ∀ sequence ∈ stores.contexts.freeSequences, returned ≠ some sequence →
    stores.Unused sequence
  taken : ∀ sequence, loose = some sequence → stores.Unused sequence
  filed : Filed config stores

variable {config} {stores start middle : RuntimeStores} {loose returned : Option Int32}

theorem looseTally_some (sequence : Int32) : looseTally sequence.toInt (some sequence) = 1 :=
  if_pos rfl

theorem free_occurs {manager : ContextManager} {sequence : Int32}
    (member : sequence ∈ manager.freeSequences) :
    0 < manager.freeOccurrences sequence.toInt := by
  have one : ContextManager.tally sequence.toInt sequence = 1 := if_pos rfl
  have counted : ContextManager.tally sequence.toInt sequence ≤
      (manager.freeSequences.map (ContextManager.tally sequence.toInt)).sum :=
    List.single_le_sum (fun _ _ => Nat.zero_le _) _ (List.mem_map_of_mem member)
  unfold ContextManager.freeOccurrences
  omega

theorem resident_occurs {manager : ContextManager} {key : ContextId} {entry : Entry}
    (present : manager.context? key = some entry) (home : entry.resident = true) :
    0 < manager.heldOccurrences entry.sequenceId.toInt := by
  have held : ContextManager.holds entry.sequenceId.toInt entry ≤
      manager.heldOccurrences entry.sequenceId.toInt :=
    UnorderedMap.weight_le_total
      (fun _ other => ContextManager.holds entry.sequenceId.toInt other)
      manager.contexts key entry present
  have own : ContextManager.tally entry.sequenceId.toInt entry.sequenceId = 1 := if_pos rfl
  rw [ContextManager.holds_resident _ entry home, own] at held
  exact held

/-- The loose sequence is not in the free list as well. -/
theorem Apart.not_free {sequence : Int32} (apart : Apart config (some sequence) returned stores) :
    ∀ other ∈ stores.contexts.freeSequences, other.toInt ≠ sequence.toInt := by
  intro other member same
  have once := apart.once sequence.toInt
  have free := free_occurs member
  rw [looseTally_some] at once
  rw [same] at free
  unfold ContextManager.occurrences at once
  omega

/-- The sequence of a resident context is not free. -/
theorem Apart.resident_not_free (apart : Apart config loose returned stores) {key : ContextId}
    {entry : Entry} (present : stores.contexts.context? key = some entry)
    (home : entry.resident = true) :
    ∀ other ∈ stores.contexts.freeSequences, other.toInt ≠ entry.sequenceId.toInt := by
  intro other member same
  have once := apart.once entry.sequenceId.toInt
  have free := free_occurs member
  have held := resident_occurs present home
  rw [same] at free
  unfold ContextManager.occurrences at once
  omega

theorem Apart.free_private (apart : Apart config loose returned stores) {sequence : Int32}
    (member : sequence ∈ stores.contexts.freeSequences) :
    IsPrivate config.loaded sequence.toInt := by
  apply apart.within
  have free := free_occurs member
  unfold ContextManager.occurrences
  omega

theorem Apart.resident_private (apart : Apart config loose returned stores) {key : ContextId}
    {entry : Entry} (present : stores.contexts.context? key = some entry)
    (home : entry.resident = true) : IsPrivate config.loaded entry.sequenceId.toInt := by
  apply apart.within
  have held := resident_occurs present home
  unfold ContextManager.occurrences
  omega

/-! ### Calls of the model and of the file system -/

/-- A call of the model library, with what is known of it. -/
theorem onLlm_frame {α : Type} {program : Llm α} {post : α → LlmModel → Prop}
    (triple : Triple (fun model => model = start.llm) program post) :
    Triple (fun stores => stores = start) (onLlm program)
      fun value after => after = { start with llm := after.llm } ∧ post value after.llm := by
  apply Triple.on
  intro whole same
  subst same
  apply triple.weaken
  intro value model holds
  exact ⟨rfl, holds⟩

/-- The model may change as long as the sequences that must not be in use stay so. -/
theorem Apart.setLlm (apart : Apart config loose returned stores) {llm : LlmModel} (seqId : Int)
    (aligned : Aligned config.loaded llm)
    (others : ∀ other, other ≠ seqId → llm.seqStates other = stores.llm.seqStates other)
    (here : (llm.seqStates seqId).inUse = false ∨
      (∀ sequence ∈ stores.contexts.freeSequences, sequence.toInt ≠ seqId) ∧
        ∀ sequence, loose = some sequence → sequence.toInt ≠ seqId) :
    Apart config loose returned { stores with llm } := by
  have unused (sequence : Int32) (before : stores.Unused sequence)
      (away : (llm.seqStates seqId).inUse = false ∨ sequence.toInt ≠ seqId) :
      ({ stores with llm } : RuntimeStores).Unused sequence := by
    change (llm.seqStates sequence.toInt).inUse = false
    by_cases same : sequence.toInt = seqId
    · rw [same]
      exact away.resolve_right fun different => different same
    · rw [others _ same]
      exact before
  refine ⟨apart.entries, aligned, apart.once, apart.within, ?_, ?_, apart.filed⟩
  · intro sequence member spared
    exact unused sequence (apart.idle sequence member spared)
      (here.imp_right fun away => away.1 sequence member)
  · intro sequence given
    exact unused sequence (apart.taken sequence given)
      (here.imp_right fun away => away.2 sequence given)

/-- Entries, snapshots and files of every context but one. -/
structure SameFiles (spared : ContextId) (before after : RuntimeStores) : Prop where
  files : ∀ id, id ≠ spared → after.files id = before.files id
  snapshots : ∀ id, id ≠ spared → after.snapshots.lookup id = before.snapshots.lookup id

theorem SameFiles.refl (spared : ContextId) (stores : RuntimeStores) :
    SameFiles spared stores stores :=
  ⟨fun _ _ => rfl, fun _ _ => rfl⟩

/-- Removing a file touches nothing else and leaves no wrong one. -/
theorem removeFile_frame (contextId : ContextId) (start : RuntimeStores) :
    Triple (fun stores => stores = start) (removeFile contextId)
      fun _ after => after = { start with files := after.files } ∧
        (∀ id, id ≠ contextId → after.files id = start.files id) ∧
        ∀ id positions, after.files id = some positions → start.files id = some positions := by
  apply Triple.ask_then
  intro answer
  apply Triple.ite
  · intro succeeded
    apply Triple.change_then
    apply Triple.pure
    intro after same
    subst same
    have other (id : ContextId) (different : id ≠ contextId) :
        (storeFile contextId none start).files id = start.files id :=
      Function.update_of_ne different ..
    refine ⟨rfl, other, ?_⟩
    intro id positions present
    by_cases same : id = contextId
    · have gone : (storeFile contextId none start).files id = none := by
        rw [same]
        exact Function.update_self ..
      rw [gone] at present
      cases present
    · rw [← other id same]
      exact present
  · intro failed
    apply Triple.pure
    intro after same
    subst same
    exact ⟨rfl, fun _ _ => rfl, fun _ _ present => present⟩

/-! ### Swapping out -/

/-- What a save leaves, whether it succeeds or not. -/
structure Saving (config : AcceptedServing) (start : RuntimeStores) (contextId : ContextId)
    (seqId : Int) (saved : Bool) (after : RuntimeStores) : Prop where
  contexts : after.contexts = start.contexts
  conversations : after.conversations = start.conversations
  sameFiles : SameFiles contextId start after
  aligned : Aligned config.loaded after.llm
  filed : Filed config after
  others : ∀ other, other ≠ seqId → after.llm.seqStates other = start.llm.seqStates other
  emptied : if saved then after.llm.seqStates seqId = {}
    else after.llm.seqStates seqId = start.llm.seqStates seqId

/-- Fewer files hold fewer positions. -/
theorem Filed.fewer {before after : RuntimeStores} (filed : Filed config before)
    (snapshots : after.snapshots = before.snapshots)
    (files : ∀ id positions, after.files id = some positions →
      before.files id = some positions) : Filed config after := by
  intro id snapshot positions found present
  rw [snapshots] at found
  exact filed id snapshot positions found (files id positions present)

theorem Filed.erased (filed : Filed config start) (contextId : ContextId) :
    Filed config (eraseSnapshot contextId start) := by
  intro id snapshot positions found present
  change (start.snapshots.erase contextId).lookup id = some snapshot at found
  by_cases same : id = contextId
  · rw [same, AList.lookup_erase] at found
    cases found
  · rw [AList.lookup_erase_ne same] at found
    exact filed id snapshot positions found present

/-- A checkpoint that is published together with its snapshot. -/
theorem Filed.published (filed : Filed config start) (contextId : ContextId)
    (checkpoint : Checkpoint) (sound : checkpoint.Sound config.loaded) (bytes : UInt64) :
    Filed config (storeSnapshot contextId { position := checkpoint.position, bytes }
      (storeFile contextId (some checkpoint.positions) start)) := by
  intro id snapshot positions found present
  change (start.snapshots.insert contextId _).lookup id = some snapshot at found
  change Function.update start.files contextId (some checkpoint.positions) id = some positions
    at present
  rw [UnorderedMap.lookup_insert_if] at found
  by_cases same : id = contextId
  · rw [if_pos same] at found
    rw [same, Function.update_self] at present
    cases found
    cases present
    exact sound
  · rw [if_neg same] at found
    rw [Function.update_of_ne same] at present
    exact filed id snapshot positions found present

private theorem publishCheckpoint_saving (contextId : ContextId) (sequenceId : Int32)
    (found : IsPrivate config.loaded sequenceId.toInt) (checkpoint : Checkpoint)
    (sound : checkpoint.Sound config.loaded) (bytes : UInt64) (error : StdString)
    (saving : Saving config start contextId sequenceId.toInt false middle) :
    Triple (fun stores => stores = middle)
      (publishCheckpoint config contextId sequenceId checkpoint bytes error)
      fun outcome after => Saving config start contextId sequenceId.toInt outcome.1 after := by
  apply Triple.bind (succeeds_keeps _)
  intro renamed
  apply Triple.ite
  · intro failed
    apply Triple.pure
    intro after same
    subst same
    exact saving
  · intro published
    apply Triple.change_then
    apply Triple.change_then
    have model : Aligned config.loaded (storeSnapshot contextId
        { position := checkpoint.position, bytes }
        (storeFile contextId (some checkpoint.positions) middle)).llm := saving.aligned
    apply Triple.bind (onLlm_frame (LlmModel.llmClearSeq_spec sequenceId.toInt model))
    intro cleared
    apply Triple.pure
    intro after held
    obtain ⟨same, aligned, others, emptied⟩ := held
    have filed := saving.filed.published contextId checkpoint sound bytes
    rw [same]
    refine ⟨saving.contexts, saving.conversations, ⟨?_, ?_⟩, aligned, filed, ?_, ?_⟩
    · intro id different
      change Function.update middle.files contextId _ id = _
      rw [Function.update_of_ne different, saving.sameFiles.files id different]
    · intro id different
      change (middle.snapshots.insert contextId _).lookup id = _
      rw [UnorderedMap.lookup_insert_if, if_neg different,
        saving.sameFiles.snapshots id different]
    · intro other different
      exact (others other different).trans (saving.others other different)
    · rw [if_pos rfl]
      exact emptied found

theorem swapOutContext_saving (contextId : ContextId) (sequenceId : Int32)
    (found : IsPrivate config.loaded sequenceId.toInt) (error : StdString)
    (aligned : Aligned config.loaded start.llm) (filed : Filed config start) :
    Triple (fun stores => stores = start)
      (swapOutContext config contextId sequenceId error)
      fun outcome after => Saving config start contextId sequenceId.toInt outcome.1 after := by
  have nothing : Saving config start contextId sequenceId.toInt false start :=
    ⟨rfl, rfl, SameFiles.refl contextId start, aligned, filed, fun _ _ => rfl, rfl⟩
  apply Triple.bind (onLlm_frame (LlmModel.llmCheckpointSeq_spec sequenceId.toInt aligned))
  intro saved
  apply Triple.from_state
  intro unchanged held
  obtain ⟨whole, model, sound⟩ := held
  have same : unchanged = start := by
    rw [whole, model]
  subst same
  obtain _ | ⟨checkpoint, bytes⟩ := saved
  · apply Triple.pure
    intro after same
    subst same
    exact nothing
  · apply Triple.bind (succeeds_keeps _)
    intro secured
    apply Triple.ite
    · intro failed
      apply Triple.pure
      intro after same
      subst same
      exact nothing
    · intro done
      apply Triple.bind (removeFile_frame contextId unchanged)
      intro removed
      apply Triple.from_state
      intro cleaned left
      obtain ⟨frame, others, kept⟩ := left
      have rest : Saving config unchanged contextId sequenceId.toInt false cleaned := by
        have fewer := filed.fewer (by rw [frame]) kept
        refine ⟨?_, ?_, ⟨others, ?_⟩, ?_, fewer, ?_, ?_⟩
        · rw [frame]
        · rw [frame]
        · intro id different
          rw [frame]
        · rw [frame]
          exact aligned
        · intro other different
          rw [frame]
        · rw [frame]
          rfl
      exact publishCheckpoint_saving contextId sequenceId found checkpoint
        (sound checkpoint bytes rfl).1 bytes error rest

/-- What the search for a sequence leaves.  The snapshots of contexts that wait for
one are not touched. -/
structure Fetched (config : AcceptedServing) (start : RuntimeStores)
    (excludedContext : ContextId) (outcome : Option Int32) (after : RuntimeStores) : Prop where
  apart : Apart config outcome none after
  conversations : after.conversations = start.conversations
  nothing : outcome = none → after.contexts = start.contexts
  obtained : ∀ sequence, outcome = some sequence →
    start.contexts.Obtained excludedContext after.contexts sequence
  waiting : ∀ id entry, start.contexts.context? id = some entry → entry.resident = false →
    after.files id = start.files id ∧
      after.snapshots.lookup id = start.snapshots.lookup id

theorem Fetched.refused (apart : Apart config none none start) (excludedContext : ContextId) :
    Fetched config start excludedContext none start :=
  ⟨apart, rfl, fun _ => rfl, nofun, fun _ _ _ _ => ⟨rfl, rfl⟩⟩

private theorem saveCandidate_fetched (apart : Apart config none none start)
    (excludedContext : ContextId) (order : IterationOrder ContextId)
    (exhausted : start.contexts.freeSequences = []) (candidate : ContextId × Entry)
    (chosen : start.contexts.swapOutCandidate excludedContext order = some candidate)
    (error : StdString) :
    Triple (fun stores => stores = start)
      (saveCandidate config start.contexts candidate error)
      fun outcome after => Fetched config start excludedContext outcome.2 after := by
  obtain ⟨key, entry⟩ := candidate
  have best := ContextManager.swapOutCandidate_some start.contexts excludedContext order _ chosen
  have home := (ContextManager.skipped_eq_false excludedContext entry best.eligible).1
  have own : entry.id = key := (apart.entries key entry best.present).ownId
  have found := apart.resident_private best.present home
  have waits {after : RuntimeStores} (same : SameFiles entry.id start after) (id : ContextId)
      (other : Entry) (present : start.contexts.context? id = some other)
      (away : other.resident = false) : after.files id = start.files id ∧
        after.snapshots.lookup id = start.snapshots.lookup id := by
    have different : id ≠ entry.id := by
      intro equal
      rw [own] at equal
      subst equal
      cases present.symm.trans best.present
      rw [home] at away
      cases away
    exact ⟨same.files id different, same.snapshots id different⟩
  apply Triple.inspect_then
  apply Triple.bind (swapOutContext_saving entry.id entry.sequenceId found error apart.aligned
    apart.filed)
  intro saved
  apply Triple.ite
  · intro success
    apply Triple.from_state
    intro after saving
    rw [success] at saving
    apply Triple.change_then
    apply Triple.change_then
    apply Triple.pure
    intro final same
    subst same
    have moved := ContextManager.occurrences_swapOut start.contexts
    refine ⟨⟨?_, saving.aligned, ?_, ?_, ?_, ?_, saving.filed⟩, saving.conversations, nofun, ?_,
      waits ⟨saving.sameFiles.files, saving.sameFiles.snapshots⟩⟩
    · exact apart.entries.swapOut key entry best.present
    · intro id
      have balance := moved id key entry best.present home
      have once := apart.once id
      change (start.contexts.swapOut key entry).occurrences id +
        ContextManager.tally id entry.sequenceId ≤ 1
      change _ + 0 ≤ 1 at once
      omega
    · intro id occurs
      have balance := moved id key entry best.present home
      apply apart.within
      change 0 < (start.contexts.swapOut key entry).occurrences id +
        ContextManager.tally id entry.sequenceId at occurs
      change 0 < _ + 0
      omega
    · intro sequence member spared
      change sequence ∈ start.contexts.freeSequences at member
      rw [exhausted] at member
      cases member
    · intro sequence given
      cases given
      have emptied := saving.emptied
      rw [if_pos rfl] at emptied
      change (after.llm.seqStates entry.sequenceId.toInt).inUse = false
      rw [emptied]
    · intro sequence given
      cases given
      exact ContextManager.Obtained.swappedOut order key entry exhausted best
  · intro failure
    apply Triple.pure
    intro after saving
    rw [Bool.eq_false_of_not_eq_true failure] at saving
    have contexts := saving.contexts
    refine ⟨⟨?_, saving.aligned, ?_, ?_, ?_, nofun, saving.filed⟩, saving.conversations,
      fun _ => contexts, nofun, waits saving.sameFiles⟩
    · rw [contexts]
      exact apart.entries
    · rw [contexts]
      exact apart.once
    · rw [contexts]
      exact apart.within
    · intro sequence member spared
      rw [contexts, exhausted] at member
      cases member

theorem obtainSequenceLocked_fetched (apart : Apart config none none start)
    (excludedContext : ContextId) (error : StdString) (order : IterationOrder ContextId) :
    Triple (fun stores => stores = start)
      (obtainSequenceLocked config excludedContext error order)
      fun outcome after => Fetched config start excludedContext outcome.2 after := by
  have nothing (after : RuntimeStores) (same : after = start) :
      Fetched config start excludedContext none after := by
    subst same
    exact Fetched.refused apart excludedContext
  apply Triple.inspect_then
  cases free : start.contexts.freeSequences with
  | cons sequence rest =>
      have taken : start.contexts.Obtained excludedContext
          { start.contexts with freeSequences := rest } sequence :=
        ContextManager.Obtained.popped sequence rest free
      apply Triple.change_then
      apply Triple.pure
      intro after same
      subst same
      refine ⟨⟨apart.entries.congr _ rfl, apart.aligned, ?_, ?_, ?_, ?_, apart.filed⟩, rfl, nofun,
        ?_, fun _ _ _ _ => ⟨rfl, rfl⟩⟩
      · intro id
        have balance := taken.occurrences id
        have once := apart.once id
        change ContextManager.occurrences { start.contexts with freeSequences := rest } id +
          ContextManager.tally id sequence ≤ 1
        change _ + 0 ≤ 1 at once
        omega
      · intro id occurs
        have balance := taken.occurrences id
        apply apart.within
        change 0 < ContextManager.occurrences { start.contexts with freeSequences := rest } id +
          ContextManager.tally id sequence at occurs
        change 0 < _ + 0
        omega
      · intro other member spared
        apply apart.idle other _ spared
        rw [free]
        exact List.mem_cons_of_mem sequence member
      · intro other given
        cases given
        apply apart.idle sequence _ nofun
        rw [free]
        exact List.mem_cons_self ..
      · intro other given
        cases given
        exact taken
  | nil =>
      apply Triple.ite
      · intro disabled
        exact Triple.pure _ nothing
      · intro enabled
        cases chosen : start.contexts.swapOutCandidate excludedContext order with
        | none => exact Triple.pure _ nothing
        | some candidate =>
            exact saveCandidate_fetched apart excludedContext order free candidate chosen error

/-! ### Swapping in -/

/-- What a load leaves, whether it succeeds or not. -/
structure Loading (config : AcceptedServing) (start : RuntimeStores) (contextId : ContextId)
    (seqId : Int) (loaded : Bool) (after : RuntimeStores) : Prop where
  contexts : after.contexts = start.contexts
  conversations : after.conversations = start.conversations
  aligned : Aligned config.loaded after.llm
  filed : Filed config after
  others : ∀ other, other ≠ seqId → after.llm.seqStates other = start.llm.seqStates other
  refused : loaded = false → after.llm.seqStates seqId = start.llm.seqStates seqId
  restored : loaded = true → ∃ snapshot positions,
    start.snapshots.lookup contextId = some snapshot ∧
      start.files contextId = some positions ∧
      after.llm.seqStates seqId = { currentPos := snapshot.position, inUse := true }

theorem swapInContext_loading (contextId : ContextId) (sequenceId : Int32) (error : StdString)
    (aligned : Aligned config.loaded start.llm) (unused : start.Unused sequenceId)
    (filed : Filed config start) :
    Triple (fun stores => stores = start)
      (swapInContext config contextId sequenceId error)
      fun outcome after => Loading config start contextId sequenceId.toInt outcome.1 after := by
  apply Triple.inspect_then
  cases found : start.snapshots.lookup contextId with
  | none =>
      apply Triple.pure
      intro after same
      subst same
      exact ⟨rfl, rfl, aligned, filed, fun _ _ => rfl, fun _ => rfl, nofun⟩
  | some snapshot =>
      apply Triple.inspect_then
      apply Triple.bind (onLlm_frame (LlmModel.llmRestoreSeq_spec sequenceId.toInt aligned unused
        (start.files contextId) snapshot.position (by
          intro positions present
          exact filed contextId snapshot positions found present)))
      intro restored
      apply Triple.from_state
      intro middle held
      obtain ⟨whole, here, others, state, read⟩ := held
      have contexts : middle.contexts = start.contexts := by rw [whole]
      have conversations : middle.conversations = start.conversations := by rw [whole]
      have snapshots : middle.snapshots = start.snapshots := by rw [whole]
      have files : middle.files = start.files := by rw [whole]
      have still : Filed config middle :=
        filed.fewer snapshots fun id positions present => by rw [← files]; exact present
      cases restored with
      | false =>
          apply Triple.pure
          intro after same
          subst same
          exact ⟨contexts, conversations, here, still, others, fun _ => state, nofun⟩
      | true =>
          obtain ⟨positions, file⟩ := read rfl
          apply Triple.bind (removeFile_frame contextId middle)
          intro removed
          apply Triple.from_state
          intro cleaned left
          obtain ⟨frame, _, kept⟩ := left
          have llm : cleaned.llm = middle.llm := by rw [frame]
          have fewer : Filed config cleaned := still.fewer (by rw [frame]) kept
          have done : Loading config start contextId sequenceId.toInt true cleaned := by
            refine ⟨?_, ?_, ?_, fewer, ?_, nofun, ?_⟩
            · rw [← contexts, frame]
            · rw [← conversations, frame]
            · rw [llm]
              exact here
            · rw [llm]
              exact others
            · rw [llm]
              exact fun _ => ⟨snapshot, positions, found, file, state⟩
          apply Triple.ite
          · intro gone
            apply Triple.change_then
            apply Triple.pure
            intro after same
            subst same
            exact ⟨done.contexts, done.conversations, done.aligned, fewer.erased contextId,
              done.others, nofun, done.restored⟩
          · intro left
            apply Triple.pure
            intro after same
            subst same
            exact done

/-! ### Acquiring -/

/-- The state of the sequence that belongs to a context, and the positions it
holds; of a context that is swapped out these are in its snapshot. -/
def sequenceOf (stores : RuntimeStores) (key : ContextId) (entry : Entry) :
    LlmModel.SeqState × Finset Nat :=
  if entry.resident then
    (stores.llm.seqStates entry.sequenceId.toInt, stores.llm.memory entry.sequenceId.toInt)
  else
    match stores.snapshots.lookup key, stores.files key with
    | some snapshot, some positions =>
        ({ currentPos := snapshot.position, inUse := true }, positions)
    | _, _ => ({}, ∅)

theorem sequenceOf_home (stores : RuntimeStores) (key : ContextId) {entry : Entry}
    (home : entry.resident = true) : stores.sequenceOf key entry =
      (stores.llm.seqStates entry.sequenceId.toInt, stores.llm.memory entry.sequenceId.toInt) :=
  if_pos home

theorem sequenceOf_away {key : ContextId} {entry : Entry} (away : entry.resident = false)
    {snapshot : Snapshot} {positions : Finset Nat}
    (found : stores.snapshots.lookup key = some snapshot)
    (file : stores.files key = some positions) : stores.sequenceOf key entry =
      ({ currentPos := snapshot.position, inUse := true }, positions) := by
  unfold sequenceOf
  rw [if_neg (Bool.eq_false_iff.mp away), found, file]

/-- A sequence whose state is known holds the positions below that. -/
theorem memory_of_state {llm : LlmModel} (aligned : Aligned config.loaded llm) {seqId : Int}
    (found : IsPrivate config.loaded seqId) :
    llm.memory seqId = Finset.range (llm.seqStates seqId).currentPos := by
  have here := aligned.sequences seqId found
  unfold LlmModel.AlignedAt at here
  split at here
  · exact here.1
  · rw [here.1, here.2, Finset.range_zero]

/-- A context that has been made resident carries on where it was. -/
structure Resumed (config : AcceptedServing) (start : RuntimeStores) (key : ContextId)
    (entry : Entry) (outcome : Option Entry) (after : RuntimeStores) : Prop where
  apart : Apart config none none after
  conversations : after.conversations = start.conversations
  made : start.contexts.MadeResident key entry after.contexts outcome
  same : ∀ current, outcome = some current →
    after.sequenceOf key current = start.sequenceOf key entry

private theorem loadInto_resumed (key : ContextId) (entry : Entry)
    (present : start.contexts.context? key = some entry) (own : entry.id = key)
    (away : entry.resident = false) (sequence : Int32)
    (fetched : Fetched config start entry.id (some sequence) middle) (error : StdString) :
    Triple (fun stores => stores = middle) (loadInto config key entry sequence error)
      fun outcome after => Resumed config start key entry outcome.2 after := by
  have apart := fetched.apart
  have taken := fetched.obtained sequence rfl
  have still := taken.context?_away key entry present away
  have found : IsPrivate config.loaded sequence.toInt := by
    apply apart.within
    rw [looseTally_some]
    omega
  apply Triple.inspect_then
  apply Triple.bind (swapInContext_loading entry.id sequence error apart.aligned
    (apart.taken sequence rfl) apart.filed)
  intro loaded
  apply Triple.ite
  · intro success
    apply Triple.from_state
    intro after loading
    apply Triple.change_then
    apply Triple.change_then
    apply Triple.pure
    intro final same
    subst same
    have moved := ContextManager.occurrences_swapIn middle.contexts
    obtain ⟨snapshot, positions, recorded, file, state⟩ := loading.restored success
    refine ⟨⟨?_, loading.aligned, ?_, ?_, ?_, nofun, loading.filed⟩,
      loading.conversations.trans fetched.conversations, ?_, ?_⟩
    · exact apart.entries.swapIn key entry sequence still
    · intro id
      have balance := moved id key entry sequence still away
      have once := apart.once id
      change (middle.contexts.swapIn key entry sequence).occurrences id + 0 ≤ 1
      change _ + ContextManager.tally id sequence ≤ 1 at once
      omega
    · intro id occurs
      have balance := moved id key entry sequence still away
      apply apart.within
      change 0 < (middle.contexts.swapIn key entry sequence).occurrences id + 0 at occurs
      change 0 < _ + ContextManager.tally id sequence
      omega
    · intro other member spared
      change other ∈ middle.contexts.freeSequences at member
      change (after.llm.seqStates other.toInt).inUse = false
      rw [loading.others _ (apart.not_free other member)]
      exact apart.idle other member spared
    · exact ContextManager.MadeResident.restored middle.contexts sequence away taken
    · intro current given
      cases given
      obtain ⟨sameFile, sameSnapshot⟩ := fetched.waiting key entry present away
      rw [own] at recorded file
      rw [sequenceOf_away away (sameSnapshot.symm.trans recorded) (sameFile.symm.trans file)]
      change (after.llm.seqStates sequence.toInt, after.llm.memory sequence.toInt) = _
      rw [memory_of_state loading.aligned found, state]
      have sound : positions = Finset.range snapshot.position :=
        (apart.filed key snapshot positions recorded file).positions
      rw [sound]
  · intro failure
    apply Triple.from_state
    intro after loading
    have back := loading.refused (Bool.eq_false_of_not_eq_true failure)
    apply Triple.change_then
    apply Triple.pure
    intro final same
    subst same
    have moved := ContextManager.occurrences_pushFree middle.contexts
    have unused (other : Int32) (before : middle.Unused other) :
        (after.llm.seqStates other.toInt).inUse = false := by
      by_cases same : other.toInt = sequence.toInt
      · rw [same, back, ← same]
        exact before
      · rw [loading.others _ same]
        exact before
    refine ⟨⟨?_, loading.aligned, ?_, ?_, ?_, nofun, loading.filed⟩,
      loading.conversations.trans fetched.conversations, ?_, nofun⟩
    · exact apart.entries.congr _ rfl
    · intro id
      have balance := moved id sequence
      have once := apart.once id
      change (middle.contexts.pushFree sequence).occurrences id + 0 ≤ 1
      change _ + ContextManager.tally id sequence ≤ 1 at once
      omega
    · intro id occurs
      have balance := moved id sequence
      apply apart.within
      change 0 < (middle.contexts.pushFree sequence).occurrences id + 0 at occurs
      change 0 < _ + ContextManager.tally id sequence
      omega
    · intro other member spared
      rcases List.mem_cons.mp member with same | older
      · rw [same]
        exact unused sequence (apart.taken sequence rfl)
      · exact unused other (apart.idle other older spared)
    · exact ContextManager.MadeResident.unrestored middle.contexts sequence away taken

theorem makeResidentLocked_resumed (apart : Apart config none none start) (key : ContextId)
    (entry : Entry) (present : start.contexts.context? key = some entry) (error : StdString)
    (order : IterationOrder ContextId) :
    Triple (fun stores => stores = start) (makeResidentLocked config key entry error order)
      fun outcome after => Resumed config start key entry outcome.2 after := by
  have own : entry.id = key := (apart.entries key entry present).ownId
  apply Triple.ite
  · intro home
    apply Triple.pure
    intro after same
    subst same
    refine ⟨apart, rfl, ContextManager.MadeResident.already home, ?_⟩
    intro current given
    cases given
    rfl
  · intro gone
    have away : entry.resident = false := Bool.eq_false_of_not_eq_true gone
    apply Triple.ite
    · intro disabled
      apply Triple.pure
      intro after same
      subst same
      exact ⟨apart, rfl, ContextManager.MadeResident.refused, nofun⟩
    · intro enabled
      apply Triple.bind (obtainSequenceLocked_fetched apart entry.id error order)
      intro obtained
      apply Triple.from_state
      intro middle fetched
      cases outcome : obtained.2 with
      | none =>
          rw [outcome] at fetched
          apply Triple.pure
          intro after same
          subst same
          refine ⟨fetched.apart, fetched.conversations, ?_, nofun⟩
          rw [fetched.nothing rfl]
          exact ContextManager.MadeResident.refused
      | some sequence =>
          rw [outcome] at fetched
          exact loadInto_resumed key entry present own away sequence fetched obtained.1

/-- The context that a request names, or by default one that the agent owns. -/
def requestedEntry (manager : ContextManager) (agentId : AgentId) (requestedContext : ContextId)
    (order : IterationOrder ContextId) : Option ContextId :=
  if requestedContext = 0 then manager.findForAgentLocked agentId order
  else some requestedContext

/-- What an acquire leaves.  A lease on a context that existed is on the requested
one, which goes on where it was. -/
structure Lent (config : AcceptedServing) (start : RuntimeStores) (target : Option ContextId)
    (result : Option ContextLease) (after : RuntimeStores) : Prop where
  apart : Apart config none none after
  conversations : after.conversations = start.conversations
  held : ∀ lease, result = some lease → ∀ sequence ∈ after.contexts.freeSequences,
    sequence.toInt ≠ lease.sequenceId.toInt
  created : ∀ lease, result = some lease → lease.created = true → target = none
  existing : ∀ lease, result = some lease → lease.created = false →
    target = some lease.contextId ∧ ∃ entry current,
      start.contexts.context? lease.contextId = some entry ∧
      after.contexts.context? lease.contextId = some current ∧ current.resident = true ∧
      current.sequenceId = lease.sequenceId ∧
      after.sequenceOf lease.contextId current = start.sequenceOf lease.contextId entry

theorem Lent.nothing {after : RuntimeStores} (apart : Apart config none none after)
    (conversations : after.conversations = start.conversations) (target : Option ContextId) :
    Lent config start target none after :=
  ⟨apart, conversations, nofun, nofun, nofun⟩

/-- An entry may be shared and pinned. -/
private theorem Apart.lease (apart : Apart config none none stores) (key : ContextId)
    (entry : Entry) (agentId : AgentId) (now : TimePoint)
    (present : stores.contexts.context? key = some entry) :
    Apart config none none
      (RuntimeStores.setContexts (stores.contexts.lease key entry agentId now) stores) := by
  have counted (id : Int) := ContextManager.occurrences_lease stores.contexts id key entry agentId
    now present
  refine ⟨apart.entries.lease key entry agentId now present, apart.aligned, ?_, ?_, ?_, nofun,
    apart.filed⟩
  · intro id
    change (stores.contexts.lease key entry agentId now).occurrences id + 0 ≤ 1
    rw [counted]
    exact apart.once id
  · intro id occurs
    change 0 < (stores.contexts.lease key entry agentId now).occurrences id + 0 at occurs
    rw [counted] at occurs
    exact apart.within id occurs
  · intro sequence member spared
    change sequence ∈ (stores.contexts.shareWith entry agentId).1.freeSequences at member
    rw [ContextManager.freeSequences_shareWith] at member
    exact apart.idle sequence member spared

private theorem leaseEntry_lent (apart : Apart config none none start) (key : ContextId)
    (entry : Entry) (present : start.contexts.context? key = some entry) (agentId : AgentId)
    (now : TimePoint) (order : IterationOrder ContextId) :
    Triple (fun stores => stores = start) (leaseEntry config key entry agentId now order)
      fun outcome after => Lent config start (some key) outcome.2 after := by
  apply Triple.bind (makeResidentLocked_resumed apart key entry present [] order)
  intro made
  apply Triple.from_state
  intro middle resumed
  cases returned : made.2 with
  | none =>
      apply Triple.pure
      intro after same
      subst same
      exact Lent.nothing resumed.apart resumed.conversations (some key)
  | some current =>
      have outcome := resumed.made
      rw [returned] at outcome
      have stored := outcome.entry present
      have home := outcome.home
      have own := (resumed.apart.entries key current stored).ownId
      have shared : (middle.contexts.shareWith current agentId).2.id = current.id ∧
          (middle.contexts.shareWith current agentId).2.resident = current.resident ∧
          (middle.contexts.shareWith current agentId).2.sequenceId = current.sequenceId := by
        unfold ContextManager.shareWith
        split <;> exact ⟨rfl, rfl, rfl⟩
      have leased := resumed.apart.lease key current agentId now stored
      have named : (middle.contexts.shareWith current agentId).2.id = key := shared.1.trans own
      have pinned : (RuntimeStores.setContexts (middle.contexts.lease key current agentId now)
          middle).contexts.context? key =
            some (ContextManager.pin (middle.contexts.shareWith current agentId).2 now) := by
        change (middle.contexts.lease key current agentId now).context? key = _
        rw [ContextManager.context?_lease, if_pos rfl]
      have resident : (ContextManager.pin (middle.contexts.shareWith current agentId).2
          now).resident = true := shared.2.1.trans home
      apply Triple.inspect_then
      apply Triple.change_then
      apply Triple.pure
      intro after same
      subst same
      refine ⟨leased, resumed.conversations, ?_, ?_, ?_⟩
      · intro lease given
        cases given
        have free := leased.resident_not_free pinned resident
        exact free
      · intro lease given created
        cases given
        cases created
      · intro lease given old
        cases given
        refine ⟨congrArg some named.symm, entry,
          ContextManager.pin (middle.contexts.shareWith current agentId).2 now, ?_, ?_, resident,
          rfl, ?_⟩
        · change start.contexts.context? (middle.contexts.shareWith current agentId).2.id = _
          rw [named]
          exact present
        · change (middle.contexts.lease key current agentId now).context?
            (middle.contexts.shareWith current agentId).2.id = _
          rw [named]
          exact pinned
        · change RuntimeStores.sequenceOf _ (middle.contexts.shareWith current agentId).2.id _ =
            start.sequenceOf (middle.contexts.shareWith current agentId).2.id entry
          rw [named, ← resumed.same current returned, sequenceOf_home _ key resident,
            sequenceOf_home _ key home]
          change (middle.llm.seqStates
            (middle.contexts.shareWith current agentId).2.sequenceId.toInt, middle.llm.memory
            (middle.contexts.shareWith current agentId).2.sequenceId.toInt) = _
          rw [shared.2.2]

/-- The sequence goes into the new entry, or into none if the id is in use. -/
private theorem Apart.insertNew {sequence : Int32}
    (apart : Apart config (some sequence) none stores) (agentId : AgentId) (now : TimePoint) :
    Apart config none none
      (RuntimeStores.setContexts (stores.contexts.insertNew sequence agentId now) stores) := by
  have counted (id : Int) : (stores.contexts.insertNew sequence agentId now).occurrences id ≤
      stores.contexts.occurrences id + ContextManager.tally id sequence := by
    rw [ContextManager.occurrences_insertNew]
    split <;> omega
  refine ⟨apart.entries.insertNew sequence agentId now, apart.aligned, ?_, ?_, ?_, nofun,
    apart.filed⟩
  · intro id
    have once := apart.once id
    have inserted := counted id
    change (stores.contexts.insertNew sequence agentId now).occurrences id + 0 ≤ 1
    change _ + ContextManager.tally id sequence ≤ 1 at once
    omega
  · intro id occurs
    have inserted := counted id
    apply apart.within
    change 0 < (stores.contexts.insertNew sequence agentId now).occurrences id + 0 at occurs
    change 0 < _ + ContextManager.tally id sequence
    omega
  · exact apart.idle

private theorem acquireNew_lent (apart : Apart config none none start) (agentId : AgentId)
    (now : TimePoint) (order : IterationOrder ContextId) :
    Triple (fun stores => stores = start) (acquireNew config agentId now order)
      fun outcome after => Lent config start none outcome.2 after := by
  apply Triple.inspect_then
  apply Triple.ite
  · intro full
    apply Triple.pure
    intro after same
    subst same
    exact Lent.nothing apart rfl none
  · intro room
    apply Triple.bind (obtainSequenceLocked_fetched apart 0 [] order)
    intro obtained
    apply Triple.from_state
    intro middle fetched
    cases outcome : obtained.2 with
    | none =>
        rw [outcome] at fetched
        apply Triple.pure
        intro after same
        subst same
        exact Lent.nothing fetched.apart fetched.conversations none
    | some sequence =>
        rw [outcome] at fetched
        apply Triple.inspect_then
        apply Triple.change_then
        apply Triple.pure
        intro after same
        subst same
        refine ⟨fetched.apart.insertNew agentId now, fetched.conversations, ?_, fun _ _ _ => rfl,
          ?_⟩
        · intro lease given
          cases given
          exact fetched.apart.not_free
        · intro lease given old
          cases given
          cases old

theorem acquire_lent (apart : Apart config none none start) (agentId parentId : AgentId)
    (requestedContext : ContextId) (order : IterationOrder ContextId) :
    Triple (fun stores => stores = start)
      (acquire config agentId parentId requestedContext order)
      fun outcome after => Lent config start
        (requestedEntry start.contexts agentId requestedContext order) outcome.2 after := by
  have nothing (target : Option ContextId) (after : RuntimeStores) (same : after = start) :
      Lent config start target none after := by
    subst same
    exact Lent.nothing apart rfl target
  unfold requestedEntry
  apply Triple.ite
  · intro anonymous
    exact Triple.pure _ (nothing _)
  · intro named
    apply Triple.bind (clock_keeps _)
    intro now
    apply Triple.inspect_then
    by_cases default : requestedContext = 0
    · rw [if_pos default, if_pos default]
      cases search : start.contexts.findForAgentLocked agentId order with
      | none => exact acquireNew_lent apart agentId now order
      | some existing =>
          obtain ⟨entry, found, owner⟩ :=
            ContextManager.findForAgentLocked_some start.contexts agentId order existing search
          simp only [found]
          exact leaseEntry_lent apart existing entry found agentId now order
    · rw [if_neg default, if_neg default]
      cases found : start.contexts.context? requestedContext with
      | none => exact Triple.pure _ (nothing _)
      | some entry =>
          apply Triple.ite
          · intro stranger
            exact Triple.pure _ (nothing _)
          · intro trusted
            exact leaseEntry_lent apart requestedContext entry found agentId now order

end AgentNucleus.Top.RuntimeStores

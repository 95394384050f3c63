/-
Contexts under other names: their ids are shifted, and their sequences are renamed.  Each
operation of the context manager does the same under both names.
-/

import AgentNucleus.Library.RenamedKeys
import AgentNucleus.Top.ContextEntries
import AgentNucleus.Top.SequenceRenaming

set_option autoImplicit false

namespace AgentNucleus.Top

open AgentNucleus.Library
open AgentNucleus.Runtime (AgentId ContextId StdString TimePoint text)

/-! ### Ids -/

def shiftedId (base : UInt64) : Equiv.Perm ContextId where
  toFun := fun id => id + base
  invFun := fun id => id - base
  left_inv := fun id => UInt64.add_sub_cancel id base
  right_inv := fun id => UInt64.sub_add_cancel id base

/-- The ids after `base` for those from one on; zero stays zero. -/
def absoluteId (base : UInt64) : Equiv.Perm ContextId :=
  (shiftedId base).trans (Equiv.swap base 0)

theorem absoluteId_zero (base : UInt64) : absoluteId base 0 = 0 := by
  change Equiv.swap base 0 (0 + base) = 0
  rw [UInt64.zero_add, Equiv.swap_apply_left]

/-- The shift stays within the ids that have been handed out. -/
structure IdFits (base : UInt64) (id : ContextId) : Prop where
  positive : id ≠ 0
  shifted : id + base ≠ 0

theorem absoluteId_of_fits {base : UInt64} {id : ContextId} (fits : IdFits base id) :
    absoluteId base id = id + base := by
  apply Equiv.swap_apply_of_ne_of_ne
  · intro same
    have zero : id + base = 0 + base := by
      rw [UInt64.zero_add]
      exact same
    exact fits.positive ((shiftedId base).injective zero)
  · exact fits.shifted

/-- How many ids lie before those of the present lifetime, and the names of its
sequences. -/
structure ContextNames (config : LoadedConfig) where
  base : UInt64
  sequences : LlmModel.Renaming config

namespace ContextNames

variable {config : LoadedConfig} (names : ContextNames config)

def id : Equiv.Perm ContextId := absoluteId names.base

theorem id_zero : names.id 0 = 0 := absoluteId_zero names.base

theorem id_eq_zero_iff (contextId : ContextId) : contextId = 0 ↔ names.id contextId = 0 := by
  constructor
  · intro zero
    rw [zero]
    exact names.id_zero
  · intro zero
    exact names.id.injective (zero.trans names.id_zero.symm)

/-- One sequence under its two names. -/
def Sequence (first second : Int32) : Prop :=
  second.toInt = names.sequences.rename first.toInt

theorem sequence_absent : names.Sequence (-1) (-1) := by
  have value : (-1 : Int32).toInt = -1 := rfl
  unfold Sequence
  rw [value]
  exact (names.sequences.fixed (-1) (Or.inl (by decide))).symm

end ContextNames

namespace ContextManager

variable {config : LoadedConfig} {names : ContextNames config}

structure EntryRenamed (names : ContextNames config) (first second : Entry) : Prop where
  id : second.id = names.id first.id
  sequenceId : names.Sequence first.sequenceId second.sequenceId
  resident : second.resident = first.resident
  pinCount : second.pinCount = first.pinCount
  owners : second.owners = first.owners
  lastAccess : second.lastAccess = first.lastAccess

/-- The same contexts under other names, with something known about the next id.  The
statistics do not matter. -/
structure Renamed (names : ContextNames config) (next : ContextId → Prop)
    (first second : ContextManager) : Prop where
  maxLogicalContexts : second.maxLogicalContexts = first.maxLogicalContexts
  contexts : first.contexts.Renamed names.id (EntryRenamed names) second.contexts
  freeSequences : List.Forall₂ names.Sequence first.freeSequences second.freeSequences
  nextContextId : second.nextContextId = first.nextContextId + names.base
  next : next first.nextContextId

structure LeaseRenamed (names : ContextNames config) (first second : ContextLease) : Prop where
  contextId : second.contextId = names.id first.contextId
  sequenceId : names.Sequence first.sequenceId second.sequenceId
  created : second.created = first.created
  restored : second.restored = first.restored

/-- A key with its entry. -/
structure CandidateRenamed (names : ContextNames config) (first second : ContextId × Entry) :
    Prop where
  key : second.1 = names.id first.1
  entry : EntryRenamed names first.2 second.2

/-! ### Entries -/

namespace EntryRenamed

variable {first second : Entry}

theorem owned (renamed : EntryRenamed names first second) (agentId : AgentId) :
    ContextManager.owned second agentId = ContextManager.owned first agentId := by
  unfold ContextManager.owned
  rw [renamed.owners]

theorem authorizedLocked (renamed : EntryRenamed names first second)
    (agentId parentId : AgentId) :
    ContextManager.authorizedLocked second agentId parentId =
      ContextManager.authorizedLocked first agentId parentId := by
  unfold ContextManager.authorizedLocked
  rw [renamed.owned, renamed.owned]

theorem skipped (renamed : EntryRenamed names first second) (excludedContext : ContextId) :
    ContextManager.skipped (names.id excludedContext) second =
      ContextManager.skipped excludedContext first := by
  have excluded : (second.id == names.id excludedContext) = (first.id == excludedContext) := by
    rw [renamed.id]
    by_cases same : first.id = excludedContext
    · rw [same, beq_self_eq_true, beq_self_eq_true]
    · rw [beq_eq_false_iff_ne.mpr same,
        beq_eq_false_iff_ne.mpr fun equal => same (names.id.injective equal)]
  unfold ContextManager.skipped
  rw [renamed.resident, renamed.pinCount, excluded]

theorem pin (renamed : EntryRenamed names first second) (now : TimePoint) :
    EntryRenamed names (ContextManager.pin first now) (ContextManager.pin second now) where
  id := renamed.id
  sequenceId := renamed.sequenceId
  resident := renamed.resident
  pinCount := congrArg (· + 1) renamed.pinCount
  owners := renamed.owners
  lastAccess := rfl

theorem swappedOut (renamed : EntryRenamed names first second) :
    EntryRenamed names { first with sequenceId := -1, resident := false }
      { second with sequenceId := -1, resident := false } where
  id := renamed.id
  sequenceId := names.sequence_absent
  resident := rfl
  pinCount := renamed.pinCount
  owners := renamed.owners
  lastAccess := renamed.lastAccess

theorem swappedIn (renamed : EntryRenamed names first second) {sequence other : Int32}
    (taken : names.Sequence sequence other) :
    EntryRenamed names { first with sequenceId := sequence, resident := true }
      { second with sequenceId := other, resident := true } where
  id := renamed.id
  sequenceId := taken
  resident := rfl
  pinCount := renamed.pinCount
  owners := renamed.owners
  lastAccess := renamed.lastAccess

theorem ownedBy (renamed : EntryRenamed names first second) (owners : UnorderedSet AgentId) :
    EntryRenamed names { first with owners := owners } { second with owners := owners } where
  id := renamed.id
  sequenceId := renamed.sequenceId
  resident := renamed.resident
  pinCount := renamed.pinCount
  owners := rfl
  lastAccess := renamed.lastAccess

theorem leaseOf (renamed : EntryRenamed names first second) (wasSwapped : Bool) :
    LeaseRenamed names (ContextManager.leaseOf first wasSwapped)
      (ContextManager.leaseOf second wasSwapped) where
  contextId := renamed.id
  sequenceId := renamed.sequenceId
  created := rfl
  restored := rfl

end EntryRenamed

theorem newEntry_renamed {id other : ContextId} (same : other = names.id id)
    {sequence otherSequence : Int32} (taken : names.Sequence sequence otherSequence)
    (agentId : AgentId) (now : TimePoint) :
    EntryRenamed names (newEntry id sequence agentId now)
      (newEntry other otherSequence agentId now) where
  id := same
  sequenceId := taken
  resident := rfl
  pinCount := rfl
  owners := rfl
  lastAccess := rfl

/-! ### Operations -/

namespace Renamed

variable {next : ContextId → Prop} {first second : ContextManager}

theorem mono (renamed : Renamed names next first second) {weaker : ContextId → Prop}
    (implied : ∀ id, next id → weaker id) : Renamed names weaker first second where
  maxLogicalContexts := renamed.maxLogicalContexts
  contexts := renamed.contexts
  freeSequences := renamed.freeSequences
  nextContextId := renamed.nextContextId
  next := implied _ renamed.next

theorem missing (renamed : Renamed names next first second) {key : ContextId}
    (absent : first.context? key = none) : second.context? (names.id key) = none :=
  renamed.contexts.missing absent

theorem found (renamed : Renamed names next first second) {key : ContextId} {entry : Entry}
    (present : first.context? key = some entry) :
    ∃ other, second.context? (names.id key) = some other ∧ EntryRenamed names entry other :=
  renamed.contexts.found present

theorem store (renamed : Renamed names next first second) (key : ContextId) {entry other : Entry}
    (entries : EntryRenamed names entry other) :
    Renamed names next (first.store key entry) (second.store (names.id key) other) where
  maxLogicalContexts := renamed.maxLogicalContexts
  contexts := renamed.contexts.insert key entries
  freeSequences := renamed.freeSequences
  nextContextId := renamed.nextContextId
  next := renamed.next

/-- Other statistics make no difference. -/
theorem counted (renamed : Renamed names next first second) (stats stats' : ContextManagerStats) :
    Renamed names next { first with stats := stats } { second with stats := stats' } where
  maxLogicalContexts := renamed.maxLogicalContexts
  contexts := renamed.contexts
  freeSequences := renamed.freeSequences
  nextContextId := renamed.nextContextId
  next := renamed.next

theorem withFree (renamed : Renamed names next first second) {free free' : List Int32}
    (same : List.Forall₂ names.Sequence free free') :
    Renamed names next { first with freeSequences := free }
      { second with freeSequences := free' } where
  maxLogicalContexts := renamed.maxLogicalContexts
  contexts := renamed.contexts
  freeSequences := same
  nextContextId := renamed.nextContextId
  next := renamed.next

theorem pushFree (renamed : Renamed names next first second) {sequence other : Int32}
    (taken : names.Sequence sequence other) :
    Renamed names next (first.pushFree sequence) (second.pushFree other) :=
  renamed.withFree (List.Forall₂.cons taken renamed.freeSequences)

theorem swapOut (renamed : Renamed names next first second) (key : ContextId) {entry other : Entry}
    (entries : EntryRenamed names entry other) :
    Renamed names next (first.swapOut key entry) (second.swapOut (names.id key) other) :=
  (renamed.store key entries.swappedOut).counted _ _

theorem swapIn (renamed : Renamed names next first second) (key : ContextId) {entry other : Entry}
    (entries : EntryRenamed names entry other) {sequence otherSequence : Int32}
    (taken : names.Sequence sequence otherSequence) :
    Renamed names next (first.swapIn key entry sequence)
      (second.swapIn (names.id key) other otherSequence) :=
  (renamed.store key (entries.swappedIn taken)).counted _ _

/-- The next id is one that the shift maps as it should. -/
theorem insertNew (renamed : Renamed names next first second) {later : ContextId → Prop}
    (fits : IdFits names.base first.nextContextId) (moved : later (first.nextContextId + 1))
    {sequence other : Int32} (taken : names.Sequence sequence other) (agentId : AgentId)
    (now : TimePoint) :
    Renamed names later (first.insertNew sequence agentId now)
      (second.insertNew other agentId now) := by
  have same : second.nextContextId = names.id first.nextContextId :=
    renamed.nextContextId.trans (absoluteId_of_fits fits).symm
  refine ⟨renamed.maxLogicalContexts, ?_, renamed.freeSequences, ?_, moved⟩
  · have added := renamed.contexts.emplace first.nextContextId
      (newEntry_renamed same taken agentId now)
    rw [← same] at added
    exact added
  · change second.nextContextId + 1 = first.nextContextId + 1 + names.base
    rw [renamed.nextContextId, UInt64.add_assoc, UInt64.add_assoc, UInt64.add_comm names.base]

theorem shareWith (renamed : Renamed names next first second) {entry other : Entry}
    (entries : EntryRenamed names entry other) (agentId : AgentId) :
    Renamed names next (first.shareWith entry agentId).1 (second.shareWith other agentId).1 ∧
      EntryRenamed names (first.shareWith entry agentId).2
        (second.shareWith other agentId).2 := by
  unfold ContextManager.shareWith
  rw [entries.owned]
  cases ContextManager.owned entry agentId with
  | true => exact ⟨renamed, entries⟩
  | false =>
      refine ⟨renamed.counted _ _, ?_⟩
      rw [entries.owners]
      exact entries.ownedBy _

theorem exhausted (renamed : Renamed names next first second)
    (none : first.freeSequences = []) : second.freeSequences = [] := by
  have free := renamed.freeSequences
  rw [none] at free
  exact List.forall₂_nil_left_iff.mp free

theorem popped (renamed : Renamed names next first second) {sequence : Int32}
    {rest : List Int32} (free : first.freeSequences = sequence :: rest) :
    ∃ other rest', second.freeSequences = other :: rest' ∧ names.Sequence sequence other ∧
      List.Forall₂ names.Sequence rest rest' := by
  have taken := renamed.freeSequences
  rw [free] at taken
  obtain ⟨other, rest', same, left, there⟩ := List.forall₂_cons_left_iff.mp taken
  exact ⟨other, rest', there, same, left⟩

/-! ### Searches -/

theorem traversal (renamed : Renamed names next first second) (order : IterationOrder ContextId) :
    second.traversal (order.renamed names.id) = (first.traversal order).map names.id := by
  unfold ContextManager.traversal
  rw [renamed.contexts.keys]
  exact IterationOrder.visit_renamed names.id order first.contexts.keys

theorem findForAgentLocked (renamed : Renamed names next first second) (agentId : AgentId)
    (order : IterationOrder ContextId) :
    second.findForAgentLocked agentId (order.renamed names.id) =
      (first.findForAgentLocked agentId order).map names.id := by
  unfold ContextManager.findForAgentLocked
  rw [renamed.traversal, List.find?_map]
  congr 2
  funext key
  rw [Function.comp_apply]
  cases present : first.context? key with
  | none => rw [renamed.missing present]
  | some entry =>
      obtain ⟨other, there, entries⟩ := renamed.found present
      rw [there]
      exact entries.owned agentId

theorem considerCandidate (renamed : Renamed names next first second) (excludedContext : ContextId)
    {candidate candidate' : Option (ContextId × Entry)}
    (candidates : Option.Rel (CandidateRenamed names) candidate candidate')
    (current : ContextId) :
    Option.Rel (CandidateRenamed names)
      (first.considerCandidate excludedContext candidate current)
      (second.considerCandidate (names.id excludedContext) candidate' (names.id current)) := by
  unfold ContextManager.considerCandidate
  cases present : first.context? current with
  | none =>
      rw [renamed.missing present]
      exact candidates
  | some entry =>
      obtain ⟨other, there, entries⟩ := renamed.found present
      rw [there]
      dsimp only
      rw [entries.skipped]
      cases ContextManager.skipped excludedContext entry with
      | true => exact candidates
      | false =>
          cases candidates with
          | none => exact Option.Rel.some ⟨rfl, entries⟩
          | @some best best' related =>
              dsimp only
              rw [entries.lastAccess, related.entry.lastAccess]
              by_cases older : entry.lastAccess < best.2.lastAccess
              · simp only [if_pos older, Bool.false_eq_true, if_false]
                exact Option.Rel.some ⟨rfl, entries⟩
              · simp only [if_neg older, Bool.false_eq_true, if_false]
                exact Option.Rel.some related

theorem swapOutCandidate (renamed : Renamed names next first second) (excludedContext : ContextId)
    (order : IterationOrder ContextId) :
    Option.Rel (CandidateRenamed names) (first.swapOutCandidate excludedContext order)
      (second.swapOutCandidate (names.id excludedContext) (order.renamed names.id)) := by
  have search (keys : List ContextId) (candidate candidate' : Option (ContextId × Entry))
      (candidates : Option.Rel (CandidateRenamed names) candidate candidate') :
      Option.Rel (CandidateRenamed names)
        (keys.foldl (first.considerCandidate excludedContext) candidate)
        ((keys.map names.id).foldl (second.considerCandidate (names.id excludedContext))
          candidate') := by
    induction keys generalizing candidate candidate' with
    | nil => exact candidates
    | cons key rest ih =>
        exact ih _ _ (renamed.considerCandidate excludedContext candidates key)
  unfold ContextManager.swapOutCandidate
  rw [renamed.traversal]
  exact search _ none none Option.Rel.none

/-! ### Finish and release -/

theorem finish (renamed : Renamed names next first second) (contextId : ContextId)
    (now : TimePoint) :
    Renamed names next (first.finish contextId now).1
      (second.finish (names.id contextId) now).1 := by
  unfold ContextManager.finish
  cases present : first.context? contextId with
  | none =>
      rw [renamed.missing present]
      exact renamed
  | some entry =>
      obtain ⟨other, there, entries⟩ := renamed.found present
      rw [there]
      dsimp only
      rw [entries.pinCount]
      by_cases unpinned : entry.pinCount = 0
      · rw [if_pos unpinned, if_pos unpinned]
        exact renamed
      · rw [if_neg unpinned, if_neg unpinned]
        exact renamed.store contextId ⟨entries.id, entries.sequenceId, entries.resident, rfl,
          entries.owners, rfl⟩

end Renamed

/-- What a release reports, under both names. -/
structure ReleaseRenamed (names : ContextNames config) (first second : Release) : Prop where
  released : second.released = first.released
  releasedSequence : names.Sequence first.releasedSequence second.releasedSequence
  error : second.error = first.error
  contextRemoved : second.contextRemoved = first.contextRemoved

theorem ReleaseRenamed.rejected (names : ContextNames config) (message : StdString) :
    ReleaseRenamed names (Release.rejected message) (Release.rejected message) :=
  ⟨rfl, names.sequence_absent, rfl, rfl⟩

namespace Renamed

variable {next : ContextId → Prop} {first second : ContextManager}

theorem dropOwner (renamed : Renamed names next first second) :
    Renamed names next first.dropOwner second.dropOwner := by
  unfold ContextManager.dropOwner
  split
  · split
    · exact renamed.counted _ _
    · exact renamed.counted _ second.stats
  · split
    · exact renamed.counted first.stats _
    · exact renamed

theorem removeContext (renamed : Renamed names next first second) (contextId : ContextId)
    {entry other : Entry} (entries : EntryRenamed names entry other) :
    Renamed names next (first.removeContext contextId entry).1
        (second.removeContext (names.id contextId) other).1 ∧
      ReleaseRenamed names (first.removeContext contextId entry).2
        (second.removeContext (names.id contextId) other).2 := by
  unfold ContextManager.removeContext
  rw [entries.resident]
  cases entry.resident with
  | true =>
      refine ⟨⟨renamed.maxLogicalContexts, renamed.contexts.erase contextId,
        List.Forall₂.cons entries.sequenceId renamed.freeSequences, renamed.nextContextId,
        renamed.next⟩, ?_⟩
      exact ⟨rfl, entries.sequenceId, rfl, rfl⟩
  | false =>
      refine ⟨⟨renamed.maxLogicalContexts, renamed.contexts.erase contextId,
        renamed.freeSequences, renamed.nextContextId, renamed.next⟩, ?_⟩
      exact ⟨rfl, names.sequence_absent, rfl, rfl⟩

theorem release (renamed : Renamed names next first second) (agentId parentId : AgentId)
    (contextId : ContextId) (now : TimePoint) :
    Renamed names next (first.release agentId parentId contextId now).1
        (second.release agentId parentId (names.id contextId) now).1 ∧
      ReleaseRenamed names (first.release agentId parentId contextId now).2
        (second.release agentId parentId (names.id contextId) now).2 := by
  unfold ContextManager.release
  cases present : first.context? contextId with
  | none =>
      rw [renamed.missing present]
      exact ⟨renamed, ReleaseRenamed.rejected names _⟩
  | some entry =>
      obtain ⟨other, there, entries⟩ := renamed.found present
      have owner : ownerToRelease other agentId parentId =
          ownerToRelease entry agentId parentId := by
        unfold ownerToRelease
        rw [entries.owned, entries.owned]
      rw [there]
      dsimp only
      rw [owner, entries.owned, entries.owners]
      have busy : (entry.owners.keys.length = 1 ∧ other.pinCount ≠ 0) ↔
          (entry.owners.keys.length = 1 ∧ entry.pinCount ≠ 0) := by
        rw [entries.pinCount]
      have left := entries.ownedBy
        (UnorderedSet.remove entry.owners (ownerToRelease entry agentId parentId))
      split
      · exact ⟨renamed, ReleaseRenamed.rejected names _⟩
      · by_cases refused : entry.owners.keys.length = 1 ∧ entry.pinCount ≠ 0
        · rw [if_pos refused, if_pos (busy.mpr refused)]
          exact ⟨renamed, ReleaseRenamed.rejected names _⟩
        · rw [if_neg refused, if_neg fun now => refused (busy.mp now)]
          split
          · exact renamed.dropOwner.removeContext contextId left
          · exact ⟨renamed.dropOwner.store contextId
              ⟨left.id, left.sequenceId, left.resident, left.pinCount, rfl, rfl⟩,
              ⟨rfl, names.sequence_absent, rfl, rfl⟩⟩

end Renamed

end ContextManager

end AgentNucleus.Top

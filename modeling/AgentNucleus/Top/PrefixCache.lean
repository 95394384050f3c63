/-
Runs of calls on the shared prefixes, in both builds.  While the clock of the marks is
not wound over, the slots are a cache of eight distinct prompts that replaces the least
recently used one, whatever order the two kinds of calls come in.
-/

import AgentNucleus.Top.PrefixRanking

set_option autoImplicit false

namespace AgentNucleus.Top.LlmModel

open AgentNucleus.Library
open AgentNucleus.Runtime (CString cStr text)
open AgentNucleus.Library.Program (Triple)

def PrefixCall.prompt : PrefixCall → CString
  | .inference request _ => request.systemPrompt.getD .empty
  | .warmup systemPrompt _ => systemPrompt.getD .empty

/-- The used slots have distinct prompts, each has its own sequence, and they are
counted. -/
structure WellPlaced (config : LoadedConfig) (model : LlmModel) : Prop where
  prompts : ∀ left right prompt, (model.sharedSys left).promptText = some prompt →
    (model.sharedSys right).promptText = some prompt → left = right
  placed : ∀ index, (model.sharedSys index).promptText ≠ none →
    (model.sharedSys index).seqId = config.nSeqMax - 1 - index.val
  counted : model.sharedSysCount =
    (Finset.univ.filter fun index => (model.sharedSys index).promptText ≠ none).card

/-- The used slots also have distinct marks up to the clock. -/
structure WellKept (config : LoadedConfig) (model : LlmModel) : Prop
    extends WellPlaced config model where
  marks : ∀ left right, (model.sharedSys left).promptText ≠ none →
    (model.sharedSys right).promptText ≠ none →
    (model.sharedSys left).lastAccess = (model.sharedSys right).lastAccess → left = right
  bounded : ∀ index, (model.sharedSys index).promptText ≠ none →
    (model.sharedSys index).lastAccess ≤ model.prefixClock

section Steps

variable (config : LoadedConfig) (build : Build)

/-- The clock of the marks is not wound over by the call. -/
def ClockKept (model : LlmModel) (operation : PrefixCall × Answers Answer) : Prop :=
  model.prefixClock ≤ (build.step config model operation).prefixClock

instance (seqId : Int) : Decidable (IsPrivate config seqId) :=
  inferInstanceAs (Decidable (_ ∧ _))

instance (request : LlmRequest) : Decidable (Prompted request) :=
  inferInstanceAs (Decidable (_ ∧ _))

/-- The prompt that a call accesses, unless it is refused or brings none. -/
def PrefixCall.access : PrefixCall → Option CString
  | .inference request _ =>
      if IsPrivate config request.seqId ∧ Prompted request then
        some (request.systemPrompt.getD .empty)
      else none
  | .warmup systemPrompt _ =>
      if systemPrompt.getD .empty = .empty then none else some (systemPrompt.getD .empty)

def accesses (operations : List (PrefixCall × Answers Answer)) : List CString :=
  operations.filterMap fun operation => operation.1.access config

/-- A call that accesses a prompt is not cancelled, and the prompt is encoded if it was
not cached: an inference does not report this, but a prompt without a slot afterwards
has not been encoded. -/
def Succeeds (model : LlmModel) (operation : PrefixCall × Answers Answer) : Prop :=
  match operation.1 with
  | .inference request prompt =>
      IsPrivate config request.seqId ∧ Prompted request →
        (build.llmInference config request prompt model operation.2).1.1.2.cancelled = false ∧
        findSharedSys (build.step config model operation) (request.systemPrompt.getD .empty) ≠ none
  | .warmup systemPrompt cancellable =>
      systemPrompt.getD .empty ≠ .empty →
        0 ≤ (build.llmWarmupSharedKv config systemPrompt cancellable model operation.2).1.1

instance decidableClockKept (model : LlmModel) (operation : PrefixCall × Answers Answer) :
    Decidable (ClockKept config build model operation) :=
  inferInstanceAs (Decidable (_ ≤ _))

instance decidableSucceeds (model : LlmModel) :
    (operation : PrefixCall × Answers Answer) → Decidable (Succeeds config build model operation)
  | (.inference _ _, _) => inferInstanceAs (Decidable (_ ∧ _ → _ ∧ _))
  | (.warmup _ _, _) => inferInstanceAs (Decidable (_ → _ ≤ _))

end Steps

section Runs

variable {config : LoadedConfig} {build : Build} {model after : LlmModel} {ranking : Ranking}

theorem Ranked.wellKept (ranked : Ranked config model ranking)
    (placed : WellPlaced config model) : WellKept config model := by
  have entry (index : Fin kMaxSharedSys) (used : (model.sharedSys index).promptText ≠ none) :
      ∃ prompt, (index, prompt) ∈ ranking := by
    obtain ⟨prompt, present⟩ := Option.ne_none_iff_exists'.mp used
    exact ⟨prompt, (ranked.slots index prompt).mpr present⟩
  refine ⟨placed, ?_, ?_⟩
  · intro left right usedLeft usedRight same
    obtain ⟨first, leftMember⟩ := entry left usedLeft
    obtain ⟨second, rightMember⟩ := entry right usedRight
    have distinct : (ranking.map fun slot => (model.sharedSys slot.1).lastAccess).Nodup := by
      apply List.pairwise_map.mpr
      apply ranked.ordered.imp
      intro newer older less equal
      exact absurd (equal ▸ less) (UInt64.lt_irrefl _)
    have equal := List.inj_on_of_nodup_map distinct leftMember rightMember same
    exact congrArg Prod.fst equal
  · intro index used
    obtain ⟨prompt, member⟩ := entry index used
    exact ranked.bounded _ member

/-! ### Places -/

theorem WellPlaced.initial : WellPlaced config {} := by
  refine ⟨?_, ?_, ?_⟩
  · intro left right prompt first second
    cases first
  · intro index used
    exact absurd rfl used
  · change (0 : Int) = ((Finset.univ.filter fun _ : Fin kMaxSharedSys =>
      (none : Option CString) ≠ none).card : Int)
    rw [Finset.filter_false_of_mem fun _ _ => not_not_intro rfl]
    rfl

/-- Marks do not matter, nor does what an empty slot holds. -/
theorem WellPlaced.congr (kept : WellPlaced config model)
    (text : ∀ index, (after.sharedSys index).promptText = (model.sharedSys index).promptText)
    (place : ∀ index, (model.sharedSys index).promptText ≠ none →
      (after.sharedSys index).seqId = (model.sharedSys index).seqId)
    (count : after.sharedSysCount = model.sharedSysCount) : WellPlaced config after := by
  refine ⟨?_, ?_, ?_⟩
  · intro left right prompt first second
    rw [text] at first second
    exact kept.prompts left right prompt first second
  · intro index used
    rw [text] at used
    rw [place index used]
    exact kept.placed index used
  · rw [count]
    simp only [text]
    exact kept.counted

theorem WellPlaced.same (kept : WellPlaced config model) (same : SameCache model after) :
    WellPlaced config after :=
  kept.congr same.text (fun index used => (same.entry index used).1) same.count

theorem WellPlaced.touched (kept : WellPlaced config model) (index : Fin kMaxSharedSys) :
    WellPlaced config (touched index model) := by
  have elsewhere (other : Fin kMaxSharedSys) (different : other ≠ index) :
      (LlmModel.touched index model).sharedSys other = model.sharedSys other :=
    sharedSys_storeSharedSys_other _ _ different
  apply kept.congr
  · intro other
    by_cases same : other = index
    · rw [same, sharedSys_touched]
    · rw [elsewhere other same]
  · intro other _
    by_cases same : other = index
    · rw [same, sharedSys_touched]
    · rw [elsewhere other same]
  · rfl

theorem WellPlaced.evicted (kept : WellPlaced config model) (index : Fin kMaxSharedSys) :
    WellPlaced config (evicted index model) := by
  by_cases empty : (model.sharedSys index).promptText = none
  · rw [evicted_of_empty empty]
    exact kept
  · have effect : LlmModel.evicted index model =
        { storeSharedSys index {} model with
          sharedSysCount := model.sharedSysCount - 1
          prefixEvictions := model.prefixEvictions + 1 } := if_neg empty
    have here := evicted_empty index model
    have elsewhere (other : Fin kMaxSharedSys) (different : other ≠ index) :
        (LlmModel.evicted index model).sharedSys other = model.sharedSys other :=
      evicted_elsewhere model different
    have still (other : Fin kMaxSharedSys)
        (used : ((LlmModel.evicted index model).sharedSys other).promptText ≠ none) :
        other ≠ index := by
      intro same
      rw [same] at used
      exact used here
    refine ⟨?_, ?_, ?_⟩
    · intro left right prompt first second
      have filled := Option.some_ne_none prompt
      rw [elsewhere left (still left (first ▸ filled))] at first
      rw [elsewhere right (still right (second ▸ filled))] at second
      exact kept.prompts left right prompt first second
    · intro other used
      have same := elsewhere other (still other used)
      rw [same] at used ⊢
      exact kept.placed other used
    · have fewer : (Finset.univ.filter fun other =>
          ((LlmModel.evicted index model).sharedSys other).promptText ≠ none) =
            (Finset.univ.filter fun other =>
              (model.sharedSys other).promptText ≠ none).erase index := by
        ext other
        rw [Finset.mem_erase, Finset.mem_filter, Finset.mem_filter]
        constructor
        · intro used
          have different := still other used.2
          rw [elsewhere other different] at used
          exact ⟨different, used⟩
        · intro used
          rw [elsewhere other used.1]
          exact used.2
      have present : index ∈ Finset.univ.filter fun other =>
          (model.sharedSys other).promptText ≠ none :=
        Finset.mem_filter.mpr ⟨Finset.mem_univ index, empty⟩
      have positive := Finset.card_pos.mpr ⟨index, present⟩
      have counted := kept.counted
      rw [fewer, Finset.card_erase_of_mem present, effect]
      change model.sharedSysCount - 1 = _
      omega

theorem WellPlaced.filled (kept : WellPlaced config model) {index : Fin kMaxSharedSys}
    {prompt : CString} (empty : (model.sharedSys index).promptText = none)
    (missing : ∀ other, (model.sharedSys other).promptText ≠ some prompt) :
    WellPlaced config (filled config index prompt model) := by
  have here : (LlmModel.filled config index prompt model).sharedSys index =
      { seqId := sharedSeqId config index, promptText := some prompt
        lastAccess := model.prefixClock + 1 } := by
    unfold LlmModel.filled
    rw [sharedSys_touched, sharedSys_storeSharedSys]
    rfl
  have elsewhere (other : Fin kMaxSharedSys) (different : other ≠ index) :
      (LlmModel.filled config index prompt model).sharedSys other = model.sharedSys other :=
    (sharedSys_storeSharedSys_other _ _ different).trans
      (sharedSys_storeSharedSys_other _ _ different)
  have alone (other : Fin kMaxSharedSys)
      (same : ((LlmModel.filled config index prompt model).sharedSys other).promptText =
        some prompt) : other = index := by
    by_contra different
    rw [elsewhere other different] at same
    exact missing other same
  refine ⟨?_, ?_, ?_⟩
  · intro left right text first second
    by_cases same : text = prompt
    · rw [same] at first second
      rw [alone left first, alone right second]
    · have other (slot : Fin kMaxSharedSys)
          (found : ((LlmModel.filled config index prompt model).sharedSys slot).promptText =
            some text) : slot ≠ index := by
        intro equal
        rw [equal, here] at found
        exact same (Option.some.inj found).symm
      rw [elsewhere left (other left first)] at first
      rw [elsewhere right (other right second)] at second
      exact kept.prompts left right text first second
  · intro other used
    by_cases same : other = index
    · rw [same, here]
      rfl
    · rw [elsewhere other same] at used ⊢
      exact kept.placed other used
  · have more : (Finset.univ.filter fun other =>
        ((LlmModel.filled config index prompt model).sharedSys other).promptText ≠ none) =
          insert index (Finset.univ.filter fun other =>
            (model.sharedSys other).promptText ≠ none) := by
      ext other
      rw [Finset.mem_insert, Finset.mem_filter, Finset.mem_filter]
      by_cases same : other = index
      · rw [same, here]
        exact ⟨fun _ => Or.inl rfl, fun _ => ⟨Finset.mem_univ index, nofun⟩⟩
      · rw [elsewhere other same]
        exact ⟨Or.inr, fun found => found.resolve_left same⟩
    have absent : index ∉ Finset.univ.filter fun other =>
        (model.sharedSys other).promptText ≠ none := by
      intro found
      exact (Finset.mem_filter.mp found).2 empty
    rw [more, Finset.card_insert_of_notMem absent]
    change model.sharedSysCount + 1 = _
    rw [kept.counted]
    rfl

/-- Looking a prompt up keeps the places, whatever fails. -/
theorem Looked.wellPlaced {prompt : CString} {slot : Option (Fin kMaxSharedSys)}
    (looked : Looked config model prompt slot after) (kept : WellPlaced config model) :
    WellPlaced config after := by
  cases looked with
  | hit found same => exact kept.same same
  | refused missing same => exact kept.same same
  | emptied missing same => exact (kept.evicted _).same same
  | filled missing same =>
      refine ((kept.evicted _).filled (evicted_empty _ model) ?_).same same
      intro other present
      by_cases here : other = selectSharedSysSlot model
      · rw [here, evicted_empty] at present
        cases present
      · rw [evicted_elsewhere model here] at present
        exact findSharedSys_eq_none.mp missing other present

theorem PrefixEffect.wellPlaced {prompt : CString}
    (effect : PrefixEffect config model prompt after) (kept : WellPlaced config model) :
    WellPlaced config after := by
  cases effect with
  | untouched same => exact kept.same same
  | failed failed =>
      obtain ⟨start, from_, looked⟩ := failed
      exact looked.wellPlaced (kept.same from_)
  | stopped stopped =>
      obtain ⟨start, index, from_, looked⟩ := stopped
      exact looked.wellPlaced (kept.same from_)
  | used used =>
      obtain ⟨start, index, middle, from_, looked, marked⟩ := used
      exact ((looked.wellPlaced (kept.same from_)).touched index).same marked

variable (config build model) in
theorem llmInference_build (request : LlmRequest) (text : CString)
    (answers : Answers Answer) :
    Inferred config model request (build.llmInference config request text model answers).1.1.2
      (build.step config model (.inference request text, answers)) := by
  cases build with
  | native => exact (llmInference_inferred request).run model answers rfl
  | simulated => exact (simulatedInference_inferred request text).run model answers rfl

variable (config build model) in
theorem llmWarmupSharedKv_build (systemPrompt : Option CString) (cancellable : Bool)
    (answers : Answers Answer) :
    Warmed config model (systemPrompt.getD .empty)
      (build.llmWarmupSharedKv config systemPrompt cancellable model answers).1.1
      (build.step config model (.warmup systemPrompt cancellable, answers)) := by
  cases build with
  | native => exact (llmWarmupSharedKv_warmed systemPrompt cancellable).run model answers rfl
  | simulated =>
      exact (simulatedWarmupSharedKv_warmed systemPrompt cancellable).run model answers rfl

theorem step_effect (operation : PrefixCall × Answers Answer) :
    PrefixEffect config model operation.1.prompt (build.step config model operation) := by
  obtain ⟨call, answers⟩ := operation
  cases call with
  | inference request text =>
      cases llmInference_build config build model request text answers with
      | untouched same idle => exact PrefixEffect.untouched same
      | failed found prompted failed => exact PrefixEffect.failed failed
      | used found prompted used => exact PrefixEffect.used used
  | warmup systemPrompt cancellable =>
      exact (llmWarmupSharedKv_build config build model systemPrompt cancellable answers).effect

/-- A prompt that could not be given a slot has none. -/
theorem Failed.missing {prompt : CString} (failed : Failed config model prompt after) :
    findSharedSys after prompt = none := by
  obtain ⟨start, _, looked⟩ := failed
  apply findSharedSys_eq_none.mpr
  intro index
  cases looked with
  | refused missing same =>
      rw [same.text index]
      exact findSharedSys_eq_none.mp missing index
  | emptied missing same =>
      rw [same.text index]
      unfold evicted
      by_cases empty : (start.sharedSys (selectSharedSysSlot start)).promptText = none
      · rw [if_pos empty]
        exact findSharedSys_eq_none.mp missing index
      · rw [if_neg empty]
        change ((storeSharedSys (selectSharedSysSlot start) {} start).sharedSys
          index).promptText ≠ some prompt
        by_cases here : index = selectSharedSysSlot start
        · rw [here, sharedSys_storeSharedSys]
          exact nofun
        · rw [sharedSys_storeSharedSys_other start {} here]
          exact findSharedSys_eq_none.mp missing index

/-- A call without an access leaves the slots alone. -/
theorem step_idle {operation : PrefixCall × Answers Answer}
    (idle : operation.1.access config = none) :
    SameCache model (build.step config model operation) := by
  obtain ⟨call, answers⟩ := operation
  cases call with
  | inference request text =>
      have refused : ¬(IsPrivate config request.seqId ∧ Prompted request) := by
        intro accepted
        have access := idle.symm.trans (if_pos accepted)
        cases access
      cases llmInference_build config build model request text answers with
      | untouched same _ => exact same
      | failed found prompted _ => exact absurd ⟨found, prompted⟩ refused
      | used found prompted _ => exact absurd ⟨found, prompted⟩ refused
  | warmup systemPrompt cancellable =>
      apply (llmWarmupSharedKv_build config build model systemPrompt cancellable answers).idle
      by_contra asked
      have access := idle.symm.trans (if_neg asked)
      cases access

/-- A call that succeeds has used the slot of its prompt. -/
theorem Succeeds.used {operation : PrefixCall × Answers Answer} {prompt : CString}
    (succeeds : Succeeds config build model operation)
    (access : operation.1.access config = some prompt) :
    Used config model prompt (build.step config model operation) := by
  obtain ⟨call, answers⟩ := operation
  cases call with
  | inference request text =>
      change (if _ then _ else _) = _ at access
      split at access
      · rename_i accepted
        cases access
        obtain ⟨goesOn, present⟩ := succeeds accepted
        cases llmInference_build config build model request text answers with
        | untouched same idle =>
            rw [idle accepted.1 accepted.2] at goesOn
            cases goesOn
        | failed found prompted failed => exact absurd failed.missing present
        | used found prompted used => exact used
      · cases access
  | warmup systemPrompt cancellable =>
      change (if _ then _ else _) = _ at access
      split at access
      · cases access
      · rename_i asked
        cases access
        exact (llmWarmupSharedKv_build config build model systemPrompt cancellable
          answers).success (succeeds asked)

theorem initial_refines (config : LoadedConfig) : Refines config {} {} [] :=
  ⟨Ranked.initial, rfl, rfl⟩

theorem accesses_append (first second : List (PrefixCall × Answers Answer)) :
    accesses config (first ++ second) = accesses config first ++ accesses config second := by
  unfold accesses
  rw [List.filterMap_append]

theorem accesses_idle (operations : List (PrefixCall × Answers Answer))
    {operation : PrefixCall × Answers Answer} (idle : operation.1.access config = none) :
    accesses config (operations ++ [operation]) = accesses config operations := by
  have last : accesses config [operation] = [] := List.filterMap_cons_none idle
  rw [accesses_append, last, List.append_nil]

theorem accesses_snoc (operations : List (PrefixCall × Answers Answer))
    {operation : PrefixCall × Answers Answer} {prompt : CString}
    (access : operation.1.access config = some prompt) :
    accesses config (operations ++ [operation]) = accesses config operations ++ [prompt] := by
  have last : accesses config [operation] = [prompt] := List.filterMap_cons_some access
  rw [accesses_append, last]

/-- Calls that succeed are accesses of a list of prompts. -/
theorem run_refines (operations : List (PrefixCall × Answers Answer))
    (guarded : (prefixMachine config build).Along
      (fun model operation => ClockKept config build model operation ∧
        Succeeds config build model operation) (prefixMachine config build).initial operations) :
    ∃ ranking, Refines config ((prefixMachine config build).run operations)
      (LruCache.run kMaxSharedSys (accesses config operations)) ranking := by
  induction operations using List.reverseRecOn with
  | nil => exact ⟨[], initial_refines config⟩
  | append_singleton earlier operation ih =>
      obtain ⟨ranking, refines⟩ := ih (guarded.first_segment earlier [operation])
      obtain ⟨kept, succeeds⟩ := (guarded.after_segment earlier [operation]).1
      rw [Machine.run_snoc]
      cases access : operation.1.access config with
      | none =>
          rw [accesses_idle earlier access]
          exact ⟨ranking, refines.same (step_idle access)⟩
      | some prompt =>
          rw [accesses_snoc earlier access, LruCache.run_snoc]
          exact (succeeds.used access).refines refines kept

/-! ### The cache as a list -/

/-- The cached prompts are the most recent ones among those accessed, as many as there
are slots. -/
structure HoldsRecent (model : LlmModel) (accesses : List CString) : Prop where
  cached : ∀ prompt, CachedPrompt model prompt ↔ prompt ∈ (recent accesses).take kMaxSharedSys
  evictions : model.prefixEvictions =
    UInt64.ofNat (LruCache.run kMaxSharedSys accesses).evictions

/-- What an access changes: nothing leaves the cache on a hit or while there is room,
and otherwise the least recently used prompt does. -/
structure AccessEffect (before after : LlmModel) (accesses : List CString)
    (prompt : CString) : Prop where
  hit : CachedPrompt before prompt →
    (∀ other, CachedPrompt after other ↔ CachedPrompt before other) ∧
      after.prefixEvictions = before.prefixEvictions
  room : ¬CachedPrompt before prompt → before.sharedSysCount < kMaxSharedSys →
    (∀ other, CachedPrompt after other ↔ other = prompt ∨ CachedPrompt before other) ∧
      after.prefixEvictions = before.prefixEvictions
  full : ¬CachedPrompt before prompt → before.sharedSysCount = kMaxSharedSys →
    ∃ least, ((recent accesses).take kMaxSharedSys).getLast? = some least ∧
      (∀ other, CachedPrompt after other ↔
        other = prompt ∨ (CachedPrompt before other ∧ other ≠ least)) ∧
      after.prefixEvictions = before.prefixEvictions + 1

theorem Refines.holdsRecent {accesses : List CString}
    (refines : Refines config model (LruCache.run kMaxSharedSys accesses) ranking) :
    HoldsRecent model accesses := by
  constructor
  · intro prompt
    rw [refines.cached prompt]
    exact iff_of_eq (congrArg (prompt ∈ ·) (LruCache.run_items 7 accesses))
  · exact refines.evictions

theorem Refines.accessEffect {accesses : List CString} {prompt : CString} {left : Ranking}
    (refines : Refines config model (LruCache.run kMaxSharedSys accesses) ranking)
    (refined : Refines config after
      ((LruCache.run kMaxSharedSys accesses).access kMaxSharedSys prompt) left) :
    AccessEffect model after accesses prompt := by
  have items : (LruCache.run kMaxSharedSys accesses).items =
      (recent accesses).take kMaxSharedSys := LruCache.run_items 7 accesses
  have count : model.sharedSysCount = (LruCache.run kMaxSharedSys accesses).items.length := by
    rw [← refines.items, List.length_map]
    exact refines.ranked.counted
  constructor
  · intro hit
    have member := (refines.cached prompt).mp hit
    constructor
    · intro other
      rw [refined.cached other, refines.cached other]
      exact LruCache.mem_access_hit _ member other
    · rw [refined.evictions, LruCache.access_hit _ member]
      exact refines.evictions.symm
  · intro miss few
    have absent := mt (refines.cached prompt).mpr miss
    have room : (LruCache.run kMaxSharedSys accesses).items.length < kMaxSharedSys := by omega
    constructor
    · intro other
      rw [refined.cached other, refines.cached other]
      exact LruCache.mem_access_room absent room other
    · rw [refined.evictions, LruCache.access_room absent room]
      exact refines.evictions.symm
  · intro miss full
    have absent := mt (refines.cached prompt).mpr miss
    have crowded : kMaxSharedSys ≤ (LruCache.run kMaxSharedSys accesses).items.length := by omega
    have distinct : (LruCache.run kMaxSharedSys accesses).items.Nodup := by
      rw [items]
      exact (List.take_sublist _ _).nodup (nodup_recent accesses)
    cases last : (LruCache.run kMaxSharedSys accesses).items.getLast? with
    | none =>
        rw [List.getLast?_eq_none_iff.mp last] at crowded
        exact absurd crowded (by decide)
    | some least =>
        refine ⟨least, items ▸ last, ?_, ?_⟩
        · intro other
          rw [refined.cached other, refines.cached other]
          exact LruCache.mem_access_full absent crowded distinct last other
        · rw [refined.evictions, LruCache.access_full absent crowded, refines.evictions]
          exact UInt64.ofNat_add ..

end Runs

/-- The shared prefixes are a cache of eight distinct prompts with the least recently
used one replaced first, as long as the clock is not wound over. -/
theorem prefix_cache_is_lru (config : LoadedConfig) (build : Build) :
    (∀ operations, (prefixMachine config build).Throughout (WellPlaced config)
      (prefixMachine config build).initial operations) ∧
    (∀ operations, (prefixMachine config build).Along (ClockKept config build)
        (prefixMachine config build).initial operations →
      (prefixMachine config build).Throughout (WellKept config)
        (prefixMachine config build).initial operations) ∧
    (∀ operations, (prefixMachine config build).Along
        (fun model operation => ClockKept config build model operation ∧
          Succeeds config build model operation) (prefixMachine config build).initial operations →
      HoldsRecent ((prefixMachine config build).run operations) (accesses config operations)) ∧
    ∀ operations operation prompt, (prefixMachine config build).Along
        (fun model operation => ClockKept config build model operation ∧
          Succeeds config build model operation) (prefixMachine config build).initial
        (operations ++ [operation]) →
      operation.1.access config = some prompt →
      AccessEffect ((prefixMachine config build).run operations)
        ((prefixMachine config build).run (operations ++ [operation]))
        (accesses config operations) prompt := by
  refine ⟨?_, ?_, ?_, ?_⟩
  · intro operations
    exact (prefixMachine config build).throughout_of_invariant (WellPlaced config)
      (fun model operation placed => (step_effect operation).wellPlaced placed)
      (prefixMachine config build).initial operations WellPlaced.initial
  · intro operations kept
    have ranked := (prefixMachine config build).throughout_of_along
      (fun model => (∃ ranking, Ranked config model ranking) ∧ WellPlaced config model)
      (ClockKept config build)
      (by
        intro model operation both clock
        obtain ⟨⟨ranking, ranked⟩, placed⟩ := both
        exact ⟨(step_effect operation).ranked ranked clock,
          (step_effect operation).wellPlaced placed⟩)
      (prefixMachine config build).initial operations ⟨⟨[], Ranked.initial⟩, WellPlaced.initial⟩
      kept
    apply ranked.mono
    intro model both
    obtain ⟨⟨ranking, ranked⟩, placed⟩ := both
    exact ranked.wellKept placed
  · intro operations succeeds
    obtain ⟨ranking, refines⟩ := run_refines operations succeeds
    exact refines.holdsRecent
  · intro operations operation prompt succeeds access
    obtain ⟨ranking, refines⟩ := run_refines operations (succeeds.first_segment operations _)
    obtain ⟨left, refined⟩ := run_refines (operations ++ [operation]) succeeds
    rw [accesses_snoc operations access, LruCache.run_snoc] at refined
    exact refines.accessEffect refined

/-- A warm-up that nothing disturbs. -/
def warmupOf (prompt : CString) : PrefixCall × Answers Answer :=
  (.warmup (some prompt) false, fun _ => {})

def eightWarmups : List (PrefixCall × Answers Answer) :=
  (List.range 8).map fun number => warmupOf (cStr [UInt8.ofNat (number + 97)])

/-- A first turn with a ninth prompt. -/
def ninthPrompt : PrefixCall × Answers Answer :=
  (.inference { seqId := 1, isFirstTurn := true, systemPrompt := some (cStr (text "i")) }
    (cStr (text "go on")), fun _ => {})

theorem ninePrompts_lru :
    (prefixMachine smallConfig .native).Throughout (WellKept smallConfig)
      (prefixMachine smallConfig .native).initial (eightWarmups ++ [ninthPrompt]) ∧
    HoldsRecent ((prefixMachine smallConfig .native).run (eightWarmups ++ [ninthPrompt]))
      (accesses smallConfig (eightWarmups ++ [ninthPrompt])) ∧
    AccessEffect ((prefixMachine smallConfig .native).run eightWarmups)
      ((prefixMachine smallConfig .native).run (eightWarmups ++ [ninthPrompt]))
      (accesses smallConfig eightWarmups) (cStr (text "i")) := by
  have succeeds : (prefixMachine smallConfig .native).Along
      (fun model operation => ClockKept smallConfig .native model operation ∧
        Succeeds smallConfig .native model operation)
      (prefixMachine smallConfig .native).initial (eightWarmups ++ [ninthPrompt]) := by
    decide +kernel
  have lru := prefix_cache_is_lru smallConfig .native
  exact ⟨lru.2.1 _ (succeeds.mono fun _ _ both => both.1), lru.2.2.1 _ succeeds,
    lru.2.2.2 eightWarmups ninthPrompt (cStr (text "i")) succeeds (by decide)⟩

/-! ### The clock wound over -/

def firstPrompt : CString := cStr (text "a")

def secondPrompt : CString := cStr (text "b")

/-- Two prompts, the second one over and over again. -/
def repeatedWarmups (times : Nat) : List (PrefixCall × Answers Answer) :=
  [warmupOf firstPrompt, warmupOf secondPrompt] ++ List.replicate times (warmupOf secondPrompt)

private theorem findOrCache_hit {model : LlmModel} {prompt : CString}
    {index : Fin kMaxSharedSys} (found : findSharedSys model prompt = some index) :
    Triple (fun start => start = model) (findOrCache smallConfig prompt)
      fun shared after => shared.1 = some index ∧ after = model := by
  unfold findOrCache
  apply Triple.inspect_then
  rw [found]
  exact Triple.pure _ fun _ same => ⟨rfl, same⟩

private theorem warmup_hit {model : LlmModel} {index : Fin kMaxSharedSys}
    (found : findSharedSys model secondPrompt = some index) :
    Build.native.step smallConfig model (warmupOf secondPrompt) = touched index model := by
  have idle (before : LlmModel) : Triple (fun start => start = before) (requestCancelled false)
      fun cancelled after => cancelled = false ∧ after = before :=
    Triple.pure _ fun _ same => ⟨rfl, same⟩
  have marked : Triple (fun start => start = model)
      (llmWarmupSharedKv smallConfig (some secondPrompt) false)
      fun _ after => after = touched index model := by
    apply Triple.ite
    · intro missing
      cases missing
    · intro present
      apply Triple.bind (idle model)
      intro cancelled
      apply Triple.ite
      · intro now
        exact Triple.pure _ fun _ both => absurd (both.1.symm.trans now) (by decide)
      · intro goesOn
        apply Triple.bind ((findOrCache_hit found).strengthen fun _ both => both.2)
        intro shared
        obtain ⟨_ | slot, reused⟩ := shared
        · apply Triple.bind (requestCancelled_keeps _ _)
          intro cancelledNow
          exact Triple.pure _ fun _ both => absurd both.1 nofun
        · apply Triple.from_state
          intro middle both
          obtain ⟨same, unchanged⟩ := both
          cases same
          subst unchanged
          apply Triple.bind (idle middle)
          intro cancelledNow
          apply Triple.ite
          · intro late
            exact Triple.pure _ fun _ both => absurd (both.1.symm.trans late) (by decide)
          · intro inTime
            apply Triple.from_state
            intro last both
            rw [both.2]
            apply Triple.change_then
            exact Triple.inspect fun _ same => same
  exact marked.run model _ rfl

/-- The first prompt keeps its mark while the clock goes on. -/
structure Ticking (times : Nat) (model : LlmModel) : Prop where
  found : findSharedSys model secondPrompt = some ⟨1, by decide⟩
  text : (model.sharedSys ⟨0, by decide⟩).promptText = some firstPrompt
  mark : (model.sharedSys ⟨0, by decide⟩).lastAccess = 2
  clock : model.prefixClock = 4 + UInt64.ofNat times

private theorem Ticking.run (times : Nat) :
    Ticking times ((prefixMachine smallConfig .native).run (repeatedWarmups times)) := by
  induction times with
  | zero => exact ⟨by decide +kernel, by decide +kernel, by decide +kernel, by decide +kernel⟩
  | succ times ih =>
      have snoc : repeatedWarmups (times + 1) =
          repeatedWarmups times ++ [warmupOf secondPrompt] := by
        unfold repeatedWarmups
        rw [List.replicate_succ', List.append_assoc]
      rw [snoc, Machine.run_snoc]
      change Ticking (times + 1) (Build.native.step smallConfig _ (warmupOf secondPrompt))
      rw [warmup_hit ih.found]
      have elsewhere (other : Fin kMaxSharedSys) (different : other ≠ ⟨1, by decide⟩) :
          (touched ⟨1, by decide⟩ ((prefixMachine smallConfig .native).run
            (repeatedWarmups times))).sharedSys other =
              ((prefixMachine smallConfig .native).run (repeatedWarmups times)).sharedSys other :=
        sharedSys_storeSharedSys_other _ _ different
      constructor
      · rw [← ih.found]
        apply findSharedSys_congr
        intro index
        by_cases same : index = ⟨1, by decide⟩
        · rw [same, sharedSys_touched]
        · rw [elsewhere index same]
      · rw [elsewhere _ (by decide)]
        exact ih.text
      · rw [elsewhere _ (by decide)]
        exact ih.mark
      · change _ + 1 = _
        rw [ih.clock, UInt64.ofNat_add, UInt64.add_assoc]
        rfl

/-- After 2^64 ticks of the clock the first prompt has a mark above it. -/
theorem mark_above_clock : ¬WellKept smallConfig
    ((prefixMachine smallConfig .native).run (repeatedWarmups (2 ^ 64 - 4))) := by
  intro kept
  have ticking := Ticking.run (2 ^ 64 - 4)
  have above := kept.bounded ⟨0, by decide⟩ (by rw [ticking.text]; exact nofun)
  rw [ticking.mark, ticking.clock] at above
  exact absurd above (by decide)

end AgentNucleus.Top.LlmModel

/-
The used slots in the order of their marks, the latest in front.  The lookup empties
the last slot of the order when all are used, and puts the slot of its prompt in front.
-/

import AgentNucleus.Library.LeastRecentlyUsed
import AgentNucleus.Top.PrefixEffects

set_option autoImplicit false

namespace AgentNucleus.Top.LlmModel

open AgentNucleus.Library
open AgentNucleus.Runtime (CString)

/-- A slot holds the prompt. -/
def CachedPrompt (model : LlmModel) (prompt : CString) : Prop :=
  ∃ index, (model.sharedSys index).promptText = some prompt

abbrev Ranking := List (Fin kMaxSharedSys × CString)

structure Ranked (config : LoadedConfig) (model : LlmModel) (ranking : Ranking) : Prop where
  slots : ∀ index prompt,
    (index, prompt) ∈ ranking ↔ (model.sharedSys index).promptText = some prompt
  prompts : (ranking.map Prod.snd).Nodup
  ordered : ranking.Pairwise fun newer older =>
    (model.sharedSys older.1).lastAccess < (model.sharedSys newer.1).lastAccess
  bounded : ∀ slot ∈ ranking, (model.sharedSys slot.1).lastAccess ≤ model.prefixClock
  placed : ∀ slot ∈ ranking, (model.sharedSys slot.1).seqId = sharedSeqId config slot.1
  counted : model.sharedSysCount = ranking.length

section Rankings

variable {config : LoadedConfig} {model after : LlmModel} {ranking : Ranking}

theorem Ranked.initial : Ranked config {} [] := by
  constructor
  · intro index prompt
    exact ⟨nofun, nofun⟩
  · exact List.nodup_nil
  · exact List.Pairwise.nil
  · exact nofun
  · exact nofun
  · rfl

theorem Ranked.used (ranked : Ranked config model ranking) {slot : Fin kMaxSharedSys × CString}
    (member : slot ∈ ranking) : (model.sharedSys slot.1).promptText ≠ none := by
  rw [(ranked.slots slot.1 slot.2).mp member]
  exact nofun

theorem Ranked.same (ranked : Ranked config model ranking) (same : SameCache model after) :
    Ranked config after ranking := by
  have mark (slot : Fin kMaxSharedSys × CString) (member : slot ∈ ranking) :=
    same.entry slot.1 (ranked.used member)
  constructor
  · intro index prompt
    rw [same.text index]
    exact ranked.slots index prompt
  · exact ranked.prompts
  · apply List.Pairwise.imp_of_mem _ ranked.ordered
    intro newer older newerMember olderMember less
    rw [(mark newer newerMember).2, (mark older olderMember).2]
    exact less
  · intro slot member
    rw [(mark slot member).2, same.clock]
    exact ranked.bounded slot member
  · intro slot member
    rw [(mark slot member).1]
    exact ranked.placed slot member
  · rw [same.count]
    exact ranked.counted

/-- Two entries for one slot are the same. -/
theorem Ranked.unique (ranked : Ranked config model ranking)
    {left right : Fin kMaxSharedSys × CString} (leftMember : left ∈ ranking)
    (rightMember : right ∈ ranking) (same : left.1 = right.1) : left = right := by
  have first := (ranked.slots left.1 left.2).mp leftMember
  have second := (ranked.slots right.1 right.2).mp rightMember
  rw [same] at first
  exact Prod.ext same (Option.some.inj (first.symm.trans second))

theorem Ranked.indices (ranked : Ranked config model ranking) : (ranking.map Prod.fst).Nodup := by
  apply List.pairwise_map.mpr
  apply ranked.ordered.imp
  intro newer older less same
  rw [same] at less
  exact absurd less (UInt64.lt_irrefl _)

theorem Ranked.length_le (ranked : Ranked config model ranking) :
    ranking.length ≤ kMaxSharedSys := by
  have bound := ranked.indices.length_le_card
  rw [List.length_map, Fintype.card_fin] at bound
  exact bound

/-- With an empty slot there is room. -/
theorem Ranked.room (ranked : Ranked config model ranking) {index : Fin kMaxSharedSys}
    (empty : (model.sharedSys index).promptText = none) : ranking.length < kMaxSharedSys := by
  have absent : index ∉ ranking.map Prod.fst := by
    intro found
    obtain ⟨slot, member, same⟩ := List.mem_map.mp found
    exact ranked.used member (same ▸ empty)
  have distinct : (index :: ranking.map Prod.fst).Nodup := List.nodup_cons.mpr
    ⟨absent, ranked.indices⟩
  have bound := distinct.length_le_card
  rw [List.length_cons, List.length_map, Fintype.card_fin] at bound
  exact bound

theorem Ranked.full (ranked : Ranked config model ranking)
    (used : ∀ index, (model.sharedSys index).promptText ≠ none) :
    ranking.length = kMaxSharedSys := by
  apply Nat.le_antisymm ranked.length_le
  have everything : (Finset.univ : Finset (Fin kMaxSharedSys)) ⊆
      (ranking.map Prod.fst).toFinset := by
    intro index _
    obtain ⟨prompt, present⟩ := Option.ne_none_iff_exists'.mp (used index)
    exact List.mem_toFinset.mpr
      (List.mem_map.mpr ⟨(index, prompt), (ranked.slots index prompt).mpr present, rfl⟩)
  have counts := (Finset.card_le_card everything).trans (List.toFinset_card_le _)
  rw [Finset.card_univ, Fintype.card_fin, List.length_map] at counts
  exact counts

/-! ### The slot of a miss -/

private theorem selectAmong_spec (model : LlmModel) (indices : List (Fin kMaxSharedSys)) :
    ∀ lruIndex : Fin kMaxSharedSys,
      (model.sharedSys (selectAmong model indices lruIndex)).promptText = none ∨
      ((model.sharedSys (selectAmong model indices lruIndex)).lastAccess ≤
          (model.sharedSys lruIndex).lastAccess ∧
        ∀ index ∈ indices, (model.sharedSys index).promptText ≠ none ∧
          (model.sharedSys (selectAmong model indices lruIndex)).lastAccess ≤
            (model.sharedSys index).lastAccess) := by
  induction indices with
  | nil =>
      intro lruIndex
      exact Or.inr ⟨UInt64.le_refl _, nofun⟩
  | cons index rest ih =>
      intro lruIndex
      unfold selectAmong
      by_cases empty : (model.sharedSys index).promptText = none
      · rw [if_pos empty]
        exact Or.inl empty
      · rw [if_neg empty]
        by_cases older : (model.sharedSys index).lastAccess <
            (model.sharedSys lruIndex).lastAccess
        · rw [if_pos older]
          rcases ih index with unused | ⟨here, others⟩
          · exact Or.inl unused
          · refine Or.inr ⟨UInt64.le_trans here (UInt64.le_of_lt older), ?_⟩
            intro other member
            rcases List.mem_cons.mp member with same | later
            · rw [same]
              exact ⟨empty, here⟩
            · exact others other later
        · rw [if_neg older]
          rcases ih lruIndex with unused | ⟨here, others⟩
          · exact Or.inl unused
          · refine Or.inr ⟨here, ?_⟩
            intro other member
            rcases List.mem_cons.mp member with same | later
            · rw [same]
              exact ⟨empty, UInt64.le_trans here (UInt64.not_lt.mp older)⟩
            · exact others other later

/-- An empty slot is selected, or all are used and the one marked longest ago is. -/
theorem selectSharedSysSlot_spec (model : LlmModel) :
    (model.sharedSys (selectSharedSysSlot model)).promptText = none ∨
    ∀ index, (model.sharedSys index).promptText ≠ none ∧
      (model.sharedSys (selectSharedSysSlot model)).lastAccess ≤
        (model.sharedSys index).lastAccess := by
  rcases selectAmong_spec model (List.finRange kMaxSharedSys) ⟨0, by decide⟩ with
    unused | ⟨_, others⟩
  · exact Or.inl unused
  · exact Or.inr fun index => others index (List.mem_finRange index)

/-! ### The steps -/

/-- The slot of a prompt comes in front of what is left of the order. -/
theorem Ranked.promote (ranked : Ranked config model ranking) {rest : Ranking}
    {index : Fin kMaxSharedSys} {prompt : CString} (left : rest.Sublist ranking)
    (kept : ∀ slot ∈ ranking, slot.1 ≠ index → slot ∈ rest)
    (others : ∀ slot ∈ rest, slot.1 ≠ index ∧ slot.2 ≠ prompt)
    (elsewhere : ∀ other, other ≠ index → after.sharedSys other = model.sharedSys other)
    (text : (after.sharedSys index).promptText = some prompt)
    (place : (after.sharedSys index).seqId = sharedSeqId config index)
    (mark : (after.sharedSys index).lastAccess = after.prefixClock)
    (clock : model.prefixClock < after.prefixClock)
    (count : after.sharedSysCount = rest.length + 1) :
    Ranked config after ((index, prompt) :: rest) := by
  have below (slot : Fin kMaxSharedSys × CString) (member : slot ∈ rest) :
      (after.sharedSys slot.1).lastAccess < after.prefixClock := by
    rw [elsewhere slot.1 (others slot member).1]
    exact UInt64.lt_of_le_of_lt (ranked.bounded slot (left.subset member)) clock
  constructor
  · intro other text'
    by_cases same : other = index
    · rw [same, text]
      constructor
      · intro member
        rcases List.mem_cons.mp member with head | later
        · rw [(Prod.mk.inj head).2]
        · exact absurd rfl (others _ later).1
      · intro equal
        rw [Option.some.inj equal]
        exact List.mem_cons_self ..
    · rw [elsewhere other same, ← ranked.slots other text']
      constructor
      · intro member
        rcases List.mem_cons.mp member with head | later
        · exact absurd (Prod.mk.inj head).1 same
        · exact left.subset later
      · intro member
        exact List.mem_cons_of_mem _ (kept _ member same)
  · rw [List.map_cons]
    refine List.nodup_cons.mpr ⟨?_, (left.map Prod.snd).nodup ranked.prompts⟩
    intro found
    obtain ⟨slot, member, same⟩ := List.mem_map.mp found
    exact (others slot member).2 same
  · refine List.pairwise_cons.mpr ⟨?_, ?_⟩
    · intro slot member
      rw [mark]
      exact below slot member
    · apply List.Pairwise.imp_of_mem _ (ranked.ordered.sublist left)
      intro newer older newerMember olderMember less
      rw [elsewhere newer.1 (others newer newerMember).1,
        elsewhere older.1 (others older olderMember).1]
      exact less
  · intro slot member
    rcases List.mem_cons.mp member with same | later
    · rw [same, mark]
      exact UInt64.le_refl _
    · exact UInt64.le_of_lt (below slot later)
  · intro slot member
    rcases List.mem_cons.mp member with same | later
    · rw [same]
      exact place
    · rw [elsewhere slot.1 (others slot later).1]
      exact ranked.placed slot (left.subset later)
  · rw [count, List.length_cons]
    rfl

theorem Ranked.touched (ranked : Ranked config model ranking) {index : Fin kMaxSharedSys}
    {prompt : CString} (member : (index, prompt) ∈ ranking)
    (clock : model.prefixClock < model.prefixClock + 1) :
    Ranked config (touched index model) ((index, prompt) :: ranking.erase (index, prompt)) := by
  have distinct : ranking.Nodup := ranked.prompts.of_map
  have here := sharedSys_touched model index
  apply ranked.promote (List.erase_sublist ..)
  · intro slot old different
    apply (List.mem_erase_of_ne _).mpr old
    intro same
    exact different (congrArg Prod.fst same)
  · intro slot old
    obtain ⟨different, earlier⟩ := distinct.mem_erase_iff.mp old
    constructor
    · intro same
      exact different (ranked.unique earlier member same)
    · intro same
      exact different (List.inj_on_of_nodup_map ranked.prompts earlier member same)
  · intro other different
    exact sharedSys_storeSharedSys_other _ _ different
  · rw [here]
    exact (ranked.slots index prompt).mp member
  · rw [here]
    exact ranked.placed _ member
  · rw [here]
    rfl
  · exact clock
  · change model.sharedSysCount = _
    have positive := List.length_pos_of_mem member
    rw [ranked.counted, List.length_erase_of_mem member]
    omega

theorem Ranked.filled (ranked : Ranked config model ranking) {index : Fin kMaxSharedSys}
    {prompt : CString} (empty : (model.sharedSys index).promptText = none)
    (missing : ∀ other, (model.sharedSys other).promptText ≠ some prompt)
    (clock : model.prefixClock < model.prefixClock + 1) :
    Ranked config (filled config index prompt model) ((index, prompt) :: ranking) := by
  have here : (LlmModel.filled config index prompt model).sharedSys index =
      { seqId := sharedSeqId config index, promptText := some prompt
        lastAccess := model.prefixClock + 1 } := by
    unfold LlmModel.filled
    rw [sharedSys_touched, sharedSys_storeSharedSys]
    rfl
  apply ranked.promote (List.Sublist.refl _)
  · intro slot old different
    exact old
  · intro slot old
    constructor
    · intro same
      exact ranked.used old (same ▸ empty)
    · intro same
      exact missing slot.1 (same ▸ (ranked.slots slot.1 slot.2).mp old)
  · intro other different
    exact (sharedSys_storeSharedSys_other _ _ different).trans
      (sharedSys_storeSharedSys_other _ _ different)
  · rw [here]
  · rw [here]
  · rw [here]
    rfl
  · exact clock
  · change model.sharedSysCount + 1 = _
    rw [ranked.counted]

theorem evicted_of_empty {index : Fin kMaxSharedSys}
    (empty : (model.sharedSys index).promptText = none) : evicted index model = model :=
  if_pos empty

/-- With all slots used, the selected one is the last of the order. -/
theorem Ranked.last (ranked : Ranked config model ranking)
    (full : ∀ index, (model.sharedSys index).promptText ≠ none ∧
      (model.sharedSys (selectSharedSysSlot model)).lastAccess ≤
        (model.sharedSys index).lastAccess) :
    ∃ rest prompt, ranking = rest ++ [(selectSharedSysSlot model, prompt)] := by
  obtain ⟨prompt, present⟩ :=
    Option.ne_none_iff_exists'.mp (full (selectSharedSysSlot model)).1
  have member := (ranked.slots _ _).mpr present
  rcases List.eq_nil_or_concat ranking with empty | ⟨rest, last, whole⟩
  · rw [empty] at member
    cases member
  · refine ⟨rest, prompt, ?_⟩
    rw [List.concat_eq_append] at whole
    rw [whole] at member ⊢
    rcases List.mem_append.mp member with earlier | here
    · have order := ranked.ordered
      rw [whole] at order
      have less := (List.pairwise_append.mp order).2.2 _ earlier last
        (List.mem_singleton_self last)
      exact absurd (full last.1).2 (UInt64.not_le.mpr less)
    · rw [List.mem_singleton.mp here]

/-- The last slot of the order is emptied. -/
theorem Ranked.evicted {rest : Ranking} {index : Fin kMaxSharedSys} {prompt : CString}
    (ranked : Ranked config model (rest ++ [(index, prompt)])) :
    Ranked config (evicted index model) rest ∧
      (evicted index model).prefixEvictions = model.prefixEvictions + 1 := by
  have member : (index, prompt) ∈ rest ++ [(index, prompt)] :=
    List.mem_append_right _ (List.mem_singleton_self _)
  have filled : (model.sharedSys index).promptText ≠ none := ranked.used member
  have effect : LlmModel.evicted index model =
      { storeSharedSys index {} model with
        sharedSysCount := model.sharedSysCount - 1
        prefixEvictions := model.prefixEvictions + 1 } := if_neg filled
  have left : rest.Sublist (rest ++ [(index, prompt)]) := List.sublist_append_left ..
  have other (slot : Fin kMaxSharedSys × CString) (old : slot ∈ rest) : slot.1 ≠ index := by
    intro same
    have distinct : (rest ++ [(index, prompt)]).Nodup := ranked.prompts.of_map
    have equal := ranked.unique (left.subset old) member same
    exact (List.nodup_append.mp distinct).2.2 slot old _ (List.mem_singleton_self _) equal
  have elsewhere (slot : Fin kMaxSharedSys) (different : slot ≠ index) :
      (LlmModel.evicted index model).sharedSys slot = model.sharedSys slot := by
    rw [effect]
    exact sharedSys_storeSharedSys_other model {} different
  have here := evicted_empty index model
  refine ⟨?_, ?_⟩
  · constructor
    · intro slot text
      by_cases same : slot = index
      · rw [same, here]
        constructor
        · intro old
          exact absurd rfl (other _ old)
        · exact nofun
      · rw [elsewhere slot same, ← ranked.slots slot text]
        constructor
        · intro old
          exact left.subset old
        · intro old
          rcases List.mem_append.mp old with earlier | last
          · exact earlier
          · exact absurd (Prod.mk.inj (List.mem_singleton.mp last)).1 same
    · exact (left.map Prod.snd).nodup ranked.prompts
    · apply List.Pairwise.imp_of_mem _ (ranked.ordered.sublist left)
      intro newer older newerMember olderMember less
      rw [elsewhere newer.1 (other newer newerMember),
        elsewhere older.1 (other older olderMember)]
      exact less
    · intro slot old
      rw [elsewhere slot.1 (other slot old), effect]
      exact ranked.bounded slot (left.subset old)
    · intro slot old
      rw [elsewhere slot.1 (other slot old)]
      exact ranked.placed slot (left.subset old)
    · have counted := ranked.counted
      rw [List.length_append, List.length_singleton] at counted
      rw [effect]
      change model.sharedSysCount - 1 = rest.length
      omega
  · rw [effect]

/-! ### Lookups -/

variable {start : LlmModel} {prompt : CString}

private theorem clock_once {clock : UInt64} (kept : clock ≤ clock + 1) : clock < clock + 1 := by
  have next := UInt64.toNat_add clock 1
  have bound := clock.toNat_lt
  rw [UInt64.toNat_one] at next
  rw [UInt64.le_iff_toNat_le] at kept
  rw [UInt64.lt_iff_toNat_lt]
  omega

private theorem clock_twice {clock : UInt64} (kept : clock ≤ clock + 1 + 1) :
    clock ≤ clock + 1 ∧ clock + 1 < clock + 1 + 1 := by
  have next := UInt64.toNat_add clock 1
  have second := UInt64.toNat_add (clock + 1) 1
  have bound := clock.toNat_lt
  rw [UInt64.toNat_one] at next second
  rw [UInt64.le_iff_toNat_le] at kept ⊢
  rw [UInt64.lt_iff_toNat_lt]
  omega

/-- The order and the evictions as a list with the latest prompt in front. -/
structure Refines (config : LoadedConfig) (model : LlmModel) (cache : LruCache CString)
    (ranking : Ranking) : Prop where
  ranked : Ranked config model ranking
  items : ranking.map Prod.snd = cache.items
  evictions : model.prefixEvictions = UInt64.ofNat cache.evictions

/-- Every order is that of a list. -/
theorem Ranked.refines (ranked : Ranked config model ranking) :
    Refines config model
      { items := ranking.map Prod.snd, evictions := model.prefixEvictions.toNat } ranking :=
  ⟨ranked, rfl, UInt64.ofNat_toNat.symm⟩

theorem Refines.same {cache : LruCache CString} (refines : Refines config model cache ranking)
    (same : SameCache model after) : Refines config after cache ranking :=
  ⟨refines.ranked.same same, refines.items, same.evictions.trans refines.evictions⟩

theorem Refines.cached {cache : LruCache CString} (refines : Refines config model cache ranking)
    (text : CString) :
    CachedPrompt model text ↔ text ∈ cache.items := by
  rw [← refines.items, List.mem_map]
  constructor
  · intro found
    obtain ⟨index, present⟩ := found
    exact ⟨(index, text), (refines.ranked.slots index text).mpr present, rfl⟩
  · intro found
    obtain ⟨slot, member, same⟩ := found
    exact ⟨slot.1, same ▸ (refines.ranked.slots slot.1 slot.2).mp member⟩

/-- There is an empty slot for the prompt, and with the prompt in front of what is
left the list is that after an access. -/
structure Cleared (config : LoadedConfig) (start : LlmModel) (cache : LruCache CString)
    (prompt : CString) (ranking rest : Ranking) : Prop where
  ranked : Ranked config (evicted (selectSharedSysSlot start) start) rest
  left : rest.Sublist ranking
  items : prompt :: rest.map Prod.snd = (cache.access kMaxSharedSys prompt).items
  evictions : (evicted (selectSharedSysSlot start) start).prefixEvictions =
    UInt64.ofNat (cache.access kMaxSharedSys prompt).evictions

/-- A miss drops the last slot of the order exactly if all slots are used. -/
theorem Refines.cleared {cache : LruCache CString}
    (refines : Refines config start cache ranking) (fresh : prompt ∉ cache.items) :
    ∃ rest, Cleared config start cache prompt ranking rest := by
  have ranked := refines.ranked
  have length : ranking.length = cache.items.length := by
    rw [← refines.items, List.length_map]
  rcases selectSharedSysSlot_spec start with empty | full
  · have room : cache.items.length < kMaxSharedSys := length ▸ ranked.room empty
    have same := evicted_of_empty empty
    refine ⟨ranking, same.symm ▸ ranked, List.Sublist.refl _, ?_, ?_⟩
    · rw [LruCache.access_room fresh room, refines.items]
    · rw [LruCache.access_room fresh room, same]
      exact refines.evictions
  · have crowded : kMaxSharedSys ≤ cache.items.length := by
      rw [← length, ranked.full fun index => (full index).1]
    obtain ⟨rest, last, whole⟩ := ranked.last full
    subst whole
    obtain ⟨left, evictions⟩ := ranked.evicted
    refine ⟨rest, left, List.sublist_append_left .., ?_, ?_⟩
    · rw [LruCache.access_full fresh crowded, ← refines.items, List.map_append,
        List.map_singleton, List.dropLast_concat]
    · rw [LruCache.access_full fresh crowded, evictions, refines.evictions, UInt64.ofNat_add]
      rfl

theorem Looked.none_ranked (looked : Looked config start prompt none after)
    (ranked : Ranked config start ranking) : ∃ left, Ranked config after left := by
  cases looked with
  | refused missing same => exact ⟨ranking, ranked.same same⟩
  | emptied missing same =>
      have fresh := mt (ranked.refines.cached prompt).mpr
        (not_exists.mpr (findSharedSys_eq_none.mp missing))
      obtain ⟨rest, cleared⟩ := ranked.refines.cleared fresh
      exact ⟨rest, cleared.ranked.same same⟩

/-- The slot of the prompt is used, and with it in front the list is that after an
access. -/
structure Accessed (config : LoadedConfig) (after : LlmModel) (cache : LruCache CString)
    (prompt : CString) (index : Fin kMaxSharedSys) (ranking : Ranking) : Prop where
  ranked : Ranked config after ranking
  member : (index, prompt) ∈ ranking
  items : prompt :: (ranking.map Prod.snd).erase prompt =
    (cache.access kMaxSharedSys prompt).items
  evictions : after.prefixEvictions =
    UInt64.ofNat (cache.access kMaxSharedSys prompt).evictions

theorem Refines.hit {cache : LruCache CString} {index : Fin kMaxSharedSys}
    (refines : Refines config model cache ranking)
    (found : (model.sharedSys index).promptText = some prompt) :
    Accessed config model cache prompt index ranking := by
  have cached : prompt ∈ cache.items := (refines.cached prompt).mp ⟨index, found⟩
  refine ⟨refines.ranked, (refines.ranked.slots _ _).mpr found, ?_, ?_⟩
  · rw [refines.items, LruCache.access_hit _ cached]
  · rw [LruCache.access_hit _ cached]
    exact refines.evictions

theorem evicted_clock (index : Fin kMaxSharedSys) (model : LlmModel) :
    (evicted index model).prefixClock = model.prefixClock := by
  unfold evicted
  by_cases empty : (model.sharedSys index).promptText = none
  · rw [if_pos empty]
  · rw [if_neg empty]
    rfl

theorem Refines.miss {cache : LruCache CString} (refines : Refines config start cache ranking)
    (missing : findSharedSys start prompt = none)
    (clock : start.prefixClock < start.prefixClock + 1) :
    ∃ left, Accessed config
      (filled config (selectSharedSysSlot start) prompt
        (evicted (selectSharedSysSlot start) start))
      cache prompt (selectSharedSysSlot start) left := by
  have nowhere := findSharedSys_eq_none.mp missing
  have fresh := mt (refines.cached prompt).mpr (not_exists.mpr nowhere)
  obtain ⟨rest, cleared⟩ := refines.cleared fresh
  have absent (other : Fin kMaxSharedSys) :
      ((evicted (selectSharedSysSlot start) start).sharedSys other).promptText ≠
        some prompt := by
    intro present
    have member := cleared.left.subset ((cleared.ranked.slots other prompt).mpr present)
    exact nowhere other ((refines.ranked.slots other prompt).mp member)
  rw [← evicted_clock (selectSharedSysSlot start) start] at clock
  refine ⟨_, cleared.ranked.filled (evicted_empty _ start) absent clock,
    List.mem_cons_self .., ?_, cleared.evictions⟩
  rw [List.map_cons, List.erase_cons_head]
  exact cleared.items

theorem Accessed.same {cache : LruCache CString} {index : Fin kMaxSharedSys}
    (accessed : Accessed config model cache prompt index ranking) (same : SameCache model after) :
    Accessed config after cache prompt index ranking :=
  ⟨accessed.ranked.same same, accessed.member, accessed.items,
    same.evictions.trans accessed.evictions⟩

theorem Looked.accessed {index : Fin kMaxSharedSys} {cache : LruCache CString}
    (looked : Looked config start prompt (some index) after)
    (refines : Refines config start cache ranking) (clock : start.prefixClock ≤ after.prefixClock) :
    ∃ left, Accessed config after cache prompt index left := by
  cases looked with
  | hit found same => exact ⟨ranking, (refines.hit (findSharedSys_eq_some found)).same same⟩
  | filled missing same =>
      have ticked : after.prefixClock =
          (evicted (selectSharedSysSlot start) start).prefixClock + 1 := same.clock
      rw [evicted_clock] at ticked
      obtain ⟨left, accessed⟩ := refines.miss missing (clock_once (ticked ▸ clock))
      exact ⟨left, accessed.same same⟩

/-! ### Calls -/

/-- Taking a slot out of the order takes its prompt out of the prompts. -/
theorem Ranked.erase (ranked : Ranked config model ranking) {index : Fin kMaxSharedSys}
    (member : (index, prompt) ∈ ranking) :
    (ranking.erase (index, prompt)).map Prod.snd = (ranking.map Prod.snd).erase prompt := by
  have distinct : ranking.Nodup := ranked.prompts.of_map
  rw [distinct.erase_eq_filter, ranked.prompts.erase_eq_filter, List.filter_map]
  congr 1
  apply List.filter_congr
  intro slot old
  apply Bool.eq_iff_iff.mpr
  rw [bne_iff_ne, Function.comp_apply, bne_iff_ne, not_iff_not]
  constructor
  · intro same
    rw [same]
  · intro same
    exact List.inj_on_of_nodup_map ranked.prompts old member same

/-- The clock has not been wound over in between either. -/
private theorem Looked.clock {index : Fin kMaxSharedSys}
    (looked : Looked config start prompt (some index) after)
    (kept : start.prefixClock ≤ after.prefixClock + 1) :
    start.prefixClock ≤ after.prefixClock ∧ after.prefixClock < after.prefixClock + 1 := by
  cases looked with
  | hit found same =>
      rw [same.clock] at kept ⊢
      exact ⟨UInt64.le_refl _, clock_once kept⟩
  | filled missing same =>
      have ticked : after.prefixClock =
          (evicted (selectSharedSysSlot start) start).prefixClock + 1 := same.clock
      rw [evicted_clock] at ticked
      rw [ticked] at kept ⊢
      exact clock_twice kept

/-- Marking the slot of the prompt completes the access. -/
theorem Used.refines {cache : LruCache CString} (used : Used config model prompt after)
    (refines : Refines config model cache ranking)
    (clock : model.prefixClock ≤ after.prefixClock) :
    ∃ left, Refines config after (cache.access kMaxSharedSys prompt) left := by
  obtain ⟨start, index, middle, from_, looked, marked⟩ := used
  have ticked : after.prefixClock = middle.prefixClock + 1 := marked.clock
  rw [← from_.clock, ticked] at clock
  obtain ⟨kept, once⟩ := looked.clock clock
  obtain ⟨left, accessed⟩ := looked.accessed (refines.same from_) kept
  refine ⟨_, (accessed.ranked.touched accessed.member once).same marked, ?_, ?_⟩
  · rw [List.map_cons, accessed.ranked.erase accessed.member]
    exact accessed.items
  · exact marked.evictions.trans accessed.evictions

/-- Every call keeps the slots in some order. -/
theorem PrefixEffect.ranked (effect : PrefixEffect config model prompt after)
    (ranked : Ranked config model ranking) (clock : model.prefixClock ≤ after.prefixClock) :
    ∃ left, Ranked config after left := by
  cases effect with
  | untouched same => exact ⟨ranking, ranked.same same⟩
  | failed failed =>
      obtain ⟨start, from_, looked⟩ := failed
      exact looked.none_ranked (ranked.same from_)
  | stopped stopped =>
      obtain ⟨start, index, from_, looked⟩ := stopped
      rw [← from_.clock] at clock
      obtain ⟨left, accessed⟩ := looked.accessed (ranked.same from_).refines clock
      exact ⟨left, accessed.ranked⟩
  | used used =>
      obtain ⟨left, refines⟩ := used.refines ranked.refines clock
      exact ⟨left, refines.ranked⟩

end Rankings

end AgentNucleus.Top.LlmModel

/-
The ready queue of scheduler.c is a list.  Removal and promotion move elements across
the end of the array; seen from the head they close a gap, or bring one element forward.
-/

import AgentNucleus.Top.AgentQueue

set_option autoImplicit false

namespace AgentNucleus.Top

open AgentNucleus.Library

namespace AgentQueue

variable {scheduler : AgentQueue}

/-- How the indices lie. -/
structure Shaped (scheduler : AgentQueue) : Prop where
  length : scheduler.queue.length = scheduler.queueSize.toNat
  bounded : scheduler.queueSize.toNat ≤ 2 ^ 31
  head : scheduler.head.toNat < scheduler.queueSize.toNat
  count : scheduler.count.toNat ≤ scheduler.queueSize.toNat
  tail : scheduler.tail.toNat =
    (scheduler.head.toNat + scheduler.count.toNat) % scheduler.queueSize.toNat

/-- What holds in every state that calls lead to. -/
structure Sound (scheduler : AgentQueue) : Prop extends Shaped scheduler where
  valid : 0 ∉ scheduler.contents

/-- The list that the queue stands for. -/
def ready (scheduler : AgentQueue) : ReadyList :=
  { agents := scheduler.contents, running := scheduler.running }

/-! ### Indices of 32 bits -/

theorem Shaped.slot_eq (shaped : scheduler.Shaped) {i : Nat}
    (below : i < scheduler.queueSize.toNat) :
    scheduler.slot (UInt32.ofNat i) =
      (scheduler.head.toNat + i) % scheduler.queueSize.toNat := by
  have bounded := shaped.bounded
  have head := shaped.head
  unfold slot
  rw [UInt32.toNat_mod, UInt32.toNat_add, UInt32.toNat_ofNat_of_lt' (by
    change i < 2 ^ 32
    omega)]
  have small : scheduler.head.toNat + i < 2 ^ 32 := by omega
  rw [Nat.mod_eq_of_lt small]

theorem Shaped.nextSlot_eq (shaped : scheduler.Shaped) {j : Nat}
    (below : j + 1 < scheduler.queueSize.toNat) :
    scheduler.nextSlot (UInt32.ofNat j) =
      (scheduler.head.toNat + (j + 1)) % scheduler.queueSize.toNat := by
  have bounded := shaped.bounded
  have head := shaped.head
  unfold nextSlot
  rw [UInt32.toNat_mod, UInt32.toNat_add, UInt32.toNat_add, UInt32.toNat_ofNat_of_lt' (by
    change j < 2 ^ 32
    omega)]
  change ((scheduler.head.toNat + j) % 2 ^ 32 + 1) % 2 ^ 32 % _ = _
  have raised : ((scheduler.head.toNat + j) % 2 ^ 32 + 1) % 2 ^ 32 =
      scheduler.head.toNat + (j + 1) := by
    omega
  rw [raised]

theorem Shaped.prevSlot_eq (shaped : scheduler.Shaped) {j : Nat} (positive : 1 ≤ j)
    (below : j < scheduler.queueSize.toNat) :
    scheduler.prevSlot (UInt32.ofNat j) =
      (scheduler.head.toNat + (j - 1)) % scheduler.queueSize.toNat := by
  have bounded := shaped.bounded
  have head := shaped.head
  unfold prevSlot
  rw [UInt32.toNat_mod, UInt32.toNat_sub, UInt32.toNat_add, UInt32.toNat_ofNat_of_lt' (by
    change j < 2 ^ 32
    omega)]
  change (2 ^ 32 - 1 + (scheduler.head.toNat + j) % 2 ^ 32) % 2 ^ 32 % _ = _
  have lowered : (2 ^ 32 - 1 + (scheduler.head.toNat + j) % 2 ^ 32) % 2 ^ 32 =
      scheduler.head.toNat + (j - 1) := by
    omega
  rw [lowered]

theorem toNat_pred {count : UInt32} (positive : 1 ≤ count.toNat) :
    (count - 1).toNat = count.toNat - 1 := by
  apply UInt32.toNat_sub_of_le
  rw [UInt32.le_iff_toNat_le]
  exact positive

/-- An index goes one slot on. -/
theorem Shaped.advance_eq (shaped : scheduler.Shaped) {index : UInt32}
    (inside : index.toNat < scheduler.queueSize.toNat) :
    ((index + 1) % scheduler.queueSize).toNat =
      (index.toNat + 1) % scheduler.queueSize.toNat := by
  have bounded := shaped.bounded
  rw [UInt32.toNat_mod, UInt32.toNat_add]
  change (index.toNat + 1) % 2 ^ 32 % _ = _
  have raised : (index.toNat + 1) % 2 ^ 32 = index.toNat + 1 := by omega
  rw [raised]

/-! ### The view from the head -/

/-- The slots, seen from the head. -/
def view (scheduler : AgentQueue) : List UInt64 :=
  scheduler.queue.rotate scheduler.head.toNat

theorem Shaped.length_view (shaped : scheduler.Shaped) :
    scheduler.view.length = scheduler.queueSize.toNat := by
  unfold view
  rw [List.length_rotate, shaped.length]

theorem Shaped.contents_eq (shaped : scheduler.Shaped) :
    scheduler.contents = scheduler.view.take scheduler.count.toNat := by
  have count := shaped.count
  apply List.ext_getElem?
  intro i
  unfold contents
  by_cases below : i < scheduler.count.toNat
  · have inside : i < scheduler.queue.length := by
      rw [shaped.length]
      omega
    have listed : i < scheduler.view.length := by
      rw [shaped.length_view]
      omega
    rw [List.getElem?_map, List.getElem?_range below, List.getElem?_take_of_lt below,
      Option.map_some, ← shaped.length, getD_ring _ inside]
    change some (scheduler.view.getD i 0) = _
    rw [List.getD_eq_getElem?_getD, List.getElem?_eq_getElem listed]
    rfl
  · rw [List.getElem?_eq_none (by simpa using below), List.getElem?_eq_none]
    rw [List.length_take]
    omega

theorem length_contents (scheduler : AgentQueue) :
    scheduler.contents.length = scheduler.count.toNat := by
  unfold contents
  rw [List.length_map, List.length_range]

/-- The contents, and the slots that are free. -/
theorem Shaped.view_eq (shaped : scheduler.Shaped) :
    scheduler.view = scheduler.contents ++ scheduler.view.drop scheduler.count.toNat := by
  rw [shaped.contents_eq, List.take_append_drop]

/-! ### The search -/

theorem Shaped.find_eq (shaped : scheduler.Shaped) (id : UInt64) :
    scheduler.find id = (List.range scheduler.count.toNat).find? fun i =>
      decide (scheduler.queue.getD
        ((scheduler.head.toNat + i) % scheduler.queueSize.toNat) 0 = id) := by
  have count := shaped.count
  unfold find
  apply List.find?_congr
  intro i member
  have below := List.mem_range.mp member
  rw [shaped.slot_eq (by omega)]

theorem Shaped.find_none (shaped : scheduler.Shaped) {id : UInt64}
    (missed : scheduler.find id = none) : id ∉ scheduler.contents := by
  rw [shaped.find_eq] at missed
  intro member
  obtain ⟨i, listed, same⟩ := List.mem_map.mp member
  have different := List.find?_eq_none.mp missed i listed
  exact different (decide_eq_true same)

theorem Shaped.find_some (shaped : scheduler.Shaped) {id : UInt64} {i : Nat}
    (found : scheduler.find id = some i) :
    ∃ before after, scheduler.contents = before ++ id :: after ∧ before.length = i ∧
      id ∈ scheduler.contents ∧ scheduler.contents.erase id = before ++ after := by
  rw [shaped.find_eq] at found
  obtain ⟨before, after, split, place, missing⟩ := find?_range_split found
  change scheduler.contents = _ at split
  refine ⟨before, after, split, place, ?_, ?_⟩
  · rw [split]
    exact List.mem_append_right _ (List.mem_cons_self ..)
  · rw [split, List.erase_append_right _ missing, List.erase_cons_head]

/-! ### The loops -/

/-- Removal closes the gap. -/
theorem Shaped.moveUp_rotate (shaped : scheduler.Shaped) {i : Nat}
    (inside : i < scheduler.count.toNat) :
    (scheduler.moveUp i).length = scheduler.queueSize.toNat ∧
      (scheduler.moveUp i).rotate scheduler.head.toNat =
        closeGap 0 i (scheduler.count.toNat - 1 - i) scheduler.view := by
  have count := shaped.count
  have steps : (scheduler.count - 1).toNat = scheduler.count.toNat - 1 :=
    toNat_pred (by omega)
  unfold moveUp closeGap view
  rw [steps]
  apply foldl_rotate
  · intro j member slots length
    have bounds := List.mem_range'_1.mp member
    have here : j < slots.length := by omega
    have behind : j + 1 < slots.length := by omega
    rw [shaped.slot_eq (by omega), shaped.nextSlot_eq (by omega), ← length]
    refine ⟨List.length_set, ?_⟩
    rw [rotate_set _ _ here, getD_ring _ behind]
  · exact shaped.length

/-- Promotion brings the element forward. -/
theorem Shaped.moveBack_rotate (shaped : scheduler.Shaped) {i : Nat}
    (inside : i < scheduler.count.toNat) :
    (scheduler.moveBack i).length = scheduler.queueSize.toNat ∧
      (scheduler.moveBack i).rotate scheduler.head.toNat =
        bringForward 0 i scheduler.view := by
  have count := shaped.count
  unfold moveBack bringForward view
  apply foldl_rotate
  · intro j member slots length
    have bounds := List.mem_range'_1.mp (List.mem_reverse.mp member)
    have here : j < slots.length := by omega
    have before : j - 1 < slots.length := by omega
    rw [shaped.slot_eq (by omega), shaped.prevSlot_eq (by omega) (by omega), ← length]
    refine ⟨by rw [List.length_set, List.length_set], ?_⟩
    have middle := rotate_set slots scheduler.head.toNat here
      (slots.getD ((scheduler.head.toNat + (j - 1)) % slots.length) 0)
    have last := rotate_set
      (slots.set ((scheduler.head.toNat + j) % slots.length)
        (slots.getD ((scheduler.head.toNat + (j - 1)) % slots.length) 0))
      scheduler.head.toNat (by rw [List.length_set]; exact before)
      (slots.getD ((scheduler.head.toNat + j) % slots.length) 0)
    rw [List.length_set] at last
    rw [last, middle, getD_ring _ here, getD_ring _ before]
  · exact shaped.length

/-! ### The calls -/

/-- A call does what the list does. -/
structure Simulates (scheduler : AgentQueue) (call : QueueCall) : Prop where
  sound : (scheduler.step call).Sound
  queueSize : (scheduler.step call).queueSize = scheduler.queueSize
  agrees : ((scheduler.step call).ready, (scheduler.perform call).2) =
    scheduler.ready.perform scheduler.queueSize.toNat call

/-- A new state without new agents is sound. -/
theorem Sound.of_fewer (sound : scheduler.Sound) {after : AgentQueue} (shaped : after.Shaped)
    (fewer : ∀ id ∈ after.contents, id ∈ scheduler.contents) : after.Sound := by
  refine ⟨shaped, ?_⟩
  intro zero
  exact sound.valid (fewer 0 zero)

theorem Sound.add_room (sound : scheduler.Sound) {id : UInt64} (nonzero : id ≠ 0)
    (room : scheduler.count.toNat < scheduler.queueSize.toNat) {after : AgentQueue}
    (same : after =
      { scheduler with
        queue := scheduler.queue.set scheduler.tail.toNat id
        tail := (scheduler.tail + 1) % scheduler.queueSize
        count := scheduler.count + 1 }) :
    after.Sound ∧ after.contents = scheduler.contents ++ [id] := by
  have shaped := sound.toShaped
  have bounded := sound.bounded
  have head := sound.head
  have count : (scheduler.count + 1).toNat = scheduler.count.toNat + 1 := by
    rw [UInt32.toNat_add]
    change (scheduler.count.toNat + 1) % 2 ^ 32 = _
    omega
  have below : scheduler.tail.toNat < scheduler.queueSize.toNat := by
    rw [sound.tail]
    exact Nat.mod_lt _ (by omega)
  have tail : ((scheduler.tail + 1) % scheduler.queueSize).toNat =
      (scheduler.head.toNat + (scheduler.count.toNat + 1)) % scheduler.queueSize.toNat := by
    rw [shaped.advance_eq below, sound.tail, Nat.mod_add_mod, Nat.add_assoc]
  have later : after.Shaped := by
    rw [same]
    refine ⟨?_, bounded, head, ?_, ?_⟩
    · rw [List.length_set]
      exact sound.length
    · rw [count]
      exact room
    · rw [count]
      exact tail
  have place : scheduler.count.toNat < scheduler.queue.length := by
    rw [sound.length]
    exact room
  have listed : after.contents = scheduler.contents ++ [id] := by
    rw [later.contents_eq, shaped.contents_eq, same]
    unfold view
    rw [count, sound.tail, ← sound.length, rotate_set _ _ place, List.take_add_one,
      List.take_set_of_le (Nat.le_refl _),
      List.getElem?_set_self (by rw [List.length_rotate]; exact place)]
    rfl
  refine ⟨⟨later, ?_⟩, listed⟩
  intro member
  rw [listed] at member
  rcases List.mem_append.mp member with old | new
  · exact sound.valid old
  · exact nonzero (List.mem_singleton.mp new).symm

/-- The tail goes one slot back, also from slot zero. -/
theorem Shaped.tail_back (shaped : scheduler.Shaped) (positive : 1 ≤ scheduler.count.toNat) :
    ((scheduler.tail - 1 + scheduler.queueSize) % scheduler.queueSize).toNat =
      (scheduler.head.toNat + (scheduler.count.toNat - 1)) % scheduler.queueSize.toNat := by
  have bounded := shaped.bounded
  have head := shaped.head
  have below : scheduler.tail.toNat < scheduler.queueSize.toNat := by
    rw [shaped.tail]
    exact Nat.mod_lt _ (by omega)
  have lowered : ((2 ^ 32 - 1 + scheduler.tail.toNat) % 2 ^ 32 +
      scheduler.queueSize.toNat) % 2 ^ 32 =
        scheduler.tail.toNat + (scheduler.queueSize.toNat - 1) := by
    omega
  have round : scheduler.head.toNat + scheduler.count.toNat +
      (scheduler.queueSize.toNat - 1) =
        scheduler.head.toNat + (scheduler.count.toNat - 1) + scheduler.queueSize.toNat := by
    omega
  rw [UInt32.toNat_mod, UInt32.toNat_add, UInt32.toNat_sub]
  change ((2 ^ 32 - 1 + scheduler.tail.toNat) % 2 ^ 32 + _) % 2 ^ 32 % _ = _
  rw [lowered, shaped.tail, Nat.mod_add_mod, round, Nat.add_mod_right]

theorem Sound.remove_found (sound : scheduler.Sound) {id : UInt64} {i : Nat}
    (found : scheduler.find id = some i) {after : AgentQueue}
    (same : after =
      { scheduler with
        queue := scheduler.moveUp i
        tail := (scheduler.tail - 1 + scheduler.queueSize) % scheduler.queueSize
        count := scheduler.count - 1 }) :
    after.Sound ∧ id ∈ scheduler.contents ∧ after.contents = scheduler.contents.erase id := by
  have shaped := sound.toShaped
  obtain ⟨before, behind, split, place, member, erased⟩ := shaped.find_some found
  have total := length_contents scheduler
  rw [split, List.length_append, List.length_cons] at total
  have fewer := sound.count
  obtain ⟨length, moved⟩ := shaped.moveUp_rotate (i := i) (by omega)
  have count : (scheduler.count - 1).toNat = scheduler.count.toNat - 1 :=
    toNat_pred (by omega)
  have later : after.Shaped := by
    rw [same]
    refine ⟨length, sound.bounded, sound.head, ?_, ?_⟩
    · rw [count]
      change scheduler.count.toNat - 1 ≤ scheduler.queueSize.toNat
      omega
    · rw [count]
      exact shaped.tail_back (by omega)
  have listed : after.contents = scheduler.contents.erase id := by
    obtain ⟨last, closed⟩ := closeGap_split 0 before behind
      (scheduler.view.drop scheduler.count.toNat) id
    have steps : scheduler.count.toNat - 1 - i = behind.length := by omega
    have taken : (before ++ behind).length = scheduler.count.toNat - 1 := by
      rw [List.length_append]
      omega
    rw [later.contents_eq, same, erased]
    unfold view at moved ⊢
    rw [count, moved, steps, ← place]
    change List.take _ (closeGap 0 _ _ scheduler.view) = _
    rw [shaped.view_eq, split, List.append_assoc, List.cons_append, closed,
      ← List.append_assoc]
    exact List.take_left' taken
  refine ⟨sound.of_fewer later ?_, member, listed⟩
  rw [listed]
  intro other kept
  exact List.mem_of_mem_erase kept

theorem Sound.update_found (sound : scheduler.Sound) {id : UInt64} {i : Nat}
    (found : scheduler.find id = some i) {after : AgentQueue}
    (same : after = { scheduler with queue := scheduler.moveBack i }) :
    after.Sound ∧ id ∈ scheduler.contents ∧
      after.contents = id :: scheduler.contents.erase id := by
  have shaped := sound.toShaped
  obtain ⟨before, behind, split, place, member, erased⟩ := shaped.find_some found
  have total := length_contents scheduler
  rw [split, List.length_append, List.length_cons] at total
  obtain ⟨length, moved⟩ := shaped.moveBack_rotate (i := i) (by omega)
  have later : after.Shaped := by
    rw [same]
    exact ⟨length, sound.bounded, sound.head, sound.count, sound.tail⟩
  have listed : after.contents = id :: scheduler.contents.erase id := by
    have forward := bringForward_split 0 before
      (behind ++ scheduler.view.drop scheduler.count.toNat) id
    have taken : (id :: (before ++ behind)).length = scheduler.count.toNat := by
      rw [List.length_cons, List.length_append]
      omega
    rw [later.contents_eq, same, erased]
    unfold view at moved ⊢
    dsimp only
    rw [moved, ← place]
    change List.take _ (bringForward 0 _ scheduler.view) = _
    rw [shaped.view_eq, split, List.append_assoc, List.cons_append, forward,
      ← List.append_assoc, ← List.cons_append]
    exact List.take_left' taken
  refine ⟨sound.of_fewer later ?_, member, listed⟩
  rw [listed]
  intro other kept
  rcases List.mem_cons.mp kept with first | rest
  · rw [first]
    exact member
  · exact List.mem_of_mem_erase rest

theorem Sound.pick_first (sound : scheduler.Sound) (positive : scheduler.count ≠ 0)
    {after : AgentQueue}
    (same : after =
      { scheduler with
        head := (scheduler.head + 1) % scheduler.queueSize
        count := scheduler.count - 1 }) :
    after.Sound ∧
      scheduler.contents = scheduler.queue.getD scheduler.head.toNat 0 :: after.contents := by
  have shaped := sound.toShaped
  have fewer := sound.count
  have inside := sound.head
  have nonzero : scheduler.count.toNat ≠ 0 := fun zero => positive (UInt32.toNat_inj.mp zero)
  have count : (scheduler.count - 1).toNat = scheduler.count.toNat - 1 :=
    toNat_pred (by omega)
  have head := shaped.advance_eq inside
  have later : after.Shaped := by
    rw [same]
    refine ⟨sound.length, sound.bounded, ?_, ?_, ?_⟩
    · rw [head]
      exact Nat.mod_lt _ (by omega)
    · rw [count]
      change scheduler.count.toNat - 1 ≤ scheduler.queueSize.toNat
      omega
    · rw [head, count, Nat.mod_add_mod, Nat.add_assoc]
      have moved : 1 + (scheduler.count.toNat - 1) = scheduler.count.toNat := by omega
      rw [moved]
      exact sound.tail
  have split : scheduler.contents =
      scheduler.queue.getD scheduler.head.toNat 0 :: after.contents := by
    have slots : 0 < scheduler.queue.length := by
      rw [sound.length]
      omega
    have front := getD_ring scheduler.head.toNat slots 0
    rw [Nat.add_zero, sound.length, Nat.mod_eq_of_lt inside] at front
    have turned : after.view = scheduler.view.rotate 1 := by
      rw [same]
      unfold view
      dsimp only
      rw [head, ← sound.length, List.rotate_mod, List.rotate_rotate]
    have taken : after.count.toNat + 1 = scheduler.count.toNat := by
      rw [same]
      change (scheduler.count - 1).toNat + 1 = _
      omega
    rw [front, shaped.contents_eq, later.contents_eq, turned, ← taken]
    apply take_succ_rotate
    rw [shaped.length_view]
    omega
  refine ⟨sound.of_fewer later ?_, split⟩
  rw [split]
  intro id kept
  exact List.mem_cons_of_mem _ kept

theorem Simulates.of_perform {call : QueueCall} {after : AgentQueue} {answer : QueueAnswer}
    (performed : scheduler.perform call = (after, answer)) (sound : after.Sound)
    (queueSize : after.queueSize = scheduler.queueSize)
    (listed : scheduler.ready.perform scheduler.queueSize.toNat call = (after.ready, answer)) :
    scheduler.Simulates call := by
  have stepped : scheduler.step call = after := by
    unfold step
    rw [performed]
  refine ⟨?_, ?_, ?_⟩
  · rw [stepped]
    exact sound
  · rw [stepped]
    exact queueSize
  · rw [stepped, performed, listed]

/-- Appending fails for the id of no agent and for a full queue. -/
theorem Sound.add_simulates (sound : scheduler.Sound) (id : UInt64) :
    scheduler.Simulates (.add id) := by
  have total := length_contents scheduler
  have fewer := sound.count
  by_cases zero : id = 0
  · have performed : scheduler.perform (.add id) = (scheduler, .done false) := by
      simp only [perform, schedulerAddAgent, if_pos zero]
    apply Simulates.of_perform performed sound rfl
    simp only [ReadyList.perform, if_pos (Or.inl zero)]
  · by_cases full : scheduler.queueSize ≤ scheduler.count
    · have performed : scheduler.perform (.add id) = (scheduler, .done false) := by
        simp only [perform, schedulerAddAgent, if_neg zero, if_pos full]
      have length : scheduler.ready.agents.length = scheduler.queueSize.toNat := by
        have most := UInt32.le_iff_toNat_le.mp full
        change scheduler.contents.length = _
        omega
      apply Simulates.of_perform performed sound rfl
      simp only [ReadyList.perform, if_pos (Or.inr length)]
    · have room : scheduler.count.toNat < scheduler.queueSize.toNat := by
        rw [UInt32.le_iff_toNat_le] at full
        omega
      have refused : ¬(id = 0 ∨ scheduler.ready.agents.length = scheduler.queueSize.toNat) := by
        intro either
        rcases either with none | many
        · exact zero none
        · change scheduler.contents.length = _ at many
          omega
      obtain ⟨after, same⟩ : ∃ after : AgentQueue, after =
          { scheduler with
            queue := scheduler.queue.set scheduler.tail.toNat id
            tail := (scheduler.tail + 1) % scheduler.queueSize
            count := scheduler.count + 1 } := ⟨_, rfl⟩
      obtain ⟨later, listed⟩ := sound.add_room zero room same
      have performed : scheduler.perform (.add id) = (after, .done true) := by
        simp only [perform, schedulerAddAgent, if_neg zero, if_neg full, same]
      apply Simulates.of_perform performed later (by rw [same])
      simp only [ReadyList.perform, if_neg refused]
      unfold ready
      rw [listed, same]

/-- Neither the list nor the queue holds the id of no agent. -/
theorem Sound.found_nonzero (sound : scheduler.Sound) {id : UInt64}
    (member : id ∈ scheduler.contents) : id ≠ 0 := by
  intro zero
  rw [zero] at member
  exact sound.valid member

theorem Sound.remove_simulates (sound : scheduler.Sound) (id : UInt64) :
    scheduler.Simulates (.remove id) := by
  by_cases member : id ∈ scheduler.ready.agents
  · have nonzero := sound.found_nonzero member
    cases search : scheduler.find id with
    | none => exact absurd member (sound.toShaped.find_none search)
    | some i =>
        obtain ⟨after, same⟩ : ∃ after : AgentQueue, after =
            { scheduler with
              queue := scheduler.moveUp i
              tail := (scheduler.tail - 1 + scheduler.queueSize) % scheduler.queueSize
              count := scheduler.count - 1 } := ⟨_, rfl⟩
        obtain ⟨later, _, listed⟩ := sound.remove_found search same
        have performed : scheduler.perform (.remove id) = (after, .done true) := by
          simp only [perform, schedulerRemoveAgent, if_neg nonzero, search, same]
        apply Simulates.of_perform performed later (by rw [same])
        simp only [ReadyList.perform, if_pos member]
        unfold ready
        rw [listed, same]
  · have performed : scheduler.perform (.remove id) = (scheduler, .done false) := by
      by_cases zero : id = 0
      · simp only [perform, schedulerRemoveAgent, if_pos zero]
      · cases search : scheduler.find id with
        | none => simp only [perform, schedulerRemoveAgent, if_neg zero, search]
        | some i => exact absurd (sound.remove_found search rfl).2.1 member
    apply Simulates.of_perform performed sound rfl
    simp only [ReadyList.perform, if_neg member]

theorem Sound.update_simulates (sound : scheduler.Sound) (id : UInt64) :
    scheduler.Simulates (.update id) := by
  by_cases member : id ∈ scheduler.ready.agents
  · have nonzero := sound.found_nonzero member
    cases search : scheduler.find id with
    | none => exact absurd member (sound.toShaped.find_none search)
    | some i =>
        obtain ⟨after, same⟩ : ∃ after : AgentQueue, after =
            { scheduler with queue := scheduler.moveBack i } := ⟨_, rfl⟩
        obtain ⟨later, _, listed⟩ := sound.update_found search same
        have performed : scheduler.perform (.update id) = (after, .done true) := by
          simp only [perform, schedulerUpdateAgent, if_neg nonzero, search, same]
        apply Simulates.of_perform performed later (by rw [same])
        simp only [ReadyList.perform, if_pos member]
        unfold ready
        rw [listed, same]
  · have performed : scheduler.perform (.update id) = (scheduler, .done false) := by
      by_cases zero : id = 0
      · simp only [perform, schedulerUpdateAgent, if_pos zero]
      · cases search : scheduler.find id with
        | none => simp only [perform, schedulerUpdateAgent, if_neg zero, search]
        | some i => exact absurd (sound.update_found search rfl).2.1 member
    apply Simulates.of_perform performed sound rfl
    simp only [ReadyList.perform, if_neg member]

theorem Sound.pick_simulates (sound : scheduler.Sound) : scheduler.Simulates .pick := by
  by_cases empty : scheduler.count = 0
  · have none : scheduler.ready.agents = [] := by
      apply List.eq_nil_of_length_eq_zero
      change scheduler.contents.length = 0
      rw [length_contents, empty]
      rfl
    have performed : scheduler.perform .pick =
        (scheduler, if scheduler.running then .waiting else .picked 0) := by
      simp only [perform, schedulerPickNext, if_pos empty]
      cases scheduler.running <;> rfl
    apply Simulates.of_perform performed sound rfl
    simp only [ReadyList.perform, none]
    rfl
  · obtain ⟨after, same⟩ : ∃ after : AgentQueue, after =
        { scheduler with
          head := (scheduler.head + 1) % scheduler.queueSize
          count := scheduler.count - 1 } := ⟨_, rfl⟩
    obtain ⟨later, split⟩ := sound.pick_first empty same
    have first : scheduler.ready.agents =
        scheduler.queue.getD scheduler.head.toNat 0 :: after.contents := split
    have performed : scheduler.perform .pick =
        (after, .picked (scheduler.queue.getD scheduler.head.toNat 0)) := by
      simp only [perform, schedulerPickNext, if_neg empty, same]
    apply Simulates.of_perform performed later (by rw [same])
    simp only [ReadyList.perform, first]
    rw [same]
    rfl

/-- Every call does what the list does. -/
theorem Sound.simulates (sound : scheduler.Sound) (call : QueueCall) :
    scheduler.Simulates call := by
  cases call with
  | add id => exact sound.add_simulates id
  | remove id => exact sound.remove_simulates id
  | update id => exact sound.update_simulates id
  | pick => exact sound.pick_simulates
  | start => exact ⟨⟨⟨sound.length, sound.bounded, sound.head, sound.count, sound.tail⟩,
      sound.valid⟩, rfl, rfl⟩
  | stop => exact ⟨⟨⟨sound.length, sound.bounded, sound.head, sound.count, sound.tail⟩,
      sound.valid⟩, rfl, rfl⟩

end AgentQueue

/-! ### Runs -/

/-- A call on the list that fails leaves it. -/
theorem ReadyList.perform_failed {ready : ReadyList} {capacity : Nat} {call : QueueCall}
    (valid : 0 ∉ ready.agents) (failed : (ready.perform capacity call).2.failed = true) :
    (ready.perform capacity call).1 = ready := by
  cases call with
  | add id =>
      simp only [perform] at failed ⊢
      split at failed
      · next refused => rw [if_pos refused]
      · cases failed
  | remove id =>
      simp only [perform] at failed ⊢
      split at failed
      · cases failed
      · next missing => rw [if_neg missing]
  | update id =>
      simp only [perform] at failed ⊢
      split at failed
      · cases failed
      · next missing => rw [if_neg missing]
  | pick =>
      obtain ⟨agents, running⟩ := ready
      cases agents with
      | nil => rfl
      | cons first rest =>
          have zero : first = 0 := of_decide_eq_true failed
          rw [zero] at valid
          exact absurd (List.mem_cons_self ..) valid
  | start => cases failed
  | stop => cases failed

theorem schedulerInit_sound {maxAgents : UInt32} (bounded : maxAgents.toNat ≤ 2 ^ 31)
    {initial : AgentQueue} (created : schedulerInit maxAgents = some initial) :
    initial.Sound ∧ initial.queueSize = maxAgents ∧
      initial.ready = { agents := [], running := false } := by
  unfold schedulerInit at created
  split at created
  · cases created
  · next nonzero =>
      rw [Option.some.injEq] at created
      have positive : maxAgents.toNat ≠ 0 := fun zero => nonzero (UInt32.toNat_inj.mp zero)
      rw [← created]
      refine ⟨⟨⟨?_, bounded, ?_, Nat.zero_le _, ?_⟩, List.not_mem_nil⟩, rfl, rfl⟩
      · exact List.length_replicate
      · exact Nat.pos_of_ne_zero positive
      · exact (Nat.zero_mod _).symm

/-- What a run of the queue shares with the same run of the list. -/
structure AgentQueue.Follows (maxAgents : UInt32) (scheduler : AgentQueue) (ready : ReadyList) :
    Prop where
  sound : scheduler.Sound
  queueSize : scheduler.queueSize = maxAgents
  agrees : scheduler.ready = ready

theorem AgentQueue.Follows.run {maxAgents : UInt32} (calls : List QueueCall)
    {scheduler initial : AgentQueue} {ready : ReadyList}
    (follows : scheduler.Follows maxAgents ready) :
    ((queueMachine initial).runFrom scheduler calls).Follows maxAgents
      ((readyMachine maxAgents.toNat).runFrom ready calls) := by
  induction calls generalizing scheduler ready with
  | nil => exact follows
  | cons call rest ih =>
      have simulates := follows.sound.simulates call
      have agrees := simulates.agrees
      rw [follows.queueSize, follows.agrees] at agrees
      exact ih ⟨simulates.sound, simulates.queueSize.trans follows.queueSize,
        congrArg Prod.fst agrees⟩

/-- Whatever calls are made, the queue is the list: `add` appends unless the id is zero or the
queue is full, `remove` takes the first occurrence out, `update` brings it to the front, and
`pick` takes the front. -/
theorem ready_queue_refines_list (maxAgents : UInt32) (bounded : maxAgents.toNat ≤ 2 ^ 31)
    (initial : AgentQueue) (created : schedulerInit maxAgents = some initial)
    (calls : List QueueCall) :
    ((queueMachine initial).run calls).ready = (readyMachine maxAgents.toNat).run calls ∧
    ((queueMachine initial).run calls).queueSize = maxAgents ∧
    ((queueMachine initial).run calls).count.toNat ≤ maxAgents.toNat ∧
    ((queueMachine initial).run calls).tail.toNat =
      (((queueMachine initial).run calls).head.toNat +
        ((queueMachine initial).run calls).count.toNat) % maxAgents.toNat ∧
    ∀ call,
      (((queueMachine initial).run calls).perform call).2 =
        (((queueMachine initial).run calls).ready.perform maxAgents.toNat call).2 ∧
      ((((queueMachine initial).run calls).perform call).2.failed = true →
        (((queueMachine initial).run calls).step call).contents =
          ((queueMachine initial).run calls).contents) := by
  obtain ⟨sound, queueSize, empty⟩ := schedulerInit_sound bounded created
  have start : initial.Follows maxAgents { agents := [], running := false } :=
    ⟨sound, queueSize, empty⟩
  have follows : ((queueMachine initial).run calls).Follows maxAgents
      ((readyMachine maxAgents.toNat).run calls) := start.run calls
  generalize (queueMachine initial).run calls = scheduler at follows
  have later := follows.sound
  have size := follows.queueSize
  refine ⟨follows.agrees, size, ?_, ?_, ?_⟩
  · rw [← size]
    exact later.count
  · rw [← size]
    exact later.tail
  · intro call
    have agrees := (later.simulates call).agrees
    rw [size] at agrees
    have answer := congrArg Prod.snd agrees
    refine ⟨answer, ?_⟩
    intro failed
    change (scheduler.perform call).2 = _ at answer
    rw [answer] at failed
    have kept := ReadyList.perform_failed later.valid failed
    have state := congrArg Prod.fst agrees
    change (scheduler.step call).ready = _ at state
    rw [kept] at state
    exact congrArg ReadyList.agents state

/-- Two agents enter, the second comes forward and is picked, and a third fills the ring
across the end of the array. -/
def wrappedCalls : List QueueCall :=
  [.add 7, .add 9, .update 9, .pick, .add 5, .remove 7]

theorem wrapped_queue_refines :
    ∃ initial, schedulerInit 2 = some initial ∧
      ((queueMachine initial).run wrappedCalls).ready = { agents := [5], running := false } := by
  refine ⟨_, rfl, ?_⟩
  rw [(ready_queue_refines_list 2 (by decide) _ rfl wrappedCalls).1]
  rfl

/-- The id of no agent is refused by a queue that is not full. -/
theorem invalid_agent_refused :
    ¬∀ (maxAgents : UInt32) (initial : AgentQueue), maxAgents.toNat ≤ 2 ^ 31 →
      schedulerInit maxAgents = some initial → ∀ (calls : List QueueCall) (id : UInt64),
        ((((queueMachine initial).run calls).perform (.add id)).2 = .done false ↔
          ((queueMachine initial).run calls).count.toNat = maxAgents.toNat) := by
  intro always
  have empty := (always 2 _ (by decide) rfl [] 0).mp rfl
  exact absurd empty (by decide)

end AgentNucleus.Top

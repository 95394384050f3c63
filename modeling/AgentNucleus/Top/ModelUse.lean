/-
What the locks of llm_llamacpp.c guarantee in every interleaving: a thread that works on a
model is alone with it, and the model is still the one that it has asked for; some call
can always go on; and the counters of the table are exact.
-/

import AgentNucleus.Library.SlotTable
import AgentNucleus.Top.ModelLocks

set_option autoImplicit false

namespace AgentNucleus.Top

open AgentNucleus.Library

namespace LlmManager

structure Sound (manager : LlmManager) : Prop where
  held : Held ManagerPlace.Holds manager.owner manager.threads
  stands : ∀ place ∈ manager.threads, place.Stands manager.models
  fresh : ∀ slot, ManagerPlace.loading slot ∈ manager.threads →
    manager.owner (.inference slot) = none

section Steps

variable {manager : LlmManager} {thread : Nat} {old new : ManagerPlace}

theorem mem_move {threads : List ManagerPlace} {place : ManagerPlace}
    (present : threads[thread]? = some old) (member : place ∈ threads.set thread new) :
    place = new ∨ ∃ other : Nat, other ≠ thread ∧ threads[other]? = some place := by
  obtain ⟨other, found⟩ := List.mem_iff_getElem?.mp member
  rw [Held.getElem?_move present] at found
  by_cases same : other = thread
  · rw [if_pos same] at found
    exact .inl (Option.some.inj found).symm
  · rw [if_neg same] at found
    exact .inr ⟨other, same, found⟩

/-- What a step of one thread has to establish. -/
theorem Sound.stepped (sound : manager.Sound) (present : manager.threads[thread]? = some old)
    (after : LlmManager) (moved : after.threads = manager.threads.set thread new)
    (held : Held ManagerPlace.Holds after.owner (manager.threads.set thread new))
    (mine : new.Stands after.models)
    (others : ∀ (other : Nat) (place : ManagerPlace), other ≠ thread →
      manager.threads[other]? = some place → place.Stands manager.models →
        place.Stands after.models)
    (loads : ∀ slot, new = .loading slot → after.owner (.inference slot) = none)
    (othersLoad : ∀ (other : Nat) (slot : Nat), other ≠ thread →
      manager.threads[other]? = some (.loading slot) →
        manager.owner (.inference slot) = none → after.owner (.inference slot) = none) :
    after.Sound := by
  constructor
  · rw [moved]
    exact held
  · intro place member
    rw [moved] at member
    rcases mem_move present member with rfl | ⟨other, different, found⟩
    · exact mine
    · exact others other place different found (sound.stands place (List.mem_of_getElem? found))
  · intro slot member
    rw [moved] at member
    rcases mem_move present member with equal | ⟨other, different, found⟩
    · exact loads slot equal.symm
    · exact othersLoad other slot different found
        (sound.fresh slot (List.mem_of_getElem? found))

/-- The thread moves without a change to the locks and the table. -/
theorem Sound.moveTo (sound : manager.Sound) (present : manager.threads[thread]? = some old)
    (same : ∀ lock, new.Holds lock ↔ old.Holds lock) (mine : new.Stands manager.models)
    (loads : ∀ slot, new ≠ .loading slot) : (manager.moveTo thread new).Sound :=
  sound.stepped present (manager.moveTo thread new) rfl (sound.held.moved present same) mine
    (fun _ _ _ _ stands => stands) (fun slot equal => absurd equal (loads slot))
    (fun _ _ _ _ free => free)

theorem Sound.acquire (sound : manager.Sound) (present : manager.threads[thread]? = some old)
    (lock : ManagerLock)
    (more : ∀ other, new.Holds other ↔ other = lock ∨ old.Holds other)
    (mine : new.Stands manager.models) (loads : ∀ slot, new ≠ .loading slot)
    (ordered : lock = .manager ∨ old.holdsManager = true) :
    (manager.acquire thread lock new).Sound := by
  unfold LlmManager.acquire
  split
  · next free =>
      refine sound.stepped present _ rfl (sound.held.acquired present lock free more) mine
        (fun _ _ _ _ stands => stands) (fun slot equal => absurd equal (loads slot)) ?_
      intro other slot different found unowned
      rcases ordered with rfl | inside
      · have different' : ManagerLock.inference slot ≠ .manager := by
          intro same
          cases same
        have kept : Function.update manager.owner .manager (some thread) (.inference slot) =
            manager.owner (.inference slot) := Function.update_of_ne different' _ _
        exact kept.trans unowned
      · exact absurd (sound.held.exclusive .manager found rfl present inside) different
  · exact sound

theorem Sound.release (sound : manager.Sound) (present : manager.threads[thread]? = some old)
    (lock : ManagerLock) (holding : old.Holds lock)
    (fewer : ∀ other, new.Holds other ↔ other ≠ lock ∧ old.Holds other)
    (mine : new.Stands manager.models) (loads : ∀ slot, new ≠ .loading slot) :
    (manager.release thread lock new).Sound := by
  refine sound.stepped present _ rfl (sound.held.released present lock holding fewer) mine
    (fun _ _ _ _ stands => stands) (fun slot equal => absurd equal (loads slot)) ?_
  intro other slot _ _ unowned
  change Function.update manager.owner lock none (.inference slot) = none
  by_cases same : ManagerLock.inference slot = lock
  · rw [same, Function.update_self]
  · rw [Function.update_of_ne same]
    exact unowned

/-- A thread under the lock of the manager changes a model that nobody else has found,
apart from those that work on it with its lock. -/
theorem stands_modify {models : List ModelSlot} {place : ManagerPlace} (slot : Nat)
    (change : ModelSlot → ModelSlot) (apart : place.found ≠ some slot)
    (stands : place.Stands models) : place.Stands (models.modify slot change) := by
  intro other found
  obtain ⟨model, present, rest⟩ := stands other found
  have different : slot ≠ other := fun same => apart (by rw [same]; exact found)
  exact ⟨model, by rw [List.getElem?_modify_ne _ _ different]; exact present, rest⟩

/-- Another thread that has found the model holds its lock, unless it has the lock of the
manager. -/
theorem found_of_outside {place : ManagerPlace} {slot : Nat} (found : place.found = some slot)
    (outside : place.holdsManager = false) : place.heldModel = some slot := by
  cases place with
  | working _ _ => exact found
  | idle => cases found
  | entering _ => cases found
  | _ => cases outside

/-- While a thread has the lock of the manager and no thread but itself has that of the
model, no other thread has found the model. -/
theorem Sound.foundApart (sound : manager.Sound) (present : manager.threads[thread]? = some old)
    (inside : old.holdsManager = true) {slot : Nat}
    (alone : ∀ other : Nat, manager.owner (.inference slot) = some other → other = thread)
    {other : Nat} {place : ManagerPlace} (different : other ≠ thread)
    (there : manager.threads[other]? = some place) : place.found ≠ some slot := by
  intro found
  cases holds : place.holdsManager with
  | true =>
      exact different (sound.held.exclusive .manager there holds present inside)
  | false =>
      have held := found_of_outside found holds
      exact different (alone other (sound.held.owner_eq (.inference slot) there held))

theorem holds_none {place : ManagerPlace} (outside : place.holdsManager = false)
    (without : place.heldModel = none) (lock : ManagerLock) : ¬place.Holds lock := by
  intro holding
  cases lock with
  | manager => exact absurd (outside.symm.trans holding) nofun
  | inference slot => exact absurd (without.symm.trans holding) nofun

/-- Places with the same locks. -/
theorem holds_congr {first second : ManagerPlace}
    (manager : first.holdsManager = second.holdsManager)
    (model : first.heldModel = second.heldModel) (lock : ManagerLock) :
    first.Holds lock ↔ second.Holds lock := by
  cases lock with
  | manager =>
      change first.holdsManager = true ↔ second.holdsManager = true
      rw [manager]
  | inference slot =>
      change first.heldModel = some slot ↔ second.heldModel = some slot
      rw [model]

theorem stands_none {place : ManagerPlace} (nothing : place.found = none)
    (models : List ModelSlot) : place.Stands models := by
  intro slot found
  cases nothing.symm.trans found

theorem findModel_spec {modelId : UInt64} {slot : Nat}
    (found : manager.findModel modelId = some slot) :
    ∃ model, manager.models[slot]? = some model ∧ model.used = true ∧ model.id = modelId := by
  obtain ⟨inside, matching, _⟩ := List.findIdx?_eq_some_iff_getElem.mp found
  rw [Bool.and_eq_true, beq_iff_eq] at matching
  exact ⟨_, List.getElem?_eq_getElem inside, matching⟩

theorem freeSlot_spec {slot : Nat} (found : manager.freeSlot = some slot) :
    ∃ model, manager.models[slot]? = some model ∧ model.used = false := by
  obtain ⟨inside, matching, _⟩ := List.findIdx?_eq_some_iff_getElem.mp found
  exact ⟨_, List.getElem?_eq_getElem inside, by simpa using matching⟩

end Steps

section Preservation

variable {manager : LlmManager} {thread : Nat} {answer : ManagerAnswer}

/-- A call that has searched without success, or needs no model, leaves. -/
theorem Sound.leaves (sound : manager.Sound) {old : ManagerPlace}
    (present : manager.threads[thread]? = some old) (inside : old.holdsManager = true)
    (without : old.heldModel = none) : (manager.moveTo thread .leaving).Sound :=
  sound.moveTo present (holds_congr (by rw [inside]; rfl) (by rw [without]; rfl))
    (stands_none rfl _) nofun

theorem Sound.claimSlot (sound : manager.Sound)
    (present : manager.threads[thread]? = some (.searching .loadModel)) :
    (manager.claimSlot thread).Sound := by
  unfold LlmManager.claimSlot
  cases found : manager.freeSlot with
  | none => exact sound.leaves present rfl rfl
  | some slot =>
      obtain ⟨model, there, unused⟩ := freeSlot_spec found
      have inside := (List.getElem?_eq_some_iff.mp there).1
      -- Nobody has found a model that is not in use.
      have apart : ∀ place ∈ manager.threads, place.found ≠ some slot := by
        intro place member named
        obtain ⟨other, there', used, _⟩ := sound.stands place member slot named
        cases there.symm.trans there'
        cases unused.symm.trans used
      have unowned : manager.owner (.inference slot) = none := by
        cases owned : manager.owner (.inference slot) with
        | none => rfl
        | some other =>
            obtain ⟨place, at_, holding⟩ := (sound.held.owned _ other).mp owned
            cases place with
            | destroying _ =>
                have same := sound.held.exclusive .manager at_ rfl present rfl
                rw [same] at at_
                cases present.symm.trans at_
            | handing _ _ => exact absurd holding (apart _ (List.mem_of_getElem? at_))
            | working _ _ => exact absurd holding (apart _ (List.mem_of_getElem? at_))
            | freeing _ => exact absurd holding (apart _ (List.mem_of_getElem? at_))
            | readingCounted _ => exact absurd holding (apart _ (List.mem_of_getElem? at_))
            | _ => cases holding
      have same : Function.update manager.owner (.inference slot) none = manager.owner := by
        rw [← unowned]
        exact Function.update_eq_self _ _
      refine sound.stepped present _ rfl ?_ ?_ ?_ ?_ ?_
      · change Held ManagerPlace.Holds (Function.update manager.owner (.inference slot) none) _
        rw [same]
        exact sound.held.moved present (holds_congr rfl rfl)
      · rintro other ⟨⟩
        refine ⟨{ id := manager.nextModelId, used := true }, ?_, rfl, ?_⟩
        · exact List.getElem?_set_self inside
        · rintro modelId ⟨⟩
      · intro other place different at_ stands number named
        obtain ⟨model', there', rest⟩ := stands number named
        have different' : slot ≠ number := by
          intro equal
          rw [equal] at apart
          exact apart place (List.mem_of_getElem? at_) named
        exact ⟨model', (List.getElem?_set_ne different').trans there', rest⟩
      · rintro number ⟨⟩
        exact Function.update_self ..
      · intro other number _ _ free
        change Function.update manager.owner (.inference slot) none (.inference number) = none
        rw [same]
        exact free

/-- Neither the locks nor the models depend on the sessions. -/
theorem Sound.of_same (sound : manager.Sound) (after : LlmManager)
    (models : after.models = manager.models) (owner : after.owner = manager.owner)
    (threads : after.threads = manager.threads) : after.Sound := by
  constructor
  · rw [owner, threads]
    exact sound.held
  · rw [threads, models]
    exact sound.stands
  · rw [threads, owner]
    exact sound.fresh

theorem createSession_same (manager : LlmManager) (modelId : UInt64) :
    (manager.createSession modelId).models = manager.models ∧
      (manager.createSession modelId).owner = manager.owner ∧
      (manager.createSession modelId).threads = manager.threads := by
  unfold LlmManager.createSession
  split
  · exact ⟨rfl, rfl, rfl⟩
  · exact ⟨rfl, rfl, rfl⟩

theorem destroySession_same (manager : LlmManager) (sessionId : UInt64) :
    (manager.destroySession sessionId).models = manager.models ∧
      (manager.destroySession sessionId).owner = manager.owner ∧
      (manager.destroySession sessionId).threads = manager.threads := by
  unfold LlmManager.destroySession
  split
  · exact ⟨rfl, rfl, rfl⟩
  · exact ⟨rfl, rfl, rfl⟩

theorem Sound.search (sound : manager.Sound) {call : ManagerCall}
    (present : manager.threads[thread]? = some (.searching call)) :
    (manager.search thread answer call).Sound := by
  cases call with
  | useModel modelId =>
      cases found : manager.findModel modelId with
      | none =>
          simp only [LlmManager.search, found]
          exact sound.leaves present rfl rfl
      | some slot =>
          obtain ⟨model, there, used, named⟩ := findModel_spec found
          cases passes : answer.succeeds with
          | true =>
              simp only [LlmManager.search, found, passes, if_true]
              refine sound.moveTo present (holds_congr rfl rfl) ?_ nofun
              rintro other ⟨⟩
              exact ⟨model, there, used, fun _ equal => named.trans (Option.some.inj equal)⟩
          | false =>
              simp only [LlmManager.search, found, passes, Bool.false_eq_true, if_false]
              exact sound.leaves present rfl rfl
  | loadModel => exact sound.claimSlot present
  | unloadModel modelId =>
      cases found : manager.findModel modelId with
      | none =>
          simp only [LlmManager.search, found]
          exact sound.leaves present rfl rfl
      | some slot =>
          obtain ⟨model, there, used, _⟩ := findModel_spec found
          simp only [LlmManager.search, found]
          refine sound.moveTo present (holds_congr rfl rfl) ?_ nofun
          rintro other ⟨⟩
          exact ⟨model, there, used, nofun⟩
  | createSession modelId =>
      obtain ⟨models, owner, threads⟩ := createSession_same manager modelId
      exact (sound.of_same _ models owner threads).leaves (by rw [threads]; exact present) rfl rfl
  | destroySession sessionId =>
      obtain ⟨models, owner, threads⟩ := destroySession_same manager sessionId
      exact (sound.of_same _ models owner threads).leaves (by rw [threads]; exact present) rfl rfl
  | getSharedKvStats =>
      exact sound.moveTo present (holds_congr rfl rfl) (stands_none rfl _) nofun

/-- A model leaves the table, under the lock of the manager and with no other thread at
work on it. -/
theorem Sound.clears (sound : manager.Sound) {old : ManagerPlace} (new : ManagerPlace)
    {slot : Nat} (present : manager.threads[thread]? = some old) (inside : old.holdsManager = true)
    (alone : ∀ other : Nat, manager.owner (.inference slot) = some other → other = thread)
    (same : ∀ lock, new.Holds lock ↔ old.Holds lock) (nothing : new.found = none)
    (count : UInt32) :
    ({ manager.setUsed slot false with modelCount := count }.moveTo thread new).Sound := by
  refine sound.stepped present _ rfl (sound.held.moved present same) (stands_none nothing _) ?_ ?_
    (fun _ _ _ _ free => free)
  · intro other place different there stands
    exact stands_modify slot _ (sound.foundApart present inside alone different there) stands
  · rintro number rfl
    cases nothing

theorem acquire_holds {old new : ManagerPlace} {slot : Nat}
    (manager : new.holdsManager = old.holdsManager) (without : old.heldModel = none)
    (taken : new.heldModel = some slot) (lock : ManagerLock) :
    new.Holds lock ↔ lock = .inference slot ∨ old.Holds lock := by
  cases lock with
  | manager =>
      change new.holdsManager = true ↔ _ ∨ old.holdsManager = true
      rw [manager]
      simp
  | inference other =>
      change new.heldModel = some other ↔ _ ∨ old.heldModel = some other
      rw [taken, without]
      simp [eq_comm]

theorem release_holds {old new : ManagerPlace} {slot : Nat}
    (manager : new.holdsManager = old.holdsManager) (taken : old.heldModel = some slot)
    (without : new.heldModel = none) (lock : ManagerLock) :
    new.Holds lock ↔ lock ≠ .inference slot ∧ old.Holds lock := by
  cases lock with
  | manager =>
      change new.holdsManager = true ↔ _ ∧ old.holdsManager = true
      rw [manager]
      simp
  | inference other =>
      change new.heldModel = some other ↔ _ ∧ old.heldModel = some other
      rw [taken, without]
      simp [eq_comm]

theorem release_manager_holds {old new : ManagerPlace} (inside : old.holdsManager = true)
    (outside : new.holdsManager = false) (model : new.heldModel = old.heldModel)
    (lock : ManagerLock) : new.Holds lock ↔ lock ≠ .manager ∧ old.Holds lock := by
  cases lock with
  | manager =>
      change new.holdsManager = true ↔ _ ∧ old.holdsManager = true
      rw [inside, outside]
      simp
  | inference other =>
      change new.heldModel = some other ↔ _ ∧ old.heldModel = some other
      rw [model]
      simp

theorem Sound.stepThread (sound : manager.Sound) {place : ManagerPlace}
    (present : manager.threads[thread]? = some place) :
    (manager.stepThread thread answer place).Sound := by
  have stands := sound.stands place (List.mem_of_getElem? present)
  cases place with
  | idle => exact sound
  | entering call =>
      refine sound.acquire present .manager ?_ (stands_none rfl _) nofun (.inl rfl)
      intro lock
      cases lock with
      | manager => exact ⟨fun _ => .inl rfl, fun _ => rfl⟩
      | inference slot =>
          constructor
          · rintro ⟨⟩
          · rintro (⟨⟨⟩⟩ | ⟨⟨⟩⟩)
  | searching call => exact sound.search present
  | locking slot modelId =>
      exact sound.acquire present (.inference slot) (acquire_holds rfl rfl rfl) stands nofun
        (.inr rfl)
  | handing slot modelId =>
      exact sound.release present .manager rfl (release_manager_holds rfl rfl rfl) stands nofun
  | working slot modelId =>
      cases more : answer.goesOn with
      | true =>
          simp only [LlmManager.stepThread, more, if_true]
          exact sound
      | false =>
          simp only [LlmManager.stepThread, more, Bool.false_eq_true, if_false]
          exact sound.release present (.inference slot) rfl (release_holds rfl rfl rfl)
            (stands_none rfl _) nofun
  | loading slot =>
      have unowned := sound.fresh slot (List.mem_of_getElem? present)
      cases loaded : answer.succeeds with
      | true =>
          simp only [LlmManager.stepThread, loaded, if_true]
          exact (sound.of_same { manager with modelCount := manager.modelCount + 1 } rfl rfl
            rfl).leaves present rfl rfl
      | false =>
          simp only [LlmManager.stepThread, loaded, Bool.false_eq_true, if_false]
          exact sound.clears .leaving present rfl
            (fun other owned => by cases unowned.symm.trans owned)
            (holds_congr rfl rfl) rfl manager.modelCount
  | unloading slot =>
      exact sound.acquire present (.inference slot) (acquire_holds rfl rfl rfl) stands nofun
        (.inr rfl)
  | freeing slot =>
      have mine := sound.held.owner_eq (.inference slot) present rfl
      exact sound.clears (.destroying slot) present rfl
        (fun other owned => Option.some.inj (owned.symm.trans mine)) (holds_congr rfl rfl) rfl _
  | destroying slot =>
      exact sound.release present (.inference slot) rfl (release_holds rfl rfl rfl)
        (stands_none rfl _) nofun
  | counting slot =>
      cases there : manager.models[slot]? with
      | none =>
          simp only [LlmManager.stepThread, there]
          exact sound.leaves present rfl rfl
      | some model =>
          cases used : model.used with
          | true =>
              simp only [LlmManager.stepThread, there, used, if_true]
              refine sound.moveTo present (holds_congr rfl rfl) ?_ nofun
              rintro other ⟨⟩
              exact ⟨model, there, used, nofun⟩
          | false =>
              simp only [LlmManager.stepThread, there, used, Bool.false_eq_true, if_false]
              exact sound.moveTo present (holds_congr rfl rfl) (stands_none rfl _) nofun
  | lockingCounted slot =>
      exact sound.acquire present (.inference slot) (acquire_holds rfl rfl rfl) stands nofun
        (.inr rfl)
  | readingCounted slot =>
      exact sound.release present (.inference slot) rfl (release_holds rfl rfl rfl)
        (stands_none rfl _) nofun
  | leaving =>
      exact sound.release present .manager rfl (release_manager_holds rfl rfl rfl)
        (stands_none rfl _) nofun

theorem Sound.step (sound : manager.Sound) (action : Action) : (manager.step action).Sound := by
  cases action with
  | call thread call =>
      by_cases outside : manager.threads[thread]? = some .idle
      · simp only [LlmManager.step, if_pos outside]
        exact sound.moveTo outside (holds_congr rfl rfl) (stands_none rfl _) nofun
      · simp only [LlmManager.step, if_neg outside]
        exact sound
  | advance thread answer =>
      cases present : manager.threads[thread]? with
      | none =>
          simp only [LlmManager.step, present]
          exact sound
      | some place =>
          simp only [LlmManager.step, present]
          exact sound.stepThread present

end Preservation

theorem sound_of_reachable (threadCount : Nat) (manager : LlmManager)
    (reached : (machine threadCount).Reachable manager) : manager.Sound := by
  have outside : ∀ place ∈ List.replicate threadCount ManagerPlace.idle, place = .idle :=
    fun place member => List.eq_of_mem_replicate member
  refine (machine threadCount).reachable_invariant Sound ?_
    (fun _ action sound => sound.step action) manager reached
  constructor
  · apply Held.initial
    intro place member lock
    rw [outside place member]
    exact holds_none rfl rfl lock
  · intro place member
    rw [outside place member]
    exact stands_none rfl _
  · intro slot member
    cases outside _ member

/-- A thread that works on a model is the only one that uses it, and the table still has
this model under the id that the thread has asked for. -/
theorem working_alone (threadCount : Nat) (manager : LlmManager)
    (reached : (machine threadCount).Reachable manager) (thread slot : Nat) (modelId : UInt64)
    (present : manager.threads[thread]? = some (.working slot modelId)) :
    (∃ model, manager.models[slot]? = some model ∧ model.used = true ∧ model.id = modelId) ∧
      ∀ (other : Nat) (place : ManagerPlace), manager.threads[other]? = some place →
        place.uses = some slot → other = thread := by
  have sound := sound_of_reachable threadCount manager reached
  obtain ⟨model, there, used, named⟩ :=
    sound.stands _ (List.mem_of_getElem? present) slot rfl
  refine ⟨⟨model, there, used, named modelId rfl⟩, ?_⟩
  intro other place at_ uses
  have mine := sound.held.owner_eq (.inference slot) present rfl
  cases place with
  | loading number =>
      cases uses
      cases (sound.fresh slot (List.mem_of_getElem? at_)).symm.trans mine
  | _ =>
      exact sound.held.exclusive (.inference slot) at_ uses present rfl

/-- One thread loads a model and works on it; a second one wants to unload it. -/
def workAndUnload : List Action :=
  [.call 0 .loadModel, .advance 0 {}, .advance 0 {}, .advance 0 {}, .advance 0 {},
   .call 0 (.useModel 1), .advance 0 {}, .advance 0 {}, .advance 0 {}, .advance 0 {},
   .call 1 (.unloadModel 1), .advance 1 {}, .advance 1 {}, .advance 1 {}]

theorem working_alone_unloading :
    ((machine 2).run workAndUnload).threads = [.working 0 1, .unloading 0] ∧
      ∀ (other : Nat) (place : ManagerPlace),
        ((machine 2).run workAndUnload).threads[other]? = some place →
          place.uses = some 0 → other = 0 :=
  ⟨by decide, (working_alone 2 _ ((machine 2).reachable_run workAndUnload) 0 0 1 (by decide)).2⟩

/-! ### Progress -/

section Progress

variable {manager : LlmManager} {thread : Nat}

theorem moves {place new : ManagerPlace} (present : manager.threads[thread]? = some place)
    (after : LlmManager) (moved : after.threads = manager.threads.set thread new)
    (different : new ≠ place) : after.threads[thread]? ≠ manager.threads[thread]? := by
  rw [moved, Held.getElem?_move present, if_pos rfl, present]
  intro same
  exact different (Option.some.inj same)

theorem acquire_moves {place new : ManagerPlace} {lock : ManagerLock}
    (present : manager.threads[thread]? = some place) (wanted : place.wants = some lock)
    (unblocked : ¬Blocked ManagerPlace.wants manager.owner place) (different : new ≠ place) :
    (manager.acquire thread lock new).threads[thread]? ≠ manager.threads[thread]? := by
  have free : manager.owner lock = none := by
    by_contra taken
    exact unblocked ⟨lock, wanted, taken⟩
  unfold LlmManager.acquire
  rw [if_pos free]
  exact moves present _ rfl different

theorem search_moves (call : ManagerCall)
    (present : manager.threads[thread]? = some (.searching call)) :
    (manager.search thread {} call).threads[thread]? ≠ manager.threads[thread]? := by
  cases call with
  | useModel modelId =>
      cases found : manager.findModel modelId with
      | none =>
          simp only [LlmManager.search, found]
          exact moves present _ rfl nofun
      | some slot =>
          simp only [LlmManager.search, found]
          exact moves present _ rfl nofun
  | loadModel =>
      cases found : manager.freeSlot with
      | none =>
          simp only [LlmManager.search, claimSlot, found]
          exact moves present _ rfl nofun
      | some slot =>
          simp only [LlmManager.search, claimSlot, found]
          exact moves present _ rfl nofun
  | unloadModel modelId =>
      cases found : manager.findModel modelId with
      | none =>
          simp only [LlmManager.search, found]
          exact moves present _ rfl nofun
      | some slot =>
          simp only [LlmManager.search, found]
          exact moves present _ rfl nofun
  | createSession modelId =>
      obtain ⟨_, _, threads⟩ := createSession_same manager modelId
      exact moves present _ (congrArg (fun list => list.set thread .leaving) threads) nofun
  | destroySession sessionId =>
      obtain ⟨_, _, threads⟩ := destroySession_same manager sessionId
      exact moves present _ (congrArg (fun list => list.set thread .leaving) threads) nofun
  | getSharedKvStats => exact moves present _ rfl nofun

/-- A thread that is inside a call and not blocked can go on. -/
theorem stepThread_moves {place : ManagerPlace}
    (present : manager.threads[thread]? = some place) (inside : place ≠ .idle)
    (unblocked : ¬Blocked ManagerPlace.wants manager.owner place) :
    (manager.stepThread thread {} place).threads[thread]? ≠ manager.threads[thread]? := by
  cases place with
  | idle => exact absurd rfl inside
  | entering call => exact acquire_moves present rfl unblocked nofun
  | searching call => exact search_moves call present
  | locking slot modelId => exact acquire_moves present rfl unblocked nofun
  | unloading slot => exact acquire_moves present rfl unblocked nofun
  | lockingCounted slot => exact acquire_moves present rfl unblocked nofun
  | counting slot =>
      cases there : manager.models[slot]? with
      | none =>
          simp only [stepThread, there]
          exact moves present _ rfl nofun
      | some model =>
          cases used : model.used with
          | true =>
              simp only [stepThread, there, used, if_true]
              exact moves present _ rfl nofun
          | false =>
              simp only [stepThread, there, used, Bool.false_eq_true, if_false]
              refine moves present _ rfl ?_
              intro same
              injection same with same
              omega
  | handing slot modelId => exact moves present _ rfl nofun
  | working slot modelId => exact moves present _ rfl nofun
  | loading slot => exact moves present _ rfl nofun
  | freeing slot => exact moves present _ rfl nofun
  | destroying slot => exact moves present _ rfl nofun
  | readingCounted slot => exact moves present _ rfl nofun
  | leaving => exact moves present _ rfl nofun

/-- The lock of a model is asked for after that of the manager, never before. -/
theorem wants_above (place : ManagerPlace) (lock : ManagerLock) (wanted : place.wants = some lock)
    (other : ManagerLock) (holding : place.Holds other) : other.rank < lock.rank := by
  cases other with
  | manager =>
      cases place with
      | entering call => cases holding
      | locking _ _ => cases wanted; exact Nat.zero_lt_one
      | unloading _ => cases wanted; exact Nat.zero_lt_one
      | lockingCounted _ => cases wanted; exact Nat.zero_lt_one
      | _ => cases wanted
  | inference slot =>
      cases place with
      | entering call => cases holding
      | locking _ _ => cases holding
      | unloading _ => cases holding
      | lockingCounted _ => cases holding
      | _ => cases wanted

end Progress

theorem rank_le_one (lock : ManagerLock) : lock.rank ≤ 1 := by
  cases lock with
  | manager => exact Nat.zero_le 1
  | inference slot => exact Nat.le_refl 1

/-- The calls never wait for each other in a circle: a thread inside a call can go on, or
the locks that it waits for lead to a thread that can. -/
theorem call_goes_on (threadCount : Nat) (manager : LlmManager)
    (reached : (machine threadCount).Reachable manager) (thread : Nat) (place : ManagerPlace)
    (present : manager.threads[thread]? = some place) (inside : place ≠ .idle) :
    ∃ other : Nat,
      Relation.ReflTransGen (WaitsFor ManagerPlace.wants manager.owner manager.threads)
        thread other ∧
      (manager.step (.advance other {})).threads[other]? ≠ manager.threads[other]? := by
  have sound := sound_of_reachable threadCount manager reached
  have goes : ∀ (other : Nat) (at_ : ManagerPlace), manager.threads[other]? = some at_ →
      at_ ≠ .idle → ¬Blocked ManagerPlace.wants manager.owner at_ →
        (manager.step (.advance other {})).threads[other]? ≠ manager.threads[other]? := by
    intro other at_ there inside unblocked
    simp only [LlmManager.step, there]
    rw [← there]
    exact stepThread_moves there inside unblocked
  by_cases blocked : Blocked ManagerPlace.wants manager.owner place
  · obtain ⟨other, place', chain, there, ⟨lock, holding⟩, unblocked⟩ :=
      sound.held.exists_unblocked ManagerPlace.wants ManagerLock.rank 1
        rank_le_one
        (fun place _ lock wanted other holding => wants_above place lock wanted other holding)
        thread place present blocked
    refine ⟨other, chain.to_reflTransGen, goes other place' there ?_ unblocked⟩
    rintro rfl
    exact holds_none rfl rfl lock holding
  · exact ⟨thread, .refl, goes thread place present inside blocked⟩

theorem call_goes_on_unloading :
    ∃ other : Nat,
      Relation.ReflTransGen (WaitsFor ManagerPlace.wants
        ((machine 2).run workAndUnload).owner ((machine 2).run workAndUnload).threads) 1 other ∧
        (((machine 2).run workAndUnload).step (.advance other {})).threads[other]? ≠
          ((machine 2).run workAndUnload).threads[other]? :=
  call_goes_on 2 _ ((machine 2).reachable_run workAndUnload) 1 (.unloading 0) (by decide)
    (by decide)

/-! ### Counters and ids -/

def isLoading : ManagerPlace → Bool
  | .loading _ => true
  | _ => false

/-- The counters of the table, after at most `claims` ids of each kind. -/
structure Counted (claims : Nat) (manager : LlmManager) : Prop where
  models : manager.modelCount.toNat + manager.threads.countP isLoading =
    manager.models.countP ModelSlot.used
  sessions : manager.sessionCount.toNat = manager.sessions.countP LlmSession.used
  modelSlots : manager.models.length = kMaxModels
  sessionSlots : manager.sessions.length = kMaxSessions
  nextModelId : manager.nextModelId.toNat ≤ claims + 1
  nextSessionId : manager.nextSessionId.toNat ≤ claims + 1
  modelIds : Numbered ModelSlot.used ModelSlot.id manager.models manager.nextModelId
  sessionIds : Numbered LlmSession.used LlmSession.id manager.sessions manager.nextSessionId

section Counting

variable {manager : LlmManager} {thread claims : Nat} {old : ManagerPlace}

theorem countP_loading {new : ManagerPlace} (present : manager.threads[thread]? = some old)
    (same : isLoading new = isLoading old) :
    (manager.threads.set thread new).countP isLoading = manager.threads.countP isLoading := by
  have count := countP_set_place isLoading manager.threads thread old new present
  rw [same] at count
  omega

/-- The thread moves, and the table stays as it is. -/
theorem Counted.moved (counted : manager.Counted claims) (after : LlmManager) (new : ManagerPlace)
    (present : manager.threads[thread]? = some old) (same : isLoading new = isLoading old)
    (threads : after.threads = manager.threads.set thread new)
    (table : after.models = manager.models ∧ after.sessions = manager.sessions ∧
      after.modelCount = manager.modelCount ∧ after.sessionCount = manager.sessionCount ∧
      after.nextModelId = manager.nextModelId ∧
      after.nextSessionId = manager.nextSessionId) : after.Counted claims := by
  obtain ⟨models, sessions, modelCount, sessionCount, nextModelId, nextSessionId⟩ := table
  constructor
  · rw [modelCount, models, threads, countP_loading present same]
    exact counted.models
  · rw [sessionCount, sessions]
    exact counted.sessions
  · rw [models]
    exact counted.modelSlots
  · rw [sessions]
    exact counted.sessionSlots
  · rw [nextModelId]
    exact counted.nextModelId
  · rw [nextSessionId]
    exact counted.nextSessionId
  · rw [models, nextModelId]
    exact counted.modelIds
  · rw [sessions, nextSessionId]
    exact counted.sessionIds

theorem Counted.moveTo (counted : manager.Counted claims) (new : ManagerPlace)
    (present : manager.threads[thread]? = some old) (same : isLoading new = isLoading old) :
    (manager.moveTo thread new).Counted claims :=
  counted.moved _ new present same rfl ⟨rfl, rfl, rfl, rfl, rfl, rfl⟩

theorem Counted.release (counted : manager.Counted claims) (lock : ManagerLock)
    (new : ManagerPlace)
    (present : manager.threads[thread]? = some old) (same : isLoading new = isLoading old) :
    (manager.release thread lock new).Counted claims :=
  counted.moved _ new present same rfl ⟨rfl, rfl, rfl, rfl, rfl, rfl⟩

theorem Counted.acquire (counted : manager.Counted claims) (lock : ManagerLock)
    (new : ManagerPlace)
    (present : manager.threads[thread]? = some old) (same : isLoading new = isLoading old) :
    (manager.acquire thread lock new).Counted claims := by
  unfold LlmManager.acquire
  split
  · exact counted.moved _ new present same rfl ⟨rfl, rfl, rfl, rfl, rfl, rfl⟩
  · exact counted

theorem Counted.later (counted : manager.Counted claims) : manager.Counted (claims + 1) :=
  { counted with
    nextModelId := Nat.le_succ_of_le counted.nextModelId
    nextSessionId := Nat.le_succ_of_le counted.nextSessionId }

theorem Counted.claimSlot (counted : manager.Counted claims) (room : claims + 2 < 2 ^ 64)
    (present : manager.threads[thread]? = some (.searching .loadModel)) :
    (manager.claimSlot thread).Counted (claims + 1) := by
  unfold LlmManager.claimSlot
  cases found : manager.freeSlot with
  | none =>
      have leaves : (manager.moveTo thread .leaving).Counted claims :=
        counted.moveTo .leaving present rfl
      exact leaves.later
  | some slot =>
      obtain ⟨model, there, unused⟩ := freeSlot_spec found
      have next := counted.nextModelId
      have loads := countP_set_place isLoading manager.threads thread _
        (ManagerPlace.loading slot) present
      have more : (manager.models.set slot { id := manager.nextModelId, used := true }).countP
          ModelSlot.used = manager.models.countP ModelSlot.used + 1 :=
        countP_set_unused there unused rfl
      have before := counted.models
      constructor
      · change manager.modelCount.toNat + (manager.threads.set thread (.loading slot)).countP _ =
          (manager.models.set slot _).countP _
        rw [more]
        change _ + 0 = _ + 1 at loads
        omega
      · exact counted.sessions
      · exact List.length_set.trans counted.modelSlots
      · exact counted.sessionSlots
      · change (manager.nextModelId + 1).toNat ≤ _
        rw [UInt64.toNat_add]
        change (_ + 1) % 2 ^ 64 ≤ _
        rw [Nat.mod_eq_of_lt (by omega)]
        omega
      · exact Nat.le_succ_of_le counted.nextSessionId
      · exact counted.modelIds.claim slot _ rfl (by omega)
      · exact counted.sessionIds

theorem Counted.createSession (counted : manager.Counted claims) (room : claims + 2 < 2 ^ 64)
    (modelId : UInt64) : (manager.createSession modelId).Counted (claims + 1) := by
  unfold LlmManager.createSession
  split
  · next slot index model found =>
      obtain ⟨inside, unused, _⟩ := List.findIdx?_eq_some_iff_getElem.mp found
      have there := List.getElem?_eq_getElem inside
      have free : manager.sessions[index].used = false := by simpa using unused
      have next := counted.nextSessionId
      have before := counted.sessions
      have more : (manager.sessions.set index
          { id := manager.nextSessionId, modelId := modelId, used := true }).countP
            LlmSession.used = manager.sessions.countP LlmSession.used + 1 :=
        countP_set_unused there free rfl
      have bound := List.countP_le_length (p := LlmSession.used) (l := manager.sessions.set index
        { id := manager.nextSessionId, modelId := modelId, used := true })
      rw [more, List.length_set, counted.sessionSlots] at bound
      constructor
      · exact counted.models
      · change (manager.sessionCount + 1).toNat = (manager.sessions.set index _).countP _
        rw [more, UInt32.toNat_add]
        change (_ + 1) % 2 ^ 32 = _
        unfold kMaxSessions at bound
        rw [Nat.mod_eq_of_lt (by omega)]
        omega
      · exact counted.modelSlots
      · exact List.length_set.trans counted.sessionSlots
      · exact Nat.le_succ_of_le counted.nextModelId
      · change (manager.nextSessionId + 1).toNat ≤ _
        rw [UInt64.toNat_add]
        change (_ + 1) % 2 ^ 64 ≤ _
        rw [Nat.mod_eq_of_lt (by omega)]
        omega
      · exact counted.modelIds
      · exact counted.sessionIds.claim index _ rfl (by omega)
  · exact counted.later

theorem Counted.destroySession (counted : manager.Counted claims) (sessionId : UInt64) :
    (manager.destroySession sessionId).Counted claims := by
  unfold LlmManager.destroySession
  split
  · exact counted
  · next index found =>
      obtain ⟨inside, matching, _⟩ := List.findIdx?_eq_some_iff_getElem.mp found
      rw [Bool.and_eq_true] at matching
      have there := List.getElem?_eq_getElem inside
      have fewer := countP_modify_used (fun session => { session with used := false }) there
        matching.1 rfl
      have before := counted.sessions
      constructor
      · exact counted.models
      · change (manager.sessionCount - 1).toNat = (manager.sessions.modify index _).countP _
        have one : (1 : UInt32) ≤ manager.sessionCount :=
          UInt32.le_iff_toNat_le.mpr (by change 1 ≤ _; omega)
        rw [UInt32.toNat_sub_of_le _ _ one]
        change manager.sessionCount.toNat - 1 = _
        omega
      · exact counted.modelSlots
      · exact (List.length_modify ..).trans counted.sessionSlots
      · exact counted.nextModelId
      · exact counted.nextSessionId
      · exact counted.modelIds
      · exact counted.sessionIds.change index _ nofun

/-- A model leaves the table: a load that has failed, or an unload. -/
theorem Counted.clears (counted : manager.Counted claims) (new : ManagerPlace) {slot : Nat}
    {model : ModelSlot} (present : manager.threads[thread]? = some old)
    (there : manager.models[slot]? = some model) (used : model.used = true) (count : UInt32)
    (arrives : isLoading new = false)
    (exactly : count.toNat + 1 = manager.modelCount.toNat + (isLoading old).toNat) :
    ({ manager.setUsed slot false with modelCount := count }.moveTo thread new).Counted
      claims := by
  have loads := countP_set_place isLoading manager.threads thread old new present
  have fewer := countP_modify_used (fun model => { model with used := false }) there used rfl
  have before := counted.models
  rw [arrives, Bool.toNat_false] at loads
  constructor
  · change count.toNat + (manager.threads.set thread new).countP isLoading =
      (manager.models.modify slot _).countP _
    omega
  · exact counted.sessions
  · exact (List.length_modify ..).trans counted.modelSlots
  · exact counted.sessionSlots
  · exact counted.nextModelId
  · exact counted.nextSessionId
  · exact counted.modelIds.change slot _ nofun
  · exact counted.sessionIds

theorem Counted.search (counted : manager.Counted claims) (room : claims + 2 < 2 ^ 64)
    (answer : ManagerAnswer) {call : ManagerCall}
    (present : manager.threads[thread]? = some (.searching call)) :
    (manager.search thread answer call).Counted (claims + 1) := by
  have leaves : (manager.moveTo thread .leaving).Counted claims :=
    counted.moveTo .leaving present rfl
  cases call with
  | useModel modelId =>
      cases found : manager.findModel modelId with
      | none =>
          simp only [LlmManager.search, found]
          exact leaves.later
      | some slot =>
          have moved : (manager.moveTo thread
              (if answer.succeeds then .locking slot modelId else .leaving)).Counted claims := by
            apply counted.moveTo _ present
            split <;> rfl
          simp only [LlmManager.search, found]
          exact moved.later
  | loadModel => exact counted.claimSlot room present
  | unloadModel modelId =>
      cases found : manager.findModel modelId with
      | none =>
          simp only [LlmManager.search, found]
          exact leaves.later
      | some slot =>
          have moved : (manager.moveTo thread (.unloading slot)).Counted claims :=
            counted.moveTo _ present rfl
          simp only [LlmManager.search, found]
          exact moved.later
  | createSession modelId =>
      obtain ⟨_, _, threads⟩ := createSession_same manager modelId
      have there := present
      rw [← threads] at there
      exact (counted.createSession room modelId).moveTo .leaving there rfl
  | destroySession sessionId =>
      obtain ⟨_, _, threads⟩ := destroySession_same manager sessionId
      have there := present
      rw [← threads] at there
      exact ((counted.destroySession sessionId).moveTo .leaving there rfl).later
  | getSharedKvStats =>
      have moved : (manager.moveTo thread (.counting 0)).Counted claims :=
        counted.moveTo _ present rfl
      exact moved.later

/-- Whoever unloads a model has the lock of the manager, so that nobody loads one. -/
theorem Sound.nobodyLoads (sound : manager.Sound) (present : manager.threads[thread]? = some old)
    (inside : old.holdsManager = true) (unloads : isLoading old = false) :
    manager.threads.countP isLoading = 0 := by
  rw [List.countP_eq_zero]
  intro place member loads
  obtain ⟨other, there⟩ := List.mem_iff_getElem?.mp member
  have holds : place.holdsManager = true := by
    cases place with
    | loading slot => rfl
    | _ => cases loads
  have same := sound.held.exclusive .manager there holds present inside
  rw [same, present] at there
  cases there
  cases unloads.symm.trans loads

theorem Counted.stepThread (counted : manager.Counted claims) (sound : manager.Sound)
    (room : claims + 2 < 2 ^ 64) (answer : ManagerAnswer) {place : ManagerPlace}
    (present : manager.threads[thread]? = some place) :
    (manager.stepThread thread answer place).Counted (claims + 1) := by
  have stands := sound.stands place (List.mem_of_getElem? present)
  cases place with
  | idle => exact counted.later
  | entering call => exact (counted.acquire .manager (.searching call) present rfl).later
  | searching call => exact counted.search room answer present
  | locking slot modelId =>
      exact (counted.acquire (.inference slot) (.handing slot modelId) present rfl).later
  | handing slot modelId =>
      exact (counted.release .manager (.working slot modelId) present rfl).later
  | working slot modelId =>
      cases more : answer.goesOn with
      | true =>
          simp only [LlmManager.stepThread, more, if_true]
          exact counted.later
      | false =>
          simp only [LlmManager.stepThread, more, Bool.false_eq_true, if_false]
          exact (counted.release (.inference slot) .idle present rfl).later
  | loading slot =>
      obtain ⟨model, there, used, _⟩ := stands slot rfl
      have loads := countP_set_place isLoading manager.threads thread _ ManagerPlace.leaving
        present
      have before := counted.models
      have bound := List.countP_le_length (p := ModelSlot.used) (l := manager.models)
      rw [counted.modelSlots] at bound
      cases loaded : answer.succeeds with
      | true =>
          simp only [LlmManager.stepThread, loaded, if_true]
          refine Counted.later { counted with models := ?_ }
          change (manager.modelCount + 1).toNat +
            (manager.threads.set thread .leaving).countP isLoading = manager.models.countP _
          change _ + 1 = _ + 0 at loads
          unfold kMaxModels at bound
          rw [UInt32.toNat_add]
          change (_ + 1) % 2 ^ 32 + _ = _
          rw [Nat.mod_eq_of_lt (by omega)]
          omega
      | false =>
          simp only [LlmManager.stepThread, loaded, Bool.false_eq_true, if_false]
          exact (counted.clears .leaving present there used manager.modelCount rfl rfl).later
  | unloading slot =>
      exact (counted.acquire (.inference slot) (.freeing slot) present rfl).later
  | freeing slot =>
      obtain ⟨model, there, used, _⟩ := stands slot rfl
      have nobody := sound.nobodyLoads present rfl rfl
      have before := counted.models
      have some_ : 0 < manager.models.countP ModelSlot.used :=
        List.countP_pos_iff.mpr ⟨model, List.mem_of_getElem? there, used⟩
      have one : (1 : UInt32) ≤ manager.modelCount :=
        UInt32.le_iff_toNat_le.mpr (by change 1 ≤ _; omega)
      refine (counted.clears (.destroying slot) present there used (manager.modelCount - 1) rfl
        ?_).later
      rw [UInt32.toNat_sub_of_le _ _ one]
      change manager.modelCount.toNat - 1 + 1 = manager.modelCount.toNat + 0
      omega
  | destroying slot => exact (counted.release (.inference slot) .leaving present rfl).later
  | counting slot =>
      have moved : ∀ new, isLoading new = false → (manager.moveTo thread new).Counted claims :=
        fun new other => counted.moveTo new present other
      cases there : manager.models[slot]? with
      | none =>
          simp only [LlmManager.stepThread, there]
          exact (moved _ rfl).later
      | some model =>
          simp only [LlmManager.stepThread, there]
          exact (moved _ (by split <;> rfl)).later
  | lockingCounted slot =>
      exact (counted.acquire (.inference slot) (.readingCounted slot) present rfl).later
  | readingCounted slot =>
      exact (counted.release (.inference slot) (.counting (slot + 1)) present rfl).later
  | leaving => exact (counted.release .manager .idle present rfl).later

theorem Counted.step (counted : manager.Counted claims) (sound : manager.Sound)
    (room : claims + 2 < 2 ^ 64) (action : Action) :
    (manager.step action).Counted (claims + 1) := by
  cases action with
  | call thread call =>
      by_cases outside : manager.threads[thread]? = some .idle
      · have moved : (manager.moveTo thread (.entering call)).Counted claims :=
          counted.moveTo _ outside rfl
        simp only [LlmManager.step, if_pos outside]
        exact moved.later
      · simp only [LlmManager.step, if_neg outside]
        exact counted.later
  | advance thread answer =>
      cases present : manager.threads[thread]? with
      | none =>
          simp only [LlmManager.step, present]
          exact counted.later
      | some place =>
          simp only [LlmManager.step, present]
          exact counted.stepThread sound room answer present

theorem Counted.runFrom (threadCount : Nat) (actions : List Action)
    (counted : manager.Counted claims) (sound : manager.Sound)
    (room : claims + actions.length + 1 < 2 ^ 64) :
    ((machine threadCount).runFrom manager actions).Counted (claims + actions.length) := by
  induction actions generalizing manager claims with
  | nil => exact counted
  | cons action rest ih =>
      rw [List.length_cons] at room
      have next := ih (counted.step sound (by omega) action) (sound.step action) (by omega)
      rw [List.length_cons, Nat.add_comm rest.length 1, ← Nat.add_assoc]
      exact next

end Counting

theorem counted_initial (threadCount : Nat) : (machine threadCount).initial.Counted 0 := by
  have noModels : ∀ model ∈ List.replicate kMaxModels ({} : ModelSlot), model.used = false := by
    intro model member
    rw [List.eq_of_mem_replicate member]
  have noSessions : ∀ session ∈ List.replicate kMaxSessions ({} : LlmSession),
      session.used = false := by
    intro session member
    rw [List.eq_of_mem_replicate member]
  have nobody : (List.replicate threadCount ManagerPlace.idle).countP isLoading = 0 := by
    rw [List.countP_replicate]
    rfl
  constructor
  · change 0 + (List.replicate threadCount ManagerPlace.idle).countP isLoading = _
    rw [nobody]
    rfl
  · rfl
  · rfl
  · rfl
  · exact Nat.le_refl 1
  · exact Nat.le_refl 1
  · exact Numbered.unused _ noModels
  · exact Numbered.unused _ noSessions

/-- After any run of fewer than 2⁶⁴ steps: the counters are those of the models and the
sessions in use, apart from a model that is being loaded, and no two models and no two
sessions in use have one id; so calls that work on models of one id are one call. -/
theorem manager_counts (threadCount : Nat) (actions : List Action)
    (room : actions.length + 1 < 2 ^ 64) :
    let manager := (machine threadCount).run actions
    (manager.modelCount.toNat + manager.threads.countP isLoading =
        manager.models.countP ModelSlot.used) ∧
      manager.sessionCount.toNat = manager.sessions.countP LlmSession.used ∧
      Numbered ModelSlot.used ModelSlot.id manager.models manager.nextModelId ∧
      Numbered LlmSession.used LlmSession.id manager.sessions manager.nextSessionId ∧
      ∀ (thread other slot slot' : Nat) (modelId : UInt64),
        manager.threads[thread]? = some (.working slot modelId) →
          manager.threads[other]? = some (.working slot' modelId) → thread = other := by
  have sound := sound_of_reachable threadCount _ ((machine threadCount).reachable_run actions)
  have counted := Counted.runFrom threadCount actions (counted_initial threadCount)
    (sound_of_reachable threadCount _ ⟨[], rfl⟩) (by omega)
  refine ⟨counted.models, counted.sessions, counted.modelIds, counted.sessionIds, ?_⟩
  intro thread other slot slot' modelId present present'
  obtain ⟨model, there, used, named⟩ := sound.stands _ (List.mem_of_getElem? present) slot rfl
  obtain ⟨model', there', used', named'⟩ :=
    sound.stands _ (List.mem_of_getElem? present') slot' rfl
  have same := counted.modelIds.distinct slot slot' model model' there there' used used'
    ((named modelId rfl).trans (named' modelId rfl).symm)
  rw [← same] at present'
  exact sound.held.exclusive (.inference slot) present rfl present' rfl

theorem manager_counts_unloading :
    Numbered ModelSlot.used ModelSlot.id ((machine 2).run workAndUnload).models 2 :=
  (manager_counts 2 workAndUnload (by decide)).2.2.1

end LlmManager

end AgentNucleus.Top

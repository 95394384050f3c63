/-
The table of models and sessions of llm_llamacpp.c, used by several threads at once.
Every call takes the lock of the manager first.  A call on a model then takes the lock of
the model and gives the first one back before it works; `llm_unload_model` and
`llm_get_shared_kv_stats` keep both.  A step is one access under a lock, or a system call.

What a call does to a model while it has its lock is in `LlamaModel` and
`SimulatedModel`.
-/

import Mathlib.Data.List.Count
import AgentNucleus.Library.Locks
import AgentNucleus.Library.Machine

set_option autoImplicit false

namespace AgentNucleus.Top

open AgentNucleus.Library

/-- `MAX_MODELS` -/
def kMaxModels : Nat := 4

/-- `MAX_SESSIONS` -/
def kMaxSessions : Nat := 64

/-- `g_llm_manager.lock`, and the `inference_lock` of each model. -/
inductive ManagerLock where
  | manager
  | inference (slot : Nat)
deriving DecidableEq, Repr

structure ModelSlot where
  id : UInt64 := 0
  used : Bool := false
deriving DecidableEq, Repr

structure LlmSession where
  id : UInt64 := 0
  modelId : UInt64 := 0
  used : Bool := false
deriving DecidableEq, Repr

inductive ManagerCall where
  /-- `llm_inference`, `llm_apply_chat_template`, `llm_warmup_shared_kv_with_cancel`,
  `llm_clear_seq`, `llm_checkpoint_seq`, `llm_restore_seq`, `llm_get_model_info` and
  `llm_get_stats` take and give back the locks in the same way. -/
  | useModel (modelId : UInt64)
  | loadModel
  | unloadModel (modelId : UInt64)
  | createSession (modelId : UInt64)
  | destroySession (sessionId : UInt64)
  | getSharedKvStats
deriving DecidableEq, Repr

/-- A thread, by what it does next. -/
inductive ManagerPlace where
  | idle
  /-- `pthread_mutex_lock(&g_llm_manager.lock)`. -/
  | entering (call : ManagerCall)
  /-- The search under the lock of the manager. -/
  | searching (call : ManagerCall)
  /-- `pthread_mutex_lock(&model->inference_lock)` of a call on a model. -/
  | locking (slot : Nat) (modelId : UInt64)
  /-- `pthread_mutex_unlock(&g_llm_manager.lock)` of a call on a model. -/
  | handing (slot : Nat) (modelId : UInt64)
  | working (slot : Nat) (modelId : UInt64)
  /-- The rest of `llm_load_model`, after the choice of a slot. -/
  | loading (slot : Nat)
  /-- `pthread_mutex_lock(&model->inference_lock)` of `llm_unload_model`. -/
  | unloading (slot : Nat)
  | freeing (slot : Nat)
  /-- `pthread_mutex_unlock` and `pthread_mutex_destroy` of `llm_unload_model`. -/
  | destroying (slot : Nat)
  /-- The loop of `llm_get_shared_kv_stats`. -/
  | counting (slot : Nat)
  | lockingCounted (slot : Nat)
  | readingCounted (slot : Nat)
  /-- `pthread_mutex_unlock(&g_llm_manager.lock)`. -/
  | leaving
deriving DecidableEq, Repr

/-- What the environment answers; each place reads what it asks for. -/
structure ManagerAnswer where
  /-- The request passes the checks; the model was loaded. -/
  succeeds : Bool := true
  /-- The call has not yet done with the model. -/
  goesOn : Bool := false
deriving DecidableEq, Repr

structure LlmManager where
  models : List ModelSlot := List.replicate kMaxModels {}
  sessions : List LlmSession := List.replicate kMaxSessions {}
  modelCount : UInt32 := 0
  sessionCount : UInt32 := 0
  nextModelId : UInt64 := 1
  nextSessionId : UInt64 := 1
  owner : ManagerLock → Option Nat := fun _ => none
  threads : List ManagerPlace

namespace LlmManager

variable (manager : LlmManager)

def findModel (modelId : UInt64) : Option Nat :=
  manager.models.findIdx? fun model => model.used && model.id == modelId

def freeSlot : Option Nat :=
  manager.models.findIdx? fun model => !model.used

def moveTo (thread : Nat) (place : ManagerPlace) : LlmManager :=
  { manager with threads := manager.threads.set thread place }

/-- `pthread_mutex_lock`: a thread waits where it is as long as somebody owns the lock. -/
def acquire (thread : Nat) (lock : ManagerLock) (next : ManagerPlace) : LlmManager :=
  if manager.owner lock = none then
    { manager with owner := Function.update manager.owner lock (some thread) }.moveTo thread next
  else manager

def release (thread : Nat) (lock : ManagerLock) (next : ManagerPlace) : LlmManager :=
  { manager with owner := Function.update manager.owner lock none }.moveTo thread next

def setUsed (slot : Nat) (used : Bool) : LlmManager :=
  { manager with
    models := manager.models.modify slot fun model => { model with used := used } }

/-- The first part of `llm_load_model`; the lock of the model is among what is set to
zero. -/
def claimSlot (thread : Nat) : LlmManager :=
  match manager.freeSlot with
  | none => manager.moveTo thread .leaving
  | some slot =>
      { manager with
        models := manager.models.set slot { id := manager.nextModelId, used := true }
        nextModelId := manager.nextModelId + 1
        owner := Function.update manager.owner (.inference slot) none }.moveTo thread
          (.loading slot)

def createSession (modelId : UInt64) : LlmManager :=
  match manager.findModel modelId, manager.sessions.findIdx? fun session => !session.used with
  | some _, some index =>
      { manager with
        sessions := manager.sessions.set index
          { id := manager.nextSessionId, modelId := modelId, used := true }
        nextSessionId := manager.nextSessionId + 1
        sessionCount := manager.sessionCount + 1 }
  | _, _ => manager

def destroySession (sessionId : UInt64) : LlmManager :=
  match manager.sessions.findIdx? fun session => session.used && session.id == sessionId with
  | none => manager
  | some index =>
      { manager with
        sessions := manager.sessions.modify index fun session => { session with used := false }
        sessionCount := manager.sessionCount - 1 }

def search (thread : Nat) (answer : ManagerAnswer) : ManagerCall → LlmManager
  | .useModel modelId =>
      match manager.findModel modelId with
      | none => manager.moveTo thread .leaving
      | some slot =>
          manager.moveTo thread (if answer.succeeds then .locking slot modelId else .leaving)
  | .loadModel => manager.claimSlot thread
  | .unloadModel modelId =>
      match manager.findModel modelId with
      | none => manager.moveTo thread .leaving
      | some slot => manager.moveTo thread (.unloading slot)
  | .createSession modelId => (manager.createSession modelId).moveTo thread .leaving
  | .destroySession sessionId => (manager.destroySession sessionId).moveTo thread .leaving
  | .getSharedKvStats => manager.moveTo thread (.counting 0)

def stepThread (thread : Nat) (answer : ManagerAnswer) : ManagerPlace → LlmManager
  | .idle => manager
  | .entering call => manager.acquire thread .manager (.searching call)
  | .searching call => manager.search thread answer call
  | .locking slot modelId => manager.acquire thread (.inference slot) (.handing slot modelId)
  | .handing slot modelId => manager.release thread .manager (.working slot modelId)
  | .working slot _ =>
      if answer.goesOn then manager else manager.release thread (.inference slot) .idle
  | .loading slot =>
      if answer.succeeds then
        { manager with modelCount := manager.modelCount + 1 }.moveTo thread .leaving
      else (manager.setUsed slot false).moveTo thread .leaving
  | .unloading slot => manager.acquire thread (.inference slot) (.freeing slot)
  | .freeing slot =>
      { manager.setUsed slot false with modelCount := manager.modelCount - 1 }.moveTo thread
        (.destroying slot)
  | .destroying slot => manager.release thread (.inference slot) .leaving
  | .counting slot =>
      match manager.models[slot]? with
      | none => manager.moveTo thread .leaving
      | some model =>
          manager.moveTo thread (if model.used then .lockingCounted slot else .counting (slot + 1))
  | .lockingCounted slot => manager.acquire thread (.inference slot) (.readingCounted slot)
  | .readingCounted slot => manager.release thread (.inference slot) (.counting (slot + 1))
  | .leaving => manager.release thread .manager .idle

inductive Action where
  | call (thread : Nat) (call : ManagerCall)
  | advance (thread : Nat) (answer : ManagerAnswer)
deriving DecidableEq, Repr

def step : Action → LlmManager
  | .call thread call =>
      if manager.threads[thread]? = some .idle then manager.moveTo thread (.entering call)
      else manager
  | .advance thread answer =>
      match manager.threads[thread]? with
      | none => manager
      | some place => manager.stepThread thread answer place

/-- Runs of so many threads after `llm_manager_init`. -/
def machine (threadCount : Nat) : Machine LlmManager Action where
  initial := { threads := List.replicate threadCount .idle }
  step := step

end LlmManager

/-! ### Places -/

namespace ManagerPlace

def holdsManager : ManagerPlace → Bool
  | .idle | .entering _ | .working _ _ => false
  | _ => true

/-- The model whose lock the thread holds. -/
def heldModel : ManagerPlace → Option Nat
  | .handing slot _ | .working slot _ | .freeing slot | .destroying slot
  | .readingCounted slot => some slot
  | _ => none

def Holds (place : ManagerPlace) : ManagerLock → Prop
  | .manager => place.holdsManager = true
  | .inference slot => place.heldModel = some slot

def wants : ManagerPlace → Option ManagerLock
  | .entering _ => some .manager
  | .locking slot _ | .unloading slot | .lockingCounted slot => some (.inference slot)
  | _ => none

/-- The model that the thread has found in the table. -/
def found : ManagerPlace → Option Nat
  | .locking slot _ | .handing slot _ | .working slot _ | .loading slot | .unloading slot
  | .freeing slot | .lockingCounted slot | .readingCounted slot => some slot
  | _ => none

def foundId : ManagerPlace → Option UInt64
  | .locking _ modelId | .handing _ modelId | .working _ modelId => some modelId
  | _ => none

/-- The next step uses the model: its fields, its lock or its place in the table. -/
def uses : ManagerPlace → Option Nat
  | .loading slot => some slot
  | place => place.heldModel

/-- The model that the thread has found is there, under the id by which it was found. -/
def Stands (place : ManagerPlace) (models : List ModelSlot) : Prop :=
  ∀ slot, place.found = some slot →
    ∃ model, models[slot]? = some model ∧ model.used = true ∧
      ∀ modelId, place.foundId = some modelId → model.id = modelId

end ManagerPlace

def ManagerLock.rank : ManagerLock → Nat
  | .manager => 0
  | .inference _ => 1

end AgentNucleus.Top

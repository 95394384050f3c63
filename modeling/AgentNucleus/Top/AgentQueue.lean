/-
The ready queue of scheduler.c: a ring of agent ids under one lock.  The global
`g_scheduler` is the structure `AgentQueue`, after `scheduler_init`.  The configuration
and the statistics are left out, since no call below reads them.
-/

import AgentNucleus.Library.Machine
import AgentNucleus.Library.Rings

set_option autoImplicit false

namespace AgentNucleus.Top

open AgentNucleus.Library

structure AgentQueue where
  queue : List UInt64
  queueSize : UInt32
  head : UInt32
  tail : UInt32
  count : UInt32
  running : Bool

/-- `scheduler_init`; it refuses a capacity of zero. -/
def schedulerInit (maxAgents : UInt32) : Option AgentQueue :=
  if maxAgents = 0 then none
  else
    some
      { queue := List.replicate maxAgents.toNat 0
        queueSize := maxAgents
        head := 0
        tail := 0
        count := 0
        running := false }

namespace AgentQueue

variable (scheduler : AgentQueue)

/-- `(head + i) % queue_size` -/
def slot (i : UInt32) : Nat :=
  ((scheduler.head + i) % scheduler.queueSize).toNat

/-- `(head + j + 1) % queue_size` -/
def nextSlot (j : UInt32) : Nat :=
  ((scheduler.head + j + 1) % scheduler.queueSize).toNat

/-- `(head + j - 1) % queue_size` -/
def prevSlot (j : UInt32) : Nat :=
  ((scheduler.head + j - 1) % scheduler.queueSize).toNat

/-- The outer loop of `scheduler_remove_agent` and of `scheduler_update_agent`. -/
def find (id : UInt64) : Option Nat :=
  (List.range scheduler.count.toNat).find? fun i =>
    decide (scheduler.queue.getD (scheduler.slot (UInt32.ofNat i)) 0 = id)

/-- The inner loop of `scheduler_remove_agent`, from `i` up to `count - 1`. -/
def moveUp (i : Nat) : List UInt64 :=
  (List.range' i ((scheduler.count - 1).toNat - i)).foldl
    (fun queue j =>
      queue.set (scheduler.slot (UInt32.ofNat j))
        (queue.getD (scheduler.nextSlot (UInt32.ofNat j)) 0))
    scheduler.queue

/-- The inner loop of `scheduler_update_agent`, from `i` down to one. -/
def moveBack (i : Nat) : List UInt64 :=
  (List.range' 1 i).reverse.foldl
    (fun queue j =>
      (queue.set (scheduler.slot (UInt32.ofNat j))
        (queue.getD (scheduler.prevSlot (UInt32.ofNat j)) 0)).set
          (scheduler.prevSlot (UInt32.ofNat j))
          (queue.getD (scheduler.slot (UInt32.ofNat j)) 0))
    scheduler.queue

/-- The result is `true` where the source returns zero, here and below. -/
def schedulerAddAgent (id : UInt64) : AgentQueue × Bool :=
  if id = 0 then (scheduler, false)
  else if scheduler.queueSize ≤ scheduler.count then (scheduler, false)
  else
    ({ scheduler with
        queue := scheduler.queue.set scheduler.tail.toNat id
        tail := (scheduler.tail + 1) % scheduler.queueSize
        count := scheduler.count + 1 }, true)

def schedulerRemoveAgent (id : UInt64) : AgentQueue × Bool :=
  if id = 0 then (scheduler, false)
  else
    match scheduler.find id with
    | none => (scheduler, false)
    | some i =>
        ({ scheduler with
            queue := scheduler.moveUp i
            tail := (scheduler.tail - 1 + scheduler.queueSize) % scheduler.queueSize
            count := scheduler.count - 1 }, true)

def schedulerUpdateAgent (id : UInt64) : AgentQueue × Bool :=
  if id = 0 then (scheduler, false)
  else
    match scheduler.find id with
    | none => (scheduler, false)
    | some i => ({ scheduler with queue := scheduler.moveBack i }, true)

/-- `none`: the caller waits for the condition variable. -/
def schedulerPickNext : Option (AgentQueue × UInt64) :=
  if scheduler.count = 0 then
    if scheduler.running then none else some (scheduler, 0)
  else
    some
      ({ scheduler with
          head := (scheduler.head + 1) % scheduler.queueSize
          count := scheduler.count - 1 },
        scheduler.queue.getD scheduler.head.toNat 0)

def schedulerStart : AgentQueue := { scheduler with running := true }

def schedulerStop : AgentQueue := { scheduler with running := false }

end AgentQueue

/-! ### Runs -/

inductive QueueCall
  | add (id : UInt64)
  | remove (id : UInt64)
  | update (id : UInt64)
  | pick
  | start
  | stop

/-- What a call returns; a caller that waits has got nothing yet. -/
inductive QueueAnswer
  | done (ok : Bool)
  | picked (id : UInt64)
  | waiting
  deriving DecidableEq

/-- The calls return `-1`, or the id of no agent. -/
def QueueAnswer.failed : QueueAnswer → Bool
  | .done ok => !ok
  | .picked id => decide (id = 0)
  | .waiting => true

namespace AgentQueue

variable (scheduler : AgentQueue)

def perform : QueueCall → AgentQueue × QueueAnswer
  | .add id =>
      ((scheduler.schedulerAddAgent id).1, .done (scheduler.schedulerAddAgent id).2)
  | .remove id =>
      ((scheduler.schedulerRemoveAgent id).1, .done (scheduler.schedulerRemoveAgent id).2)
  | .update id =>
      ((scheduler.schedulerUpdateAgent id).1, .done (scheduler.schedulerUpdateAgent id).2)
  | .pick =>
      match scheduler.schedulerPickNext with
      | none => (scheduler, .waiting)
      | some (after, id) => (after, .picked id)
  | .start => (scheduler.schedulerStart, .done true)
  | .stop => (scheduler.schedulerStop, .done true)

def step (call : QueueCall) : AgentQueue :=
  (scheduler.perform call).1

/-- The slots from the head on. -/
def contents : List UInt64 :=
  (List.range scheduler.count.toNat).map fun i =>
    scheduler.queue.getD ((scheduler.head.toNat + i) % scheduler.queueSize.toNat) 0

end AgentQueue

def queueMachine (initial : AgentQueue) : Machine AgentQueue QueueCall where
  initial := initial
  step := AgentQueue.step

/-! ### The list behind the ring -/

/-- What the ready queue is for: a list of agents of bounded length. -/
structure ReadyList where
  agents : List UInt64
  running : Bool

namespace ReadyList

variable (capacity : Nat) (ready : ReadyList)

def perform : QueueCall → ReadyList × QueueAnswer
  | .add id =>
      if id = 0 ∨ ready.agents.length = capacity then (ready, .done false)
      else ({ ready with agents := ready.agents ++ [id] }, .done true)
  | .remove id =>
      if id ∈ ready.agents then
        ({ ready with agents := ready.agents.erase id }, .done true)
      else (ready, .done false)
  | .update id =>
      if id ∈ ready.agents then
        ({ ready with agents := id :: ready.agents.erase id }, .done true)
      else (ready, .done false)
  | .pick =>
      match ready.agents with
      | [] => (ready, if ready.running then .waiting else .picked 0)
      | first :: rest => ({ ready with agents := rest }, .picked first)
  | .start => ({ ready with running := true }, .done true)
  | .stop => ({ ready with running := false }, .done true)

end ReadyList

def readyMachine (capacity : Nat) : Machine ReadyList QueueCall where
  initial := { agents := [], running := false }
  step := fun ready call => (ready.perform capacity call).1

end AgentNucleus.Top

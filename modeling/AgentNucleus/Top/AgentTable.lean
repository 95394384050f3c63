/-
The agents of agent.c: a table of 256 slots under one lock.  The global `g_agent_table`
is the structure `AgentTable`, and a call that returns nothing is answered by zero.  The
contexts are left out: they are null pointers in every table, as `agent_create` stores
one and no call stores another.
-/

import AgentNucleus.Library.Machine
import AgentNucleus.Library.SlotTable
import AgentNucleus.Runtime.Types

set_option autoImplicit false

namespace AgentNucleus.Top

open AgentNucleus.Library
open AgentNucleus.Runtime (StdString)

namespace AgentTable

/-- `enum agent_state` -/
inductive AgentState
  | created
  | ready
  | running
  | waiting
  | completed
  | error
  deriving DecidableEq, Repr

/-- `struct agent_ops`, as far as a call uses it: what the callback returns, if there
is one. -/
structure AgentOps where
  init : Option Int32 := none
  deriving DecidableEq, Repr

/-- `struct agent_config`; the limits of memory and processors are never read. -/
structure AgentConfig where
  name : StdString := []
  priority : UInt32 := 0

end AgentTable

open AgentTable (AgentState AgentOps AgentConfig)

/-- `struct agent`; a slot that is free has the invalid id zero. -/
structure Agent where
  id : UInt64 := 0
  name : StdString := []
  state : AgentState := .created
  priority : UInt32 := 0
  ops : Option AgentOps := none
  createTime : UInt64 := 0
  lastActive : UInt64 := 0
  deriving DecidableEq, Repr

def MAX_AGENTS : Nat := 256

def AGENT_NAME_MAX : Nat := 64

structure AgentTable where
  agents : List Agent := List.replicate MAX_AGENTS {}
  count : UInt32 := 0
  nextId : UInt64 := 0
  initialized : Bool := false
  deriving DecidableEq

/-- `strncpy` of the configured name, with the terminator behind it. -/
def copyName (name : StdString) : StdString :=
  (name.take (AGENT_NAME_MAX - 1)).takeWhile fun byte => byte != 0

/-- The agent that `agent_create` leaves in a slot. -/
def newAgent (id : UInt64) (config : AgentConfig) (now : UInt64) : Agent where
  id := id
  name := copyName config.name
  priority := config.priority
  createTime := now
  lastActive := now

namespace AgentTable

variable (table : AgentTable)

/-- The loop `agents[i].id == id` that every call starts with. -/
def find (id : UInt64) : Option Nat :=
  table.agents.findIdx? fun agent => agent.id == id

/-- The agent at the place where that loop stops. -/
def agent? (id : UInt64) : Option Agent :=
  table.agents.find? fun agent => agent.id == id

def store (slot : Nat) (agent : Agent) : AgentTable :=
  { table with agents := table.agents.set slot agent }

def agentRuntimeInit : AgentTable × Int32 :=
  if table.initialized then (table, -1)
  else ({ nextId := 1, initialized := true }, 0)

def agentRuntimeDestroy : AgentTable :=
  if table.initialized then {} else table

/-- `none` is a null pointer. -/
def agentCreate (config : Option AgentConfig) (now : UInt64) : AgentTable × UInt64 :=
  match config with
  | none => (table, 0)
  | some config =>
      if !table.initialized then (table, 0)
      else
        match table.find 0 with
        | none => (table, 0)
        | some slot =>
            ({ table with
                agents := table.agents.set slot (newAgent table.nextId config now)
                nextId := table.nextId + 1
                count := table.count + 1 }, table.nextId)

/-- The calls that change one agent: what they make of it, and what they return.  The
agent is the one at the first slot with the id. -/
def withAgent (id : UInt64) (act : Agent → Agent × Int32) : AgentTable × Int32 :=
  if !table.initialized then (table, -1)
  else
    match table.find id, table.agent? id with
    | some slot, some agent => (table.store slot (act agent).1, (act agent).2)
    | _, _ => (table, -1)

def agentDestroy (id : UInt64) : AgentTable × Int32 :=
  if !table.initialized then (table, -1)
  else
    match table.find id, table.agent? id with
    | some slot, some agent =>
        ({ table with
            agents := table.agents.set slot { agent with id := 0, state := .created }
            count := table.count - 1 }, 0)
    | _, _ => (table, -1)

/-- `agent_init` on the agent: the callback decides, if there is one. -/
def initAgent (now : UInt64) (agent : Agent) : Agent × Int32 :=
  if agent.state ≠ .created then (agent, -1)
  else
    match agent.ops.bind AgentOps.init with
    | some ret =>
        if ret ≠ 0 then ({ agent with state := .error }, ret)
        else ({ agent with state := .ready, lastActive := now }, 0)
    | none => ({ agent with state := .ready, lastActive := now }, 0)

def startAgent (now : UInt64) (agent : Agent) : Agent × Int32 :=
  if agent.state ≠ .ready then (agent, -1)
  else ({ agent with state := .running, lastActive := now }, 0)

def stopAgent (now : UInt64) (agent : Agent) : Agent × Int32 :=
  if agent.state ≠ .running ∧ agent.state ≠ .waiting then (agent, -1)
  else ({ agent with state := .completed, lastActive := now }, 0)

def agentInit (id : UInt64) (now : UInt64) : AgentTable × Int32 :=
  table.withAgent id (initAgent now)

def agentStart (id : UInt64) (now : UInt64) : AgentTable × Int32 :=
  table.withAgent id (startAgent now)

def agentStop (id : UInt64) (now : UInt64) : AgentTable × Int32 :=
  table.withAgent id (stopAgent now)

def agentSetPriority (id : UInt64) (priority : UInt32) : AgentTable × Int32 :=
  table.withAgent id fun agent => ({ agent with priority }, 0)

def agentGetState (id : UInt64) : AgentState :=
  if !table.initialized then .created
  else
    match table.agent? id with
    | none => .created
    | some agent => agent.state

/-- One round of the loop of `agent_wait`, when it has gone on for `elapsed`
milliseconds.  `none`: it sleeps and goes on. -/
def agentWait (id : UInt64) (timeoutMs : Int32) (elapsed : UInt64) : Option Int32 :=
  if !table.initialized then some (-1)
  else
    match table.agent? id with
    | none => some (-1)
    | some agent =>
        if agent.state = .completed ∨ agent.state = .error then some 0
        else if 0 < timeoutMs ∧ timeoutMs.toInt ≤ elapsed.toNat then some (-1)
        else none

end AgentTable

/-! ### Runs -/

/-- The calls, with what the clock shows. -/
inductive AgentCall
  | runtimeInit
  | runtimeDestroy
  | create (config : Option AgentConfig) (now : UInt64)
  | destroy (id : UInt64)
  | init (id : UInt64) (now : UInt64)
  | start (id : UInt64) (now : UInt64)
  | stop (id : UInt64) (now : UInt64)
  | setPriority (id : UInt64) (priority : UInt32)
  | getState (id : UInt64)
  | wait (id : UInt64) (timeoutMs : Int32) (elapsed : UInt64)

inductive AgentAnswer
  | code (ret : Int32)
  | agent (id : UInt64)
  | state (state : AgentState)
  | sleeping
  deriving DecidableEq

def AgentAnswer.round : Option Int32 → AgentAnswer
  | some ret => .code ret
  | none => .sleeping

/-- The call names an agent, or needs none. -/
def AgentCall.Named : AgentCall → Prop
  | .destroy id => id ≠ 0
  | .init id _ => id ≠ 0
  | .start id _ => id ≠ 0
  | .stop id _ => id ≠ 0
  | .setPriority id _ => id ≠ 0
  | .getState id => id ≠ 0
  | .wait id _ _ => id ≠ 0
  | _ => True

namespace AgentTable

variable (table : AgentTable)

def answered (result : AgentTable × Int32) : AgentTable × AgentAnswer :=
  (result.1, .code result.2)

def perform : AgentCall → AgentTable × AgentAnswer
  | .runtimeInit => answered table.agentRuntimeInit
  | .runtimeDestroy => (table.agentRuntimeDestroy, .code 0)
  | .create config now =>
      ((table.agentCreate config now).1, .agent (table.agentCreate config now).2)
  | .destroy id => answered (table.agentDestroy id)
  | .init id now => answered (table.agentInit id now)
  | .start id now => answered (table.agentStart id now)
  | .stop id now => answered (table.agentStop id now)
  | .setPriority id priority => answered (table.agentSetPriority id priority)
  | .getState id => (table, .state (table.agentGetState id))
  | .wait id timeoutMs elapsed => (table, .round (table.agentWait id timeoutMs elapsed))

end AgentTable

def agentMachine : Machine AgentTable AgentCall where
  initial := {}
  step := fun table call => (table.perform call).1

/-! ### The agents behind the table -/

/-- What the table is for: agents by their ids, and room for 256 of them.  An agent of
id zero does not exist, but `agent_destroy` takes each free slot for one. -/
structure AgentRegistry where
  opened : Bool := false
  agents : UInt64 → Option Agent := fun _ => none
  population : Nat := 0
  next : UInt64 := 0
  miscounted : Nat := 0

namespace AgentRegistry

variable (registry : AgentRegistry)

def put (id : UInt64) (agent : Agent) : AgentRegistry :=
  { registry with agents := Function.update registry.agents id (some agent) }

/-- A call on an agent that exists. -/
def act (id : UInt64) (change : Agent → Agent × Int32) : AgentRegistry × AgentAnswer :=
  match registry.agents id with
  | none => (registry, .code (-1))
  | some agent => (registry.put id (change agent).1, .code (change agent).2)

def create (config : AgentConfig) (now : UInt64) : AgentRegistry × AgentAnswer :=
  if !registry.opened ∨ registry.population = MAX_AGENTS then (registry, .agent 0)
  else
    ({ registry with
        agents :=
          Function.update registry.agents registry.next (some (newAgent registry.next config now))
        population := registry.population + 1
        next := registry.next + 1 }, .agent registry.next)

def destroy (id : UInt64) : AgentRegistry × AgentAnswer :=
  if id = 0 then
    if registry.opened ∧ registry.population < MAX_AGENTS then
      ({ registry with miscounted := registry.miscounted + 1 }, .code 0)
    else (registry, .code (-1))
  else
    match registry.agents id with
    | none => (registry, .code (-1))
    | some _ =>
        ({ registry with
            agents := Function.update registry.agents id none
            population := registry.population - 1 }, .code 0)

/-- A step of the life of an agent. -/
def advance (next : AgentState) (now : UInt64) (allowed : AgentState) (agent : Agent) :
    Agent × Int32 :=
  if agent.state = allowed then ({ agent with state := next, lastActive := now }, 0)
  else (agent, -1)

def perform : AgentCall → AgentRegistry × AgentAnswer
  | .runtimeInit =>
      if registry.opened then (registry, .code (-1))
      else ({ opened := true, next := 1 }, .code 0)
  | .runtimeDestroy => ({}, .code 0)
  | .create none _ => (registry, .agent 0)
  | .create (some config) now => registry.create config now
  | .destroy id => registry.destroy id
  | .init id now => registry.act id (advance .ready now .created)
  | .start id now => registry.act id (advance .running now .ready)
  | .stop id now => registry.act id (advance .completed now .running)
  | .setPriority id priority => registry.act id fun agent => ({ agent with priority }, 0)
  | .getState id =>
      (registry, .state ((registry.agents id).elim .created Agent.state))
  | .wait id timeoutMs elapsed =>
      (registry, .round ((registry.agents id).elim (some (-1)) fun agent =>
        if agent.state = .completed then some 0
        else if 0 < timeoutMs ∧ timeoutMs.toInt ≤ elapsed.toNat then some (-1)
        else none))

end AgentRegistry

def registryMachine : Machine AgentRegistry AgentCall where
  initial := {}
  step := fun registry call => (registry.perform call).1

end AgentNucleus.Top

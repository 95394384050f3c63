/-
How `ProcessExecutor::run` starts its command when several worker threads call it at
once.  A step is one system call of a worker or of a forked child.  A fork copies every
descriptor that the process has open, so a child also holds the start barriers of the
launches that other workers have under way, until it executes its command or exits.

The output pipe is left out: the parent reads it without blocking.  What `run` does with
the output and the exit status is in `OutputCapture`.
-/

import AgentNucleus.Library.Machine

set_option autoImplicit false

namespace AgentNucleus.Runtime

open AgentNucleus.Library

/-- A forked child, by what it does next. -/
inductive ChildPlace where
  /-- `close(start_barrier[1])`. -/
  | closingOther
  /-- The two `dup2`. -/
  | redirecting
  /-- `setpgid(0, 0)`. -/
  | grouping
  /-- The `read` of the start token. -/
  | reading
  /-- `close(start_barrier[0])`, and whether the token came. -/
  | closingOwn (token : Bool)
  | executing
  /-- The command. -/
  | running
  | ended (ran : Bool)
deriving DecidableEq, Repr

/-- The command has been executed. -/
def ChildPlace.hasRun : ChildPlace → Bool
  | .running => true
  | .ended ran => ran
  | _ => false

def ChildPlace.hasEnded : ChildPlace → Bool
  | .ended _ => true
  | _ => false

/-- The ends of start barriers that the child has open, by the launches they belong to. -/
structure Child where
  place : ChildPlace := .closingOther
  readEnds : List Nat
  writeEnds : List Nat
deriving DecidableEq, Repr

/-- A call of `run` that has its start barrier.  The first two fields are about the ends
that the worker's own process has open; `accepted` is what `on_started` returned, and
`started` the field of the result, once there is one. -/
structure Launch where
  readOpen : Bool := true
  writeOpen : Bool := true
  token : Bool := false
  accepted : Option Bool := none
  child : Option Child := none
  started : Option Bool := none
deriving DecidableEq, Repr

/-- What follows `close(start_barrier[1])`. -/
inductive AfterClose where
  | leave
  /-- `kill` and `waitpid`. -/
  | kill
  /-- Only `waitpid`: `on_started` has refused. -/
  | wait
  | supervise
deriving DecidableEq, Repr

/-- A worker thread, by what it does next; the number is that of its launch. -/
inductive LaunchPlace where
  | idle
  /-- `socketpair`. -/
  | opening
  /-- `pipe2`. -/
  | piping (launch : Nat)
  | forking (launch : Nat)
  /-- `close(start_barrier[0])` when there is no child. -/
  | abandoning (launch : Nat)
  | closingRead (launch : Nat)
  /-- `setpgid(pid, pid)`. -/
  | isolating (launch : Nat)
  /-- `fcntl`. -/
  | configuring (launch : Nat)
  /-- The call of `on_started`. -/
  | admitting (launch : Nat)
  | sending (launch : Nat)
  | closingWrite (launch : Nat) (next : AfterClose)
  | killing (launch : Nat)
  /-- `waitpid` for a child that has not been killed. -/
  | awaiting (launch : Nat)
  /-- The loop. -/
  | supervising (launch : Nat)
  /-- The loop ends a command that was cancelled or took too long. -/
  | terminating (launch : Nat)
  /-- `waitpid` for a child that was killed. -/
  | reaping (launch : Nat) (started : Bool)
deriving DecidableEq, Repr

/-- What a turn of the loop finds. -/
inductive Supervision where
  | nothing
  /-- `poll` or `waitpid` has failed. -/
  | failed
  | cancelledOrExpired
deriving DecidableEq, Repr

/-- What the environment answers in a step; each place reads what it asks for. -/
structure LaunchAnswer where
  succeeds : Bool := true
  supervision : Supervision := .nothing
deriving DecidableEq, Repr

/-- The launches are numbered in the order of their barriers. -/
structure Launches where
  workers : List LaunchPlace
  launches : List Launch := []
deriving DecidableEq, Repr

namespace Launches

variable (state : Launches)

def moveTo (worker : Nat) (place : LaunchPlace) : Launches :=
  { state with workers := state.workers.set worker place }

def modify (launch : Nat) (change : Launch → Launch) : Launches :=
  { state with launches := state.launches.modify launch change }

def childOf (launch : Nat) : Option Child :=
  state.launches[launch]?.bind Launch.child

/-- Somebody has the write end of the barrier open. -/
def writeHeld (launch : Nat) : Bool :=
  (state.launches[launch]?.any fun entry => entry.writeOpen) ||
    state.launches.any fun other =>
      other.child.any fun child => child.writeEnds.contains launch

/-- Somebody has the read end of the barrier open. -/
def readHeld (launch : Nat) : Bool :=
  (state.launches[launch]?.any fun entry => entry.readOpen) ||
    state.launches.any fun other =>
      other.child.any fun child => child.readEnds.contains launch

/-- The launches of which the process has an end open. -/
def openEnds (isOpen : Launch → Bool) : List Nat :=
  (List.range state.launches.length).filter fun launch =>
    state.launches[launch]?.any isOpen

/-- `fork`. -/
def forked : Child :=
  { readEnds := state.openEnds Launch.readOpen
    writeEnds := state.openEnds Launch.writeOpen }

def childEnded (launch : Nat) : Bool :=
  (state.childOf launch).any fun child => child.place.hasEnded

end Launches

/-! ### The child -/

namespace Child

/-- All descriptors are closed, by `_exit`, by `SOCK_CLOEXEC` or by the end of the
process. -/
def leaveAt (child : Child) (place : ChildPlace) : Child :=
  { child with place := place, readEnds := [], writeEnds := [] }

def exit (child : Child) : Child :=
  child.leaveAt (.ended child.place.hasRun)

/-- One step of the child of a launch.  A `read` that finds no token and an open write
end goes on blocking. -/
def step (child : Child) (launch : Nat) (token writeHeld succeeds : Bool) : Child :=
  match child.place with
  | .closingOther =>
      { child with
        place := .redirecting
        writeEnds := child.writeEnds.filter (· != launch) }
  | .redirecting => if succeeds then { child with place := .grouping } else child.exit
  | .grouping => if succeeds then { child with place := .reading } else child.exit
  | .reading =>
      if token then { child with place := .closingOwn true }
      else if writeHeld then child
      else { child with place := .closingOwn false }
  | .closingOwn token =>
      let closed := { child with readEnds := child.readEnds.filter (· != launch) }
      if token then { closed with place := .executing } else closed.exit
  | .executing => if succeeds then child.leaveAt .running else child.exit
  | .running => if succeeds then child.exit else child
  | .ended _ => child

end Child

/-! ### The worker -/

namespace Launches

variable (state : Launches)

/-- `run` returns. -/
def finish (worker launch : Nat) (started : Bool) : Launches :=
  (state.modify launch fun entry => { entry with started := some started }).moveTo worker .idle

def afterClose (worker launch : Nat) : AfterClose → Launches
  | .leave => state.finish worker launch false
  | .kill => state.moveTo worker (.killing launch)
  | .wait => state.moveTo worker (.awaiting launch)
  | .supervise => state.moveTo worker (.supervising launch)

/-- `SIGKILL`. -/
def kill (launch : Nat) : Launches :=
  state.modify launch fun entry => { entry with child := entry.child.map Child.exit }

/-- The ways into the loop and out of the failures before it. -/
def stepStart (worker : Nat) (answer : LaunchAnswer) : LaunchPlace → Launches
  | .opening =>
      if answer.succeeds then
        { state with launches := state.launches ++ [({} : Launch)] }.moveTo worker
          (.piping state.launches.length)
      else state.moveTo worker .idle
  | .piping launch =>
      state.moveTo worker (if answer.succeeds then .forking launch else .abandoning launch)
  | .forking launch =>
      if answer.succeeds then
        (state.modify launch fun entry => { entry with child := some state.forked }).moveTo worker
          (.closingRead launch)
      else state.moveTo worker (.abandoning launch)
  | .abandoning launch =>
      (state.modify launch fun entry => { entry with readOpen := false }).moveTo worker
        (.closingWrite launch .leave)
  | .closingRead launch =>
      (state.modify launch fun entry => { entry with readOpen := false }).moveTo worker
        (.isolating launch)
  | .isolating launch =>
      state.moveTo worker
        (if answer.succeeds then .configuring launch else .closingWrite launch .kill)
  | .configuring launch =>
      state.moveTo worker
        (if answer.succeeds then .admitting launch else .closingWrite launch .kill)
  | .admitting launch =>
      (state.modify launch fun entry =>
        { entry with accepted := some answer.succeeds }).moveTo worker
          (if answer.succeeds then .sending launch else .closingWrite launch .wait)
  -- Without a read end the `send` fails with `EPIPE`.
  | .sending launch =>
      if answer.succeeds && state.readHeld launch then
        (state.modify launch fun entry => { entry with token := true }).moveTo worker
          (.closingWrite launch .supervise)
      else state.moveTo worker (.closingWrite launch .kill)
  | .closingWrite launch next =>
      (state.modify launch fun entry => { entry with writeOpen := false }).afterClose
        worker launch next
  | _ => state

/-- The waits. -/
def stepWait (worker : Nat) (answer : LaunchAnswer) : LaunchPlace → Launches
  | .killing launch => (state.kill launch).moveTo worker (.reaping launch false)
  | .awaiting launch =>
      if state.childEnded launch then state.finish worker launch false else state
  | .supervising launch =>
      if state.childEnded launch then state.finish worker launch true
      else
        match answer.supervision with
        | .nothing => state
        | .failed => state.finish worker launch true
        | .cancelledOrExpired => state.moveTo worker (.terminating launch)
  | .terminating launch => (state.kill launch).moveTo worker (.reaping launch true)
  | .reaping launch started =>
      if state.childEnded launch then state.finish worker launch started else state
  | _ => state

def stepWorker (worker : Nat) (answer : LaunchAnswer) (place : LaunchPlace) : Launches :=
  match place with
  | .idle => state
  | .killing _ | .awaiting _ | .supervising _ | .terminating _ | .reaping _ _ =>
      state.stepWait worker answer place
  | _ => state.stepStart worker answer place

def stepChild (launch : Nat) (succeeds : Bool) : Launches :=
  state.modify launch fun entry =>
    { entry with
      child := entry.child.map fun child =>
        child.step launch entry.token (state.writeHeld launch) succeeds }

/-! ### Interleavings -/

inductive Action where
  /-- A worker that is outside calls `run`. -/
  | call (worker : Nat)
  | advance (worker : Nat) (answer : LaunchAnswer)
  | child (launch : Nat) (succeeds : Bool)
  /-- Somebody else kills the child. -/
  | killed (launch : Nat)
deriving DecidableEq, Repr

def step : Action → Launches
  | .call worker =>
      if state.workers[worker]? = some .idle then state.moveTo worker .opening else state
  | .advance worker answer =>
      match state.workers[worker]? with
      | some place => state.stepWorker worker answer place
      | none => state
  | .child launch succeeds => state.stepChild launch succeeds
  | .killed launch => state.kill launch

/-- Runs of so many worker threads. -/
def machine (workerCount : Nat) : Machine Launches Action where
  initial := { workers := List.replicate workerCount .idle }
  step := Launches.step

end Launches

end AgentNucleus.Runtime

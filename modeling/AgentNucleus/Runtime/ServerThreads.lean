/-
`InvocationServer` seen through `running_`, `listen_descriptor_`, `active_clients_`
and the threads that are inside one of its functions: callers of `start`, `serve` and
`stop`, and the detached threads that answer clients.  A step is one access to shared
state or one system call; what is done under `clients_mutex_` is one step.
-/

import AgentNucleus.Library.Machine

set_option autoImplicit false

namespace AgentNucleus.Runtime

open AgentNucleus.Library

/-- What is left to do for a connection that was counted. -/
inductive Release where
  | closing
  /-- `--active_clients_`, under the mutex. -/
  | uncounting
  /-- `clients_cv_.notify_all()`, after the mutex is given back. -/
  | notifying
deriving DecidableEq, Repr

/-- A thread inside the server, by what it does next. -/
inductive ServerPlace where
  /-- `start`: the exchange of `running_`. -/
  | exchanging
  | opening
  /-- `running_` is false again when no socket could be opened. -/
  | resetting
  /-- `serve`: the look at `listen_descriptor_`. -/
  | entering
  | condition
  | polling
  | accepting
  /-- The look at `running_` after a system call that failed. -/
  | failing
  | counting
  /-- The creation of the client thread. -/
  | spawning
  /-- The handler of `serve`, when no thread could be created. -/
  | discarding (stage : Release)
  /-- `stop`: `running_.store(false)`. -/
  | storing
  | closingListener
  /-- The predicate of the wait, under the mutex. -/
  | testing
  | sleeping
  | unlinking
  /-- A client thread: `handle_client`. -/
  | handling
  | leaving (stage : Release)
  | finished
deriving DecidableEq, Repr

/-- The connection that the thread has in hand was counted and is not given back;
a client thread counts from the moment at which `serve` sets out to create it. -/
def ServerPlace.counted : ServerPlace → Bool
  | .spawning | .handling => true
  | .discarding stage | .leaving stage => stage != .notifying
  | _ => false

/-- A client thread whose next step uses the handler, the mutex, the counter or the
condition variable of the server. -/
def ServerPlace.clientAccess : ServerPlace → Bool
  | .handling | .leaving .uncounting | .leaving .notifying => true
  | _ => false

inductive EntryPoint where
  | start
  | serve
  | stop
deriving DecidableEq, Repr

def EntryPoint.place : EntryPoint → ServerPlace
  | .start => .exchanging
  | .serve => .entering
  | .stop => .storing

/-- `nothing` is the timeout of `poll`, and an `accept4` that goes on blocking. -/
inductive SystemResult where
  | ready
  | nothing
  | interrupted
  | failed
deriving DecidableEq, Repr

/-- What the environment answers in a step; each place reads what it asks for. -/
structure SystemAnswer where
  externalStop : Bool := false
  result : SystemResult := .ready
  /-- The socket is open, or the thread was created. -/
  succeeds : Bool := true

/-- The last field is not in the program: a call of `stop` has returned since the
last `start`. -/
structure InvocationServer where
  running : Bool := false
  listening : Bool := false
  ownsSocket : Bool := false
  activeClients : UInt64 := 0
  threads : List ServerPlace := []
  stopped : Bool := false

namespace InvocationServer

def maxConcurrentInvocationClients : UInt64 := 64

def moveTo (server : InvocationServer) (thread : Nat) (place : ServerPlace) :
    InvocationServer :=
  { server with threads := server.threads.set thread place }

def notifyAll (server : InvocationServer) : InvocationServer :=
  { server with
    threads := server.threads.map fun place => if place = .sleeping then .testing else place }

/-- The same three steps end a client thread and the handler of `serve`. -/
def release (server : InvocationServer) (thread : Nat) (place : Release → ServerPlace)
    (next : ServerPlace) : Release → InvocationServer
  | .closing => server.moveTo thread (place .uncounting)
  | .uncounting =>
      { server with activeClients := server.activeClients - 1 }.moveTo thread (place .notifying)
  | .notifying => server.notifyAll.moveTo thread next

def stepStart (server : InvocationServer) (thread : Nat) (answer : SystemAnswer) :
    ServerPlace → InvocationServer
  | .exchanging =>
      if server.running then server.moveTo thread .finished
      else { server with running := true, stopped := false }.moveTo thread .opening
  | .opening =>
      if answer.succeeds then
        { server with listening := true, ownsSocket := true }.moveTo thread .finished
      else server.moveTo thread .resetting
  | .resetting => { server with running := false }.moveTo thread .finished
  | _ => server

def stepServe (server : InvocationServer) (thread : Nat) (answer : SystemAnswer) :
    ServerPlace → InvocationServer
  | .entering =>
      server.moveTo thread (if server.listening then .condition else .finished)
  | .condition =>
      server.moveTo thread
        (if server.running && !answer.externalStop then .polling else .storing)
  | .polling =>
      match answer.result with
      | .ready => server.moveTo thread .accepting
      | .nothing | .interrupted => server.moveTo thread .condition
      | .failed => server.moveTo thread .failing
  | .accepting =>
      match answer.result with
      | .ready => server.moveTo thread .counting
      | .nothing => server
      | .interrupted => server.moveTo thread .condition
      | .failed => server.moveTo thread .failing
  -- `break` leads to the call of `stop`, `return 1` does not.
  | .failing => server.moveTo thread (if server.running then .finished else .storing)
  | .counting =>
      if server.activeClients ≥ maxConcurrentInvocationClients then
        server.moveTo thread .condition
      else { server with activeClients := server.activeClients + 1 }.moveTo thread .spawning
  | .spawning =>
      if answer.succeeds then
        { server with threads := server.threads ++ [ServerPlace.handling] }.moveTo thread .condition
      else server.moveTo thread (.discarding .closing)
  | .discarding stage => server.release thread .discarding .condition stage
  | _ => server

def stepStop (server : InvocationServer) (thread : Nat) : ServerPlace → InvocationServer
  | .storing => { server with running := false }.moveTo thread .closingListener
  | .closingListener => { server with listening := false }.moveTo thread .testing
  | .testing => server.moveTo thread (if server.activeClients = 0 then .unlinking else .sleeping)
  | .unlinking =>
      { server with ownsSocket := false, stopped := true }.moveTo thread .finished
  | _ => server

def stepClient (server : InvocationServer) (thread : Nat) : ServerPlace → InvocationServer
  | .handling => server.moveTo thread (.leaving .closing)
  | .leaving stage => server.release thread .leaving .finished stage
  | _ => server

def stepThread (server : InvocationServer) (thread : Nat) (answer : SystemAnswer)
    (place : ServerPlace) : InvocationServer :=
  match place with
  | .exchanging | .opening | .resetting => server.stepStart thread answer place
  | .entering | .condition | .polling | .accepting | .failing | .counting | .spawning
  | .discarding _ => server.stepServe thread answer place
  | .storing | .closingListener | .testing | .unlinking => server.stepStop thread place
  | .handling | .leaving _ => server.stepClient thread place
  | .sleeping | .finished => server

/-! ### Interleavings -/

inductive Action where
  /-- A thread of the program that owns the server calls one of its functions. -/
  | call (entry : EntryPoint)
  | advance (thread : Nat) (answer : SystemAnswer)
  /-- The wait of `stop` may end without a notification. -/
  | wake (thread : Nat)

def step (server : InvocationServer) : Action → InvocationServer
  | .call entry => { server with threads := server.threads ++ [entry.place] }
  | .advance thread answer =>
      match server.threads[thread]? with
      | some place => server.stepThread thread answer place
      | none => server
  | .wake thread =>
      if server.threads[thread]? = some .sleeping then server.moveTo thread .testing
      else server

def machine : Machine InvocationServer Action :=
  { initial := {}
    step := step }

end InvocationServer

end AgentNucleus.Runtime

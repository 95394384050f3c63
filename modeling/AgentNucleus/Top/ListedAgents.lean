/-
What clients see of the agents.  Agents stay in the scheduler for good, a packet of the
control protocol does not grow, and so a listing is encoded as long as its records fit
into one packet.  The record of a single agent always fits.
-/

import AgentNucleus.Runtime.ControlChannel
import AgentNucleus.Runtime.ControlPackets
import AgentNucleus.Top.TrustedParentage

set_option autoImplicit false

namespace AgentNucleus.Top

open AgentNucleus.Library
open AgentNucleus.Runtime
open AgentNucleus.Runtime.AgentDaemon (Step Surroundings machine)
open AgentNucleus.Runtime.AgentScheduler (Effect Operation)
open AgentNucleus.Runtime.ControlProtocol (AgentFits ResponseFits agentBytes encodeControlResponse
  makeControlInfo)

/-! ### The size of a listing -/

/-- The bytes of an agent in a response: 102 besides its strings. -/
def recordSize (snapshot : AgentSnapshot) : Nat :=
  102 + snapshot.spec.name.length + snapshot.spec.kind.length + snapshot.error.length

/-- The packet of a response with these agents: 22 bytes besides their records. -/
def listingSize (snapshots : List AgentSnapshot) : Nat :=
  22 + (snapshots.map recordSize).sum

def listing (snapshots : List AgentSnapshot) : ControlResponse where
  success := true
  agents := snapshots.map makeControlInfo

theorem length_agentBytes (snapshot : AgentSnapshot) :
    (agentBytes (makeControlInfo snapshot)).length = recordSize snapshot := by
  unfold agentBytes metricsBytes recordSize makeControlInfo bytes64 bytes32 bytes8
  simp only [List.length_append, length_littleEndian, length_lengthPrefixed]
  omega

theorem length_records (snapshots : List AgentSnapshot) :
    ((snapshots.map makeControlInfo).flatMap agentBytes).length =
      (snapshots.map recordSize).sum := by
  induction snapshots with
  | nil => rfl
  | cons snapshot rest ih =>
      simp only [List.map_cons, List.flatMap_cons, List.length_append, List.sum_cons]
      rw [ih, length_agentBytes]

theorem length_listing (snapshots : List AgentSnapshot) :
    12 + (ControlProtocol.responseBytes (listing snapshots)).length = listingSize snapshots := by
  unfold ControlProtocol.responseBytes ControlProtocol.collectionBytes listing listingSize
    optionalReferenceBytes bytes8 bytes32
  simp only [List.length_append, length_littleEndian, length_lengthPrefixed, length_records,
    Bool.false_eq_true, if_false, List.length_nil]
  omega

/-- The strings of an agent are those of one packet each. -/
structure Textual (snapshot : AgentSnapshot) : Prop where
  name : snapshot.spec.name.length ≤ kMaxStringSize
  kind : snapshot.spec.kind.length ≤ kMaxStringSize
  error : snapshot.error.length ≤ kMaxStringSize

theorem listing_bounded {snapshots : List AgentSnapshot} {packet : List UInt8}
    (encoded : encodeControlResponse (listing snapshots) = .ok packet) :
    snapshots.length ≤ kMaxCollectionElements ∧
      listingSize snapshots ≤ kMaxControlMessageSize := by
  obtain ⟨fits, framed, bounded⟩ :=
    (ControlProtocol.encodeControlResponse_iff (listing snapshots) packet).mp encoded
  have few := fits.few
  unfold listing at few
  rw [List.length_map] at few
  rw [framed, length_frame, length_listing] at bounded
  exact ⟨few, bounded⟩

/-- A response with agents is sent exactly if they are few and fit into the packet. -/
theorem listing_iff {snapshots : List AgentSnapshot}
    (textual : ∀ snapshot ∈ snapshots, Textual snapshot) :
    (∃ packet, encodeControlResponse (listing snapshots) = .ok packet) ↔
      snapshots.length ≤ kMaxCollectionElements ∧
        listingSize snapshots ≤ kMaxControlMessageSize := by
  constructor
  · intro sent
    obtain ⟨packet, encoded⟩ := sent
    exact listing_bounded encoded
  · intro small
    obtain ⟨few, bounded⟩ := small
    refine ⟨_, (ControlProtocol.encodeControlResponse_iff (listing snapshots) _).mpr
      ⟨⟨Nat.zero_le _, ?_, ?_⟩, rfl, ?_⟩⟩
    · unfold listing
      rw [List.length_map]
      exact few
    · intro agent member
      obtain ⟨snapshot, listed, same⟩ := List.mem_map.mp member
      have strings := textual snapshot listed
      rw [← same]
      exact ⟨strings.name, strings.kind, strings.error⟩
    · rw [length_frame, length_listing]
      exact bounded

/-- One agent fits. -/
theorem single_listed {snapshot : AgentSnapshot} (textual : Textual snapshot) :
    ∃ packet, encodeControlResponse (listing [snapshot]) = .ok packet := by
  apply (listing_iff (List.forall_mem_singleton.mpr textual)).mpr
  have name := textual.name
  have kind := textual.kind
  have error := textual.error
  unfold kMaxStringSize at name kind error
  unfold listingSize recordSize kMaxCollectionElements kMaxControlMessageSize
  simp only [List.length_singleton, List.map_cons, List.map_nil, List.sum_cons, List.sum_nil]
  omega

/-! ### Names and kinds -/

/-- The names and kinds of tasks that are offered come from packets. -/
def Sized (task : AgentTaskSpec) : Prop :=
  task.name.length ≤ kMaxStringSize ∧ task.kind.length ≤ kMaxStringSize

def AllSized (scheduler : AgentScheduler) : Prop :=
  ∀ id node, scheduler.node? id = some node → Sized node.spec

theorem step_allSized {scheduler : AgentScheduler} (graph : scheduler.Graph)
    {operation : Operation}
    (offered : ∀ tasks, scheduler.offered operation = some tasks → ∀ task ∈ tasks, Sized task)
    (sized : AllSized scheduler) : AllSized (scheduler.step operation) := by
  intro id node found
  have effect := AgentScheduler.step_effect scheduler graph.keyed operation
  cases known : scheduler.node? id with
  | some old =>
      obtain ⟨new, present, same⟩ := effect.keepsTask known
      rw [found, Option.some.injEq] at present
      rw [present, same]
      exact sized id old known
  | none =>
      obtain ⟨tasks, now, task, given, _, _, chosen, same⟩ := effect.fresh graph known found
      have spec : node.spec = task := by
        rw [same]
        rfl
      rw [spec]
      exact offered tasks given task (taskOf_id chosen).2

/-- A request that is dispatched was read from a packet. -/
def Received : Step → Prop
  | .dispatch request _ =>
      ∃ data old, ControlProtocol.decodeControlRequest data old = .ok request
  | _ => True

theorem received_sized {scheduler : AgentScheduler} {step : Step} (received : Received step)
    {operation : Operation} (called : calledOperation step = some operation)
    (tasks : List AgentTaskSpec) (offered : scheduler.offered operation = some tasks) :
    ∀ task ∈ tasks, Sized task := by
  obtain ⟨request, around, dispatched, source⟩ := called_offers called offered
  rw [dispatched] at received
  obtain ⟨data, old, decoded⟩ := received
  have textual := ((ControlProtocol.decodeControlRequest_iff data old request).mp decoded).1
  have sized : Sized request.task := ⟨textual.name, textual.kind⟩
  rcases source with ⟨_, alone⟩ | ⟨_, _, alone⟩
  · rw [alone]
    exact List.forall_mem_singleton.mpr sized
  · rw [alone]
    exact List.forall_mem_singleton.mpr sized

theorem run_allSized (steps : List Step) (received : ∀ step ∈ steps, Received step) :
    AllSized (machine.run steps).scheduler := by
  induction steps using List.reverseRecOn with
  | nil =>
      intro id node found
      cases found
  | append_singleton earlier last ih =>
      have before := ih fun step member => received step (List.mem_append_left _ member)
      have now := received last (List.mem_append_right _ (List.mem_singleton.mpr rfl))
      rw [machine.run_snoc]
      change AllSized ((machine.run earlier).step last).scheduler
      rw [step_scheduler]
      cases called : calledOperation last with
      | none => exact before
      | some operation =>
          exact step_allSized (run_graph earlier) (received_sized now called) before

/-! ### Answers -/

theorem mem_snapshots {scheduler : AgentScheduler} {snapshot : AgentSnapshot}
    (member : snapshot ∈ scheduler.snapshots) :
    ∃ id node, scheduler.node? id = some node ∧ node.snapshot = snapshot := by
  unfold AgentScheduler.snapshots at member
  rw [List.mem_mergeSort] at member
  obtain ⟨⟨id, node⟩, stored, same⟩ := List.mem_map.mp member
  exact ⟨id, node, AList.mem_lookup_iff.mpr stored, same⟩

/-- A response that can be encoded is sent as it is. -/
theorem handleClient_encoded {daemon : AgentDaemon} {connection : ControlConnection}
    {request : ControlRequest} {around : Surroundings} {duplicate : Int32} {packet : List UInt8}
    (sameUser : connection.sameUser = true)
    (accepted : acceptRequest (receiveControlPacket connection.received) = .ok request)
    (encoded : encodeControlResponse (daemon.dispatch request around).2 = .ok packet) :
    (daemon.handleClient connection around duplicate).answer =
      some (packet, resultDescriptor request (daemon.dispatch request around).2 duplicate) := by
  unfold AgentDaemon.handleClient responsePacket
  rw [sameUser]
  simp only [Bool.not_true, Bool.false_eq_true, if_false, accepted, encoded, Option.map_some]

/-- In every state that requests from packets lead to, as long as the texts of errors do
not exceed a string of the protocol: the status of every agent is encoded, and the listing is
encoded exactly if there are at most 4096 agents and their records fit into a packet.  What is
encoded is sent to the client that has asked. -/
theorem listed_while_fitting (steps : List Step) (received : ∀ step ∈ steps, Received step)
    (short : ∀ id node, (machine.run steps).scheduler.node? id = some node →
      node.snapshot.error.length ≤ kMaxStringSize)
    (request : ControlRequest) (around : Surroundings) :
    (∀ node, request.operation = .status →
      (machine.run steps).scheduler.node? request.targetId = some node →
        ∃ packet, encodeControlResponse ((machine.run steps).dispatch request around).2 =
          .ok packet) ∧
    (request.operation = .list →
      ((∃ packet, encodeControlResponse ((machine.run steps).dispatch request around).2 =
          .ok packet) ↔
        (machine.run steps).scheduler.snapshots.length ≤ kMaxCollectionElements ∧
          listingSize (machine.run steps).scheduler.snapshots ≤ kMaxControlMessageSize)) ∧
    ∀ connection duplicate packet, connection.sameUser = true →
      acceptRequest (receiveControlPacket connection.received) = .ok request →
      encodeControlResponse ((machine.run steps).dispatch request around).2 = .ok packet →
        ∃ descriptor, ((machine.run steps).handleClient connection around duplicate).answer =
          some (packet, descriptor) := by
  have sized := run_allSized steps received
  have textual (id : AgentId) (node : Node)
      (found : (machine.run steps).scheduler.node? id = some node) : Textual node.snapshot :=
    ⟨(sized id node found).1, (sized id node found).2, short id node found⟩
  refine ⟨?_, ?_, ?_⟩
  · intro node status found
    have answer : ((machine.run steps).dispatch request around).2 = listing [node.snapshot] := by
      unfold AgentDaemon.dispatch
      rw [status]
      change (machine.run steps).status request.targetId = _
      unfold AgentDaemon.status AgentScheduler.snapshot
      rw [found]
      rfl
    rw [answer]
    exact single_listed (textual request.targetId node found)
  · intro list
    have answer : ((machine.run steps).dispatch request around).2 =
        listing (machine.run steps).scheduler.snapshots := by
      unfold AgentDaemon.dispatch
      rw [list]
      rfl
    rw [answer]
    apply listing_iff
    intro snapshot member
    obtain ⟨id, node, found, same⟩ := mem_snapshots member
    rw [← same]
    exact textual id node found
  · intro connection duplicate packet sameUser accepted encoded
    exact ⟨_, handleClient_encoded sameUser accepted encoded⟩

/-- A submission of an agent without work. -/
def submission (id : AgentId) (name : StdString) : ControlRequest where
  operation := .submit
  task := { id, name, kind := name }

def submitted (id : AgentId) (name : StdString) : Step :=
  .dispatch (submission id name) { order := IterationOrder.asStored }

theorem submitted_received (id : AgentId) {name : StdString}
    (fits : name.length ≤ kMaxStringSize) : Received (submitted id name) := by
  refine ⟨_, {}, (ControlProtocol.decodeControlRequest_iff _ _ (submission id name)).mpr
    ⟨⟨Int64.le_refl 0, fits, fits, Nat.zero_le _, Nat.zero_le _, List.forall_mem_nil _, ?_⟩, rfl,
      ?_⟩⟩
  · intro invocation present
    cases present
  · rw [length_frame]
    unfold ControlProtocol.requestBytes ControlProtocol.taskBytes ControlProtocol.collectionBytes
      ControlProtocol.invocationBytes submission bytes64 bytes32 bytes8
    simp only [List.length_append, length_littleEndian, length_lengthPrefixed,
      List.flatMap_nil, List.length_nil]
    unfold kMaxStringSize at fits
    unfold kMaxControlMessageSize
    omega

theorem single_agent_listed :
    ∃ packet, encodeControlResponse ((machine.run [submitted 1 (text "one")]).dispatch
      { operation := .list } { order := IterationOrder.asStored }).2 = .ok packet := by
  have received : ∀ step ∈ [submitted 1 (text "one")], Received step :=
    List.forall_mem_singleton.mpr (submitted_received 1 (by decide))
  have quiet : ((machine.run [submitted 1 (text "one")]).scheduler.nodes.entries.all
      fun entry => decide (entry.2.snapshot.error.length ≤ kMaxStringSize)) = true := rfl
  have short (id : AgentId) (node : Node)
      (found : (machine.run [submitted 1 (text "one")]).scheduler.node? id = some node) :
      node.snapshot.error.length ≤ kMaxStringSize :=
    of_decide_eq_true (List.all_eq_true.mp quiet ⟨id, node⟩ (AList.mem_lookup_iff.mp found))
  apply ((listed_while_fitting [submitted 1 (text "one")] received short { operation := .list }
    { order := IterationOrder.asStored }).2.1 rfl).mpr
  unfold listingSize AgentScheduler.snapshots
  decide +kernel

/-- The longest name of a packet. -/
def longName : StdString := List.replicate kMaxStringSize 97

theorem listingSize_submitted (name : StdString) :
    listingSize (machine.run [submitted 1 name, submitted 2 name]).scheduler.snapshots =
      226 + 4 * name.length := by
  have stored : ((machine.run [submitted 1 name, submitted 2 name]).scheduler.nodes.entries.map
      fun entry => recordSize entry.2.snapshot) =
        [102 + name.length + name.length + 0, 102 + name.length + name.length + 0] := rfl
  have sorted := ((List.mergeSort_perm
    ((machine.run [submitted 1 name, submitted 2 name]).scheduler.nodes.entries.map
      fun entry => entry.2.snapshot)
    (fun left right => left.spec.id ≤ right.spec.id)).map recordSize).sum_eq
  rw [List.map_map] at sorted
  unfold listingSize AgentScheduler.snapshots
  rw [sorted]
  change 22 + ((machine.run [submitted 1 name, submitted 2 name]).scheduler.nodes.entries.map
    fun entry => recordSize entry.2.snapshot).sum = _
  rw [stored]
  simp only [List.sum_cons, List.sum_nil]
  omega

/-- Two agents are enough to fill more than a packet. -/
theorem long_names_unlisted :
    ∃ steps : List Step, (∀ step ∈ steps, Received step) ∧
      ∀ around, ¬∃ packet, encodeControlResponse
        ((machine.run steps).dispatch { operation := .list } around).2 = .ok packet := by
  have length : longName.length = kMaxStringSize := List.length_replicate
  refine ⟨[submitted 1 longName, submitted 2 longName], ?_, ?_⟩
  · intro step member
    rcases List.mem_cons.mp member with same | last
    · rw [same]
      exact submitted_received 1 length.le
    · rw [List.mem_singleton.mp last]
      exact submitted_received 2 length.le
  · intro around sent
    obtain ⟨packet, encoded⟩ := sent
    have bounded := (listing_bounded (show encodeControlResponse (listing
      (machine.run [submitted 1 longName, submitted 2 longName]).scheduler.snapshots) = .ok packet
        from encoded)).2
    rw [listingSize_submitted, length] at bounded
    unfold kMaxStringSize kMaxControlMessageSize at bounded
    omega

end AgentNucleus.Top

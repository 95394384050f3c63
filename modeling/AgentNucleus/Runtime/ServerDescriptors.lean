/-
Where the descriptors of a request end.  Whatever is received, mapped and answered,
`handle_client` closes all of them, and the descriptor of the output as well; only an
empty packet leaves its descriptors open.
-/

import AgentNucleus.Runtime.ClientDescriptors

set_option autoImplicit false

namespace AgentNucleus.Runtime

open AgentNucleus.Library
open AgentNucleus.Library.Account (Holds)
open AgentNucleus.Library.Program (Triple)

variable {received held descriptors : List Int32}

/-! ### The results are those without the record -/

section Results

variable (before : Account Int32 → Prop)

private theorem anyClosing {α : Type} (descriptors : List Int32) {next : Owning α}
    {after : α → Account Int32 → Prop}
    (each : ∀ before : Account Int32 → Prop, Triple before next after) :
    Triple before (closeDescriptors descriptors >>= fun _ => next) after :=
  Triple.bind (Triple.change fun _ _ => trivial : Triple before (closeDescriptors descriptors)
    fun _ _ => True) fun _ => each _

theorem mapInputsOwned_result (kernel : Kernel) (inputs : List InvocationInput)
    (descriptors : List Int32) (mapped : List InvocationMappedInput) :
    Triple before (mapInputsOwned kernel inputs descriptors mapped)
      fun outcome _ => outcome =
        (mapInputs kernel inputs descriptors).map fun later => mapped ++ later := by
  induction inputs generalizing before descriptors mapped with
  | nil =>
      unfold mapInputsOwned mapInputs
      apply anyClosing
      intro closed
      apply Triple.pure
      intro account holds
      rw [Option.map_some, List.append_nil]
  | cons input inputs ih =>
      cases descriptors with
      | nil =>
          unfold mapInputsOwned mapInputs
          exact anyClosing before _ fun _ => Triple.pure _ fun _ _ => rfl
      | cons descriptor descriptors =>
          unfold mapInputsOwned mapInputs
          by_cases large : input.reference.regionSize > kMaxSize
          · rw [if_pos large, if_pos large]
            exact anyClosing before _ fun _ => anyClosing _ _ fun _ => Triple.pure _ fun _ _ => rfl
          · rw [if_neg large, if_neg large]
            apply Triple.bind (mapOwned_result before kernel true "mmap read-only" descriptor
              input.reference.regionSize input.reference.regionId)
            intro region
            apply Triple.from_state
            intro start same
            have read : MappedRegion.mapExistingReadOnly kernel descriptor
                input.reference.regionSize input.reference.regionId = region := same.symm
            rw [read]
            cases region with
            | error message =>
                exact anyClosing _ _ fun _ => anyClosing _ _ fun _ => Triple.pure _ fun _ _ => rfl
            | ok region =>
                apply (ih _ descriptors _).weaken
                intro outcome account result
                rw [result, Option.map_map]
                congr
                funext later
                exact List.append_assoc _ _ _

theorem answerOwned_result (serverProcess : Int64) (handler : InvocationHandler)
    (sent : Except StdString Unit) (request : InvocationRequest)
    (inputs : List InvocationMappedInput) :
    Triple before (answerOwned serverProcess handler sent request inputs)
      fun outcome _ => outcome =
        match InvocationProtocol.encodeInvocationResponse
          (assembleResponse serverProcess request (caught (handler request inputs))) with
        | .error _ => none
        | .ok packet =>
            (sendPacket sent packet
              (if (assembleResponse serverProcess request
                  (caught (handler request inputs))).outputAvailable then
                [(caught (handler request inputs)).output.descriptor]
              else [])).toOption := by
  unfold answerOwned
  generalize caught (handler request inputs) = result
  dsimp only
  generalize assembleResponse serverProcess request result = response
  have handed : Triple before (Program.change (Account.receive
      ([result.output.descriptor].filter fun descriptor => decide (0 ≤ descriptor))) :
        Owning Unit) fun _ _ => True := Triple.change fun _ _ => trivial
  apply Triple.bind handed
  intro nothing
  cases InvocationProtocol.encodeInvocationResponse response with
  | error message =>
      exact anyClosing _ _ fun _ => anyClosing _ _ fun _ => Triple.pure _ fun _ _ => rfl
  | ok packet =>
      dsimp only
      by_cases available : response.outputAvailable = true
      · rw [if_pos available, if_pos available]
        exact anyClosing _ _ fun _ => anyClosing _ _ fun _ => Triple.pure _ fun _ _ => rfl
      · rw [if_neg available, if_neg available]
        exact anyClosing _ _ fun _ => anyClosing _ _ fun _ => Triple.pure _ fun _ _ => rfl

theorem handleClientOwned_result (serverProcess : Int64) (handler : InvocationHandler)
    (connection : ClientConnection) :
    Triple before (handleClientOwned serverProcess handler connection)
      fun outcome _ => outcome = handleClient serverProcess handler connection := by
  unfold handleClientOwned handleClient handlerArguments
  by_cases stranger : (!connection.sameUser) = true
  · rw [if_pos stranger, if_pos stranger]
    exact Triple.pure _ fun _ _ => rfl
  · rw [if_neg stranger, if_neg stranger]
    apply Triple.bind (receiveOwned_result before connection.received)
    intro received
    apply Triple.from_state
    intro start same
    rw [← same]
    cases received with
    | error message => exact Triple.pure _ fun _ _ => rfl
    | ok pair =>
        obtain ⟨packet, descriptors⟩ := pair
        dsimp only
        cases InvocationProtocol.decodeInvocationRequest packet {} with
        | error message => exact anyClosing _ _ fun _ => Triple.pure _ fun _ _ => rfl
        | ok request =>
            dsimp only
            by_cases mismatch : descriptors.length ≠ request.inputs.length
            · rw [if_pos mismatch, if_pos mismatch]
              exact anyClosing _ _ fun _ => Triple.pure _ fun _ _ => rfl
            · rw [if_neg mismatch, if_neg mismatch]
              apply Triple.bind (mapInputsOwned_result _ connection.kernel request.inputs
                descriptors [])
              intro inputs
              apply Triple.from_state
              intro middle mapped
              have read : mapInputs connection.kernel request.inputs descriptors = inputs := by
                rw [mapped]
                cases mapInputs connection.kernel request.inputs descriptors with
                | none => rfl
                | some later => rfl
              rw [read]
              cases inputs with
              | none => exact Triple.pure _ fun _ _ => rfl
              | some inputs =>
                  exact answerOwned_result _ serverProcess handler connection.sent request inputs

end Results

/-! ### The inputs -/

def regionDescriptors (inputs : List InvocationMappedInput) : List Int32 :=
  inputs.map fun input => input.region.descriptor

def AllOpen (descriptors : List Int32) : Prop :=
  ∀ descriptor ∈ descriptors, 0 ≤ descriptor

/-- What the inputs own after the loop. -/
def inputDescriptors : Option (List InvocationMappedInput) → List Int32
  | none => []
  | some inputs => regionDescriptors inputs

private theorem destroyInputs_spec {inputs : List InvocationMappedInput}
    (valid : AllOpen (regionDescriptors inputs)) :
    Triple (Holds received (regionDescriptors inputs)) (destroyInputs inputs)
      fun _ => Holds received [] :=
  closeDescriptors_all valid

/-- Every exit from the loop closes what has not become an input. -/
theorem mapInputsOwned_spec (kernel : Kernel) (inputs : List InvocationInput)
    (sized : ∀ input ∈ inputs, input.reference.regionSize ≠ 0) (descriptors : List Int32)
    (valid : AllOpen descriptors) (mapped : List InvocationMappedInput)
    (mappedValid : AllOpen (regionDescriptors mapped)) :
    Triple (Holds received (descriptors ++ regionDescriptors mapped))
      (mapInputsOwned kernel inputs descriptors mapped)
      fun outcome account => Holds received (inputDescriptors outcome) account ∧
        AllOpen (inputDescriptors outcome) := by
  have nothing : AllOpen [] := nofun
  induction inputs generalizing descriptors mapped with
  | nil =>
      apply Triple.bind (closeDescriptors_spec valid)
      intro closed
      exact Triple.pure _ fun _ holds => ⟨holds, mappedValid⟩
  | cons input inputs ih =>
      obtain ⟨inputSized, othersSized⟩ := List.forall_mem_cons.mp sized
      cases descriptors with
      | nil =>
          apply Triple.bind (destroyInputs_spec mappedValid)
          intro closed
          exact Triple.pure _ fun _ holds => ⟨holds, nothing⟩
      | cons descriptor descriptors =>
          obtain ⟨isOpen, othersOpen⟩ := List.forall_mem_cons.mp valid
          unfold mapInputsOwned
          apply Triple.ite
          · intro large
            apply Triple.bind (closeDescriptors_spec valid)
            intro closed
            apply Triple.bind (destroyInputs_spec mappedValid)
            intro destroyed
            exact Triple.pure _ fun _ holds => ⟨holds, nothing⟩
          · intro mappable
            apply Triple.bind (mapOwned_spec kernel true "mmap read-only"
              input.reference.regionId isOpen inputSized)
            intro region
            cases region with
            | error message =>
                have closes : Triple (Holds received (descriptors ++ regionDescriptors mapped))
                    (closeDescriptors descriptors)
                    fun _ => Holds received (regionDescriptors mapped) :=
                  closeDescriptors_spec othersOpen
                apply Triple.bind (closes.strengthen fun _ holds => holds.1)
                intro closed
                apply Triple.bind (destroyInputs_spec mappedValid)
                intro destroyed
                exact Triple.pure _ fun _ holds => ⟨holds, nothing⟩
            | ok region =>
                apply Triple.from_state
                intro start holds
                have own := holds.2 region rfl
                -- The descriptor moves from the vector to the inputs.
                have moved : ([region.descriptor] ++
                    (descriptors ++ regionDescriptors mapped)).Perm
                      (descriptors ++ regionDescriptors (mapped ++ [{
                        producerId := input.producerId
                        reference := input.reference
                        region := region }])) := by
                  unfold regionDescriptors
                  rw [List.map_append, ← List.append_assoc descriptors]
                  exact List.perm_append_comm
                apply (ih othersSized descriptors othersOpen _ _).strengthen
                · intro account same
                  rw [same]
                  exact holds.1.rearrange moved
                · intro other member
                  unfold regionDescriptors at member
                  rw [List.map_append, List.mem_append] at member
                  rcases member with older | newer
                  · exact mappedValid other older
                  · rw [List.mem_singleton.mp newer]
                    change 0 ≤ region.descriptor
                    rw [own]
                    exact isOpen

/-! ### The answer -/

/-- The descriptor that the handler hands over with its result. -/
def handedOver (result : InvocationHandlerResult) : List Int32 :=
  [result.output.descriptor].filter fun descriptor => decide (0 ≤ descriptor)

/-- Only a descriptor of the output is sent. -/
def SentFrom (handed : List Int32) (outcome : Option (List UInt8 × List Int32)) : Prop :=
  ∀ packet sent, outcome = some (packet, sent) → sent = [] ∨ sent = handed

private theorem sendPacket_sent {answer : Except StdString Unit} {packet : List UInt8}
    {descriptor : Int32} :
    SentFrom ([descriptor].filter fun other => decide (0 ≤ other))
      (sendPacket answer packet [descriptor]).toOption := by
  intro sentPacket sent same
  right
  unfold sendPacket at same
  split at same
  · cases same
  · split at same
    · cases same
    · rename_i valid
      cases answer with
      | error reason => cases same
      | ok taken =>
          cases same
          have isOpen : 0 ≤ descriptor := by
            apply Int32.not_lt.mp
            intro negative
            exact valid ⟨descriptor, List.mem_singleton_self _, negative⟩
          simp [isOpen]

private theorem sendPacket_bare (answer : Except StdString Unit) (packet : List UInt8)
    (handed : List Int32) : SentFrom handed (sendPacket answer packet []).toOption := by
  intro sentPacket sent same
  left
  unfold sendPacket at same
  split at same
  · cases same
  · split at same
    · cases same
    · cases answer with
      | error reason => cases same
      | ok taken =>
          cases same
          rfl

theorem answerOwned_spec (serverProcess : Int64) (handler : InvocationHandler)
    (answer : Except StdString Unit) (request : InvocationRequest)
    {inputs : List InvocationMappedInput}
    (valid : AllOpen (regionDescriptors inputs)) :
    Triple (Holds received (regionDescriptors inputs))
      (answerOwned serverProcess handler answer request inputs)
      fun outcome account => ∃ handed,
        Holds (received ++ handed) [] account ∧ SentFrom handed outcome := by
  unfold answerOwned
  generalize caught (handler request inputs) = result
  dsimp only
  generalize assembleResponse serverProcess request result = response
  have hands : Triple (Holds received (regionDescriptors inputs))
      (Program.change (Account.receive (handedOver result)) : Owning Unit)
      fun _ => Holds (received ++ handedOver result)
        (handedOver result ++ regionDescriptors inputs) :=
    (Account.receives (handedOver result)).weaken fun _ _ holds =>
      holds.rearrange List.perm_append_comm
  have closes : Triple
      (Holds (received ++ handedOver result) (handedOver result ++ regionDescriptors inputs))
      (closeDescriptors [result.output.descriptor])
      fun _ => Holds (received ++ handedOver result) (regionDescriptors inputs) :=
    Account.closes
  have ends (outcome : Option (List UInt8 × List Int32))
      (sent : SentFrom (handedOver result) outcome) :
      Triple (Holds (received ++ handedOver result)
          (handedOver result ++ regionDescriptors inputs))
        (closeDescriptors [result.output.descriptor] >>= fun _ =>
          destroyInputs inputs >>= fun _ => pure outcome)
        fun outcome account => ∃ handed,
          Holds (received ++ handed) [] account ∧ SentFrom handed outcome := by
    apply Triple.bind closes
    intro closed
    apply Triple.bind (destroyInputs_spec valid)
    intro destroyed
    exact Triple.pure _ fun _ holds => ⟨handedOver result, holds, sent⟩
  apply Triple.bind hands
  intro nothing
  cases InvocationProtocol.encodeInvocationResponse response with
  | error message => exact ends none nofun
  | ok packet =>
      apply Triple.ite
      · intro available
        exact ends _ sendPacket_sent
      · intro absent
        exact ends _ (sendPacket_bare answer packet _)

/-! ### The connection -/

def ClientConnection.Whole (connection : ClientConnection) : Prop :=
  ∀ datagram, connection.received = .ok datagram → datagram.Whole

/-- The descriptors that the kernel delivers to the server. -/
def deliveredToServer (connection : ClientConnection) : List Int32 :=
  if !connection.sameUser then []
  else
    match connection.received with
    | .error _ => []
    | .ok datagram => datagram.delivered

/-- The server reads an empty packet with descriptors. -/
def strandsDescriptors (connection : ClientConnection) : Bool :=
  connection.sameUser &&
    match connection.received with
    | .error _ => false
    | .ok datagram => datagram.stranded

/-- Everything that came in is closed as often as it came.  This is what the kernel has
delivered and what the handler has handed over, and only the latter is sent. -/
structure ServerConserves (serverProcess : Int64) (handler : InvocationHandler)
    (connection : ClientConnection) : Prop where
  settled : ∀ run, handleClientOwned serverProcess handler connection {} (fun _ => ()) = run →
    run.1.2.Settled
  incoming : ∀ run, handleClientOwned serverProcess handler connection {} (fun _ => ()) = run →
    ∃ handed, run.1.2.received = deliveredToServer connection ++ handed ∧
      SentFrom handed run.1.1

/-- What follows the packet: every exit closes its descriptors. -/
private theorem handleReceived_spec (serverProcess : Int64) (handler : InvocationHandler)
    (connection : ClientConnection) (packet : List UInt8) (valid : AllOpen descriptors) :
    Triple (Holds received descriptors)
      (match InvocationProtocol.decodeInvocationRequest packet {} with
        | .error _ => closeDescriptors descriptors >>= fun _ => pure none
        | .ok request =>
            if descriptors.length ≠ request.inputs.length then
              closeDescriptors descriptors >>= fun _ => pure none
            else
              mapInputsOwned connection.kernel request.inputs descriptors [] >>= fun inputs =>
                match inputs with
                | none => pure none
                | some inputs => answerOwned serverProcess handler connection.sent request inputs)
      fun outcome account => ∃ handed,
        Holds (received ++ handed) [] account ∧ SentFrom handed outcome := by
  have closes : Triple (Holds received descriptors)
      (closeDescriptors descriptors >>= fun _ =>
        (pure none : Owning (Option (List UInt8 × List Int32))))
      fun outcome account => ∃ handed,
        Holds (received ++ handed) [] account ∧ SentFrom handed outcome := by
    apply Triple.bind (closeDescriptors_all valid)
    intro closed
    apply Triple.pure
    intro account holds
    refine ⟨[], ?_, nofun⟩
    rw [List.append_nil]
    exact holds
  cases decoded : InvocationProtocol.decodeInvocationRequest packet {} with
  | error message => exact closes
  | ok request =>
      apply Triple.ite
      · intro mismatch
        exact closes
      · intro counted
        have accepted :=
          ((InvocationProtocol.decodeInvocationRequest_iff packet {} request).mp decoded).1
        have sized : ∀ input ∈ request.inputs, input.reference.regionSize ≠ 0 := by
          intro input member
          have inside := (accepted.inputs input member).2
          unfold InvocationProtocol.validReference insideRegion at inside
          simp only [Bool.and_eq_true, bne_iff_ne] at inside
          exact inside.1.1.1.2
        have maps : Triple (Holds received (descriptors ++ []))
            (mapInputsOwned connection.kernel request.inputs descriptors [])
            fun outcome account => Holds received (inputDescriptors outcome) account ∧
              AllOpen (inputDescriptors outcome) :=
          mapInputsOwned_spec connection.kernel request.inputs sized descriptors valid [] nofun
        rw [List.append_nil] at maps
        apply Triple.bind maps
        intro inputs
        apply Triple.from_state
        intro start holds
        cases inputs with
        | none =>
            apply Triple.pure
            intro account same
            subst same
            refine ⟨[], ?_, nofun⟩
            rw [List.append_nil]
            exact holds.1
        | some inputs =>
            apply (answerOwned_spec serverProcess handler connection.sent request
              holds.2).strengthen
            intro account same
            rw [same]
            exact holds.1

theorem handleClientOwned_spec (serverProcess : Int64) (handler : InvocationHandler)
    {connection : ClientConnection} (whole : connection.Whole) :
    Triple (Holds [] []) (handleClientOwned serverProcess handler connection)
      fun outcome account => ∃ handed,
        Holds (deliveredToServer connection ++ handed)
          (if strandsDescriptors connection then deliveredToServer connection else [])
          account ∧ SentFrom handed outcome := by
  have nothing : SentFrom [] none := nofun
  unfold handleClientOwned deliveredToServer strandsDescriptors
  cases user : connection.sameUser with
  | false => exact Triple.pure _ fun _ holds => ⟨[], holds, nothing⟩
  | true =>
      cases answer : connection.received with
      | error reason => exact Triple.pure _ fun _ holds => ⟨[], holds, nothing⟩
      | ok datagram =>
          have present := whole datagram answer
          simp only [Bool.not_true, Bool.false_eq_true, if_false, Bool.true_and]
          apply Triple.bind (receiveOwned_spec present)
          intro outcome
          apply Triple.from_state
          intro start known
          obtain ⟨holds, named⟩ := known
          cases outcome with
          | error message =>
              apply Triple.pure
              intro account here
              subst here
              refine ⟨[], ?_, nothing⟩
              rw [List.append_nil, datagram.stranded_left]
              exact holds
          | ok pair =>
              obtain ⟨packet, descriptors⟩ := pair
              obtain ⟨filled, all⟩ := named packet descriptors rfl
              subst all
              rw [Datagram.not_stranded filled, if_neg Bool.false_ne_true]
              rw [filled, if_neg Bool.false_ne_true] at holds
              apply (handleReceived_spec serverProcess handler connection packet
                present.valid).strengthen
              intro account here
              rw [here]
              exact holds

private theorem delivered_of_strands {connection : ClientConnection}
    (strands : strandsDescriptors connection = true) : deliveredToServer connection ≠ [] := by
  intro none
  unfold strandsDescriptors at strands
  unfold deliveredToServer at none
  cases user : connection.sameUser with
  | false =>
      rw [user] at strands
      cases strands
  | true =>
      cases answer : connection.received with
      | error reason =>
          rw [user, answer] at strands
          cases strands
      | ok datagram =>
          rw [user, answer] at strands none
          simp only [Bool.not_true, Bool.false_eq_true, if_false] at none
          exact Datagram.delivered_of_stranded strands none

/-- For every packet, every outcome of decoding and mapping and every handler, the server
closes each descriptor exactly once, unless an empty packet has brought it. -/
theorem server_descriptors_iff (serverProcess : Int64) (handler : InvocationHandler)
    (connection : ClientConnection) (whole : connection.Whole) :
    ServerConserves serverProcess handler connection ↔ strandsDescriptors connection = false := by
  obtain ⟨handed, holds, sent⟩ := (handleClientOwned_spec serverProcess handler whole).run {}
    (fun _ => ()) Account.holds_initial
  constructor
  · intro conserves
    have nothing := holds.settled_iff.mp (conserves.settled _ rfl)
    apply Bool.eq_false_of_not_eq_true
    intro strands
    rw [if_pos strands] at nothing
    exact delivered_of_strands strands nothing
  · intro keeps
    constructor
    · intro run same
      subst same
      apply holds.settled_iff.mpr
      rw [keeps]
      rfl
    · intro run same
      subst same
      exact ⟨handed, holds.received, sent⟩

/-- A handler that gives back its own region. -/
def ownRegion : InvocationHandler := fun _ _ =>
  .ok { status := ⟨0⟩
        output := { mapped := true, size := 8, regionId := 4, descriptor := 9 } }

theorem echo_conserved : ServerConserves 1 ownRegion echoConnection := by
  apply (server_descriptors_iff 1 ownRegion echoConnection ?_).mpr
  · decide +kernel
  · exact answeredWith_whole echoPacket (by decide) five_open

theorem empty_packet_stranded :
    ¬ServerConserves 1 ownRegion
      { received := .ok { packet := [], control := [{ descriptors := [5] }] }
        kernel := eightByteFiles } := by
  intro conserves
  have counted := (conserves.settled _ rfl).length_eq
  revert counted
  decide +kernel

end AgentNucleus.Runtime

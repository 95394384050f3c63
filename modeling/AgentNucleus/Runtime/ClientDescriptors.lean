/-
Where the descriptors of a response end.  Every one of them is closed or held by the
output, except those of an empty packet, and except several that come with a response
without an output.
-/

import AgentNucleus.Runtime.DescriptorOwnership

set_option autoImplicit false

namespace AgentNucleus.Runtime

open AgentNucleus.Library
open AgentNucleus.Library.Account (Holds)
open AgentNucleus.Library.Program (Triple)

/-! ### What the kernel delivers -/

/-- Whole descriptors, no more than fit into the control buffer. -/
structure Datagram.Whole (datagram : Datagram) : Prop where
  complete : ∀ header ∈ datagram.control, header.excess = 0
  few : datagram.delivered.length ≤ kMaxInvocationInputs
  valid : ∀ descriptor ∈ datagram.delivered, 0 ≤ descriptor

variable {received held descriptors : List Int32}

theorem closeDescriptors_spec (valid : ∀ descriptor ∈ descriptors, 0 ≤ descriptor) :
    Triple (Holds received (descriptors ++ held)) (closeDescriptors descriptors)
      fun _ => Holds received held := by
  have all : descriptors.filter (fun descriptor => decide (0 ≤ descriptor)) = descriptors := by
    rw [List.filter_eq_self]
    intro descriptor member
    exact decide_eq_true (valid descriptor member)
  unfold closeDescriptors
  rw [all]
  exact Account.closes

/-- All that is held is closed. -/
theorem closeDescriptors_all (valid : ∀ descriptor ∈ descriptors, 0 ≤ descriptor) :
    Triple (Holds received descriptors) (closeDescriptors descriptors)
      fun _ => Holds received [] := by
  have spec : Triple (Holds received (descriptors ++ [])) (closeDescriptors descriptors)
      fun _ => Holds received [] := closeDescriptors_spec valid
  rw [List.append_nil] at spec
  exact spec

/-- Whole messages are gathered without a failure. -/
theorem gatherOwned_whole (descriptors : List Int32) (control : List ControlMessage)
    (complete : ∀ header ∈ control, header.excess = 0)
    (few : descriptors.length +
      ((control.filter ControlMessage.rights).flatMap ControlMessage.descriptors).length ≤
        kMaxInvocationInputs) :
    gatherOwned descriptors control = pure (.ok (descriptors ++
      (control.filter ControlMessage.rights).flatMap ControlMessage.descriptors)) := by
  induction control generalizing descriptors with
  | nil =>
      rw [List.filter_nil, List.flatMap_nil, List.append_nil]
      rfl
  | cons header rest ih =>
      obtain ⟨whole, others⟩ := List.forall_mem_cons.mp complete
      have none : ¬header.excess.val ≠ 0 := not_not.mpr (congrArg Fin.val whole)
      unfold gatherOwned
      by_cases rights : header.rights = true
      · rw [List.filter_cons_of_pos rights, List.flatMap_cons, List.length_append] at few
        rw [List.filter_cons_of_pos rights, List.flatMap_cons]
        by_cases empty : header.descriptors.isEmpty = true
        · rw [if_pos (by rw [empty, Bool.or_true]), ih descriptors others (by omega),
            List.isEmpty_iff.mp empty, List.nil_append]
        · have fits : ¬kMaxInvocationInputs < descriptors.length + header.descriptors.length := by
            omega
          rw [if_neg (by simp [rights, empty]), if_neg none, if_neg fits,
            ih _ others (by rw [List.length_append]; omega), List.append_assoc]
      · rw [List.filter_cons_of_neg rights] at few ⊢
        rw [if_pos (by simp [rights]), ih descriptors others few]

/-- The descriptors that a received packet comes with. -/
def heldBy : Except StdString (List UInt8 × List Int32) → List Int32
  | .error _ => []
  | .ok (_, descriptors) => descriptors

/-- Only an empty packet leaves its descriptors behind. -/
theorem receiveOwned_spec {datagram : Datagram} (whole : datagram.Whole) :
    Triple (Holds [] []) (receiveOwned (.ok datagram))
      fun outcome account =>
        Holds datagram.delivered
          (if datagram.packet.isEmpty then datagram.delivered else heldBy outcome) account ∧
        ∀ packet descriptors, outcome = .ok (packet, descriptors) →
          datagram.packet.isEmpty = false ∧ descriptors = datagram.delivered := by
  have delivers : Triple (Holds [] [])
      (Program.change (Account.receive datagram.delivered) : Owning Unit)
      fun _ => Holds datagram.delivered datagram.delivered := Account.receives datagram.delivered
  unfold receiveOwned
  apply Triple.bind delivers
  intro nothing
  by_cases empty : datagram.packet.isEmpty = true
  · simp only [if_pos empty]
    exact Triple.pure _ fun _ holds => ⟨holds, nofun⟩
  · have gathered := gatherOwned_whole [] datagram.control whole.complete (by
      rw [List.length_nil, Nat.zero_add]
      exact whole.few)
    have present : datagram.packet.isEmpty = false := Bool.eq_false_of_not_eq_true empty
    simp only [if_neg empty]
    rw [gathered, List.nil_append, pure_bind]
    change Triple _ (if datagram.truncated then _ else _ : Owning _) _
    by_cases cut : datagram.truncated = true
    · rw [if_pos cut]
      apply Triple.bind (closeDescriptors_all whole.valid)
      intro closed
      exact Triple.pure _ fun _ holds => ⟨holds, nofun⟩
    · rw [if_neg cut]
      by_cases lost : datagram.controlTruncated = true
      · rw [if_pos lost]
        apply Triple.bind (closeDescriptors_all whole.valid)
        intro closed
        exact Triple.pure _ fun _ holds => ⟨holds, nofun⟩
      · rw [if_neg lost]
        apply Triple.pure
        intro account holds
        refine ⟨holds, ?_⟩
        intro packet descriptors same
        cases same
        exact ⟨present, rfl⟩

/-! ### Mapping -/

/-- The descriptor of a region that was mapped. -/
def descriptorOf : Except StdString MappedRegion → List Int32
  | .error _ => []
  | .ok region => [region.descriptor]

/-- A valid descriptor is in the region or closed. -/
theorem mapOwned_spec (kernel : Kernel) (readOnly : Bool) (operation : String)
    {descriptor : Int32} {size : UInt64} (regionId : UInt64) (valid : 0 ≤ descriptor)
    (sized : size ≠ 0) :
    Triple (Holds received (descriptor :: held))
      (mapOwned kernel readOnly operation descriptor size regionId)
      fun region account => Holds received (descriptorOf region ++ held) account ∧
        ∀ mapped, region = .ok mapped → mapped.descriptor = descriptor := by
  have single : ∀ other ∈ [descriptor], 0 ≤ other := by
    intro other member
    rw [List.mem_singleton.mp member]
    exact valid
  have closes : Triple (Holds received (descriptor :: held)) (closeDescriptors [descriptor])
      fun _ => Holds received held := closeDescriptors_spec single
  have possible : ¬(descriptor < 0 ∨ size = 0) := by
    intro invalid
    rcases invalid with negative | zero
    · exact absurd valid (Int32.not_le.mpr negative)
    · exact sized zero
  unfold mapOwned
  rw [if_neg possible]
  apply Triple.ite
  · intro small
    apply Triple.bind closes
    intro closed
    exact Triple.pure _ fun _ holds => ⟨holds, nofun⟩
  · intro covered
    cases kernel.mapping descriptor size with
    | error reason =>
        apply Triple.bind closes
        intro closed
        exact Triple.pure _ fun _ holds => ⟨holds, nofun⟩
    | ok nothing =>
        apply Triple.pure
        intro account holds
        refine ⟨holds, ?_⟩
        intro mapped same
        cases same
        rfl

/-! ### The response -/

/-- The descriptor that the result owns. -/
def ownedBy : Except StdString InvocationCallResult → List Int32
  | .error _ => []
  | .ok result => [result.output.descriptor].filter fun descriptor => decide (0 ≤ descriptor)

/-- A response to the request that announces no output comes with several descriptors. -/
def unclaimed (request : InvocationRequest) (packet : List UInt8) (descriptors : List Int32) :
    Bool :=
  match InvocationProtocol.decodeInvocationResponse packet {} with
  | .error _ => false
  | .ok response =>
      decide (response.agentId = request.agentId) && !response.outputAvailable &&
        decide (2 ≤ descriptors.length)

/-- A call that succeeds has received as many descriptors as its response announces. -/
def CountedAs (count : Nat) (outcome : Except StdString InvocationCallResult) : Prop :=
  ∀ result, outcome = .ok result → count = if result.response.outputAvailable then 1 else 0

private theorem regionSize_ne_zero {packet : List UInt8} {response : InvocationResponse}
    (decoded : InvocationProtocol.decodeInvocationResponse packet {} = .ok response)
    (available : response.outputAvailable = true) : response.output.regionSize ≠ 0 := by
  have valid :=
    ((InvocationProtocol.decodeInvocationResponse_iff packet {} response).mp decoded).1.1.output
      available
  unfold InvocationProtocol.validReference insideRegion at valid
  simp only [Bool.and_eq_true, bne_iff_ne] at valid
  exact valid.1.1.1.2

private theorem mapOutputOwned_announced (kernel : Kernel) {response : InvocationResponse}
    {descriptor : Int32} (available : response.outputAvailable = true)
    (sized : response.output.regionSize ≠ 0) (valid : 0 ≤ descriptor) :
    Triple (Holds received [descriptor]) (mapOutputOwned kernel response [descriptor])
      fun region account => Holds received (descriptorOf region) account ∧
        ∀ mapped, region = .ok mapped → mapped.descriptor = descriptor := by
  have present : ¬(!response.outputAvailable) = true := by
    rw [available]
    exact Bool.false_ne_true
  unfold mapOutputOwned
  dsimp only
  rw [if_neg present]
  apply Triple.ite
  · intro large
    have single : ∀ other ∈ [descriptor], 0 ≤ other := by
      intro other member
      rw [List.mem_singleton.mp member]
      exact valid
    apply Triple.bind (closeDescriptors_all single)
    intro closed
    exact Triple.pure _ fun _ holds => ⟨holds, nofun⟩
  · intro mappable
    have maps : Triple (Holds received (descriptor :: []))
        (mapOwned kernel false "mmap" descriptor response.output.regionSize
          response.output.regionId)
        fun region account => Holds received (descriptorOf region ++ []) account ∧
          ∀ mapped, region = .ok mapped → mapped.descriptor = descriptor :=
      mapOwned_spec kernel false "mmap" response.output.regionId valid sized
    apply maps.weaken
    intro region account holds
    rw [List.append_nil] at holds
    exact holds

private theorem mapOutputOwned_silent (kernel : Kernel) {response : InvocationResponse}
    (silent : response.outputAvailable = false) (descriptors : List Int32) :
    mapOutputOwned kernel response descriptors = pure (.ok {}) := by
  cases descriptors with
  | nil => rfl
  | cons descriptor rest =>
      unfold mapOutputOwned
      rw [silent]
      rfl

theorem takeResponse_spec (kernel : Kernel) (request : InvocationRequest) (packet : List UInt8)
    (valid : ∀ descriptor ∈ descriptors, 0 ≤ descriptor) :
    Triple (Holds received descriptors) (takeResponse kernel request packet descriptors)
      fun outcome account =>
        Holds received (ownedBy outcome ++
          if unclaimed request packet descriptors then descriptors else []) account ∧
        (unclaimed request packet descriptors = false →
          CountedAs descriptors.length outcome) := by
  have refused (message : StdString) (claimed : unclaimed request packet descriptors = false) :
      Triple (Holds received descriptors)
        (closeDescriptors descriptors >>= fun _ => pure (.error message))
        fun (outcome : Except StdString InvocationCallResult) account =>
          Holds received (ownedBy outcome ++
            if unclaimed request packet descriptors then descriptors else []) account ∧
          (unclaimed request packet descriptors = false →
            CountedAs descriptors.length outcome) := by
    rw [claimed]
    apply Triple.bind (closeDescriptors_all valid)
    intro closed
    exact Triple.pure _ fun _ holds => ⟨holds, fun _ _ => nofun⟩
  unfold takeResponse
  cases decoded : InvocationProtocol.decodeInvocationResponse packet {} with
  | error message =>
      apply refused message
      unfold unclaimed
      rw [decoded]
  | ok response =>
      have read : unclaimed request packet descriptors =
          (decide (response.agentId = request.agentId) && !response.outputAvailable &&
            decide (2 ≤ descriptors.length)) := by
        unfold unclaimed
        rw [decoded]
      dsimp only
      by_cases other : response.agentId ≠ request.agentId
      · rw [if_pos other]
        apply refused
        rw [read, decide_eq_false other, Bool.false_and, Bool.false_and]
      · rw [if_neg other]
        rw [decide_eq_true (not_not.mp other), Bool.true_and] at read
        by_cases mismatch : response.outputAvailable ≠ decide (descriptors.length = 1)
        · rw [if_pos mismatch]
          apply refused
          rw [read]
          cases available : response.outputAvailable with
          | true => rfl
          | false =>
              rw [available] at mismatch
              have single : descriptors.length = 1 := by
                by_contra several
                exact mismatch (decide_eq_false several).symm
              rw [single]
              rfl
        · rw [if_neg mismatch]
          have counted := not_not.mp mismatch
          cases available : response.outputAvailable with
          | true =>
              rw [available] at counted read
              obtain ⟨descriptor, same⟩ :=
                List.length_eq_one_iff.mp (of_decide_eq_true counted.symm)
              subst same
              have nonnegative := valid descriptor (List.mem_singleton_self descriptor)
              rw [read]
              apply Triple.bind (mapOutputOwned_announced kernel available
                (regionSize_ne_zero decoded available) nonnegative)
              intro region
              cases region with
              | error message =>
                  exact Triple.pure _ fun _ holds => ⟨holds.1, fun _ _ => nofun⟩
              | ok region =>
                  apply Triple.pure
                  intro account holds
                  have own := holds.2 region rfl
                  constructor
                  · change Holds received (([region.descriptor].filter fun descriptor =>
                      decide (0 ≤ descriptor)) ++ []) account
                    rw [List.append_nil, List.filter_cons_of_pos (by
                      rw [own]
                      exact decide_eq_true nonnegative)]
                    exact holds.1
                  · intro _ result same
                    cases same
                    rw [available]
                    rfl
          | false =>
              rw [available] at counted read
              rw [mapOutputOwned_silent kernel available, pure_bind]
              apply Triple.pure
              intro account holds
              have several : descriptors.length ≠ 1 := of_decide_eq_false counted.symm
              have nothing : ownedBy (.ok { response, output := {} }) = [] := rfl
              rw [nothing, List.nil_append, read, Bool.not_false, Bool.true_and]
              constructor
              · by_cases many : 2 ≤ descriptors.length
                · rw [if_pos (decide_eq_true many)]
                  exact holds
                · have none : descriptors = [] := List.length_eq_zero_iff.mp (by omega)
                  rw [if_neg (by simpa using many), ← none]
                  exact holds
              · intro few result same
                cases same
                have bound := of_decide_eq_false few
                rw [available, if_neg Bool.false_ne_true]
                omega

/-! ### The call -/

/-- An empty packet with descriptors. -/
def Datagram.stranded (datagram : Datagram) : Bool :=
  datagram.packet.isEmpty && !datagram.delivered.isEmpty

theorem Datagram.not_stranded {datagram : Datagram} (present : datagram.packet.isEmpty = false) :
    datagram.stranded = false := by
  unfold Datagram.stranded
  rw [present, Bool.false_and]

theorem Datagram.delivered_of_stranded {datagram : Datagram}
    (stranded : datagram.stranded = true) : datagram.delivered ≠ [] := by
  intro none
  unfold Datagram.stranded at stranded
  rw [none] at stranded
  simp at stranded

/-- What an empty packet leaves behind. -/
theorem Datagram.stranded_left (datagram : Datagram) :
    (if datagram.stranded then datagram.delivered else []) =
      if datagram.packet.isEmpty then datagram.delivered else [] := by
  unfold Datagram.stranded
  cases datagram.packet.isEmpty with
  | false => rfl
  | true =>
      cases none : datagram.delivered.isEmpty with
      | false => rfl
      | true =>
          rw [List.isEmpty_iff.mp none]
          rfl

def unclaimedIn (request : InvocationRequest) : Except StdString (List UInt8 × List Int32) → Bool
  | .error _ => false
  | .ok (packet, descriptors) => unclaimed request packet descriptors

/-- The response is an empty packet with descriptors, or it announces no output and
comes with several descriptors. -/
def Datagram.loses (datagram : Datagram) (request : InvocationRequest) : Bool :=
  datagram.stranded || unclaimedIn request (receivePacket (.ok datagram))

/-- What the call receives, if it gets that far. -/
def responseTo (exchange : Exchange) (request : InvocationRequest)
    (attachments : List InvocationAttachment) : Option Datagram :=
  match askBackend exchange request attachments with
  | .error _ => none
  | .ok _ => exchange.received.toOption

def losesDescriptors (exchange : Exchange) (request : InvocationRequest)
    (attachments : List InvocationAttachment) : Bool :=
  (responseTo exchange request attachments).any fun datagram => datagram.loses request

def Exchange.Whole (exchange : Exchange) : Prop :=
  ∀ datagram, exchange.received = .ok datagram → datagram.Whole

/-- Every descriptor is closed or owned by the output, and a call that succeeds has
received as many as its response announces. -/
structure Conserves (exchange : Exchange) (request : InvocationRequest)
    (attachments : List InvocationAttachment) : Prop where
  disposed : ∀ run, invokeOwned exchange request attachments {} (fun _ => ()) = run →
    (run.1.2.closed ++ ownedBy run.1.1).Perm run.1.2.received
  counted : ∀ run, invokeOwned exchange request attachments {} (fun _ => ()) = run →
    CountedAs run.1.2.received.length run.1.1

variable {datagram : Datagram} {request : InvocationRequest}

/-- What is lost is not nothing. -/
private theorem delivered_of_loses (whole : datagram.Whole)
    (loses : datagram.loses request = true) : datagram.delivered ≠ [] := by
  intro none
  unfold Datagram.loses at loses
  rw [Bool.or_eq_true] at loses
  rcases loses with stranded | several
  · exact Datagram.delivered_of_stranded stranded none
  · have run := ((receiveOwned_spec whole).both
      (receiveOwned_result (Holds [] []) (.ok datagram))).run {} (fun _ => ())
        Account.holds_initial
    rw [← run.2] at several
    have named := run.1.2
    generalize (receiveOwned (.ok datagram) {} fun _ => ()).1.1 = outcome at several named
    cases outcome with
    | error message => cases several
    | ok pair =>
        have same := (named pair.1 pair.2 rfl).2
        unfold unclaimedIn unclaimed at several
        dsimp only at several
        rw [same, none] at several
        split at several
        · cases several
        · simp at several

private theorem receive_take_spec (kernel : Kernel) (whole : datagram.Whole) :
    Triple (Holds [] [])
      (receiveOwned (.ok datagram) >>= fun received =>
        match received with
        | .error message => pure (.error message)
        | .ok (packet, descriptors) => takeResponse kernel request packet descriptors)
      fun outcome account =>
        Holds datagram.delivered (ownedBy outcome ++
          if datagram.loses request then datagram.delivered else []) account ∧
        (datagram.loses request = false → CountedAs datagram.delivered.length outcome) := by
  apply Triple.bind ((receiveOwned_spec whole).both
    (receiveOwned_result (Holds [] []) (.ok datagram)))
  intro outcome
  apply Triple.from_state
  intro start known
  obtain ⟨⟨holds, named⟩, same⟩ := known
  have loses : datagram.loses request = (datagram.stranded || unclaimedIn request outcome) := by
    rw [same]
    rfl
  rw [loses]
  cases outcome with
  | error message =>
      apply Triple.pure
      intro account here
      subst here
      refine ⟨?_, fun _ _ => nofun⟩
      change Holds datagram.delivered
        (if (datagram.stranded || false) = true then datagram.delivered else []) account
      rw [Bool.or_false, datagram.stranded_left]
      exact holds
  | ok pair =>
      obtain ⟨packet, descriptors⟩ := pair
      obtain ⟨present, all⟩ := named packet descriptors rfl
      subst all
      rw [Datagram.not_stranded present, Bool.false_or]
      rw [present, if_neg Bool.false_ne_true] at holds
      apply (takeResponse_spec kernel request packet whole.valid).strengthen
      intro account here
      rw [here]
      exact holds

theorem invokeOwned_spec {exchange : Exchange} (whole : exchange.Whole)
    (attachments : List InvocationAttachment) :
    Triple (Holds [] []) (invokeOwned exchange request attachments)
      fun outcome account => ∃ delivered,
        (losesDescriptors exchange request attachments = true → delivered ≠ []) ∧
        Holds delivered (ownedBy outcome ++
          if losesDescriptors exchange request attachments then delivered else []) account ∧
        (losesDescriptors exchange request attachments = false →
          CountedAs delivered.length outcome) := by
  unfold invokeOwned losesDescriptors responseTo
  cases askBackend exchange request attachments with
  | error message =>
      exact Triple.pure _ fun _ holds => ⟨[], nofun, holds, fun _ _ => nofun⟩
  | ok nothing =>
      cases answer : exchange.received with
      | error reason =>
          exact Triple.pure _ fun _ holds => ⟨[], nofun, holds, fun _ _ => nofun⟩
      | ok datagram =>
          have present := whole datagram answer
          apply (receive_take_spec exchange.kernel present).weaken
          intro outcome account holds
          exact ⟨datagram.delivered, delivered_of_loses present, holds.1, holds.2⟩

/-- Whatever the response, its descriptors and the mapping are, a call disposes of every
descriptor once unless it loses them in one of the two ways. -/
theorem client_descriptors_iff (exchange : Exchange) (whole : exchange.Whole)
    (request : InvocationRequest) (attachments : List InvocationAttachment) :
    Conserves exchange request attachments ↔
      losesDescriptors exchange request attachments = false := by
  obtain ⟨delivered, some, holds, counted⟩ := (invokeOwned_spec whole attachments).run {}
    (fun _ => ()) Account.holds_initial
  constructor
  · intro conserves
    have nothing := holds.perm_iff.mp (conserves.disposed _ rfl)
    apply Bool.eq_false_of_not_eq_true
    intro loses
    rw [if_pos loses] at nothing
    exact some loses nothing
  · intro keeps
    constructor
    · intro run same
      subst same
      apply holds.perm_iff.mpr
      rw [keeps]
      rfl
    · intro run same
      subst same
      rw [holds.received]
      exact counted keeps

/-- A tool call without inputs. -/
def plainRequest : InvocationRequest :=
  { agentId := 1
    kind := .tool
    target := text "echo"
    operation := text "execute" }

/-- Its response, without an output. -/
def silentPacket : List UInt8 :=
  frame InvocationProtocol.protocol InvocationProtocol.kResponseMessage
    (InvocationProtocol.responseBytes { agentId := 1 })

def answeredWith (packet : List UInt8) (control : List ControlMessage) : Exchange :=
  { received := .ok { packet, control }
    kernel := eightByteFiles }

theorem answeredWith_whole (packet : List UInt8) {descriptors : List Int32}
    (few : descriptors.length ≤ 64) (valid : ∀ descriptor ∈ descriptors, 0 ≤ descriptor) :
    (answeredWith packet [{ descriptors }]).Whole := by
  intro datagram same
  cases same
  have delivered : ({ packet, control := [{ descriptors }] } : Datagram).delivered =
      descriptors := by
    unfold Datagram.delivered
    simp
  refine ⟨?_, ?_, ?_⟩
  · intro header member
    rw [List.mem_singleton.mp member]
    rfl
  · rw [delivered]
    exact few
  · rw [delivered]
    exact valid

theorem five_open : ∀ descriptor ∈ [(5 : Int32)], 0 ≤ descriptor := by
  intro descriptor member
  rw [List.mem_singleton.mp member]
  decide

/-- One descriptor too many is closed. -/
theorem single_conserved :
    Conserves (answeredWith silentPacket [{ descriptors := [5] }]) plainRequest [] := by
  apply (client_descriptors_iff (answeredWith silentPacket [{ descriptors := [5] }])
    (answeredWith_whole silentPacket (by decide) five_open) plainRequest []).mpr
  decide +kernel

private theorem not_conserves {exchange : Exchange} {request : InvocationRequest}
    {attachments : List InvocationAttachment}
    (forgotten : ∀ run, invokeOwned exchange request attachments {} (fun _ => ()) = run →
      run.1.2.closed.length + (ownedBy run.1.1).length ≠ run.1.2.received.length) :
    ¬Conserves exchange request attachments := by
  intro conserves
  have counted := (conserves.disposed _ rfl).length_eq
  rw [List.length_append] at counted
  exact forgotten _ rfl counted

/-- The descriptor of an empty packet stays open, and so do two that come with a response
without an output, although the call succeeds. -/
theorem descriptors_lost :
    ¬Conserves (answeredWith [] [{ descriptors := [5] }]) plainRequest [] ∧
      ¬Conserves (answeredWith silentPacket [{ descriptors := [5, 6] }]) plainRequest [] := by
  constructor
  · apply not_conserves
    intro run same
    subst same
    decide +kernel
  · apply not_conserves
    intro run same
    subst same
    decide +kernel

end AgentNucleus.Runtime

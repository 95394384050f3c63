/-
`SharedMemoryRegion` with the system calls that it makes: creation, the mapping of a received
descriptor, moves, resizing, sealing and release.  Other processes may use every file of
which they were given a descriptor.
-/

import AgentNucleus.Library.SealedFiles
import AgentNucleus.Runtime.OutputCapture

set_option autoImplicit false

namespace AgentNucleus.Runtime

open AgentNucleus.Library

inductive Party
  | runtime
  | other
deriving DecidableEq, Repr

/-- The fields of `SharedMemoryRegion`; a null pointer and a negative descriptor are
`none`. -/
structure OwnedRegion where
  address : Option Nat := none
  size : UInt64 := 0
  descriptor : Option Nat := none
  regionId : UInt64 := 0
  readOnly : Bool := false
deriving DecidableEq, Repr

/-- The process with its descriptors and its region objects. -/
structure SharingProcess where
  kernel : FileKernel Party := {}
  descriptors : Nat → Option Nat := fun _ => none
  regions : Nat → OwnedRegion := fun _ => {}
  /-- The descriptors that are in the hands of the callers. -/
  loose : List Nat := []
  /-- Not in the program: whether somebody else may have a descriptor of the file. -/
  exposed : Nat → Bool := fun _ => false
  /-- Not in the program: the mappings that the kernel has refused to take back. -/
  abandoned : List Nat := []
  /-- Not in the program: how many calls were made with a descriptor or a mapping that is
  not there. -/
  faults : Nat := 0

/-- What the kernel answers while a region is obtained or changed. -/
structure RegionAnswers where
  descriptor : Option Nat := none
  inspected : Bool := true
  truncated : Bool := true
  unmapped : Bool := true
  sealed : Bool := true
  address : Option Nat := none
  regionId : UInt64 := 0

def allSeals : Seals where
  write := true
  grow := true
  shrink := true
  further := true

namespace SharingProcess

variable (process : SharingProcess)

def setRegion (slot : Nat) (region : OwnedRegion) : SharingProcess :=
  { process with regions := Function.update process.regions slot region }

def setDescriptor (descriptor : Nat) (file : Option Nat) : SharingProcess :=
  { process with descriptors := Function.update process.descriptors descriptor file }

def expose (file : Nat) : SharingProcess :=
  { process with exposed := Function.update process.exposed file true }

def fault : SharingProcess :=
  { process with faults := process.faults + 1 }

def setLoose (loose : List Nat) : SharingProcess :=
  { process with loose }

def abandon (address : Nat) : SharingProcess :=
  { process with abandoned := address :: process.abandoned }

/-- A call to the kernel. -/
def ask (granted : Bool) (request : FileCall Party) : SharingProcess × Bool :=
  let answer := process.kernel.call granted request
  ({ process with kernel := answer.1 }, answer.2)

/-! ### System calls -/

/-- The kernel chooses a descriptor that is not in use. -/
def memfdCreate (chosen : Option Nat) : SharingProcess × Option Nat :=
  match chosen with
  | none => (process, none)
  | some descriptor =>
      if (process.descriptors descriptor).isSome then (process, none)
      else
        (((process.ask true .create).1).setDescriptor descriptor (some process.kernel.created),
          some descriptor)

def ftruncate (descriptor : Nat) (size : UInt64) (granted : Bool) : SharingProcess × Bool :=
  match process.descriptors descriptor with
  | none => (process.fault, false)
  | some file => process.ask granted (.truncate file size.toNat)

def mmap (descriptor : Nat) (size : UInt64) (writable : Bool) (placed : Option Nat) :
    SharingProcess × Option Nat :=
  match process.descriptors descriptor with
  | none => (process.fault, none)
  | some file =>
      match placed with
      | none => (process, none)
      | some address =>
          let answer := process.ask true
            (.map address { owner := .runtime, file, length := size.toNat, writable })
          (answer.1, if answer.2 then some address else none)

def munmap (address : Nat) (size : UInt64) (granted : Bool) : SharingProcess × Bool :=
  match process.kernel.mappings.lookup address with
  | none => (process.fault, false)
  | some mapping =>
      if mapping.owner = .runtime ∧ mapping.length = size.toNat then
        process.ask granted (.unmap address)
      else (process.fault, false)

def addSeals (descriptor : Nat) (seals : Seals) (granted : Bool) : SharingProcess × Bool :=
  match process.descriptors descriptor with
  | none => (process.fault, false)
  | some file => process.ask granted (.addSeals file seals)

/-- `st_size`, unless `fstat` fails. -/
def fstat (descriptor : Nat) (granted : Bool) : Option Nat :=
  if granted then (process.descriptors descriptor).map fun file =>
    (process.kernel.files file).size
  else none

def close (descriptor : Nat) : SharingProcess :=
  match process.descriptors descriptor with
  | none => process.fault
  | some _ => process.setDescriptor descriptor none

/-! ### Regions -/

/-- The object that `create` returns is constructed in its place. -/
def create (slot : Nat) (size : UInt64) (answers : RegionAnswers) : SharingProcess :=
  if size = 0 ∨ size > kMaxOffset then process
  else
    match process.memfdCreate answers.descriptor with
    | (process, none) => process
    | (process, some descriptor) =>
        match process.ftruncate descriptor size answers.truncated with
        | (process, false) => process.close descriptor
        | (process, true) =>
            match process.mmap descriptor size true answers.address with
            | (process, none) => process.close descriptor
            | (process, some address) =>
                process.setRegion slot
                  { address := some address
                    size
                    descriptor := some descriptor
                    regionId := answers.regionId }

/-- `map_existing` and `map_existing_read_only`.  The descriptor of a caller is taken over or
closed; only if the size is zero it stays open. -/
def mapExisting (slot descriptor : Nat) (size regionId : UInt64) (readOnly : Bool)
    (answers : RegionAnswers) : SharingProcess :=
  if size = 0 then process
  else
    let process := process.setLoose (process.loose.filter fun other => other != descriptor)
    match process.fstat descriptor answers.inspected with
    | none => process.close descriptor
    | some stored =>
        if stored < size.toNat then process.close descriptor
        else
          match process.mmap descriptor size (!readOnly) answers.address with
          | (process, none) => process.close descriptor
          | (process, some address) =>
              process.setRegion slot
                { address := some address
                  size
                  descriptor := some descriptor
                  regionId
                  readOnly }

def valid (region : OwnedRegion) : Bool :=
  region.address.isSome && region.size > 0

/-- The mapping is given back, whether the kernel takes it or not. -/
def unmapQuietly (slot : Nat) (granted : Bool) : SharingProcess :=
  let region := process.regions slot
  match region.address with
  | none => process
  | some address =>
      if region.size > 0 then
        match process.munmap address region.size granted with
        | (process, true) => process
        | (process, false) => process.abandon address
      else process

def reset (slot : Nat) (answers : RegionAnswers) : SharingProcess :=
  let process := process.unmapQuietly slot answers.unmapped
  let process :=
    match (process.regions slot).descriptor with
    | none => process
    | some descriptor => process.close descriptor
  process.setRegion slot {}

/-- `release_descriptor`: whoever receives the descriptor may pass it on. -/
def releaseDescriptor (slot : Nat) (answers : RegionAnswers) : SharingProcess :=
  let process := process.unmapQuietly slot answers.unmapped
  match (process.regions slot).descriptor with
  | none => process.setRegion slot {}
  | some descriptor =>
      match process.descriptors descriptor with
      | none => process.setRegion slot {}
      | some file =>
          ((process.setRegion slot {}).setLoose (descriptor :: process.loose)).expose file

/-- The assignment from a region that is moved. -/
def moveFrom (slot source : Nat) (answers : RegionAnswers) : SharingProcess :=
  if slot = source then process
  else
    let process := process.reset slot answers
    let moved := process.regions source
    (process.setRegion slot moved).setRegion source {}

/-- A valid region has a descriptor. -/
def resize (slot : Nat) (size : UInt64) (answers : RegionAnswers) : SharingProcess × Bool :=
  let region := process.regions slot
  match region.address, region.descriptor with
  | some address, some descriptor =>
      if !valid region ∨ region.readOnly ∨ size = 0 ∨ size > kMaxOffset then (process, false)
      else if size = region.size then (process, true)
      else
        match process.munmap address region.size answers.unmapped with
        | (process, false) => (process, false)
        | (process, true) =>
            match process.ftruncate descriptor size answers.truncated with
            | (process, false) =>
                match process.mmap descriptor region.size true answers.address with
                | (process, mapped) =>
                    (process.setRegion slot { region with address := mapped }, false)
            | (process, true) =>
                match process.mmap descriptor size true answers.address with
                | (process, mapped) =>
                    (process.setRegion slot { region with address := mapped, size },
                      mapped.isSome)
  | _, _ => (process, false)

def sealReadOnly (slot : Nat) (answers : RegionAnswers) : SharingProcess × Bool :=
  let region := process.regions slot
  match region.address, region.descriptor with
  | some address, some descriptor =>
      if !valid region ∨ region.readOnly then (process, false)
      else
        match process.munmap address region.size answers.unmapped with
        | (process, false) => (process, false)
        | (process, true) =>
            match process.addSeals descriptor allSeals answers.sealed with
            | (process, false) =>
                (process.setRegion slot { region with address := none }, false)
            | (process, true) =>
                match process.mmap descriptor region.size false answers.address with
                | (process, none) =>
                    (process.setRegion slot { region with address := none }, false)
                | (process, some mapped) =>
                    (process.setRegion slot
                      { region with address := some mapped, readOnly := true }, true)
  | _, _ => (process, false)

/-- `fcntl` with `F_DUPFD_CLOEXEC`. -/
def duplicate (descriptor chosen : Nat) : SharingProcess :=
  match process.descriptors descriptor with
  | none => process
  | some file =>
      if (process.descriptors chosen).isSome then process
      else
        ((process.setDescriptor chosen (some file)).setLoose (chosen :: process.loose)).expose file

/-- A descriptor that another process has sent. -/
def receive (file chosen : Nat) : SharingProcess :=
  if (process.descriptors chosen).isSome ∨ process.exposed file = false ∨
      process.kernel.created ≤ file then process
  else (process.setDescriptor chosen (some file)).setLoose (chosen :: process.loose)

/-- A caller closes his descriptor. -/
def closeLoose (descriptor : Nat) : SharingProcess :=
  (process.close descriptor).setLoose (process.loose.filter fun other => other != descriptor)

/-- A byte is written through `data`. -/
def store (slot offset : Nat) (byte : UInt8) : SharingProcess :=
  match (process.regions slot).address with
  | none => process
  | some address => (process.ask true (.store address offset byte)).1

/-! ### The system -/

/-- What another process can ask for: its own mappings, and files of which it can have a
descriptor. -/
def otherMay : FileCall Party → Bool
  | .create => true
  | .write file _ _ => process.exposed file
  | .truncate file _ => process.exposed file
  | .addSeals file _ => process.exposed file
  | .map _ mapping => mapping.owner == .other && process.exposed mapping.file
  | .unmap address =>
      (process.kernel.mappings.lookup address).any fun mapping => mapping.owner == .other
  | .store address _ _ =>
      (process.kernel.mappings.lookup address).any fun mapping => mapping.owner == .other

def others (granted : Bool) (request : FileCall Party) : SharingProcess :=
  if process.otherMay request then
    match request with
    | .create =>
        if granted then ((process.expose process.kernel.created).ask true .create).1 else process
    | request => (process.ask granted request).1
  else process

end SharingProcess

/-- An object is constructed in a place where no other one is, and a caller passes on only
descriptors that are his. -/
inductive RegionStep
  | create (slot : Nat) (size : UInt64) (answers : RegionAnswers)
  | mapExisting (slot descriptor : Nat) (size regionId : UInt64) (readOnly : Bool)
      (answers : RegionAnswers)
  | moveFrom (slot source : Nat) (answers : RegionAnswers)
  | resize (slot : Nat) (size : UInt64) (answers : RegionAnswers)
  | sealReadOnly (slot : Nat) (answers : RegionAnswers)
  | releaseDescriptor (slot : Nat) (answers : RegionAnswers)
  | reset (slot : Nat) (answers : RegionAnswers)
  | store (slot offset : Nat) (byte : UInt8)
  | duplicate (descriptor chosen : Nat)
  | receive (file chosen : Nat)
  | closeLoose (descriptor : Nat)
  | others (granted : Bool) (request : FileCall Party)

namespace SharingProcess

def step (process : SharingProcess) : RegionStep → SharingProcess
  | .create slot size answers =>
      if process.regions slot = {} then process.create slot size answers else process
  | .mapExisting slot descriptor size regionId readOnly answers =>
      if process.regions slot = {} ∧ descriptor ∈ process.loose then
        process.mapExisting slot descriptor size regionId readOnly answers
      else process
  | .moveFrom slot source answers => process.moveFrom slot source answers
  | .resize slot size answers => (process.resize slot size answers).1
  | .sealReadOnly slot answers => (process.sealReadOnly slot answers).1
  | .releaseDescriptor slot answers => process.releaseDescriptor slot answers
  | .reset slot answers => process.reset slot answers
  | .store slot offset byte => process.store slot offset byte
  | .duplicate descriptor chosen => process.duplicate descriptor chosen
  | .receive file chosen => process.receive file chosen
  | .closeLoose descriptor =>
      if descriptor ∈ process.loose then process.closeLoose descriptor else process
  | .others granted request => process.others granted request

def machine : Machine SharingProcess RegionStep where
  initial := {}
  step := step

end SharingProcess

end AgentNucleus.Runtime

/-
The descriptors and mappings of the region objects.  Each has one owner in every run, and no
call of the process is made with one that is not there.
-/

import AgentNucleus.Runtime.SharedRegions

set_option autoImplicit false

namespace AgentNucleus.Runtime

open AgentNucleus.Library

namespace SharingProcess

/-! ### Ownership -/

/-- The mapping that a region stands for. -/
def mappingOf (region : OwnedRegion) (file : Nat) : Mapping Party where
  owner := .runtime
  file
  length := region.size.toNat
  writable := !region.readOnly

/-- Every open descriptor is in the hands of a caller or of one region. -/
structure DescriptorsHeld (process : SharingProcess) : Prop where
  existing : ∀ descriptor file, process.descriptors descriptor = some file →
    file < process.kernel.created
  held : ∀ slot descriptor, (process.regions slot).descriptor = some descriptor →
    (∃ file, process.descriptors descriptor = some file) ∧ descriptor ∉ process.loose
  apart : ∀ slot other descriptor, (process.regions slot).descriptor = some descriptor →
    (process.regions other).descriptor = some descriptor → slot = other
  kept : ∀ descriptor file, process.descriptors descriptor = some file →
    descriptor ∈ process.loose ∨ ∃ slot, (process.regions slot).descriptor = some descriptor
  loose : ∀ descriptor, descriptor ∈ process.loose →
    ∃ file, process.descriptors descriptor = some file ∧ process.exposed file = true
  single : ∀ first second file, process.descriptors first = some file →
    process.descriptors second = some file → first = second ∨ process.exposed file = true

/-- Every mapping of the process belongs to one region and is what that takes it for, or the
kernel has refused to take it back. -/
structure MappingsHeld (process : SharingProcess) : Prop where
  mapped : ∀ slot address, (process.regions slot).address = some address →
    0 < (process.regions slot).size ∧ ∃ descriptor file,
      (process.regions slot).descriptor = some descriptor ∧
      process.descriptors descriptor = some file ∧
      process.kernel.mappings.lookup address = some (mappingOf (process.regions slot) file)
  alone : ∀ slot other address, (process.regions slot).address = some address →
    (process.regions other).address = some address → slot = other
  covered : ∀ address mapping, process.kernel.mappings.lookup address = some mapping →
    mapping.owner = .runtime →
    address ∈ process.abandoned ∨ ∃ slot, (process.regions slot).address = some address

structure Owned (process : SharingProcess) : Prop where
  sound : process.kernel.Sound
  faultless : process.faults = 0
  descriptors : process.DescriptorsHeld
  mappings : process.MappingsHeld
  /-- A file that nobody else has is as long as its region says. -/
  sized : ∀ slot descriptor file, (process.regions slot).descriptor = some descriptor →
    process.descriptors descriptor = some file → process.exposed file = false →
    (process.kernel.files file).size = (process.regions slot).size.toNat

variable {process next : SharingProcess}

/-- The descriptors and the callers are the same, and so is what the regions hold. -/
theorem DescriptorsHeld.transfer (held : process.DescriptorsHeld)
    (created : process.kernel.created ≤ next.kernel.created)
    (opened : next.descriptors = process.descriptors) (loose : next.loose = process.loose)
    (exposed : next.exposed = process.exposed)
    (regions : ∀ slot, (next.regions slot).descriptor = (process.regions slot).descriptor) :
    next.DescriptorsHeld where
  existing := by
    rw [opened]
    intro descriptor file found
    exact Nat.lt_of_lt_of_le (held.existing descriptor file found) created
  held := by
    simp only [regions, opened, loose]
    exact held.held
  apart := by
    simp only [regions]
    exact held.apart
  kept := by
    simp only [regions, opened, loose]
    exact held.kept
  loose := by
    simp only [opened, loose, exposed]
    exact held.loose
  single := by
    simp only [opened, exposed]
    exact held.single

/-- The mappings are the same, and so are the regions that have one. -/
theorem MappingsHeld.transfer (held : process.MappingsHeld)
    (abandoned : next.abandoned = process.abandoned)
    (mine : ∀ address mapping, mapping.owner = .runtime →
      (next.kernel.mappings.lookup address = some mapping ↔
        process.kernel.mappings.lookup address = some mapping))
    (addresses : ∀ slot, (next.regions slot).address = (process.regions slot).address)
    (regions : ∀ slot address, (process.regions slot).address = some address →
      next.regions slot = process.regions slot)
    (opened : ∀ slot address descriptor, (process.regions slot).address = some address →
      (process.regions slot).descriptor = some descriptor →
      next.descriptors descriptor = process.descriptors descriptor) :
    next.MappingsHeld where
  mapped := by
    intro slot address placed
    rw [addresses] at placed
    obtain ⟨positive, descriptor, file, holds, found, mapping⟩ := held.mapped slot address placed
    rw [regions slot address placed]
    exact ⟨positive, descriptor, file, holds,
      (opened slot address descriptor placed holds).trans found, (mine address _ rfl).mpr mapping⟩
  alone := by
    simp only [addresses]
    exact held.alone
  covered := by
    simp only [addresses, abandoned]
    intro address mapping found own
    exact held.covered address mapping ((mine address mapping own).mp found) own

/-- A call of anybody that leaves the mappings of the process and the sizes of its own files
alone. -/
theorem Owned.withKernel (owned : process.Owned) {kernel : FileKernel Party}
    (sound : kernel.Sound) (created : process.kernel.created ≤ kernel.created)
    (mine : ∀ address mapping, mapping.owner = .runtime →
      (kernel.mappings.lookup address = some mapping ↔
        process.kernel.mappings.lookup address = some mapping))
    (sizes : ∀ file, file < process.kernel.created → process.exposed file = false →
      (kernel.files file).size = (process.kernel.files file).size) :
    ({ process with kernel } : SharingProcess).Owned where
  sound := sound
  faultless := owned.faultless
  descriptors := owned.descriptors.transfer created rfl rfl rfl (fun _ => rfl)
  mappings := owned.mappings.transfer rfl mine (fun _ => rfl) (fun _ _ _ => rfl)
    (fun _ _ _ _ _ => rfl)
  sized := by
    intro slot descriptor file holds opened hidden
    rw [← owned.sized slot descriptor file holds opened hidden]
    exact sizes file (owned.descriptors.existing descriptor file opened) hidden

/-! ### What one step changes -/

/-- The kernel has done what it was asked for. -/
def after (process : SharingProcess) (request : FileCall Party) : SharingProcess :=
  { process with kernel := process.kernel.perform request }

section Changes

variable {slot address descriptor file : Nat}

theorem descriptor_update {region : OwnedRegion}
    (same : region.descriptor = (process.regions slot).descriptor)
    (other : Nat) :
    (Function.update process.regions slot region other).descriptor =
      (process.regions other).descriptor := by
  rw [Function.update_apply]
  split
  · next here => rw [here, same]
  · rfl

/-- The mapping of a region is taken back. -/
theorem Owned.unmap (owned : process.Owned) (region : OwnedRegion)
    (placed : (process.regions slot).address = some address) (removed : region.address = none)
    (same : region.descriptor = (process.regions slot).descriptor)
    (size : region.size = (process.regions slot).size)
    (permitted : process.kernel.permits (.unmap address) = true) :
    ((process.after (.unmap address)).setRegion slot region).Owned where
  sound := owned.sound.perform permitted
  faultless := owned.faultless
  descriptors := owned.descriptors.transfer (Nat.le_refl _) rfl rfl rfl (descriptor_update same)
  mappings := by
    constructor
    · have mapped := owned.mappings.mapped
      have alone := owned.mappings.alone
      simp only [after, setRegion, Function.update_apply, FileKernel.lookup_unmap]
      grind
    · have alone := owned.mappings.alone
      simp only [after, setRegion, Function.update_apply]
      grind
    · have covered := owned.mappings.covered
      simp only [after, setRegion, Function.update_apply, FileKernel.lookup_unmap]
      grind
  sized := by
    have sized := owned.sized
    simp only [after, setRegion, Function.update_apply, FileKernel.perform]
    grind

/-- A mapping that the kernel does not take back belongs to nobody. -/
theorem Owned.abandoned (owned : process.Owned) (region : OwnedRegion)
    (placed : (process.regions slot).address = some address) (removed : region.address = none)
    (same : region.descriptor = (process.regions slot).descriptor)
    (size : region.size = (process.regions slot).size) :
    ((process.abandon address).setRegion slot region).Owned where
  sound := owned.sound
  faultless := owned.faultless
  descriptors := owned.descriptors.transfer (Nat.le_refl _) rfl rfl rfl (descriptor_update same)
  mappings := by
    constructor
    · have mapped := owned.mappings.mapped
      simp only [abandon, setRegion, Function.update_apply]
      grind
    · have alone := owned.mappings.alone
      simp only [abandon, setRegion, Function.update_apply]
      grind
    · have covered := owned.mappings.covered
      simp only [abandon, setRegion, Function.update_apply, List.mem_cons]
      grind
  sized := by
    have sized := owned.sized
    simp only [abandon, setRegion, Function.update_apply]
    grind

/-- A region without a mapping is mapped from its descriptor. -/
theorem Owned.map (owned : process.Owned) (region : OwnedRegion)
    (free : (process.regions slot).address = none)
    (holds : (process.regions slot).descriptor = some descriptor)
    (opened : process.descriptors descriptor = some file)
    (placed : region.address = some address) (same : region.descriptor = some descriptor)
    (size : region.size = (process.regions slot).size)
    (permitted : process.kernel.permits (.map address (mappingOf region file)) = true) :
    ((process.after (.map address (mappingOf region file))).setRegion slot region).Owned where
  sound := owned.sound.perform permitted
  faultless := owned.faultless
  descriptors := owned.descriptors.transfer (Nat.le_refl _) rfl rfl rfl
    (descriptor_update (same.trans holds.symm))
  mappings := by
    obtain ⟨nothing, positive⟩ := FileKernel.permits_map permitted
    have some_ : 0 < region.size := UInt64.lt_iff_toNat_lt.mpr positive
    have mapped := owned.mappings.mapped
    constructor
    · simp only [after, setRegion, Function.update_apply, FileKernel.lookup_map]
      grind
    · have alone := owned.mappings.alone
      simp only [after, setRegion, Function.update_apply]
      grind
    · have covered := owned.mappings.covered
      simp only [after, setRegion, Function.update_apply, FileKernel.lookup_map]
      grind
  sized := by
    have sized := owned.sized
    simp only [after, setRegion, Function.update_apply, FileKernel.perform]
    grind

/-- The file of a region without a mapping gets another size. -/
theorem Owned.truncate (owned : process.Owned) (region : OwnedRegion)
    (free : (process.regions slot).address = none)
    (holds : (process.regions slot).descriptor = some descriptor)
    (opened : process.descriptors descriptor = some file)
    (unplaced : region.address = none) (same : region.descriptor = some descriptor)
    (permitted : process.kernel.permits (.truncate file region.size.toNat) = true) :
    ((process.after (.truncate file region.size.toNat)).setRegion slot region).Owned where
  sound := owned.sound.perform permitted
  faultless := owned.faultless
  descriptors := owned.descriptors.transfer (Nat.le_refl _) rfl rfl rfl
    (descriptor_update (same.trans holds.symm))
  mappings := owned.mappings.transfer rfl (fun _ _ _ => Iff.rfl)
    (by
      simp only [after, setRegion, Function.update_apply]
      grind)
    (by
      simp only [after, setRegion, Function.update_apply]
      grind)
    (fun _ _ _ _ _ => rfl)
  sized := by
    have sized := owned.sized
    have single := owned.descriptors.single
    have apart := owned.descriptors.apart
    simp only [after, setRegion, Function.update_apply, FileKernel.perform,
      FileKernel.files_change, MemoryFile.resized]
    grind

/-- A region without a mapping closes its descriptor. -/
theorem Owned.close (owned : process.Owned) (free : (process.regions slot).address = none)
    (holds : (process.regions slot).descriptor = some descriptor) :
    ((process.setDescriptor descriptor none).setRegion slot {}).Owned where
  sound := owned.sound
  faultless := owned.faultless
  descriptors := by
    have apart := owned.descriptors.apart
    have held := owned.descriptors.held
    constructor
    · have existing := owned.descriptors.existing
      simp only [setDescriptor, setRegion, Function.update_apply]
      grind
    · simp only [setDescriptor, setRegion, Function.update_apply]
      grind
    · simp only [setDescriptor, setRegion, Function.update_apply]
      grind
    · have kept := owned.descriptors.kept
      simp only [setDescriptor, setRegion, Function.update_apply]
      grind
    · have loose := owned.descriptors.loose
      simp only [setDescriptor, setRegion, Function.update_apply]
      grind
    · have single := owned.descriptors.single
      simp only [setDescriptor, setRegion, Function.update_apply]
      grind
  mappings := by
    have apart := owned.descriptors.apart
    refine owned.mappings.transfer rfl (fun _ _ _ => Iff.rfl) ?_ ?_ ?_
    · simp only [setDescriptor, setRegion, Function.update_apply]
      grind
    · simp only [setDescriptor, setRegion, Function.update_apply]
      grind
    · simp only [setDescriptor, setRegion, Function.update_apply]
      grind
  sized := by
    have sized := owned.sized
    simp only [setDescriptor, setRegion, Function.update_apply]
    grind

/-- A region without a mapping gives its descriptor to a caller. -/
theorem Owned.loosen (owned : process.Owned) (free : (process.regions slot).address = none)
    (holds : (process.regions slot).descriptor = some descriptor)
    (opened : process.descriptors descriptor = some file) :
    (((process.setRegion slot {}).setLoose (descriptor :: process.loose)).expose file).Owned where
  sound := owned.sound
  faultless := owned.faultless
  descriptors := by
    have held := owned.descriptors.held
    have apart := owned.descriptors.apart
    constructor
    · exact owned.descriptors.existing
    · simp only [expose, setLoose, setRegion, Function.update_apply, List.mem_cons]
      grind
    · simp only [expose, setLoose, setRegion, Function.update_apply]
      grind
    · have kept := owned.descriptors.kept
      simp only [expose, setLoose, setRegion, Function.update_apply, List.mem_cons]
      grind
    · have loose := owned.descriptors.loose
      simp only [expose, setLoose, setRegion, Function.update_apply, List.mem_cons]
      grind
    · have single := owned.descriptors.single
      simp only [expose, setLoose, setRegion, Function.update_apply]
      grind
  mappings := by
    refine owned.mappings.transfer rfl (fun _ _ _ => Iff.rfl) ?_ ?_ (fun _ _ _ _ _ => rfl)
    · simp only [expose, setLoose, setRegion, Function.update_apply]
      grind
    · simp only [expose, setLoose, setRegion, Function.update_apply]
      grind
  sized := by
    have sized := owned.sized
    simp only [expose, setLoose, setRegion, Function.update_apply]
    grind

/-- A new file under a new descriptor. -/
theorem Owned.open_ (owned : process.Owned) (regionId : UInt64)
    (empty : process.regions slot = {}) (closed : process.descriptors descriptor = none) :
    (((process.after .create).setDescriptor descriptor (some process.kernel.created)).setRegion
      slot { descriptor := some descriptor, regionId }).Owned where
  sound := owned.sound.perform (show process.kernel.permits .create = true from rfl)
  faultless := owned.faultless
  descriptors := by
    have existing := owned.descriptors.existing
    have held := owned.descriptors.held
    have loose := owned.descriptors.loose
    constructor
    · simp only [after, setDescriptor, setRegion, Function.update_apply, FileKernel.perform]
      grind
    · simp only [after, setDescriptor, setRegion, Function.update_apply]
      grind
    · have apart := owned.descriptors.apart
      simp only [after, setDescriptor, setRegion, Function.update_apply]
      grind
    · have kept := owned.descriptors.kept
      simp only [after, setDescriptor, setRegion, Function.update_apply]
      grind
    · simp only [after, setDescriptor, setRegion, Function.update_apply]
      grind
    · have single := owned.descriptors.single
      simp only [after, setDescriptor, setRegion, Function.update_apply]
      grind
  mappings := by
    have held := owned.descriptors.held
    refine owned.mappings.transfer rfl (fun _ _ _ => Iff.rfl) ?_ ?_ ?_
    · simp only [after, setDescriptor, setRegion, Function.update_apply]
      grind
    · simp only [after, setDescriptor, setRegion, Function.update_apply]
      grind
    · simp only [after, setDescriptor, setRegion, Function.update_apply]
      grind
  sized := by
    have sized := owned.sized
    have held := owned.descriptors.held
    have existing := owned.descriptors.existing
    have nothing : (0 : UInt64).toNat = 0 := rfl
    simp only [after, setDescriptor, setRegion, Function.update_apply, FileKernel.perform]
    intro other opened found holds same hidden
    by_cases here : other = slot
    · rw [if_pos here] at holds ⊢
      cases holds
      rw [if_pos rfl] at same
      cases same
      rw [if_pos rfl, nothing]
    · grind

/-- A caller's descriptor is taken over. -/
theorem Owned.adopt (owned : process.Owned) (region : OwnedRegion)
    (empty : process.regions slot = {})
    (member : descriptor ∈ process.loose) (unplaced : region.address = none)
    (takes : region.descriptor = some descriptor) :
    ((process.setLoose (process.loose.filter fun other => other != descriptor)).setRegion slot
      region).Owned where
  sound := owned.sound
  faultless := owned.faultless
  descriptors := by
    have held := owned.descriptors.held
    have loose := owned.descriptors.loose
    constructor
    · exact owned.descriptors.existing
    · simp only [setLoose, setRegion, Function.update_apply, List.mem_filter, bne_iff_ne]
      grind
    · have apart := owned.descriptors.apart
      simp only [setLoose, setRegion, Function.update_apply]
      grind
    · have kept := owned.descriptors.kept
      simp only [setLoose, setRegion, Function.update_apply, List.mem_filter, bne_iff_ne]
      grind
    · simp only [setLoose, setRegion, List.mem_filter]
      grind
    · exact owned.descriptors.single
  mappings := by
    refine owned.mappings.transfer rfl (fun _ _ _ => Iff.rfl) ?_ ?_ (fun _ _ _ _ _ => rfl)
    · simp only [setLoose, setRegion, Function.update_apply]
      grind
    · simp only [setLoose, setRegion, Function.update_apply]
      grind
  sized := by
    have sized := owned.sized
    have loose := owned.descriptors.loose
    simp only [setLoose, setRegion, Function.update_apply]
    grind

/-- What a region has goes over to an empty one. -/
theorem Owned.move (owned : process.Owned) {source : Nat} (different : slot ≠ source)
    (empty : process.regions slot = {}) :
    ((process.setRegion slot (process.regions source)).setRegion source {}).Owned where
  sound := owned.sound
  faultless := owned.faultless
  descriptors := by
    constructor
    · exact owned.descriptors.existing
    · have held := owned.descriptors.held
      simp only [setRegion, Function.update_apply]
      grind
    · have apart := owned.descriptors.apart
      simp only [setRegion, Function.update_apply]
      grind
    · have kept := owned.descriptors.kept
      simp only [setRegion, Function.update_apply]
      grind
    · exact owned.descriptors.loose
    · exact owned.descriptors.single
  mappings := by
    constructor
    · have mapped := owned.mappings.mapped
      simp only [setRegion, Function.update_apply]
      grind
    · have alone := owned.mappings.alone
      simp only [setRegion, Function.update_apply]
      grind
    · have covered := owned.mappings.covered
      simp only [setRegion, Function.update_apply]
      grind
  sized := by
    have sized := owned.sized
    simp only [setRegion, Function.update_apply]
    grind

/-- Another descriptor for a file that others may have. -/
theorem Owned.another (owned : process.Owned) (closed : process.descriptors descriptor = none)
    (inside : file < process.kernel.created) :
    (((process.setDescriptor descriptor (some file)).setLoose
      (descriptor :: process.loose)).expose file).Owned where
  sound := owned.sound
  faultless := owned.faultless
  descriptors := by
    have held := owned.descriptors.held
    constructor
    · have existing := owned.descriptors.existing
      simp only [expose, setLoose, setDescriptor, Function.update_apply]
      grind
    · simp only [expose, setLoose, setDescriptor, Function.update_apply, List.mem_cons]
      grind
    · exact owned.descriptors.apart
    · have kept := owned.descriptors.kept
      simp only [expose, setLoose, setDescriptor, Function.update_apply, List.mem_cons]
      grind
    · have loose := owned.descriptors.loose
      simp only [expose, setLoose, setDescriptor, Function.update_apply, List.mem_cons]
      intro other member
      by_cases here : other = descriptor
      · exact ⟨file, if_pos here, if_pos rfl⟩
      · obtain ⟨found, opened, shown⟩ := loose other (member.resolve_left here)
        exact ⟨found, (if_neg here).trans opened, by simp [shown]⟩
    · have single := owned.descriptors.single
      simp only [expose, setLoose, setDescriptor, Function.update_apply]
      grind
  mappings := by
    refine owned.mappings.transfer rfl (fun _ _ _ => Iff.rfl) (fun _ => rfl)
      (fun _ _ _ => rfl) ?_
    have held := owned.descriptors.held
    simp only [expose, setLoose, setDescriptor, Function.update_apply]
    grind
  sized := by
    have sized := owned.sized
    have held := owned.descriptors.held
    simp only [expose, setLoose, setDescriptor, Function.update_apply]
    grind

/-- A caller's descriptor is closed. -/
theorem Owned.drop (owned : process.Owned) (member : descriptor ∈ process.loose) :
    ((process.setDescriptor descriptor none).setLoose
      (process.loose.filter fun other => other != descriptor)).Owned where
  sound := owned.sound
  faultless := owned.faultless
  descriptors := by
    have held := owned.descriptors.held
    constructor
    · have existing := owned.descriptors.existing
      simp only [setLoose, setDescriptor, Function.update_apply]
      grind
    · simp only [setLoose, setDescriptor, Function.update_apply, List.mem_filter]
      grind
    · exact owned.descriptors.apart
    · have kept := owned.descriptors.kept
      simp only [setLoose, setDescriptor, Function.update_apply, List.mem_filter, bne_iff_ne]
      grind
    · have loose := owned.descriptors.loose
      simp only [setLoose, setDescriptor, Function.update_apply, List.mem_filter, bne_iff_ne]
      grind
    · have single := owned.descriptors.single
      simp only [setLoose, setDescriptor, Function.update_apply]
      grind
  mappings := by
    refine owned.mappings.transfer rfl (fun _ _ _ => Iff.rfl) (fun _ => rfl)
      (fun _ _ _ => rfl) ?_
    have held := owned.descriptors.held
    simp only [setLoose, setDescriptor, Function.update_apply]
    grind
  sized := by
    have sized := owned.sized
    simp only [setLoose, setDescriptor, Function.update_apply]
    grind

end Changes

/-! ### The system calls of a region

While a region is built or changed its object is still as it was.  What it is going to be is
`pending` here. -/

section Pending

variable {slot address descriptor file : Nat} {pending : OwnedRegion}

theorem setRegion_twice (first second : OwnedRegion) :
    (process.setRegion slot first).setRegion slot second = process.setRegion slot second := by
  unfold setRegion
  rw [Function.update_idem]

theorem setRegion_self : process.setRegion slot (process.regions slot) = process := by
  unfold setRegion
  rw [Function.update_eq_self]

theorem setRegion_after (request : FileCall Party) :
    (process.setRegion slot pending).after request =
      (process.after request).setRegion slot pending := rfl

theorem ask_cases (process : SharingProcess) (granted : Bool) (request : FileCall Party) :
    process.ask granted request = (process, false) ∨
      process.kernel.permits request = true ∧
        process.ask granted request = (process.after request, true) := by
  unfold ask
  rcases process.kernel.call_cases granted request with
    refused | ⟨permitted, done⟩
  · rw [refused]
    exact .inl rfl
  · rw [done]
    exact .inr ⟨permitted, rfl⟩

theorem Owned.itself (owned : process.Owned) (slot : Nat) :
    (process.setRegion slot (process.regions slot)).Owned := by
  rw [setRegion_self]
  exact owned

theorem pending_self : (process.setRegion slot pending).regions slot = pending :=
  Function.update_self ..

theorem Owned.munmap (owned : (process.setRegion slot pending).Owned)
    (placed : pending.address = some address) (granted : Bool) :
    process.munmap address pending.size granted = (process, false) ∨
      process.munmap address pending.size granted = (process.after (.unmap address), true) ∧
        ((process.after (.unmap address)).setRegion slot
          { pending with address := none }).Owned := by
  have placed_ : ((process.setRegion slot pending).regions slot).address = some address := by
    rw [pending_self, placed]
  obtain ⟨_, descriptor, file, _, _, found⟩ := owned.mappings.mapped slot address placed_
  rw [pending_self] at found
  have known : process.kernel.mappings.lookup address = some (mappingOf pending file) := found
  unfold SharingProcess.munmap
  rw [known]
  dsimp only
  rw [if_pos ⟨rfl, rfl⟩]
  rcases process.ask_cases granted (.unmap address) with
    refused | ⟨permitted, done⟩
  · exact .inl refused
  · refine .inr ⟨done, ?_⟩
    have unmapped := owned.unmap { pending with address := none } placed_ rfl
      (by rw [pending_self]) (by rw [pending_self]) permitted
    rw [setRegion_after, setRegion_twice] at unmapped
    exact unmapped

theorem Owned.ftruncate (owned : (process.setRegion slot pending).Owned)
    (free : pending.address = none) (holds : pending.descriptor = some descriptor)
    (opened : process.descriptors descriptor = some file) (size : UInt64) (granted : Bool) :
    process.ftruncate descriptor size granted = (process, false) ∨
      process.ftruncate descriptor size granted =
          (process.after (.truncate file size.toNat), true) ∧
        ((process.after (.truncate file size.toNat)).setRegion slot
          { pending with size }).Owned := by
  unfold SharingProcess.ftruncate
  rw [opened]
  dsimp only
  rcases process.ask_cases granted (.truncate file size.toNat) with
    refused | ⟨permitted, done⟩
  · exact .inl refused
  · refine .inr ⟨done, ?_⟩
    have truncated := owned.truncate { pending with size } (by rw [pending_self, free])
      (by rw [pending_self, holds]) opened free holds permitted
    rw [setRegion_after, setRegion_twice] at truncated
    exact truncated

theorem Owned.mmap (owned : (process.setRegion slot pending).Owned)
    (free : pending.address = none) (holds : pending.descriptor = some descriptor)
    (opened : process.descriptors descriptor = some file) (readOnly : Bool)
    (placed : Option Nat) :
    process.mmap descriptor pending.size (!readOnly) placed = (process, none) ∨
      ∃ address kernel,
        process.mmap descriptor pending.size (!readOnly) placed =
          ({ process with kernel }, some address) ∧
        (({ process with kernel } : SharingProcess).setRegion slot
          { pending with address := some address, readOnly }).Owned := by
  unfold SharingProcess.mmap
  rw [opened]
  cases placed with
  | none => exact .inl rfl
  | some address =>
      dsimp only
      rcases process.ask_cases true (.map address
        (mappingOf { pending with address := some address, readOnly } file)) with
        refused | ⟨permitted, done⟩
      · left
        exact congrArg (fun answer : SharingProcess × Bool =>
          (answer.1, if answer.2 = true then some address else none)) refused
      · right
        refine ⟨address, process.kernel.perform (.map address
          (mappingOf { pending with address := some address, readOnly } file)), ?_, ?_⟩
        · exact congrArg (fun answer : SharingProcess × Bool =>
            (answer.1, if answer.2 = true then some address else none)) done
        · have mapped := owned.map { pending with address := some address, readOnly }
            (by rw [pending_self, free]) (by rw [pending_self, holds]) opened rfl holds
            (by rw [pending_self]) permitted
          rw [setRegion_after, setRegion_twice] at mapped
          exact mapped

end Pending

/-! ### The operations -/

section Operations

variable {slot address descriptor file : Nat}

/-- A region without a mapping may change in what does not matter to the others. -/
theorem Owned.repaint (owned : process.Owned) (region : OwnedRegion)
    (free : (process.regions slot).address = none) (unplaced : region.address = none)
    (same : region.descriptor = (process.regions slot).descriptor)
    (size : region.size = (process.regions slot).size ∨ region.descriptor = none) :
    (process.setRegion slot region).Owned where
  sound := owned.sound
  faultless := owned.faultless
  descriptors := owned.descriptors.transfer (Nat.le_refl _) rfl rfl rfl (descriptor_update same)
  mappings := by
    refine owned.mappings.transfer rfl (fun _ _ _ => Iff.rfl) ?_ ?_ (fun _ _ _ _ _ => rfl)
    · simp only [setRegion, Function.update_apply]
      grind
    · simp only [setRegion, Function.update_apply]
      grind
  sized := by
    have sized := owned.sized
    simp only [setRegion, Function.update_apply]
    grind

theorem close_eq (opened : process.descriptors descriptor = some file) :
    process.close descriptor = process.setDescriptor descriptor none := by
  unfold SharingProcess.close
  rw [opened]

/-- A descriptor that was to become a region is closed again. -/
theorem Owned.giveUp {pending : OwnedRegion} (owned : (process.setRegion slot pending).Owned)
    (free : pending.address = none) (holds : pending.descriptor = some descriptor)
    (opened : process.descriptors descriptor = some file) (empty : process.regions slot = {}) :
    (process.close descriptor).Owned := by
  have closed := owned.close (by rw [pending_self, free]) (by rw [pending_self, holds])
  have same : ((process.setRegion slot pending).setDescriptor descriptor none).setRegion slot {} =
      process.setDescriptor descriptor none := by
    change ((process.setDescriptor descriptor none).setRegion slot pending).setRegion slot {} = _
    rw [setRegion_twice, ← empty]
    exact setRegion_self
  rw [close_eq opened, ← same]
  exact closed

theorem Owned.create (owned : process.Owned) (slot : Nat) (size : UInt64)
    (answers : RegionAnswers) (empty : process.regions slot = {}) :
    (process.create slot size answers).Owned := by
  unfold SharingProcess.create memfdCreate
  split
  · exact owned
  · cases answers.descriptor with
    | none => exact owned
    | some descriptor =>
        dsimp only
        cases closed : process.descriptors descriptor with
        | some file => exact owned
        | none =>
            have begun := owned.open_ answers.regionId empty closed
            have opened : ((process.after .create).setDescriptor descriptor
                (some process.kernel.created)).descriptors descriptor =
                  some process.kernel.created := Function.update_self ..
            have new : (process.ask true .create).1 = process.after .create := rfl
            rw [if_neg (by simp)]
            dsimp only
            rw [new]
            rcases begun.ftruncate rfl rfl opened size answers.truncated with
              refused | ⟨cut, sized⟩
            · rw [refused]
              exact begun.giveUp rfl rfl opened empty
            · rw [cut]
              dsimp only
              rcases sized.mmap rfl rfl opened false answers.address with
                refused | ⟨address, kernel, done, mapped⟩
              · have refused_ : SharingProcess.mmap _ descriptor size true answers.address = _ :=
                  refused
                rw [refused_]
                exact sized.giveUp rfl rfl opened empty
              · have done_ : SharingProcess.mmap _ descriptor size true answers.address = _ := done
                rw [done_]
                exact mapped

/-- The mapping of a region is given up, one way or the other. -/
theorem Owned.unmapQuietly (owned : process.Owned) (slot : Nat) (granted : Bool)
    (pending : OwnedRegion) (unplaced : pending.address = none)
    (same : pending.descriptor = (process.regions slot).descriptor)
    (size : pending.size = (process.regions slot).size) :
    ((process.unmapQuietly slot granted).setRegion slot pending).Owned ∧
      (process.unmapQuietly slot granted).regions = process.regions ∧
      (process.unmapQuietly slot granted).descriptors = process.descriptors := by
  unfold SharingProcess.unmapQuietly
  cases placed : (process.regions slot).address with
  | none =>
      simp only [placed]
      exact ⟨owned.repaint pending placed unplaced same (.inl size), trivial, trivial⟩
  | some address =>
      have positive := (owned.mappings.mapped slot address placed).1
      simp only [placed, gt_iff_lt, positive, if_true]
      rcases (owned.itself slot).munmap placed granted with refused | ⟨done, unmapped⟩
      · rw [refused]
        exact ⟨owned.abandoned pending placed unplaced same size, rfl, rfl⟩
      · rw [done]
        have repainted := unmapped.repaint pending (by rw [pending_self]) unplaced
          (by rw [pending_self, same]) (.inl (by rw [pending_self, size]))
        rw [setRegion_twice] at repainted
        exact ⟨repainted, rfl, rfl⟩

/-- A region with neither a mapping nor a descriptor is given up. -/
theorem Owned.blank {pending : OwnedRegion} (owned : (process.setRegion slot pending).Owned)
    (unplaced : pending.address = none) (closed : pending.descriptor = none) :
    (process.setRegion slot {}).Owned := by
  have blank := owned.repaint {} (by rw [pending_self, unplaced]) rfl
    (by rw [pending_self, closed]) (.inr rfl)
  rw [setRegion_twice] at blank
  exact blank

theorem Owned.mapExisting (owned : process.Owned) (slot descriptor : Nat)
    (size regionId : UInt64) (readOnly : Bool) (answers : RegionAnswers)
    (empty : process.regions slot = {}) (member : descriptor ∈ process.loose) :
    (process.mapExisting slot descriptor size regionId readOnly answers).Owned := by
  obtain ⟨file, opened, _⟩ := owned.descriptors.loose descriptor member
  have begun := owned.adopt { descriptor := some descriptor, size, regionId } empty member rfl rfl
  unfold SharingProcess.mapExisting
  split
  · exact owned
  · dsimp only
    split
    · exact begun.giveUp rfl rfl opened empty
    · split
      · exact begun.giveUp rfl rfl opened empty
      · rcases begun.mmap rfl rfl opened readOnly answers.address with
          refused | ⟨address, kernel, done, mapped⟩
        · have refused_ : SharingProcess.mmap _ descriptor size (!readOnly) answers.address = _ :=
            refused
          rw [refused_]
          exact begun.giveUp rfl rfl opened empty
        · have done_ : SharingProcess.mmap _ descriptor size (!readOnly) answers.address = _ :=
            done
          rw [done_]
          exact mapped

theorem Owned.reset (owned : process.Owned) (slot : Nat) (answers : RegionAnswers) :
    (process.reset slot answers).Owned := by
  obtain ⟨unmapped, regions, descriptors⟩ := owned.unmapQuietly slot answers.unmapped
    { process.regions slot with address := none } rfl rfl rfl
  unfold SharingProcess.reset
  dsimp only
  rw [regions]
  cases holds : (process.regions slot).descriptor with
  | none => exact unmapped.blank rfl holds
  | some descriptor =>
      obtain ⟨⟨file, opened⟩, _⟩ := owned.descriptors.held slot descriptor holds
      have closed := unmapped.close (by rw [pending_self]) (by rw [pending_self, holds])
      change (SharingProcess.setRegion (SharingProcess.setRegion
        ((process.unmapQuietly slot answers.unmapped).setDescriptor descriptor none) slot _)
          slot {}).Owned at closed
      rw [setRegion_twice] at closed
      dsimp only
      rw [close_eq (by rw [descriptors, opened])]
      exact closed

theorem Owned.releaseDescriptor (owned : process.Owned) (slot : Nat) (answers : RegionAnswers) :
    (process.releaseDescriptor slot answers).Owned := by
  obtain ⟨unmapped, regions, descriptors⟩ := owned.unmapQuietly slot answers.unmapped
    { process.regions slot with address := none } rfl rfl rfl
  unfold SharingProcess.releaseDescriptor
  dsimp only
  rw [regions]
  cases holds : (process.regions slot).descriptor with
  | none => exact unmapped.blank rfl holds
  | some descriptor =>
      obtain ⟨⟨file, opened⟩, _⟩ := owned.descriptors.held slot descriptor holds
      have loosened := unmapped.loosen (by rw [pending_self]) (by rw [pending_self, holds])
        (descriptors ▸ opened)
      rw [setRegion_twice] at loosened
      dsimp only
      rw [descriptors, opened]
      exact loosened

theorem Owned.moveFrom (owned : process.Owned) (slot source : Nat) (answers : RegionAnswers) :
    (process.moveFrom slot source answers).Owned := by
  unfold SharingProcess.moveFrom
  split
  · exact owned
  · next different =>
      have cleared := owned.reset slot answers
      have empty : (process.reset slot answers).regions slot = {} := Function.update_self ..
      exact cleared.move different empty

/-- The mapping that a failed resizing restores, or the one that a successful one makes. -/
theorem Owned.remap {pending : OwnedRegion} (owned : (process.setRegion slot pending).Owned)
    (free : pending.address = none) (holds : pending.descriptor = some descriptor)
    (opened : process.descriptors descriptor = some file) (writable : pending.readOnly = false)
    (placed : Option Nat) :
    ((process.mmap descriptor pending.size true placed).1.setRegion slot
      { pending with
        address := (process.mmap descriptor pending.size true placed).2 }).Owned := by
  rcases owned.mmap free holds opened false placed with
    refused | ⟨address, kernel, done, mapped⟩
  · have refused_ : process.mmap descriptor pending.size true placed = _ := refused
    rw [refused_, ← free]
    exact owned
  · have done_ : process.mmap descriptor pending.size true placed = _ := done
    rw [done_, writable]
    exact mapped

theorem Owned.resize (owned : process.Owned) (slot : Nat) (size : UInt64)
    (answers : RegionAnswers) : (process.resize slot size answers).1.Owned := by
  unfold SharingProcess.resize
  dsimp only
  split
  · next address descriptor placed holds =>
      obtain ⟨⟨file, opened⟩, _⟩ := owned.descriptors.held slot descriptor holds
      split
      · exact owned
      · next admitted =>
          have writable : (process.regions slot).readOnly = false := by
            simp only [not_or] at admitted
            simpa using admitted.2.1
          split
          · exact owned
          · rcases (owned.itself slot).munmap placed answers.unmapped with
              refused | ⟨done, unmapped⟩
            · rw [refused]
              exact owned
            · rw [done]
              dsimp only
              rcases unmapped.ftruncate rfl holds opened size answers.truncated with
                refused | ⟨cut, sized⟩
              · rw [refused]
                exact unmapped.remap rfl holds opened writable answers.address
              · rw [cut]
                exact sized.remap rfl holds opened writable answers.address
  · exact owned

/-- Seals change neither mappings nor sizes. -/
theorem Owned.addSeals {pending : OwnedRegion} (owned : (process.setRegion slot pending).Owned)
    (opened : process.descriptors descriptor = some file) (seals : Seals) (granted : Bool) :
    process.addSeals descriptor seals granted = (process, false) ∨
      process.kernel.permits (.addSeals file seals) = true ∧
        process.addSeals descriptor seals granted =
          (process.after (.addSeals file seals), true) ∧
        ((process.after (.addSeals file seals)).setRegion slot pending).Owned := by
  unfold SharingProcess.addSeals
  rw [opened]
  dsimp only
  rcases process.ask_cases granted (.addSeals file seals) with refused | ⟨permitted, done⟩
  · exact .inl refused
  · have sizes : ∀ other, ((process.kernel.perform (.addSeals file seals)).files other).size =
        (process.kernel.files other).size := by
      intro other
      simp only [FileKernel.perform, FileKernel.files_change]
      split
      · next same => rw [same]
      · rfl
    exact .inr ⟨permitted, done, owned.withKernel (owned.sound.perform permitted)
      (Nat.le_refl _) (fun _ _ _ => Iff.rfl) (fun other _ _ => sizes other)⟩

theorem Owned.sealReadOnly (owned : process.Owned) (slot : Nat) (answers : RegionAnswers) :
    (process.sealReadOnly slot answers).1.Owned := by
  unfold SharingProcess.sealReadOnly
  dsimp only
  split
  · next address descriptor placed holds =>
      obtain ⟨⟨file, opened⟩, _⟩ := owned.descriptors.held slot descriptor holds
      split
      · exact owned
      · rcases (owned.itself slot).munmap placed answers.unmapped with
          refused | ⟨done, unmapped⟩
        · rw [refused]
          exact owned
        · rw [done]
          dsimp only
          rcases unmapped.addSeals opened allSeals answers.sealed with
            refused | ⟨_, shut, sealed⟩
          · rw [refused]
            exact unmapped
          · rw [shut]
            dsimp only
            rcases sealed.mmap rfl holds opened true answers.address with
              refused | ⟨mapped, kernel, placed_, owned_⟩
            · have refused_ : SharingProcess.mmap _ descriptor (process.regions slot).size false
                  answers.address = _ := refused
              rw [refused_]
              exact sealed
            · have placed_ : SharingProcess.mmap _ descriptor (process.regions slot).size false
                  answers.address = _ := placed_
              rw [placed_]
              exact owned_
  · exact owned

theorem Owned.duplicate (owned : process.Owned) (descriptor chosen : Nat) :
    (process.duplicate descriptor chosen).Owned := by
  unfold SharingProcess.duplicate
  cases opened : process.descriptors descriptor with
  | none => exact owned
  | some file =>
      cases closed : process.descriptors chosen with
      | some other => exact owned
      | none => exact owned.another closed (owned.descriptors.existing descriptor file opened)

theorem expose_exposed (shown : process.exposed file = true) : process.expose file = process := by
  unfold expose
  rw [← shown, Function.update_eq_self]

theorem Owned.receive (owned : process.Owned) (file chosen : Nat) :
    (process.receive file chosen).Owned := by
  unfold SharingProcess.receive
  split
  · exact owned
  · next admitted =>
      simp only [not_or, Bool.not_eq_true, Option.isSome_eq_false_iff, Option.isNone_iff_eq_none,
        Bool.not_eq_false, Nat.not_le] at admitted
      obtain ⟨closed, shown, inside⟩ := admitted
      have another := owned.another closed inside
      have same : (((process.setDescriptor chosen (some file)).setLoose
          (chosen :: process.loose)).expose file) =
            (process.setDescriptor chosen (some file)).setLoose (chosen :: process.loose) :=
        expose_exposed shown
      rw [same] at another
      exact another

theorem Owned.closeLoose (owned : process.Owned) (descriptor : Nat)
    (member : descriptor ∈ process.loose) : (process.closeLoose descriptor).Owned := by
  obtain ⟨file, opened, _⟩ := owned.descriptors.loose descriptor member
  unfold SharingProcess.closeLoose
  rw [close_eq opened]
  exact owned.drop member

/-! ### Other parties -/

/-- A byte that is written changes no size. -/
theorem Owned.byteWritten (owned : process.Owned) (file offset : Nat) (byte : UInt8)
    (sound : (process.kernel.change file fun content => content.put offset byte).Sound) :
    ({ process with
        kernel := process.kernel.change file fun content => content.put offset byte } :
      SharingProcess).Owned := by
  refine owned.withKernel sound (Nat.le_refl _) (fun _ _ _ => Iff.rfl) ?_
  intro other _ _
  rw [FileKernel.files_change]
  split
  · next same =>
      rw [same]
      rfl
  · rfl

theorem Owned.stored (owned : process.Owned) (granted : Bool) (address offset : Nat)
    (byte : UInt8) : (process.ask granted (.store address offset byte)).1.Owned := by
  rcases process.ask_cases granted (.store address offset byte) with
    refused | ⟨permitted, done⟩
  · rw [refused]
    exact owned
  · rw [done]
    have sound := owned.sound.perform permitted
    cases found : process.kernel.mappings.lookup address with
    | none =>
        simp only [FileKernel.permits, found, Bool.false_eq_true] at permitted
    | some mapping =>
        simp only [FileKernel.perform, found] at sound
        simp only [after, FileKernel.perform, found]
        exact owned.byteWritten mapping.file offset byte sound

theorem Owned.store (owned : process.Owned) (slot offset : Nat) (byte : UInt8) :
    (process.store slot offset byte).Owned := by
  unfold SharingProcess.store
  cases (process.regions slot).address with
  | none => exact owned
  | some address => exact owned.stored true address offset byte

theorem Owned.expose (owned : process.Owned) (file : Nat) : (process.expose file).Owned where
  sound := owned.sound
  faultless := owned.faultless
  descriptors := by
    constructor
    · exact owned.descriptors.existing
    · exact owned.descriptors.held
    · exact owned.descriptors.apart
    · exact owned.descriptors.kept
    · have loose := owned.descriptors.loose
      simp only [SharingProcess.expose, Function.update_apply]
      grind
    · have single := owned.descriptors.single
      simp only [SharingProcess.expose, Function.update_apply]
      grind
  mappings := owned.mappings.transfer rfl (fun _ _ _ => Iff.rfl) (fun _ => rfl)
    (fun _ _ _ => rfl) (fun _ _ _ _ _ => rfl)
  sized := by
    have sized := owned.sized
    simp only [SharingProcess.expose, Function.update_apply]
    grind

/-- What others may do leaves the process alone. -/
theorem Owned.othersDone (owned : process.Owned) (request : FileCall Party)
    (may : process.otherMay request = true)
    (permitted : process.kernel.permits request = true) : (process.after request).Owned := by
  have sound := owned.sound.perform permitted
  cases request with
  | create =>
      refine owned.withKernel sound (Nat.le_succ _) (fun _ _ _ => Iff.rfl) ?_
      intro file inside _
      exact congrArg MemoryFile.size (Function.update_of_ne (Nat.ne_of_lt inside) _ _)
  | write file offset byte => exact owned.byteWritten file offset byte sound
  | truncate file size =>
      refine owned.withKernel sound (Nat.le_refl _) (fun _ _ _ => Iff.rfl) ?_
      intro other _ hidden
      simp only [FileKernel.perform, FileKernel.files_change]
      split
      · next same =>
          have shown_ : process.exposed file = true := may
          rw [← same, hidden] at shown_
          cases shown_
      · rfl
  | map address mapping =>
      have foreign : mapping.owner = .other := by
        have may_ : (mapping.owner == .other && process.exposed mapping.file) = true := may
        simp only [Bool.and_eq_true, beq_iff_eq] at may_
        exact may_.1
      obtain ⟨nothing, _⟩ := FileKernel.permits_map permitted
      refine owned.withKernel sound (Nat.le_refl _) ?_ (fun _ _ _ => rfl)
      intro other mine own
      rw [FileKernel.lookup_map]
      grind
  | unmap address =>
      have foreign : ((process.kernel.mappings.lookup address).any fun mapping =>
          mapping.owner == .other) = true := may
      refine owned.withKernel sound (Nat.le_refl _) ?_ (fun _ _ _ => rfl)
      intro other mine own
      rw [FileKernel.lookup_unmap]
      split
      · next same =>
          rw [same]
          constructor
          · intro impossible
            cases impossible
          · intro found
            rw [found] at foreign
            simp [own] at foreign
      · exact Iff.rfl
  | store address offset byte =>
      have stored := owned.stored true address offset byte
      rcases process.ask_cases true (.store address offset byte) with refused | ⟨_, done⟩
      · unfold ask FileKernel.call at refused
        simp [permitted] at refused
      · rw [done] at stored
        exact stored
  | addSeals file seals =>
      refine owned.withKernel sound (Nat.le_refl _) (fun _ _ _ => Iff.rfl) ?_
      intro other _ _
      simp only [FileKernel.perform, FileKernel.files_change]
      split
      · next same => rw [same]
      · rfl

theorem Owned.asked (owned : process.Owned) (granted : Bool) (request : FileCall Party)
    (may : process.otherMay request = true) : (process.ask granted request).1.Owned := by
  rcases process.ask_cases granted request with refused | ⟨permitted, done⟩
  · rw [refused]
    exact owned
  · rw [done]
    exact owned.othersDone request may permitted

theorem Owned.others (owned : process.Owned) (granted : Bool) (request : FileCall Party) :
    (process.others granted request).Owned := by
  unfold SharingProcess.others
  split
  · next may =>
      cases request with
      | create =>
          cases granted with
          | false => exact owned
          | true => exact (owned.expose process.kernel.created).asked true .create rfl
      | write file offset byte => exact owned.asked granted _ may
      | truncate file size => exact owned.asked granted _ may
      | map address mapping => exact owned.asked granted _ may
      | unmap address => exact owned.asked granted _ may
      | store address offset byte => exact owned.asked granted _ may
      | addSeals file seals => exact owned.asked granted _ may
  · exact owned

theorem Owned.step (owned : process.Owned) (step : RegionStep) : (process.step step).Owned := by
  cases step with
  | create slot size answers =>
      simp only [SharingProcess.step]
      split
      · next empty => exact owned.create slot size answers empty
      · exact owned
  | mapExisting slot descriptor size regionId readOnly answers =>
      simp only [SharingProcess.step]
      split
      · next admitted =>
          exact owned.mapExisting slot descriptor size regionId readOnly answers admitted.1
            admitted.2
      · exact owned
  | moveFrom slot source answers => exact owned.moveFrom slot source answers
  | resize slot size answers => exact owned.resize slot size answers
  | sealReadOnly slot answers => exact owned.sealReadOnly slot answers
  | releaseDescriptor slot answers => exact owned.releaseDescriptor slot answers
  | reset slot answers => exact owned.reset slot answers
  | store slot offset byte => exact owned.store slot offset byte
  | duplicate descriptor chosen => exact owned.duplicate descriptor chosen
  | receive file chosen => exact owned.receive file chosen
  | closeLoose descriptor =>
      simp only [SharingProcess.step]
      split
      · next member => exact owned.closeLoose descriptor member
      · exact owned
  | others granted request => exact owned.others granted request

end Operations

end SharingProcess

end AgentNucleus.Runtime

/-
What a sealed region guarantees.  Whatever the process and the others do afterwards, its
file keeps every byte and its size, and nobody can write it.
-/

import AgentNucleus.Runtime.RegionOwnership

set_option autoImplicit false

namespace AgentNucleus.Runtime

open AgentNucleus.Library
open AgentNucleus.Library.FileKernel (Calls)

namespace SharingProcess

variable {process : SharingProcess}

/-! ### What the kernel is asked for

Everything that happens to the kernel are calls, so that what is frozen stays frozen. -/

theorem mmap_files (process : SharingProcess) (descriptor : Nat) (size : UInt64)
    (writable : Bool) (placed : Option Nat) :
    (process.mmap descriptor size writable placed).1.kernel.files = process.kernel.files := by
  unfold mmap
  split
  · rfl
  · split
    · rfl
    · dsimp only
      rcases process.ask_cases true _ with refused | ⟨_, done⟩
      · rw [refused]
      · rw [done]
        rfl

/-- A region that was sealed has sealed its file, and nothing else has happened to it. -/
theorem Owned.sealed (owned : process.Owned) (slot : Nat) (answers : RegionAnswers)
    (success : (process.sealReadOnly slot answers).2 = true) :
    ∃ descriptor file, (process.regions slot).descriptor = some descriptor ∧
      process.descriptors descriptor = some file ∧
      ((process.sealReadOnly slot answers).1.kernel.files file).Frozen ∧
      ((process.sealReadOnly slot answers).1.kernel.files file).bytes =
        (process.kernel.files file).bytes ∧
      ((process.sealReadOnly slot answers).1.kernel.files file).size =
        (process.kernel.files file).size := by
  unfold SharingProcess.sealReadOnly at success ⊢
  dsimp only at success ⊢
  split at success
  · next address descriptor placed holds =>
      obtain ⟨⟨file, opened⟩, _⟩ := owned.descriptors.held slot descriptor holds
      refine ⟨descriptor, file, holds, opened, ?_⟩
      split at success
      · cases success
      · next admitted =>
          rw [if_neg admitted]
          rcases (owned.itself slot).munmap placed answers.unmapped with
            refused | ⟨done, unmapped⟩
          · rw [refused] at success
            cases success
          · rw [done] at success ⊢
            dsimp only at success ⊢
            rcases unmapped.addSeals opened allSeals answers.sealed with
              refused | ⟨_, shut, _⟩
            · rw [refused] at success
              cases success
            · rw [shut] at success ⊢
              dsimp only at success ⊢
              have files := mmap_files
                ((process.after (.unmap address)).after (.addSeals file allSeals)) descriptor
                (process.regions slot).size false answers.address
              generalize SharingProcess.mmap _ descriptor (process.regions slot).size false
                answers.address = made at files success ⊢
              obtain ⟨mapped, place⟩ := made
              cases place with
              | none => cases success
              | some place =>
                  change (mapped.kernel.files file).Frozen ∧
                    (mapped.kernel.files file).bytes = _ ∧ (mapped.kernel.files file).size = _
                  rw [files]
                  simp only [after, FileKernel.perform, FileKernel.files_change, if_true,
                    MemoryFile.Frozen, allSeals, Seals.union, Bool.or_true, and_self]
  · cases success

end SharingProcess

end AgentNucleus.Runtime

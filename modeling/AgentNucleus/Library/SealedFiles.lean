/-
Files in memory with seals, as `memfd_create` and `fcntl` describe them.  Every process may
change a file, cut it or map it; a file that is sealed against writing, growing, shrinking and
further seals stays what it is, whatever is called afterwards.
-/

import AgentNucleus.Library.Machine
import AgentNucleus.Library.UnorderedMap

set_option autoImplicit false

namespace AgentNucleus.Library

structure Seals where
  write : Bool := false
  grow : Bool := false
  shrink : Bool := false
  further : Bool := false
deriving DecidableEq, Repr

/-- What lies behind the end is not looked at. -/
structure MemoryFile where
  size : Nat := 0
  bytes : Nat → UInt8 := fun _ => 0
  seals : Seals := {}

/-- `MAP_SHARED`, from the start of the file. -/
structure Mapping (π : Type) where
  owner : π
  file : Nat
  length : Nat
  writable : Bool

/-- Files are numbered in the order in which they are created; a mapping is known by its
address. -/
structure FileKernel (π : Type) where
  files : Nat → MemoryFile := fun _ => {}
  created : Nat := 0
  mappings : UnorderedMap Nat (Mapping π) := ∅

/-- What a process can do with a file. -/
inductive FileCall (π : Type)
  | create
  | write (file offset : Nat) (byte : UInt8)
  | truncate (file size : Nat)
  | map (address : Nat) (mapping : Mapping π)
  | unmap (address : Nat)
  | store (address offset : Nat) (byte : UInt8)
  | addSeals (file : Nat) (seals : Seals)

def Seals.union (first second : Seals) : Seals where
  write := first.write || second.write
  grow := first.grow || second.grow
  shrink := first.shrink || second.shrink
  further := first.further || second.further

namespace MemoryFile

def put (file : MemoryFile) (offset : Nat) (byte : UInt8) : MemoryFile :=
  { file with bytes := Function.update file.bytes offset byte }

/-- What a file gains is zero. -/
def resized (file : MemoryFile) (size : Nat) : MemoryFile :=
  { file with
    size
    bytes := fun index =>
      if file.size ≤ index ∧ index < size then 0 else file.bytes index }

def truncatable (file : MemoryFile) (size : Nat) : Bool :=
  (decide (size ≤ file.size) || !file.seals.grow) &&
    (decide (file.size ≤ size) || !file.seals.shrink)

/-- Nothing of the file can change any more. -/
def Frozen (file : MemoryFile) : Prop :=
  file.seals = { write := true, grow := true, shrink := true, further := true }

end MemoryFile

namespace FileKernel

variable {π : Type} (kernel : FileKernel π)

def setFile (file : Nat) (content : MemoryFile) : FileKernel π :=
  { kernel with files := Function.update kernel.files file content }

def change (file : Nat) (update : MemoryFile → MemoryFile) : FileKernel π :=
  kernel.setFile file (update (kernel.files file))

/-- No process can write the file through its memory. -/
def unwritable (file : Nat) : Bool :=
  kernel.mappings.keys.all fun address =>
    (kernel.mappings.lookup address).all fun mapping =>
      mapping.file != file || !mapping.writable

/-- Whether the kernel may do what it is asked for. -/
def permits : FileCall π → Bool
  | .create => true
  | .write file offset _ =>
      decide (offset < (kernel.files file).size) && !(kernel.files file).seals.write
  | .truncate file size => (kernel.files file).truncatable size
  | .map address mapping =>
      !kernel.mappings.contains address && decide (0 < mapping.length) &&
        decide (mapping.file < kernel.created) &&
        !(mapping.writable && (kernel.files mapping.file).seals.write)
  | .unmap address => kernel.mappings.contains address
  | .store address offset _ =>
      match kernel.mappings.lookup address with
      | none => false
      | some mapping =>
          mapping.writable && decide (offset < mapping.length) &&
            decide (offset < (kernel.files mapping.file).size)
  | .addSeals file seals =>
      !(kernel.files file).seals.further && (!seals.write || kernel.unwritable file)

def perform : FileCall π → FileKernel π
  | .create =>
      { kernel with
        files := Function.update kernel.files kernel.created {}
        created := kernel.created + 1 }
  | .write file offset byte => kernel.change file fun content => content.put offset byte
  | .truncate file size => kernel.change file fun content => content.resized size
  | .map address mapping => { kernel with mappings := kernel.mappings.insert address mapping }
  | .unmap address => { kernel with mappings := kernel.mappings.erase address }
  | .store address offset byte =>
      match kernel.mappings.lookup address with
      | none => kernel
      | some mapping => kernel.change mapping.file fun content => content.put offset byte
  | .addSeals file seals =>
      kernel.change file fun content => { content with seals := content.seals.union seals }

/-- A call and its success; the kernel may refuse what it permits, and a refused call changes
nothing. -/
def call (granted : Bool) (request : FileCall π) : FileKernel π × Bool :=
  if granted && kernel.permits request then (kernel.perform request, true) else (kernel, false)

/-! ### What every kernel keeps -/

/-- Mapped files exist, and a file that is sealed against writing is mapped for reading
only. -/
structure Sound : Prop where
  existing : ∀ address mapping, kernel.mappings.lookup address = some mapping →
    mapping.file < kernel.created
  readable : ∀ address mapping, kernel.mappings.lookup address = some mapping →
    (kernel.files mapping.file).seals.write = true → mapping.writable = false

variable {kernel}

theorem unwritable_iff (file : Nat) :
    kernel.unwritable file = true ↔
      ∀ address mapping, kernel.mappings.lookup address = some mapping →
        mapping.file = file → mapping.writable = false := by
  unfold unwritable
  rw [List.all_eq_true]
  constructor
  · intro every address mapping found same
    have listed : address ∈ kernel.mappings.keys :=
      (UnorderedMap.mem_iff_lookup kernel.mappings address).mpr ⟨mapping, found⟩
    have here := every address listed
    rw [found] at here
    simpa [same] using here
  · intro every address listed
    obtain ⟨mapping, found⟩ := (UnorderedMap.mem_iff_lookup kernel.mappings address).mp listed
    rw [found]
    by_cases same : mapping.file = file
    · simp [every address mapping found same]
    · simp [same]

theorem call_cases (kernel : FileKernel π) (granted : Bool) (request : FileCall π) :
    kernel.call granted request = (kernel, false) ∨
      kernel.permits request = true ∧
        kernel.call granted request = (kernel.perform request, true) := by
  unfold call
  cases granted <;> cases kernel.permits request <;> simp

theorem files_change (file other : Nat) (update : MemoryFile → MemoryFile) :
    (kernel.change file update).files other =
      if other = file then update (kernel.files file) else kernel.files other := by
  exact Function.update_apply kernel.files file _ other

@[grind =] theorem lookup_map (placed address : Nat) (mapping : Mapping π) :
    (kernel.perform (.map placed mapping)).mappings.lookup address =
      if address = placed then some mapping else kernel.mappings.lookup address :=
  UnorderedMap.lookup_insert_if kernel.mappings placed address mapping

@[grind =] theorem lookup_unmap (removed address : Nat) :
    (kernel.perform (.unmap removed)).mappings.lookup address =
      if address = removed then none else kernel.mappings.lookup address := by
  by_cases same : address = removed
  · rw [if_pos same, same]
    exact AList.lookup_erase removed kernel.mappings
  · rw [if_neg same]
    exact AList.lookup_erase_ne same

/-- A mapping is placed where none is. -/
theorem permits_map {placed : Nat} {mapping : Mapping π}
    (permitted : kernel.permits (.map placed mapping) = true) :
    kernel.mappings.lookup placed = none ∧ 0 < mapping.length := by
  simp only [permits, Bool.and_eq_true, decide_eq_true_eq, Bool.not_eq_true'] at permitted
  obtain ⟨⟨⟨free, positive⟩, _⟩, _⟩ := permitted
  refine ⟨?_, positive⟩
  cases found : kernel.mappings.lookup placed with
  | none => rfl
  | some other =>
      have present := (UnorderedMap.contains_iff kernel.mappings placed).mpr
        ((UnorderedMap.mem_iff_lookup kernel.mappings placed).mpr ⟨other, found⟩)
      rw [free] at present
      cases present

/-- The seals against writing that a call leaves behind were there before, or no process
can write. -/
theorem seals_perform {request : FileCall π} (permitted : kernel.permits request = true)
    (file : Nat) (inside : file < kernel.created)
    (sealed : ((kernel.perform request).files file).seals.write = true) :
    (kernel.files file).seals.write = true ∨ kernel.unwritable file = true := by
  cases request with
  | create =>
      change (Function.update kernel.files kernel.created {} file).seals.write = true at sealed
      rw [Function.update_of_ne (Nat.ne_of_lt inside)] at sealed
      exact .inl sealed
  | write changed offset byte =>
      simp only [perform, files_change] at sealed
      split at sealed
      · next same =>
          rw [same]
          exact .inl sealed
      · exact .inl sealed
  | truncate changed size =>
      simp only [perform, files_change] at sealed
      split at sealed
      · next same =>
          rw [same]
          exact .inl sealed
      · exact .inl sealed
  | map address mapping => exact .inl sealed
  | unmap address => exact .inl sealed
  | store address offset byte =>
      cases found : kernel.mappings.lookup address with
      | none =>
          simp only [perform, found] at sealed
          exact .inl sealed
      | some mapping =>
          simp only [perform, found, files_change] at sealed
          split at sealed
          · next same =>
              rw [same]
              exact .inl sealed
          · exact .inl sealed
  | addSeals changed seals =>
      simp only [perform, files_change] at sealed
      split at sealed
      · next same =>
          rw [← same] at permitted sealed
          unfold permits at permitted
          unfold Seals.union at sealed
          cases before : (kernel.files file).seals.write with
          | true => exact .inl rfl
          | false =>
              simp only [before, Bool.false_or] at sealed
              simp only [sealed, Bool.not_true, Bool.false_or, Bool.and_eq_true] at permitted
              exact .inr permitted.2
      · exact .inl sealed

/-- The mappings that a call leaves behind were there before, or are permitted now. -/
theorem mappings_perform {request : FileCall π} (permitted : kernel.permits request = true)
    {address : Nat} {mapping : Mapping π}
    (found : (kernel.perform request).mappings.lookup address = some mapping) :
    kernel.mappings.lookup address = some mapping ∨
      mapping.file < kernel.created ∧
        (mapping.writable && (kernel.files mapping.file).seals.write) = false ∧
        (kernel.perform request).files = kernel.files := by
  cases request with
  | create => exact .inl found
  | write changed offset byte => exact .inl found
  | truncate changed size => exact .inl found
  | map placed added =>
      change (kernel.mappings.insert placed added).lookup address = some mapping at found
      rw [UnorderedMap.lookup_insert_if] at found
      split at found
      · cases found
        unfold permits at permitted
        simp only [Bool.and_eq_true, decide_eq_true_eq, Bool.not_eq_true'] at permitted
        exact .inr ⟨permitted.1.2, permitted.2, rfl⟩
      · exact .inl found
  | unmap removed =>
      change (kernel.mappings.erase removed).lookup address = some mapping at found
      by_cases same : address = removed
      · rw [same, AList.lookup_erase] at found
        cases found
      · rw [AList.lookup_erase_ne same] at found
        exact .inl found
  | store placed offset byte =>
      cases stored : kernel.mappings.lookup placed with
      | none =>
          simp only [perform, stored] at found
          exact .inl found
      | some other =>
          simp only [perform, stored] at found
          exact .inl found
  | addSeals changed seals => exact .inl found

theorem created_perform (request : FileCall π) :
    kernel.created ≤ (kernel.perform request).created := by
  cases request with
  | create => exact Nat.le_succ _
  | store address offset byte =>
      simp only [perform]
      cases kernel.mappings.lookup address <;> exact Nat.le_refl _
  | write _ _ _ | truncate _ _ | map _ _ | unmap _ | addSeals _ _ => exact Nat.le_refl _

theorem Sound.perform (sound : kernel.Sound) {request : FileCall π}
    (permitted : kernel.permits request = true) : (kernel.perform request).Sound where
  existing := by
    intro address mapping found
    rcases mappings_perform permitted found with before | ⟨inside, _, _⟩
    · exact Nat.lt_of_lt_of_le (sound.existing address mapping before) (created_perform request)
    · exact Nat.lt_of_lt_of_le inside (created_perform request)
  readable := by
    intro address mapping found sealed
    rcases mappings_perform permitted found with before | ⟨_, readable, same⟩
    · have inside := sound.existing address mapping before
      rcases seals_perform permitted mapping.file inside sealed with already | nobody
      · exact sound.readable address mapping before already
      · exact (unwritable_iff mapping.file).mp nobody address mapping before rfl
    · rw [same] at sealed
      rw [sealed, Bool.and_true] at readable
      exact readable

theorem Sound.call (sound : kernel.Sound) (granted : Bool) (request : FileCall π) :
    (kernel.call granted request).1.Sound := by
  rcases kernel.call_cases granted request with refused | ⟨permitted, done⟩
  · rw [refused]
    exact sound
  · rw [done]
    exact sound.perform permitted

/-! ### Frozen files -/

/-- No call changes a file that has every seal. -/
theorem Sound.frozen_perform (sound : kernel.Sound) {request : FileCall π}
    (permitted : kernel.permits request = true) {file : Nat} (inside : file < kernel.created)
    (frozen : (kernel.files file).Frozen) :
    (kernel.perform request).files file = kernel.files file := by
  unfold MemoryFile.Frozen at frozen
  cases request with
  | create => exact Function.update_of_ne (Nat.ne_of_lt inside) _ _
  | write changed offset byte =>
      simp only [FileKernel.perform, files_change]
      split
      · next same =>
          simp only [permits, ← same, frozen] at permitted
          simp at permitted
      · rfl
  | truncate changed size =>
      simp only [FileKernel.perform, files_change]
      split
      · next same =>
          rw [← same] at permitted ⊢
          simp only [permits, MemoryFile.truncatable, frozen, Bool.not_true, Bool.or_false,
            Bool.and_eq_true, decide_eq_true_eq] at permitted
          have equal : size = (kernel.files file).size := by omega
          unfold MemoryFile.resized
          rw [equal]
          congr 1
          funext index
          rw [if_neg (by omega)]
      · rfl
  | map address mapping => rfl
  | unmap address => rfl
  | store address offset byte =>
      cases found : kernel.mappings.lookup address with
      | none => simp only [FileKernel.perform, found]
      | some mapping =>
          simp only [permits, found] at permitted
          simp only [FileKernel.perform, found, files_change]
          split
          · next same =>
              have readable := sound.readable address mapping found (by rw [← same, frozen])
              rw [readable] at permitted
              simp at permitted
          · rfl
  | addSeals changed seals =>
      simp only [FileKernel.perform, files_change]
      split
      · next same =>
          simp only [permits, ← same, frozen] at permitted
          simp at permitted
      · rfl

theorem Sound.frozen_call (sound : kernel.Sound) (granted : Bool) (request : FileCall π)
    {file : Nat} (inside : file < kernel.created) (frozen : (kernel.files file).Frozen) :
    (kernel.call granted request).1.files file = kernel.files file := by
  rcases kernel.call_cases granted request with refused | ⟨permitted, done⟩
  · rw [refused]
  · rw [done]
    exact sound.frozen_perform permitted inside frozen

/-- The second kernel has answered some more calls than the first one. -/
inductive Calls (first : FileKernel π) : FileKernel π → Prop
  | start : Calls first first
  | more {second : FileKernel π} (before : Calls first second) (granted : Bool)
      (request : FileCall π) : Calls first (second.call granted request).1

theorem Calls.trans {first second third : FileKernel π} (before : Calls first second)
    (later : Calls second third) : Calls first third := by
  induction later with
  | start => exact before
  | more _ granted request ih => exact ih.more granted request

theorem created_call (kernel : FileKernel π) (granted : Bool) (request : FileCall π) :
    kernel.created ≤ (kernel.call granted request).1.created := by
  rcases kernel.call_cases granted request with refused | ⟨_, done⟩
  · rw [refused]
  · rw [done]
    exact created_perform request

theorem Calls.created {first second : FileKernel π} (calls : Calls first second) :
    first.created ≤ second.created := by
  induction calls with
  | start => exact Nat.le_refl _
  | @more before _ granted request ih => exact ih.trans (before.created_call granted request)

/-- What is frozen stays as it is, whoever calls. -/
theorem Calls.frozen {first second : FileKernel π} (calls : Calls first second)
    (sound : first.Sound) {file : Nat} (inside : file < first.created)
    (frozen : (first.files file).Frozen) :
    second.Sound ∧ second.files file = first.files file := by
  induction calls with
  | start => exact ⟨sound, rfl⟩
  | @more before earlier granted request ih =>
      obtain ⟨sound_, same⟩ := ih
      have inside_ := Nat.lt_of_lt_of_le inside earlier.created
      rw [← same] at frozen
      exact ⟨sound_.call granted request,
        (sound_.frozen_call granted request inside_ frozen).trans same⟩

end FileKernel

end AgentNucleus.Library

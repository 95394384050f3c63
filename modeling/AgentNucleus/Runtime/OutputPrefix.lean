/-
What is captured is a prefix.  The bytes read so far and the capacity determine the
buffer, the count and the flag, however `read` has split the stream; the shared
result of a command agent repeats them.
-/

import AgentNucleus.Runtime.OutputCapture

set_option autoImplicit false

namespace AgentNucleus.Runtime

open Library

namespace Capture

/-- The state after any part of the stream has been read. -/
structure Holds (capacity : UInt64) (initial : Nat → UInt8) (stream : List UInt8)
    (capture : Capture) : Prop where
  stream : capture.drained ++ capture.pending = stream
  count : capture.outputBytes.toNat = min capture.drained.length capacity.toNat
  truncated : capture.outputTruncated = true ↔ capacity.toNat < capture.drained.length
  memory : ∀ address, capture.memory address =
    if address < capture.outputBytes.toNat then
      (capture.drained[address]?).getD (initial address)
    else initial address

/-- The first bytes from the start of the buffer. -/
def contents (capture : Capture) (length : Nat) : List UInt8 :=
  (List.range length).map capture.memory

section Turns

variable {capacity : UInt64} {initial : Nat → UInt8} {stream : List UInt8} {capture : Capture}

theorem holds_start (capacity : UInt64) (initial : Nat → UInt8) (stream : List UInt8) :
    Holds capacity initial stream { memory := initial, pending := stream } where
  stream := rfl
  count := (Nat.zero_min _).symm
  truncated := by simp
  memory := fun _ => rfl

/-- The region handed to `read` ends inside the buffer, or inside `discard`. -/
theorem available_le (capture : Capture) (capacity : UInt64) :
    (capture.intoBuffer capacity = true →
      capture.outputBytes.toNat + (capture.available capacity).toNat ≤ capacity.toNat) ∧
    (capture.available capacity).toNat ≤ kDiscardSize.toNat := by
  unfold available
  cases into : capture.intoBuffer capacity with
  | false => exact ⟨nofun, Nat.le_refl _⟩
  | true =>
      rw [if_pos rfl]
      have below : capture.outputBytes < capacity := of_decide_eq_true into
      have less := UInt64.lt_iff_toNat_lt.mp below
      have room : (capacity - capture.outputBytes).toNat =
          capacity.toNat - capture.outputBytes.toNat :=
        UInt64.toNat_sub_of_le _ _ (UInt64.le_of_lt below)
      rw [UInt64.toNat_min, room]
      constructor
      · intro _
        omega
      · omega

theorem delivered_length (capture : Capture) (capacity : UInt64) (limit : Nat) :
    (capture.delivered capacity limit).length ≤ (capture.available capacity).toNat := by
  unfold delivered
  rw [List.length_take]
  omega

theorem delivered_prefix (capture : Capture) (capacity : UInt64) (limit : Nat) :
    capture.delivered capacity limit ++
        capture.pending.drop (capture.delivered capacity limit).length = capture.pending := by
  unfold delivered
  rw [List.length_take]
  by_cases short : min (limit + 1) (capture.available capacity).toNat ≤ capture.pending.length
  · rw [Nat.min_eq_left short]
    exact List.take_append_drop _ _
  · rw [Nat.min_eq_right (Nat.le_of_not_le short), List.drop_length, List.append_nil]
    exact List.take_of_length_le (Nat.le_of_not_le short)

theorem writeBytes_append (initial : Nat → UInt8) (drained bytes : List UInt8)
    (memory : Nat → UInt8)
    (before : ∀ address, memory address =
      if address < drained.length then (drained[address]?).getD (initial address)
      else initial address) (address : Nat) :
    writeBytes memory drained.length bytes address =
      if address < drained.length + bytes.length then
        ((drained ++ bytes)[address]?).getD (initial address)
      else initial address := by
  unfold writeBytes
  by_cases old : address < drained.length
  · rw [if_neg (Nat.not_le.mpr old), before, if_pos old,
      if_pos (Nat.lt_of_lt_of_le old (Nat.le_add_right _ _)), List.getElem?_append_left old]
  · have behind : drained.length ≤ address := Nat.le_of_not_lt old
    rw [if_pos behind, before, if_neg old, List.getElem?_append_right behind]
    by_cases new : address < drained.length + bytes.length
    · rw [if_pos new]
    · rw [if_neg new, List.getElem?_eq_none (by omega)]
      rfl

/-- Bytes that fit are appended to what the buffer holds; bytes that arrive when it
is full are dropped and remembered. -/
theorem Holds.receive (holds : Holds capacity initial stream capture) {bytes : List UInt8}
    (some : bytes ≠ [])
    (fits : bytes.length ≤ (capture.available capacity).toNat)
    (next : bytes ++ capture.pending.drop bytes.length = capture.pending) :
    Holds capacity initial stream (capture.receive capacity bytes) := by
  have positive : 0 < bytes.length := List.length_pos_iff.mpr some
  have rest : (capture.drained ++ bytes) ++ capture.pending.drop bytes.length = stream := by
    rw [List.append_assoc, next]
    exact holds.stream
  have room := (capture.available_le capacity).1
  have count := holds.count
  have bound := capacity.toNat_lt
  unfold Capture.receive
  cases into : capture.intoBuffer capacity with
  | false =>
      have full : capacity.toNat ≤ capture.outputBytes.toNat := by
        have outside : ¬capture.outputBytes < capacity := of_decide_eq_false into
        rw [UInt64.lt_iff_toNat_lt] at outside
        omega
      refine ⟨rest, ?_, ?_, ?_⟩
      · change capture.outputBytes.toNat = min (capture.drained ++ bytes).length _
        rw [List.length_append]
        omega
      · change true = true ↔ _ < (capture.drained ++ bytes).length
        rw [List.length_append]
        constructor
        · intro _
          omega
        · intro _
          rfl
      · intro address
        rw [if_neg Bool.false_ne_true]
        change capture.memory address = if address < capture.outputBytes.toNat then
          ((capture.drained ++ bytes)[address]?).getD (initial address) else initial address
        rw [holds.memory]
        by_cases inside : address < capture.outputBytes.toNat
        · rw [if_pos inside, if_pos inside, List.getElem?_append_left (by omega)]
        · rw [if_neg inside, if_neg inside]
  | true =>
      have below : capture.outputBytes < capacity := of_decide_eq_true into
      have less := UInt64.lt_iff_toNat_lt.mp below
      have room := room into
      have all : capture.outputBytes.toNat = capture.drained.length := by omega
      have size : (capture.outputBytes + UInt64.ofNat bytes.length).toNat =
          capture.drained.length + bytes.length := by
        rw [UInt64.toNat_add, UInt64.toNat_ofNat', all,
          Nat.mod_eq_of_lt (show bytes.length < 2 ^ 64 by omega), Nat.mod_eq_of_lt (by omega)]
      refine ⟨rest, ?_, ?_, ?_⟩
      · change (capture.outputBytes + UInt64.ofNat bytes.length).toNat =
          min (capture.drained ++ bytes).length _
        rw [size, List.length_append]
        omega
      · change capture.outputTruncated = true ↔ _ < (capture.drained ++ bytes).length
        rw [holds.truncated, List.length_append]
        omega
      · intro address
        rw [if_pos rfl]
        change writeBytes capture.memory capture.outputBytes.toNat bytes address =
          if address < (capture.outputBytes + UInt64.ofNat bytes.length).toNat then
            ((capture.drained ++ bytes)[address]?).getD (initial address) else initial address
        rw [size, all]
        apply writeBytes_append initial capture.drained bytes capture.memory
        intro other
        rw [← all]
        exact holds.memory other

theorem Holds.drainTurn (holds : Holds capacity initial stream capture) (answer : ReadAnswer) :
    Holds capacity initial stream (capture.drainTurn capacity answer).2 := by
  cases answer with
  | ready limit =>
      unfold Capture.drainTurn
      dsimp only
      cases empty : (capture.delivered capacity limit).isEmpty with
      | true => exact holds
      | false =>
          apply holds.receive
          · intro nothing
            rw [nothing] at empty
            cases empty
          · exact capture.delivered_length capacity limit
          · exact capture.delivered_prefix capacity limit
  | endOfFile => exact holds
  | interrupted => exact holds
  | wouldBlock => exact holds
  | failed => exact holds

theorem Holds.drainOutput (holds : Holds capacity initial stream capture)
    (answers : List ReadAnswer) :
    Holds capacity initial stream (Capture.drainOutput capacity answers capture).2 := by
  induction answers generalizing capture with
  | nil => exact holds
  | cons answer rest ih =>
      have turn := holds.drainTurn answer
      unfold Capture.drainOutput
      cases result : capture.drainTurn capacity answer with
      | mk closed after =>
          rw [result] at turn
          cases closed with
          | none => exact ih turn
          | some closed => exact turn

/-- The buffer holds the bytes that fit, in order. -/
theorem Holds.contents (holds : Holds capacity initial stream capture) :
    capture.contents capture.outputBytes.toNat =
      stream.take (min capture.drained.length capacity.toNat) := by
  rw [holds.count, ← holds.stream]
  apply List.ext_getElem?
  intro index
  unfold Capture.contents
  rw [List.getElem?_map, List.getElem?_take]
  by_cases inside : index < min capture.drained.length capacity.toNat
  · have within : index < capture.drained.length := by omega
    rw [if_pos inside, List.getElem?_range inside, Option.map_some, holds.memory,
      if_pos (by rw [holds.count]; exact inside), List.getElem?_append_left within,
      List.getElem?_eq_getElem within]
    rfl
  · rw [if_neg inside, List.getElem?_eq_none (by rw [List.length_range]; omega)]
    rfl

theorem Holds.drainCalls (holds : Holds capacity initial stream capture)
    (calls : List (List ReadAnswer)) :
    Holds capacity initial stream (Capture.drainCalls capacity calls capture) := by
  induction calls generalizing capture with
  | nil => exact holds
  | cons answers rest ih => exact ih (holds.drainOutput answers)

end Turns

/-- What is kept of a stream of which some bytes have been read. -/
structure KeepsPrefix (capacity : UInt64) (initial : Nat → UInt8) (stream : List UInt8)
    (capture : Capture) : Prop where
  inOrder : capture.drained = stream.take capture.drained.length
  count : capture.outputBytes.toNat = min capture.drained.length capacity.toNat
  contents : capture.contents capture.outputBytes.toNat =
    stream.take (min capture.drained.length capacity.toNat)
  outside : ∀ address, capacity.toNat ≤ address → capture.memory address = initial address
  nextRead : capture.intoBuffer capacity = true →
    capture.outputBytes.toNat + (capture.available capacity).toNat ≤ capacity.toNat
  truncated : capture.outputTruncated = true ↔ capacity.toNat < capture.drained.length

theorem Holds.keepsPrefix {capacity : UInt64} {initial : Nat → UInt8} {stream : List UInt8}
    {capture : Capture} (holds : Holds capacity initial stream capture) :
    KeepsPrefix capacity initial stream capture where
  inOrder := by
    rw [← holds.stream, List.take_left]
  count := holds.count
  contents := holds.contents
  outside := by
    intro address behind
    have count := holds.count
    rw [holds.memory, if_neg (by omega)]
  nextRead := (capture.available_le capacity).1
  truncated := holds.truncated

end Capture

/-! ### Around `drain_output` -/

namespace ProcessExecutor

open Capture

section Runs

variable {capacity : UInt64} {initial : Nat → UInt8} {stream : List UInt8}
  {capture after : Capture}

/-- Only `drain_output` touches the output. -/
theorem runLoop_holds (turns : List RunTurn) {closed nowClosed : Bool} {ending : LoopEnd}
    (holds : Holds capacity initial stream capture)
    (ends : runLoop capacity turns closed capture = some (ending, nowClosed, after)) :
    Holds capacity initial stream after := by
  induction turns generalizing closed capture with
  | nil => cases ends
  | cons turn rest ih =>
      have drained : Holds capacity initial stream
          (if closed then (some true, capture)
            else drainOutput capacity turn.reads capture).2 := by
        cases closed with
        | true => exact holds
        | false => exact holds.drainOutput turn.reads
      unfold runLoop at ends
      split at ends
      · cases ends
      · rename_i current reads
        rw [reads] at drained
        split at ends
        · cases ends
          exact drained
        · cases ends
          exact drained
        · cases ends
          exact drained
        · exact ih drained ends
        · split at ends
          · cases ends
            exact drained
          · exact ih drained ends

/-- The result repeats what has been captured. -/
theorem runStarted_holds {environment : RunEnvironment} {hasBuffer : Bool}
    {result : ProcessResult} (holds : Holds capacity initial stream capture)
    (ends : runStarted environment capacity hasBuffer capture = some (result, after)) :
    Holds capacity initial stream after ∧ result.outputBytes = after.outputBytes ∧
      result.outputTruncated = after.outputTruncated := by
  unfold runStarted at ends
  split at ends
  · cases ends
  · rename_i loop
    cases ends
    exact ⟨runLoop_holds environment.turns holds loop, rfl, rfl⟩
  · rename_i closed current loop
    have left := runLoop_holds environment.turns holds loop
    have drained : Holds capacity initial stream
        (if closed then (some true, current)
          else drainOutput capacity environment.lastReads current).2 := by
      cases closed with
      | true => exact left
      | false => exact left.drainOutput environment.lastReads
    split at ends
    · cases ends
    · rename_i last
      rw [last] at drained
      cases ends
      exact ⟨drained, rfl, rfl⟩

theorem startResult_started {environment : RunEnvironment} {result : ProcessResult}
    (failed : startResult environment = some result) : result.started = false := by
  unfold startResult at failed
  split at failed <;> cases failed <;> rfl

theorem run_holds {environment : RunEnvironment} {command : List StdString} {hasBuffer : Bool}
    {result : ProcessResult} (holds : Holds capacity initial stream capture)
    (ends : run environment command capacity hasBuffer capture = some (result, after))
    (started : result.started = true) :
    Holds capacity initial stream after ∧ result.outputBytes = after.outputBytes ∧
      result.outputTruncated = after.outputTruncated := by
  unfold run at ends
  split at ends
  · cases ends
    cases started
  · split at ends
    · cases ends
      cases started
    · split at ends
      · cases ends
        cases started
      · split at ends
        · rename_i failed
          cases ends
          rw [startResult_started failed] at started
          cases started
        · exact runStarted_holds holds ends

end Runs

end ProcessExecutor

namespace AgentResultStore

/-- What a publication adds.  The region has shrunk to the bytes in use, and to one
byte if there are none. -/
theorem publish_ok {results after : UnorderedMap AgentId StoredResult}
    {environment : PublishEnvironment} {id : AgentId} {region : SharedMemoryRegion}
    {length : UInt64} {dataType flags : UInt32}
    (published : publish results environment id region length dataType flags = .ok after) :
    ∃ kept : SharedMemoryRegion,
      kept.data = region.data ∧ kept.size = retained length ∧
      kept.regionId = region.regionId ∧ kept.readOnly = true ∧
      after = results.insert id (storedResult kept length dataType flags) := by
  have shrunk : ∀ resized,
      (if retained length ≠ region.size then region.resize (retained length) environment.resized
        else .ok region) = .ok resized →
      resized.data = region.data ∧ resized.size = retained length ∧
        resized.regionId = region.regionId := by
    intro resized result
    split at result
    · unfold SharedMemoryRegion.resize at result
      split at result
      · cases result
      · cases answer : environment.resized with
        | error error =>
            rw [answer] at result
            cases result
        | ok done =>
            rw [answer] at result
            cases result
            exact ⟨rfl, rfl, rfl⟩
    · rename_i same
      cases result
      exact ⟨rfl, (not_not.mp same).symm, rfl⟩
  unfold publish at published
  split at published
  · cases published
  · split at published
    · cases published
    · rename_i resized first
      obtain ⟨data, size, named⟩ := shrunk resized first
      split at published
      · cases published
      · rename_i kept second
        cases published
        unfold SharedMemoryRegion.sealReadOnly at second
        split at second
        · cases second
        · cases answer : environment.sealed with
          | error error =>
              rw [answer] at second
              cases second
          | ok done =>
              rw [answer] at second
              cases second
              exact ⟨{ resized with readOnly := true }, data, size, named, rfl, rfl⟩

end AgentResultStore

namespace CommandExecution

/-- What a command agent publishes: the first bytes of its output, as many as the
capacity admits, and the flag that there were more. -/
structure Publishes (capacity : UInt64) (stream : List UInt8) (capture : Capture)
    (stored : StoredResult) : Prop where
  length : stored.reference.length.toNat = min capture.drained.length capacity.toNat
  counted : stored.reference.length = capture.outputBytes
  regionSize : stored.reference.regionSize.toNat = max 1 stored.reference.length.toNat
  mapped : stored.region.size = stored.reference.regionSize
  contents : (List.range stored.reference.length.toNat).map stored.region.data =
    stream.take (min capture.drained.length capacity.toNat)
  truncated : stored.reference.flags &&& sharedBufferTruncated ≠ 0 ↔
    capacity.toNat < capture.drained.length

theorem outputFlags_truncated (result : ProcessResult) :
    (outputFlags result ||| sharedBufferImmutable) &&& sharedBufferTruncated ≠ 0 ↔
      result.outputTruncated = true := by
  unfold outputFlags
  cases result.outputTruncated with
  | false => decide
  | true => decide

theorem retained_toNat (length : UInt64) :
    (AgentResultStore.retained length).toNat = max 1 length.toNat := by
  unfold AgentResultStore.retained
  by_cases empty : length = 0
  · rw [if_pos empty, empty]
    rfl
  · rw [if_neg empty]
    have positive : length.toNat ≠ 0 := fun zero => empty (UInt64.toNat_inj.mp zero)
    omega

/-- The entry of an agent after its execution, if it has one, comes from this
publication. -/
theorem conclude_publishes {environment : CommandEnvironment}
    {results : UnorderedMap AgentId StoredResult} {id : AgentId} {region : SharedMemoryRegion}
    {result : ProcessResult} {capture : Capture} {stored : StoredResult}
    (absent : results.lookup id = none)
    (present : (conclude environment results id region result capture).results.lookup id =
      some stored) :
    ∃ kept : SharedMemoryRegion,
      kept.data = capture.memory ∧ kept.size = AgentResultStore.retained result.outputBytes ∧
      stored = AgentResultStore.storedResult kept result.outputBytes SharedDataType.textUtf8
        (outputFlags result) := by
  unfold conclude at present
  dsimp only at present
  split at present
  · rw [absent] at present
    cases present
  · rename_i after published
    split at published
    · obtain ⟨kept, data, size, _, _, inserted⟩ := AgentResultStore.publish_ok published
      refine ⟨kept, data, size, ?_⟩
      dsimp only at present
      rw [inserted, AList.lookup_insert] at present
      exact (Option.some.inj present).symm
    · cases published
      dsimp only at present
      rw [absent] at present
      cases present

theorem create_ok {size : UInt64} {answer : Except StdString UInt64}
    {region : SharedMemoryRegion}
    (created : SharedMemoryRegion.create size answer = .ok region) :
    (region.data = fun _ => 0) ∧ region.size = size := by
  unfold SharedMemoryRegion.create at created
  split at created
  · cases created
  · cases answer with
    | error error => cases created
    | ok regionId =>
        cases created
        exact ⟨rfl, rfl⟩

/-- A process that has started leaves a captured prefix, and what is published repeats
it. -/
theorem execute_publishes {environment : CommandEnvironment} {capacity : UInt64}
    {results : UnorderedMap AgentId StoredResult} {id : AgentId} {command : List StdString}
    {execution : CommandExecution} (positive : 0 < capacity)
    (ends : execute environment capacity results id command = some execution)
    (started : execution.started = true) :
    ∃ capture : Capture, execution.capture = some capture ∧
      Capture.KeepsPrefix capacity (fun _ => 0) environment.stream capture ∧
      ∀ stored : StoredResult, execution.results.lookup id = some stored →
        Publishes capacity environment.stream capture stored := by
  unfold execute at ends
  rw [if_pos positive] at ends
  dsimp only at ends
  split at ends
  · cases ends
    cases started
  · rename_i region created
    obtain ⟨zeros, size⟩ := create_ok created
    split at ends
    · cases ends
      cases started
    · split at ends
      · cases ends
      · rename_i result capture ran
        cases ends
        rw [zeros, size] at ran
        have fact : result.started = true := by
          unfold conclude at started
          dsimp only at started
          split at started
          · exact started
          · exact started
        obtain ⟨holds, bytes, flag⟩ := ProcessExecutor.run_holds
          (Capture.holds_start capacity (fun _ => 0) environment.stream) ran fact
        have kept := holds.keepsPrefix
        refine ⟨capture, ?_, kept, ?_⟩
        · unfold conclude
          dsimp only
          split
          · rfl
          · rfl
        · intro stored present
          obtain ⟨final, data, room, same⟩ :=
            conclude_publishes (AList.lookup_erase id results) present
          have regionSize : stored.reference.regionSize = final.size := by rw [same]; rfl
          have length : stored.reference.length = capture.outputBytes := by
            rw [same, ← bytes]
            rfl
          constructor
          · rw [length]
            exact kept.count
          · exact length
          · rw [regionSize, room, retained_toNat, bytes, length]
          · rw [same]
            rfl
          · rw [length, same]
            change (List.range capture.outputBytes.toNat).map final.data = _
            rw [data]
            exact kept.contents
          · rw [← kept.truncated, ← flag, ← outputFlags_truncated, same]
            rfl

/-- `drain_output` keeps the prefix that fits, for every split of the stream into reads,
and `execute` publishes it. -/
theorem command_output_captured :
    (∀ (capacity : UInt64) (initial : Nat → UInt8) (stream : List UInt8)
      (calls : List (List ReadAnswer)), 0 < capacity →
      Capture.KeepsPrefix capacity initial stream
        (Capture.drainCalls capacity calls { memory := initial, pending := stream })) ∧
    ∀ (environment : CommandEnvironment) (capacity : UInt64)
      (results : UnorderedMap AgentId StoredResult) (id : AgentId) (command : List StdString)
      (execution : CommandExecution), 0 < capacity →
      execute environment capacity results id command = some execution →
      execution.started = true →
      ∃ capture : Capture, execution.capture = some capture ∧
        Capture.KeepsPrefix capacity (fun _ => 0) environment.stream capture ∧
        ∀ stored : StoredResult, execution.results.lookup id = some stored →
          Publishes capacity environment.stream capture stored := by
  constructor
  · intro capacity initial stream calls _
    exact ((Capture.holds_start capacity initial stream).drainCalls calls).keepsPrefix
  · intro environment capacity results id command execution positive ends started
    exact execute_publishes positive ends started

/-- A child that writes five bytes, read in two parts with an interruption. -/
def fiveBytes : CommandEnvironment where
  created := .ok 4
  run :=
    { processId := 71
      turns :=
        [{ reads := [.ready 1, .wouldBlock], wait := .nothing },
          { reads := [.interrupted, .ready 9, .wouldBlock], wait := .gone (.exited 0) }]
      lastReads := [.ready 9, .endOfFile] }
  stream := [72, 101, 108, 108, 111]

/-- With room for four bytes the fifth is dropped and reported. -/
theorem five_bytes_in_four :
    ∃ execution stored capture,
      execute fiveBytes 4 ∅ 7 [text "hello"] = some execution ∧
      execution.success = true ∧ execution.results.lookup 7 = some stored ∧
      stored.reference.length = 4 ∧ stored.reference.regionSize = 4 ∧
      stored.reference.flags &&& sharedBufferTruncated ≠ 0 ∧
      execution.capture = some capture ∧ 4 < capture.drained.length ∧
      Publishes 4 fiveBytes.stream capture stored := by
  obtain ⟨execution, ends, success, started, shown⟩ : ∃ execution,
      execute fiveBytes 4 ∅ 7 [text "hello"] = some execution ∧ execution.success = true ∧
      execution.started = true ∧
      (execution.results.lookup 7).map StoredResult.reference =
        some { regionId := 4, regionSize := 4, length := 4, dataType := 1, flags := 7 } :=
    ⟨_, rfl, rfl, rfl, by decide +kernel⟩
  obtain ⟨capture, captured, _, published⟩ :=
    command_output_captured.2 fiveBytes 4 ∅ 7 [text "hello"] execution (by decide) ends started
  obtain ⟨stored, present, reference⟩ := Option.map_eq_some_iff.mp shown
  have more : stored.reference.flags &&& sharedBufferTruncated ≠ 0 := by
    rw [reference]
    decide
  have whole := published stored present
  refine ⟨execution, stored, capture, ends, success, present, ?_, ?_, more, captured, ?_, whole⟩
  · rw [reference]
  · rw [reference]
  · exact whole.truncated.mp more

end CommandExecution

end AgentNucleus.Runtime

/-
Blocks of memory that are filled from the front.  A write outside the block has no result,
and a block that starts with a text goes on with what is written behind it.
-/

set_option autoImplicit false

namespace AgentNucleus.Library

universe u

variable {α : Type u}

/-- `memcpy` into a block. -/
def writeBlock (block : List α) (position : Nat) (bytes : List α) : Option (List α) :=
  if position + bytes.length ≤ block.length then
    some (block.take position ++ bytes ++ block.drop (position + bytes.length))
  else none

/-- The text at the front of a block is continued. -/
theorem writeBlock_continues {block written : List α} (bytes : List α)
    (starts : written <+: block) (room : written.length + bytes.length ≤ block.length) :
    ∃ after, writeBlock block written.length bytes = some after ∧
      after.length = block.length ∧ written ++ bytes <+: after := by
  have front : block.take written.length = written := (List.prefix_iff_eq_take.mp starts).symm
  refine ⟨block.take written.length ++ bytes ++ block.drop (written.length + bytes.length),
    ?_, ?_, ?_⟩
  · unfold writeBlock
    rw [if_pos room]
  · simp only [List.length_append, List.length_take, List.length_drop]
    omega
  · rw [front]
    exact List.prefix_append _ _

/-- A smaller text at the front. -/
theorem prefix_of_append {first second block : List α} (starts : first ++ second <+: block) :
    first <+: block :=
  (List.prefix_append first second).trans starts

end AgentNucleus.Library

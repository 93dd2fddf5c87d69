import Mathlib.Data.List.TakeWhile

/-!
# Strings in arrays of characters

An array of characters holds the string before its first terminator.  A string is copied
into an array of a given size by cutting it off at the end of the array and by filling up
what is left with terminators; the copy of a string that is as long as the array has none.
-/

namespace CharArray

variable {Char : Type*} [DecidableEq Char] {terminator : Char} {array source chars : List Char}
  {size : Nat}

/-- The characters before the first terminator.  Reading an array that has none goes on
behind its end, and has no result. -/
def read (terminator : Char) (array : List Char) : Option (List Char) :=
  if terminator ∈ array then some (array.takeWhile (· ≠ terminator)) else none

/-- The array of the given size that a string is copied to. -/
def copy (terminator : Char) (size : Nat) (source : List Char) : List Char :=
  source.take size ++ List.replicate (size - source.length) terminator

theorem read_isSome : (read terminator array).isSome = true ↔ terminator ∈ array := by
  unfold read
  split
  next member => simp [member]
  next absent => simp [absent]

/-- What is read is a string. -/
theorem not_mem_of_read (reads : read terminator array = some chars) : terminator ∉ chars := by
  unfold read at reads
  split at reads
  next =>
    obtain rfl := Option.some.inj reads
    intro member
    simpa using List.mem_takeWhile_imp member
  next => cases reads

omit [DecidableEq Char] in
@[simp]
theorem length_copy : (copy terminator size source).length = size := by
  simp only [copy, List.length_append, List.length_take, List.length_replicate]
  omega

omit [DecidableEq Char] in
/-- The terminator of the copy comes from the characters that the string leaves free. -/
theorem mem_copy (isString : terminator ∉ source) :
    terminator ∈ copy terminator size source ↔ source.length < size := by
  have absent : terminator ∉ source.take size := fun member =>
    isString (List.mem_of_mem_take member)
  rw [copy, List.mem_append, or_iff_right absent, List.mem_replicate, and_iff_left rfl]
  omega

/-- A string that leaves a character free is read back. -/
theorem read_copy (isString : terminator ∉ source) (fits : source.length < size) :
    read terminator (copy terminator size source) = some source := by
  have whole : copy terminator size source =
      source ++ terminator :: List.replicate (size - source.length - 1) terminator := by
    rw [copy, List.take_of_length_le fits.le, ← List.replicate_succ]
    congr 2
    omega
  have different (character : Char) (member : character ∈ source) :
      decide (character ≠ terminator) = true := by
    rw [decide_eq_true_eq]
    rintro rfl
    exact isString member
  rw [read, if_pos ((mem_copy isString).mpr fits), whole,
    List.takeWhile_append_of_pos different, List.takeWhile_cons_of_neg (by simp), List.append_nil]

end CharArray

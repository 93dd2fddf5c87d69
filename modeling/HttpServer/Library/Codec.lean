import Mathlib.Data.List.TakeWhile

/-!
# Codecs

A codec writes values as texts, and reads a value from the front of a text.  What it reads is
what it would write, and it reads back the values that are well formed.  Codecs are put
together from fields: fixed texts, texts of a fixed length, and texts that a delimiter ends.
-/

/-- The values that can be read back, and how they are written and read. -/
structure Codec (Char Value : Type*) where
  WellFormed : Value → Prop
  write : Value → List Char
  read : List Char → Option (Value × List Char)
  read_write : ∀ value rest, WellFormed value → read (write value ++ rest) = some (value, rest)
  sound : ∀ text value rest, read text = some (value, rest) →
    WellFormed value ∧ text = write value ++ rest

namespace Codec

variable {Char Value First Second Other : Type*}

section Fields

variable [DecidableEq Char]

/-- A fixed text. -/
def literal (text : List Char) : Codec Char Unit where
  WellFormed _ := True
  write _ := text
  read input := if text <+: input then some ((), input.drop text.length) else none
  read_write _ rest _ := by
    rw [if_pos (List.prefix_append ..), List.drop_left]
  sound input value rest reads := by
    split at reads
    next isPrefix =>
      obtain ⟨tail, rfl⟩ := isPrefix
      obtain ⟨-, rfl⟩ := Prod.mk.inj (Option.some.inj reads)
      exact ⟨trivial, by rw [List.drop_left]⟩
    next => cases reads

/-- A text up to its delimiter. -/
def terminated (delimiter : Char) : Codec Char (List Char) where
  WellFormed field := delimiter ∉ field
  write field := field ++ [delimiter]
  read input :=
    if delimiter ∈ input then
      some (input.takeWhile (· ≠ delimiter), (input.dropWhile (· ≠ delimiter)).tail)
    else none
  read_write field rest absent := by
    have different (character : Char) (member : character ∈ field) :
        decide (character ≠ delimiter) = true := by
      rw [decide_eq_true_eq]
      rintro rfl
      exact absent member
    rw [if_pos (by simp), List.append_assoc, List.takeWhile_append_of_pos different,
      List.dropWhile_append_of_pos different]
    simp
  sound input field rest reads := by
    split at reads
    next member =>
      obtain ⟨rfl, rfl⟩ := Prod.mk.inj (Option.some.inj reads)
      refine ⟨fun inside => by simpa using List.mem_takeWhile_imp inside, ?_⟩
      have found : input.dropWhile (· ≠ delimiter) ≠ [] := by
        rw [ne_eq, List.dropWhile_eq_nil_iff]
        intro all
        simpa using all delimiter member
      have first : (input.dropWhile (· ≠ delimiter)).head found = delimiter := by
        simpa using List.head_dropWhile_not (· ≠ delimiter) found
      have whole := List.cons_head_tail found
      rw [first] at whole
      rw [List.append_assoc, List.singleton_append, whole, List.takeWhile_append_dropWhile]
    next => cases reads

end Fields

/-- A text of a fixed length. -/
def fixed (Char : Type*) (length : Nat) : Codec Char (List Char) where
  WellFormed field := field.length = length
  write field := field
  read input := if length ≤ input.length then some (input.take length, input.drop length) else none
  read_write field rest same := by
    rw [if_pos (by simp [same]), List.take_left' same, List.drop_left' same]
  sound input field rest reads := by
    split at reads
    next enough =>
      obtain ⟨rfl, rfl⟩ := Prod.mk.inj (Option.some.inj reads)
      exact ⟨List.length_take_of_le enough, (List.take_append_drop length input).symm⟩
    next => cases reads

/-- One value after the other. -/
def seq (first : Codec Char First) (second : Codec Char Second) :
    Codec Char (First × Second) where
  WellFormed value := first.WellFormed value.1 ∧ second.WellFormed value.2
  write value := first.write value.1 ++ second.write value.2
  read input := (first.read input).bind fun one =>
    (second.read one.2).map fun two => ((one.1, two.1), two.2)
  read_write value rest wellFormed := by
    rw [List.append_assoc, first.read_write _ _ wellFormed.1, Option.bind_some]
    dsimp only
    rw [second.read_write _ _ wellFormed.2]
    rfl
  sound input value rest reads := by
    obtain ⟨⟨one, middle⟩, readsFirst, readsSecond⟩ := Option.bind_eq_some_iff.mp reads
    obtain ⟨⟨two, last⟩, readsTwo, pair⟩ := Option.map_eq_some_iff.mp readsSecond
    obtain ⟨rfl, rfl⟩ := Prod.mk.inj pair
    obtain ⟨oneWellFormed, rfl⟩ := first.sound _ _ _ readsFirst
    obtain ⟨twoWellFormed, rfl⟩ := second.sound _ _ _ readsTwo
    exact ⟨⟨oneWellFormed, twoWellFormed⟩, (List.append_assoc ..).symm⟩

/-- Values that are written as others. -/
def narrow (codec : Codec Char Value) (encode : Other → Value) (decode : Value → Option Other)
    (decodes : ∀ other, decode (encode other) = some other)
    (encodes : ∀ value other, decode value = some other → encode other = value) :
    Codec Char Other where
  WellFormed other := codec.WellFormed (encode other)
  write other := codec.write (encode other)
  read input := (codec.read input).bind fun value =>
    (decode value.1).map fun other => (other, value.2)
  read_write other rest wellFormed := by
    rw [codec.read_write _ _ wellFormed, Option.bind_some]
    dsimp only
    rw [decodes]
    rfl
  sound input other rest reads := by
    obtain ⟨⟨value, middle⟩, readsValue, decoded⟩ := Option.bind_eq_some_iff.mp reads
    obtain ⟨found, same, pair⟩ := Option.map_eq_some_iff.mp decoded
    obtain ⟨rfl, rfl⟩ := Prod.mk.inj pair
    obtain rfl := encodes _ _ same
    exact codec.sound _ _ _ readsValue

/-- The values of a whole text, read one after the other.  Every value takes a character. -/
def readAll (codec : Codec Char Value) : Nat → List Char → Option (List Value)
  | _, [] => some []
  | 0, _ :: _ => none
  | fuel + 1, input => (codec.read input).bind fun one =>
      (codec.readAll fuel one.2).map fun values => one.1 :: values

def writeAll (codec : Codec Char Value) (values : List Value) : List Char :=
  values.flatMap codec.write

/-- What is read from a text are the well-formed values that it is made of. -/
theorem readAll_sound {codec : Codec Char Value} {fuel : Nat} {text : List Char}
    {values : List Value} (reads : codec.readAll fuel text = some values) :
    (∀ value ∈ values, codec.WellFormed value) ∧ text = codec.writeAll values := by
  induction fuel generalizing text values with
  | zero =>
      cases text with
      | nil =>
          obtain rfl := Option.some.inj reads
          exact ⟨by simp, rfl⟩
      | cons => cases reads
  | succ fuel ih =>
      cases text with
      | nil =>
          obtain rfl := Option.some.inj reads
          exact ⟨by simp, rfl⟩
      | cons first text =>
          obtain ⟨⟨value, rest⟩, readsOne, more⟩ := Option.bind_eq_some_iff.mp reads
          obtain ⟨others, readsMore, rfl⟩ := Option.map_eq_some_iff.mp more
          obtain ⟨wellFormed, same⟩ := codec.sound _ _ _ readsOne
          obtain ⟨all, rfl⟩ := ih readsMore
          refine ⟨fun other member => ?_, same⟩
          rcases List.mem_cons.mp member with rfl | later
          · exact wellFormed
          · exact all other later

/-- Well-formed values that each take a character are read back. -/
theorem readAll_writeAll {codec : Codec Char Value} (visible : ∀ value, codec.write value ≠ [])
    {fuel : Nat} {values : List Value} (enough : (codec.writeAll values).length ≤ fuel)
    (wellFormed : ∀ value ∈ values, codec.WellFormed value) :
    codec.readAll fuel (codec.writeAll values) = some values := by
  induction values generalizing fuel with
  | nil => cases fuel <;> rfl
  | cons value values ih =>
      rw [List.forall_mem_cons] at wellFormed
      have whole : codec.writeAll (value :: values) = codec.write value ++ codec.writeAll values :=
        List.flatMap_cons
      have positive := List.length_pos_iff.mpr (visible value)
      rw [whole, List.length_append] at enough
      obtain ⟨fuel, rfl⟩ := Nat.exists_eq_add_one_of_ne_zero (by omega : fuel ≠ 0)
      have reads := codec.read_write value (codec.writeAll values) wellFormed.1
      rw [whole]
      cases text : codec.write value ++ codec.writeAll values with
      | nil => exact absurd (List.append_eq_nil_iff.mp text).1 (visible value)
      | cons first rest =>
          rw [text] at reads
          rw [readAll, reads, Option.bind_some, ih (by omega) wellFormed.2]
          · rfl
          · simp

/-- A text is read as some values exactly when it is made of them and they are well formed. -/
theorem readAll_eq_some_iff {codec : Codec Char Value}
    (visible : ∀ value, codec.write value ≠ []) {text : List Char} {values : List Value} :
    codec.readAll text.length text = some values ↔
      (∀ value ∈ values, codec.WellFormed value) ∧ text = codec.writeAll values := by
  constructor
  · exact readAll_sound
  · rintro ⟨wellFormed, rfl⟩
    exact readAll_writeAll visible le_rfl wellFormed

end Codec

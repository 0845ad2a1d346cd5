import Mathlib.Data.List.Basic

/-!
# Texts that delimit themselves

Two texts delimit themselves when, wherever both begin the same text, they agree
and so does what follows them. Concatenation keeps this even when the second
halves are written in a way that depends on what the first ones say: the reader
of the second half has read the first.

A code whose texts delimit themselves pairwise can be decoded: the text of a
value is recognised, and no proper beginning of it is the text of another value.
Symbols, values and what is read off a value are arbitrary.
-/

namespace PstHsm.PrefixCodes

universe u v w
variable {σ : Type u}

/-- Wherever both begin the same text they agree, and the rest is the same. -/
def Delimits (left right : List σ) (agree : Prop) : Prop :=
  ∀ rest rest', left ++ rest = right ++ rest' → agree ∧ rest = rest'

theorem delimits_nil : Delimits ([] : List σ) [] True :=
  fun _ _ same => ⟨trivial, same⟩

/-- Texts of one length. -/
theorem delimits_fixed (left right : List σ) (length : left.length = right.length) :
    Delimits left right (left = right) :=
  fun _ _ same => List.append_inj same length

/-- What is said may be weakened. -/
theorem delimits_mono (left right : List σ) (strong weak : Prop)
    (delimits : Delimits left right strong) (implied : strong → weak) :
    Delimits left right weak := by
  intro rest rest' same
  obtain ⟨agree, tail⟩ := delimits rest rest' same
  exact ⟨implied agree, tail⟩

/-- The second halves need to delimit themselves only where the first ones agree. -/
theorem delimits_append (left right left' right' : List σ) (first second : Prop)
    (heads : Delimits left right first) (tails : first → Delimits left' right' second) :
    Delimits (left ++ left') (right ++ right') (first ∧ second) := by
  intro rest rest' same
  rw [List.append_assoc, List.append_assoc] at same
  obtain ⟨agree, later⟩ := heads _ _ same
  obtain ⟨agree', tail⟩ := tails agree rest rest' later
  exact ⟨⟨agree, agree'⟩, tail⟩

/-- Neither text is a proper beginning of the other. -/
theorem delimits_prefix (left right : List σ) (agree : Prop) (delimits : Delimits left right agree)
    (begins : left <+: right) : agree ∧ left = right := by
  obtain ⟨rest, same⟩ := begins
  obtain ⟨agreed, nothing⟩ := delimits rest [] (by rw [same, List.append_nil])
  rw [nothing, List.append_nil] at same
  exact ⟨agreed, same⟩

section Codes

variable {α : Type v} {β : Type w} (write : α → List σ) (view : α → β)

/-- Any two texts of the code delimit themselves, and agree on what is read off the values. -/
def PrefixCode : Prop :=
  ∀ value other, Delimits (write value) (write other) (view value = view other)

open Classical in
/-- What is read off a value whose text this is. -/
noncomputable def decode (text : List σ) : Option β :=
  if written : ∃ value, write value = text then some (view written.choose) else none

variable (code : PrefixCode write view)

include code

theorem decode_written (value : α) : decode write view (write value) = some (view value) := by
  have written : ∃ other, write other = write value := ⟨value, rfl⟩
  rw [decode, dif_pos written]
  exact congrArg some (code written.choose value [] [] (by rw [written.choose_spec])).1

/-- A text cut short is no text of the code. -/
theorem decode_truncated (value : α) (amount : Nat) (short : amount < (write value).length) :
    decode write view ((write value).take amount) = none := by
  apply dif_neg
  rintro ⟨other, same⟩
  obtain ⟨-, whole⟩ := delimits_prefix _ _ _ (code other value) (same ▸ List.take_prefix amount _)
  have length := congrArg List.length (same.symm.trans whole)
  rw [List.length_take] at length
  omega

end Codes

end PstHsm.PrefixCodes

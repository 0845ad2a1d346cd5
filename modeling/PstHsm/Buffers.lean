import Mathlib.Data.List.GetD
import Mathlib.Data.Vector.Basic
import Mathlib.Tactic.Ring

/-!
# Bytes, fixed buffers and little-endian numbers

A buffer has its size in its type, so a copy into it never changes the size.
Reading past the end of a byte sequence yields zero bytes; callers of a C
function that reads a fixed number of bytes promise that they are there.
-/

namespace PstHsm

/-- A string of bytes. -/
abbrev Bytes := List UInt8

/-- A byte array of fixed size. -/
abbrev Buffer (size : Nat) := List.Vector UInt8 size

namespace Buffer

variable {size : Nat}

/-- The buffer that `memset` leaves. -/
def filled (size : Nat) (value : UInt8) : Buffer size := List.Vector.replicate size value

/-- Copy bytes to the start of a buffer; the rest keeps its old content. Bytes
beyond the buffer's size are dropped. -/
def overwrite (buffer : Buffer size) (source : Bytes) : Buffer size :=
  ⟨(source ++ buffer.toList.drop source.length).take size, by
    simp only [List.length_take, List.length_append, List.length_drop,
      List.Vector.toList_length]
    omega⟩

/-- The new bytes are followed by what is left of the old ones. -/
theorem overwrite_list (buffer : Buffer size) (source : Bytes) :
    (buffer.overwrite source).toList =
      (source ++ buffer.toList.drop source.length).take size := rfl

/-- The byte at a position of a buffer is the one in its list. -/
theorem list_get (buffer : Buffer size) (position : Fin size) :
    buffer.toList[position.val]? = some (buffer.get position) := by
  rw [List.Vector.get_eq_get_toList, List.get_eq_getElem, List.getElem?_eq_getElem]
  rfl

/-- A copied byte where the source has one, the old byte elsewhere. -/
theorem overwrite_get (buffer : Buffer size) (source : Bytes) (position : Fin size) :
    (buffer.overwrite source).get position = source.getD position (buffer.get position) := by
  apply Option.some.inj
  rw [← list_get, overwrite_list, List.getElem?_take_of_lt position.isLt]
  by_cases copied : position.val < source.length
  · rw [List.getElem?_append_left copied, List.getElem?_eq_getElem copied,
      List.getD_eq_getElem _ _ copied]
  · have beyond : source.length ≤ position.val := Nat.not_lt.mp copied
    rw [List.getElem?_append_right beyond, List.getElem?_drop, Nat.add_sub_cancel' beyond,
      list_get, List.getD_eq_default _ _ beyond]

end Buffer

namespace Bytes

/-- The first bytes at an address that holds the given ones. -/
def memory (bytes : Bytes) (amount : Nat) : Bytes :=
  (bytes ++ List.replicate amount 0).take amount

/-- The bytes before the first zero byte. -/
def cString (bytes : Bytes) : Bytes := bytes.takeWhile (· ≠ 0)

/-- A terminated text reads back up to its first zero byte. -/
theorem c_string_terminated (text rest : Bytes) : cString (text ++ 0 :: rest) = cString text := by
  induction text with
  | nil => rfl
  | cons byte text induction =>
    unfold cString at induction ⊢
    by_cases zero : byte = 0
    · simp [zero]
    · simpa [zero] using induction

/-- A text is its own C string exactly when it holds no zero byte. -/
theorem c_string_whole_iff (text : Bytes) : cString text = text ↔ 0 ∉ text := by
  induction text with
  | nil => simp [cString]
  | cons byte rest inductionHypothesis =>
    by_cases zero : byte = 0
    · simp [cString, zero]
    · simpa [cString, zero, Ne.symm zero] using inductionHypothesis

/-- As many bytes are read as are asked for. -/
theorem memory_length (bytes : Bytes) (amount : Nat) : (memory bytes amount).length = amount := by
  simp [memory]

/-- A number in the given number of bytes, least significant first. -/
def littleEndian : Nat → Nat → Bytes
  | 0, _ => []
  | width + 1, value => UInt8.ofNat value :: littleEndian width (value / 256)

/-- The number that bytes denote, least significant first. -/
def ofLittleEndian : Bytes → Nat
  | [] => 0
  | byte :: rest => byte.toNat + 256 * ofLittleEndian rest

/-- A number in the given number of bytes, most significant first. -/
def bigEndian (width value : Nat) : Bytes := (littleEndian width value).reverse

/-- The number that bytes denote, most significant first. -/
def ofBigEndian (bytes : Bytes) : Nat := ofLittleEndian bytes.reverse

/-- A number is written with the given width. -/
@[simp] theorem little_endian_length (width value : Nat) :
    (littleEndian width value).length = width := by
  induction width generalizing value with
  | zero => rfl
  | succ width induction => simp [littleEndian, induction]

/-- So it is with the high byte first. -/
@[simp] theorem big_endian_length (width value : Nat) : (bigEndian width value).length = width := by
  simp [bigEndian]

/-- A number that fits is read back. -/
theorem little_endian_read (width value : Nat) (fits : value < 256 ^ width) :
    ofLittleEndian (littleEndian width value) = value := by
  induction width generalizing value with
  | zero => simp [littleEndian, ofLittleEndian]; omega
  | succ width induction =>
    have rest : value / 256 < 256 ^ width := by
      rw [pow_succ] at fits
      omega
    rw [littleEndian, ofLittleEndian, induction (value / 256) rest, UInt8.toNat_ofNat']
    omega

/-- The bytes of a number determine it, and are determined by it. -/
theorem little_endian_written (bytes : Bytes) :
    littleEndian bytes.length (ofLittleEndian bytes) = bytes := by
  induction bytes with
  | nil => rfl
  | cons byte rest induction =>
    have low := byte.toNat_lt
    have digit : (byte.toNat + 256 * ofLittleEndian rest) / 256 = ofLittleEndian rest := by omega
    have kept : UInt8.ofNat (byte.toNat + 256 * ofLittleEndian rest) = byte := by
      apply UInt8.toNat_inj.mp
      rw [UInt8.toNat_ofNat']
      omega
    simp only [List.length_cons, littleEndian, ofLittleEndian, digit, kept, induction]

/-- The second part of a number counts from where the first ends. -/
theorem little_endian_append (first second : Bytes) :
    ofLittleEndian (first ++ second) =
      ofLittleEndian first + 256 ^ first.length * ofLittleEndian second := by
  induction first with
  | nil => simp [ofLittleEndian]
  | cons byte rest induction =>
    rw [List.cons_append, ofLittleEndian, ofLittleEndian, induction, List.length_cons, pow_succ']
    ring

/-- Zeros read as zero. -/
theorem little_endian_zeros (amount : Nat) : ofLittleEndian (List.replicate amount 0) = 0 := by
  induction amount with
  | zero => rfl
  | succ amount induction => rw [List.replicate_succ, ofLittleEndian, induction]; rfl

/-- A number that fits is read back. -/
theorem big_endian_read (width value : Nat) (fits : value < 256 ^ width) :
    ofBigEndian (bigEndian width value) = value := by
  rw [ofBigEndian, bigEndian, List.reverse_reverse, little_endian_read width value fits]

/-- Bytes that were read are written back. -/
theorem big_endian_written (bytes : Bytes) :
    bigEndian bytes.length (ofBigEndian bytes) = bytes := by
  have written := congrArg List.reverse (little_endian_written bytes.reverse)
  rwa [List.length_reverse, List.reverse_reverse] at written

end Bytes

end PstHsm

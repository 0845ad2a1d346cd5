import Mathlib.Data.Nat.Digits.Lemmas

/-!
# Fixed-width hexadecimal names

Numbers are written in lowercase hexadecimal with leading zeros up to a width;
a longer number keeps all its digits. Distinct numbers have distinct names at
every width, because the digits alone determine the number.
-/

namespace PstHsm.HexNames

/-- Hexadecimal digits, most significant first; zero has none. -/
def hexDigits (value : Nat) : List Nat := (Nat.digits 16 value).reverse

/-- Digits with leading zeros up to the width. -/
def paddedDigits (width value : Nat) : List Nat :=
  List.replicate (width - (hexDigits value).length) 0 ++ hexDigits value

/-- The name printed for a number. -/
def paddedHex (width value : Nat) : List Char := (paddedDigits width value).map Nat.digitChar

/-- The digit a lowercase hexadecimal character stands for. -/
def charDigit (character : Char) : Nat :=
  if character.toNat < 58 then character.toNat - 48 else character.toNat - 87

/-- A digit is read back from its character. -/
theorem char_digit_inverse (digit : Nat) (bounded : digit < 16) :
    charDigit (Nat.digitChar digit) = digit := by
  have all : ∀ small : Fin 16, charDigit (Nat.digitChar small) = small := by decide
  exact all ⟨digit, bounded⟩

/-- A number is written in hexadecimal digits. -/
theorem padded_digit_bound (width value digit : Nat) (member : digit ∈ paddedDigits width value) :
    digit < 16 := by
  rcases List.mem_append.mp member with leading | proper
  · have zero : digit = 0 := (List.mem_replicate.mp leading).2
    omega
  · exact Nat.digits_lt_base (by decide) (List.mem_reverse.mp proper)

/-- The printed characters determine the digits. -/
theorem padded_hex_digits (width value : Nat) :
    (paddedHex width value).map charDigit = paddedDigits width value := by
  rw [paddedHex, List.map_map]
  calc
    (paddedDigits width value).map (charDigit ∘ Nat.digitChar)
        = (paddedDigits width value).map id :=
      List.map_congr_left fun digit member =>
        char_digit_inverse digit (padded_digit_bound width value digit member)
    _ = paddedDigits width value := List.map_id _

/-- Leading zeros add nothing to the value. -/
theorem padded_digits_value (width value : Nat) :
    Nat.ofDigits 16 (paddedDigits width value).reverse = value := by
  simp [paddedDigits, hexDigits, Nat.ofDigits_append, Nat.ofDigits_digits]

/-- Distinct numbers have distinct names. -/
theorem padded_hex_injective (width left right : Nat)
    (same : paddedHex width left = paddedHex width right) : left = right := by
  have digits : paddedDigits width left = paddedDigits width right := by
    rw [← padded_hex_digits, ← padded_hex_digits, same]
  rw [← padded_digits_value width left, ← padded_digits_value width right, digits]

/-! ## Reading -/

/-- The white space that a conversion skips. -/
def isSpace (character : Char) : Bool :=
  character = ' ' || (9 ≤ character.toNat && character.toNat ≤ 13)

/-- The value of a hexadecimal digit of either case. -/
def hexDigit (character : Char) : Option Nat :=
  if 48 ≤ character.toNat ∧ character.toNat ≤ 57 then some (character.toNat - 48)
  else if 97 ≤ character.toNat ∧ character.toNat ≤ 102 then some (character.toNat - 87)
  else if 65 ≤ character.toNat ∧ character.toNat ≤ 70 then some (character.toNat - 55)
  else none

/-- The digits at the start of an item. -/
def leadingDigits : List Char → List Nat
  | [] => []
  | character :: rest =>
    match hexDigit character with
    | none => []
    | some digit => digit :: leadingDigits rest

/-- At least one digit is required. -/
def scanDigits (item : List Char) : Option Nat :=
  if leadingDigits item = [] then none
  else some (Nat.ofDigits 16 (leadingDigits item).reverse)

/-- An item without its sign. -/
def scanMagnitude : List Char → Option Nat
  | '0' :: 'x' :: rest => scanDigits rest
  | '0' :: 'X' :: rest => scanDigits rest
  | item => scanDigits item

/-- The conversion `%lx` with a maximum width. An `unsigned long` has 64 bits, and a number
with a minus sign is negated in it. -/
def scanHex (width : Nat) (text : List Char) : Option Nat :=
  match (text.dropWhile isSpace).take width with
  | '-' :: rest => (scanMagnitude rest).map fun value => (2 ^ 64 - value) % 2 ^ 64
  | '+' :: rest => scanMagnitude rest
  | item => scanMagnitude item

/-- A character reads as a hexadecimal digit. -/
theorem hex_digit_bound (character : Char) (digit : Nat) (read : hexDigit character = some digit) :
    digit < 16 := by
  rw [hexDigit] at read
  split at read
  · cases read
    omega
  · split at read
    · cases read
      omega
    · split at read
      · cases read
        omega
      · cases read

/-- So do the leading ones of a text. -/
theorem leading_digits_bound (item : List Char) (digit : Nat)
    (member : digit ∈ leadingDigits item) : digit < 16 := by
  induction item with
  | nil => cases member
  | cons character rest inductionHypothesis =>
    rw [leadingDigits] at member
    cases read : hexDigit character with
    | none =>
      rw [read] at member
      cases member
    | some value =>
      rw [read] at member
      rcases List.mem_cons.mp member with rfl | later
      · exact hex_digit_bound character digit read
      · exact inductionHypothesis later

/-- There are at most as many as characters. -/
theorem leading_digits_length (item : List Char) : (leadingDigits item).length ≤ item.length := by
  induction item with
  | nil => exact Nat.le_refl 0
  | cons character rest inductionHypothesis =>
    rw [leadingDigits]
    cases hexDigit character with
    | none => exact Nat.zero_le _
    | some value => exact Nat.succ_le_succ inductionHypothesis

/-- The digits read bound the value. -/
theorem scan_digits_bound (item : List Char) (value : Nat) (read : scanDigits item = some value) :
    value < 16 ^ item.length := by
  rw [scanDigits] at read
  split at read
  · cases read
  · obtain rfl := Option.some.inj read
    have length := leading_digits_length item
    have below : Nat.ofDigits 16 (leadingDigits item).reverse <
        16 ^ (leadingDigits item).reverse.length := by
      apply Nat.ofDigits_lt_base_pow_length (by decide)
      intro digit member
      exact leading_digits_bound item digit (List.mem_reverse.mp member)
    rw [List.length_reverse] at below
    exact below.trans_le (Nat.pow_le_pow_right (by decide) length)

/-- The number that is read is bounded by the length of the text. -/
theorem scan_magnitude_bound (item : List Char) (value : Nat)
    (read : scanMagnitude item = some value) : value < 16 ^ item.length := by
  have shorter (first second : Char) (rest : List Char) (inner : scanDigits rest = some value) :
      value < 16 ^ (first :: second :: rest).length :=
    (scan_digits_bound rest value inner).trans_le
      (Nat.pow_le_pow_right (by decide) (Nat.le_add_right rest.length 2))
  unfold scanMagnitude at read
  split at read
  · exact shorter _ _ _ read
  · exact shorter _ _ _ read
  · exact scan_digits_bound item value read

/-- A number read without a minus sign has at most as many digits as the width; one with it
is negative as a 64-bit number. -/
theorem scan_hex_bound (width : Nat) (text : List Char) (value : Nat)
    (read : scanHex width text = some value) :
    value < 16 ^ width ∨ 2 ^ 64 ≤ value + 16 ^ width := by
  have most (item : List Char) (fits : item.length ≤ width) (magnitude : Nat)
      (inner : scanMagnitude item = some magnitude) : magnitude < 16 ^ width :=
    (scan_magnitude_bound item magnitude inner).trans_le (Nat.pow_le_pow_right (by decide) fits)
  have taken : ((text.dropWhile isSpace).take width).length ≤ width := List.length_take_le _ _
  unfold scanHex at read
  generalize (text.dropWhile isSpace).take width = item at read taken
  split at read
  · rename_i rest
    obtain ⟨magnitude, inner, rfl⟩ := Option.map_eq_some_iff.mp read
    have small := most rest (Nat.le_of_succ_le taken) magnitude inner
    omega
  · rename_i rest
    exact Or.inl (most rest (Nat.le_of_succ_le taken) value read)
  · exact Or.inl (most item taken value read)

/-! ## Reading what was written -/

/-- The characters written are digits of their values, neither white space nor a sign nor the
letter of a prefix. -/
theorem digit_char_read (digit : Nat) (bounded : digit < 16) :
    hexDigit (Nat.digitChar digit) = some digit ∧ isSpace (Nat.digitChar digit) = false ∧
      Nat.digitChar digit ∉ ['-', '+', 'x', 'X'] := by
  have all : ∀ small : Fin 16, hexDigit (Nat.digitChar small) = some small.val ∧
      isSpace (Nat.digitChar small) = false ∧
      Nat.digitChar small ∉ ['-', '+', 'x', 'X'] := by decide
  exact all ⟨digit, bounded⟩

/-- Digits are read back from their characters. -/
theorem leading_digits_written (digits : List Nat) (bounded : ∀ digit ∈ digits, digit < 16) :
    leadingDigits (digits.map Nat.digitChar) = digits := by
  induction digits with
  | nil => rfl
  | cons digit rest inductionHypothesis =>
    rw [List.map_cons, leadingDigits, (digit_char_read digit (bounded digit List.mem_cons_self)).1]
    exact congrArg (List.cons digit)
      (inductionHypothesis fun other member => bounded other (List.mem_cons_of_mem _ member))

/-- An item of digits has no prefix. -/
theorem scan_magnitude_written (digits : List Nat) (bounded : ∀ digit ∈ digits, digit < 16) :
    scanMagnitude (digits.map Nat.digitChar) = scanDigits (digits.map Nat.digitChar) := by
  have letter (character : Char) (found : character ∈ digits.map Nat.digitChar) :
      character ∉ ['-', '+', 'x', 'X'] := by
    obtain ⟨digit, member, rfl⟩ := List.mem_map.mp found
    exact (digit_char_read digit (bounded digit member)).2.2
  unfold scanMagnitude
  split
  · rename_i rest same
    exact absurd (by simp) (letter 'x' (same ▸ by simp))
  · rename_i rest same
    exact absurd (by simp) (letter 'X' (same ▸ by simp))
  · rfl

/-- A number has at least the given width. -/
theorem padded_digits_length (width value : Nat) :
    width ≤ (paddedDigits width value).length := by
  rw [paddedDigits, List.length_append, List.length_replicate]
  omega

/-- The first digits of a number are read, as many as the width, whatever follows. -/
theorem scan_hex_written (width value : Nat) (positive : 0 < width) (rest : List Char) :
    scanHex width (paddedHex width value ++ rest) =
      some (Nat.ofDigits 16 ((paddedDigits width value).take width).reverse) := by
  have length := padded_digits_length width value
  have bounded (digit : Nat) (member : digit ∈ (paddedDigits width value).take width) :
      digit < 16 := padded_digit_bound width value digit (List.mem_of_mem_take member)
  obtain ⟨first, digits, shape⟩ : ∃ first digits, paddedDigits width value = first :: digits :=
    List.exists_cons_of_length_pos (positive.trans_le length)
  have unspaced : (paddedHex width value ++ rest).dropWhile isSpace =
      paddedHex width value ++ rest := by
    have written := digit_char_read first
      (padded_digit_bound width value first (shape ▸ List.mem_cons_self))
    rw [paddedHex, shape, List.map_cons, List.cons_append,
      List.dropWhile_cons_of_neg (by rw [written.2.1]; decide)]
  have item : ((paddedHex width value ++ rest).dropWhile isSpace).take width =
      ((paddedDigits width value).take width).map Nat.digitChar := by
    rw [unspaced, List.take_append_of_le_length (by rwa [paddedHex, List.length_map]), paddedHex,
      List.map_take]
  have sign (character : Char)
      (found : character ∈ ((paddedDigits width value).take width).map Nat.digitChar) :
      character ∉ ['-', '+', 'x', 'X'] := by
    obtain ⟨digit, member, rfl⟩ := List.mem_map.mp found
    exact (digit_char_read digit (bounded digit member)).2.2
  have filled : (paddedDigits width value).take width ≠ [] := by
    intro nothing
    have none := congrArg List.length nothing
    rw [List.length_take, List.length_nil] at none
    omega
  have digitsRead : scanMagnitude (((paddedDigits width value).take width).map Nat.digitChar) =
      some (Nat.ofDigits 16 ((paddedDigits width value).take width).reverse) := by
    rw [scan_magnitude_written _ bounded, scanDigits, leading_digits_written _ bounded,
      if_neg filled]
  unfold scanHex
  rw [item]
  split
  · rename_i tail same
    exact absurd (by simp) (sign '-' (same ▸ by simp))
  · rename_i tail same
    exact absurd (by simp) (sign '+' (same ▸ by simp))
  · exact digitsRead

/-- So a number with at most as many digits as the width is read back. -/
theorem scan_hex_read (width value : Nat) (positive : 0 < width) (fits : value < 16 ^ width)
    (rest : List Char) : scanHex width (paddedHex width value ++ rest) = some value := by
  have most : (hexDigits value).length ≤ width := by
    rw [hexDigits, List.length_reverse]
    exact (Nat.digits_length_le_iff (by decide) value).mpr fits
  have length : (paddedDigits width value).length ≤ width := by
    rw [paddedDigits, List.length_append, List.length_replicate]
    omega
  rw [scan_hex_written width value positive rest, List.take_of_length_le length,
    padded_digits_value]

end PstHsm.HexNames

import Mathlib.Data.List.OfFn

/-!
# Memory regions of fixed size

A region is an array of fixed size that is read and written at offsets, as C code
does with a buffer it keeps for a whole loop. A write leaves everything outside it
alone, so what a later read finds is what was written there last.
-/

namespace PstHsm.Regions

universe u
variable {α : Type u} {size : Nat}

/-- The content of a region of the given size. -/
abbrev Region (α : Type u) (size : Nat) := Fin size → α

/-- Copy elements to an offset. What would go beyond the region is dropped. -/
def write (region : Region α size) (offset : Nat) (source : List α) : Region α size :=
  fun place =>
    if place.val < offset then region place
    else (source[place.val - offset]?).getD (region place)

/-- Nothing is written. -/
@[simp]
theorem write_nil (region : Region α size) (offset : Nat) : write region offset [] = region := by
  funext place
  simp [write]

/-- The elements from an offset on, as many as asked for and there. -/
def read (region : Region α size) (offset amount : Nat) : List α :=
  List.ofFn fun index : Fin (min amount (size - offset)) => region ⟨offset + index, by omega⟩

/-- As much is read as is asked for. -/
theorem read_length (region : Region α size) (offset amount : Nat)
    (within : offset + amount ≤ size) : (read region offset amount).length = amount := by
  rw [read, List.length_ofFn]
  omega

/-- An element that is read is the one there. -/
theorem read_element (region : Region α size) (offset amount index : Nat)
    (within : offset + amount ≤ size) (inside : index < amount) :
    (read region offset amount)[index]? = some (region ⟨offset + index, by omega⟩) := by
  have bounded : index < min amount (size - offset) := by omega
  rw [read, List.getElem?_ofFn, dif_pos bounded]

/-- A list is what a read finds if it has the right length and elements. -/
theorem read_eq {region : Region α size} {offset amount : Nat} {found : List α}
    (within : offset + amount ≤ size) (length : found.length = amount)
    (elements : ∀ index (inside : index < amount),
      found[index]? = some (region ⟨offset + index, by omega⟩)) :
    read region offset amount = found := by
  apply List.ext_getElem?
  intro index
  by_cases inside : index < amount
  · rw [read_element region offset amount index within inside, elements index inside]
  · rw [List.getElem?_eq_none, List.getElem?_eq_none]
    · omega
    · rw [read_length region offset amount within]
      omega

/-- One element. -/
theorem read_one (region : Region α size) (offset : Nat) (within : offset < size) :
    read region offset 1 = [region ⟨offset, within⟩] := by
  have length : [region ⟨offset, within⟩].length = 1 := rfl
  apply read_eq within length
  intro index inside
  obtain rfl : index = 0 := by omega
  rfl

/-- A region filled with one value reads as that value throughout. -/
theorem read_filled (value : α) (offset amount : Nat) (within : offset + amount ≤ size) :
    read (fun _ => value : Region α size) offset amount = List.replicate amount value := by
  apply read_eq within List.length_replicate
  intro index inside
  rw [List.getElem?_replicate, if_pos inside]

/-- Reading on is reading further. -/
theorem read_add (region : Region α size) (offset first second : Nat)
    (within : offset + (first + second) ≤ size) :
    read region offset (first + second) =
      read region offset first ++ read region (offset + first) second := by
  have front := read_length region offset first (by omega)
  have back := read_length region (offset + first) second (by omega)
  apply read_eq within (by rw [List.length_append, front, back])
  intro index inside
  rcases Nat.lt_or_ge index first with early | late
  · rw [List.getElem?_append_left (by omega),
      read_element region offset first index (by omega) early]
  · obtain ⟨place, rfl⟩ := Nat.exists_eq_add_of_le late
    have shifted :
        (read region offset first ++ read region (offset + first) second)[first + place]? =
          (read region (offset + first) second)[place]? := by
      rw [List.getElem?_append_right (by omega), front, Nat.add_sub_cancel_left]
    rw [shifted, read_element region (offset + first) second place (by omega) (by omega)]
    congr 3
    omega

/-- The first part of what is read. -/
theorem read_take (region : Region α size) (offset first second : Nat)
    (within : offset + (first + second) ≤ size) :
    (read region offset (first + second)).take first = read region offset first := by
  rw [read_add region offset first second within,
    List.take_left' (read_length region offset first (by omega))]

/-- The rest of it. -/
theorem read_drop (region : Region α size) (offset first second : Nat)
    (within : offset + (first + second) ≤ size) :
    (read region offset (first + second)).drop first = read region (offset + first) second := by
  rw [read_add region offset first second within,
    List.drop_left' (read_length region offset first (by omega))]

/-- A write of elements that fit is read back. -/
theorem read_written (region : Region α size) (offset : Nat) (source : List α)
    (within : offset + source.length ≤ size) :
    read (write region offset source) offset source.length = source := by
  apply read_eq within rfl
  intro index inside
  simp [write, inside]

/-- A write leaves what lies outside it alone. -/
theorem read_apart (region : Region α size) (offset readOffset amount : Nat) (source : List α)
    (within : readOffset + amount ≤ size)
    (apart : readOffset + amount ≤ offset ∨ offset + source.length ≤ readOffset) :
    read (write region offset source) readOffset amount = read region readOffset amount := by
  apply read_eq within (read_length region readOffset amount within)
  intro index inside
  rw [read_element region readOffset amount index within inside]
  rcases apart with before | behind
  · have first : readOffset + index < offset := by omega
    simp [write, first]
  · have later : ¬ readOffset + index < offset := by omega
    have beyond : source.length ≤ readOffset + index - offset := by omega
    simp [write, later, beyond]

/-- Reading where a write begins finds its elements and, behind them, what was there. -/
theorem read_overlaid (region : Region α size) (offset amount : Nat) (source : List α)
    (within : offset + amount ≤ size) (fits : offset + source.length ≤ size) :
    read (write region offset source) offset amount =
      (source ++ (read region offset amount).drop source.length).take amount := by
  rcases Nat.le_total amount source.length with covered | short
  · obtain ⟨beyond, longer⟩ := Nat.exists_eq_add_of_le covered
    have whole := read_written region offset source fits
    rw [longer] at whole
    rw [List.take_append_of_le_length covered, ← read_take _ offset amount beyond (by omega), whole]
  · obtain ⟨behind, rfl⟩ := Nat.exists_eq_add_of_le short
    have kept := read_apart region offset (offset + source.length) behind source (by omega)
      (Or.inr (Nat.le_refl _))
    have whole : (source ++ read region (offset + source.length) behind).length =
        source.length + behind := by
      rw [List.length_append, read_length _ _ _ (by omega)]
    rw [read_add _ offset source.length behind within, read_written region offset source fits, kept,
      read_drop region offset source.length behind within,
      List.take_of_length_le (Nat.le_of_eq whole)]

end PstHsm.Regions

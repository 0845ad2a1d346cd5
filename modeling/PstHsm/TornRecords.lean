import PstHsm.Durability

/-!
# The token file after a crash

`hsm_storage_save_token_info` truncates the file and writes six items into it, and
`hsm_storage_load_token_info` reads whatever the file holds into a zeroed slot. When the writing
is cut short the older record is gone already: the slot that is loaded has the first bytes of
the newer record, and zeros after them.
-/

namespace PstHsm

/-- The first bytes of one record, and the other from there on. -/
def patched (first second : Bytes) (amount : Nat) : Bytes := first.take amount ++ second.drop amount

/-- Two parts are patched one after the other. -/
theorem patched_append (first second first' second' : Bytes) (amount : Nat)
    (length : first.length = second.length) :
    patched (first ++ first') (second ++ second') amount =
      patched first second amount ++ patched first' second' (amount - first.length) := by
  simp only [patched]
  rw [List.take_append, List.drop_append, ← length]
  rcases Nat.lt_or_ge amount first.length with inside | beyond
  · rw [Nat.sub_eq_zero_of_le inside.le, List.take_zero, List.append_nil, List.nil_append,
      List.append_assoc]
  · rw [List.drop_eq_nil_of_le (length ▸ beyond), List.nil_append, List.append_nil,
      List.append_assoc]

/-- What a patched record is the same as. -/
theorem patched_eq_iff (first second third : Bytes) (amount : Nat)
    (length : first.length = third.length) :
    patched first second amount = third ↔
      third.take amount = first.take amount ∧ third.drop amount = second.drop amount := by
  have parts : third.take amount ++ third.drop amount = third := List.take_append_drop amount third
  constructor
  · intro same
    rw [← parts, patched] at same
    obtain ⟨head, tail⟩ := List.append_inj same (by simp [length])
    exact ⟨head.symm, tail.symm⟩
  · rintro ⟨head, tail⟩
    rw [patched, ← head, ← tail, parts]

/-! ## Writing cut short -/

/-- The writing of the items ends after the given number of bytes. -/
def cutOutcome (items : List Bytes) (amount : Nat) : WriteOutcome :=
  ⟨true, fun item => some (amount - (items.take item).flatten.length)⟩

/-- What is in the file then. -/
theorem cut_written (items : List Bytes) (amount : Nat) :
    writtenBytes (cutOutcome items amount) items = items.flatten.take amount := by
  have pieces (before rest : List Bytes) :
      ((rest.zipIdx before.length).map fun item =>
        item.1.take (amount - ((before ++ rest).take item.2).flatten.length)).flatten =
        rest.flatten.take (amount - before.flatten.length) := by
    induction rest generalizing before with
    | nil => simp
    | cons item rest inductionHypothesis =>
      have next := inductionHypothesis (before ++ [item])
      rw [List.append_assoc, List.singleton_append, List.length_append,
        List.length_singleton] at next
      have here : (before ++ item :: rest).take before.length = before := List.take_left
      have left : amount - (before ++ [item]).flatten.length =
          amount - before.flatten.length - item.length := by
        rw [List.flatten_append, List.length_append, List.flatten_singleton, Nat.sub_sub]
      rw [List.zipIdx_cons, List.map_cons, List.flatten_cons, next, here, left, List.flatten_cons,
        List.take_append]
  have whole := pieces [] items
  simpa [writtenBytes, cutOutcome] using whole

/-! ## Reading what is there -/

/-- A flag of which the given number of bytes was read. -/
def cutBool (current value : Bool) (amount : Nat) : Bool := if amount = 0 then current else value

/-- A buffer of which the given number of bytes was read. -/
def cutBuffer {size : Nat} (current value : Buffer size) (amount : Nat) : Buffer size :=
  current.overwrite (value.toList.take amount)

/-- A flag that is cut keeps its byte or gets the new one. -/
theorem cut_bool_item (current value : Bool) (amount : Nat) :
    boolItem (cutBool current value amount) =
      patched (boolItem value) (boolItem current) amount := by
  cases amount with
  | zero => rfl
  | succ amount => simp [cutBool, patched, boolItem]

/-- An array that is cut keeps the bytes behind the cut. -/
theorem cut_buffer_list {size : Nat} (current value : Buffer size) (amount : Nat) :
    (cutBuffer current value amount).toList = patched value.toList current.toList amount := by
  rw [cutBuffer, Buffer.overwrite_list, patched, List.length_take, List.Vector.toList_length]
  rcases Nat.lt_or_ge amount size with inside | beyond
  · rw [Nat.min_eq_left inside.le, List.take_of_length_le (by simp; omega)]
  · rw [Nat.min_eq_right beyond, List.drop_eq_nil_of_le (by simp), List.append_nil,
      List.drop_eq_nil_of_le (by simpa using beyond), List.append_nil,
      List.take_of_length_le (by simp)]

/-- Reading a flag from a record that may end before it. -/
theorem read_bool_cut (current value : Bool) (rest : Bytes) (amount : Nat) :
    freadBool current ((boolItem value ++ rest).take amount) =
      (cutBool current value amount, rest.take (amount - 1)) := by
  cases amount with
  | zero => rfl
  | succ amount =>
    have same : ∀ flag : Bool, ((if flag then 1 else 0 : UInt8) != 0) = flag := by decide
    exact Prod.ext (same value) rfl

/-- Reading a buffer from a record that may end inside it. -/
theorem read_buffer_cut {size : Nat} (current value : Buffer size) (rest : Bytes) (amount : Nat) :
    freadBuffer current ((value.toList ++ rest).take amount) =
      (cutBuffer current value amount, rest.take (amount - size)) := by
  have stream : ((value.toList ++ rest).take amount).take size = value.toList.take amount := by
    rw [List.take_take, List.take_append_of_le_length (by simp), List.take_eq_take_iff]
    simp [Nat.min_comm]
  have tail : ((value.toList ++ rest).take amount).drop size = rest.take (amount - size) := by
    rw [List.drop_take, List.drop_append_of_le_length (by simp),
      List.drop_eq_nil_of_le (by simp), List.nil_append]
  rw [freadBuffer, stream, tail, cutBuffer]

/-- The record of a slot. -/
def HsmSlot.tokenRecord (slot : HsmSlot) : Bytes := (tokenInfoItems slot).flatten

/-- The record, field by field. -/
theorem token_record_bytes (slot : HsmSlot) : slot.tokenRecord =
    boolItem slot.tokenInitialized ++ (boolItem slot.userPinInitialized ++
      (boolItem slot.soPinInitialized ++ (slot.tokenLabel.toList ++
        (slot.userPinHash.toList ++ (slot.soPinHash.toList ++ []))))) :=
  token_items_bytes slot

/-- A slot loaded from the first bytes of a record has these, and its own from there on. -/
theorem loaded_torn (storage : Storage) (slot into : HsmSlot) (amount : Nat)
    (torn : storage.tokenFile = some (slot.tokenRecord.take amount)) :
    (hsmStorageLoadTokenInfo true storage into).tokenRecord =
      patched slot.tokenRecord into.tokenRecord amount := by
  have flag (value other : Bool) (rest rest' : Bytes) (left : Nat) :
      patched (boolItem value ++ rest) (boolItem other ++ rest') left =
        boolItem (cutBool other value left) ++ patched rest rest' (left - 1) := by
    have lengths : (boolItem value).length = (boolItem other).length := rfl
    rw [patched_append _ _ _ _ _ lengths, cut_bool_item]
    rfl
  have buffer {size : Nat} (value other : Buffer size) (rest rest' : Bytes) (left : Nat) :
      patched (value.toList ++ rest) (other.toList ++ rest') left =
        (cutBuffer other value left).toList ++ patched rest rest' (left - size) := by
    rw [patched_append _ _ _ _ _ (by simp), cut_buffer_list, List.Vector.toList_length]
  rw [token_record_bytes slot, token_record_bytes into]
  simp only [flag, buffer]
  rw [hsmStorageLoadTokenInfo, fopenRead, if_pos rfl, torn, token_record_bytes slot]
  simp only [read_bool_cut, read_buffer_cut]
  rw [token_record_bytes]
  simp [patched]

/-! ## Older or newer -/

/-- The number of bytes of a record. -/
def tokenRecordSize : Nat := 99

/-- It always has the same length. -/
theorem token_record_length (slot : HsmSlot) : slot.tokenRecord.length = tokenRecordSize := by
  simp [token_record_bytes, boolItem, tokenRecordSize]

/-- A slot that `hsm_init_slot` has just zeroed. -/
theorem blank_record : blankSlot.tokenRecord = List.replicate tokenRecordSize 0 := by
  decide

/-- The six fields that are stored are the same. -/
structure SameTokenInfo (left right : HsmSlot) : Prop where
  tokenInitialized : left.tokenInitialized = right.tokenInitialized
  userPinInitialized : left.userPinInitialized = right.userPinInitialized
  soPinInitialized : left.soPinInitialized = right.soPinInitialized
  tokenLabel : left.tokenLabel = right.tokenLabel
  userPinHash : left.userPinHash = right.userPinHash
  soPinHash : left.soPinHash = right.soPinHash

/-- Two slots with the same record have the same fields. -/
theorem same_token_info_iff (left right : HsmSlot) :
    SameTokenInfo left right ↔ left.tokenRecord = right.tokenRecord := by
  constructor
  · rintro ⟨tokenInitialized, userPinInitialized, soPinInitialized, tokenLabel, userPinHash,
      soPinHash⟩
    rw [token_record_bytes, token_record_bytes, tokenInitialized, userPinInitialized,
      soPinInitialized, tokenLabel, userPinHash, soPinHash]
  · intro same
    rw [token_record_bytes, token_record_bytes] at same
    obtain ⟨tokenInitialized, same⟩ := List.append_inj same rfl
    obtain ⟨userPinInitialized, same⟩ := List.append_inj same rfl
    obtain ⟨soPinInitialized, same⟩ := List.append_inj same rfl
    obtain ⟨tokenLabel, same⟩ := List.append_inj same (by simp)
    obtain ⟨userPinHash, same⟩ := List.append_inj same (by simp)
    obtain ⟨soPinHash, -⟩ := List.append_inj same (by simp)
    exact ⟨bool_item_injective tokenInitialized, bool_item_injective userPinInitialized,
      bool_item_injective soPinInitialized, List.Vector.eq _ _ tokenLabel,
      List.Vector.eq _ _ userPinHash, List.Vector.eq _ _ soPinHash⟩

section Crash

variable (older newer : HsmSlot) (storage : Storage) (amount : Nat)

/-- The slot that `hsm_init_slot` makes of the file it opens, after the older state was saved
whole and the saving of the newer one ended after the given number of bytes. -/
def slotAfterCrash : HsmSlot :=
  hsmInitSlot true (hsmStorageSaveTokenInfo newer (cutOutcome (tokenInfoItems newer) amount)
    (hsmStorageSaveTokenInfo older wholeWrite storage).2).2

/-- It has the six fields of one of the two. -/
def OlderOrNewer : Prop :=
  SameTokenInfo (slotAfterCrash older newer storage amount) older ∨
    SameTokenInfo (slotAfterCrash older newer storage amount) newer

/-- After a crash the record is the new one up to the cut, and zeros behind it. -/
theorem after_crash_record :
    (slotAfterCrash older newer storage amount).tokenRecord =
      patched newer.tokenRecord (List.replicate tokenRecordSize 0) amount := by
  rw [slotAfterCrash, hsmInitSlot, ← blank_record]
  apply loaded_torn
  simp only [hsmStorageSaveTokenInfo, cutOutcome, if_true]
  exact congrArg some (cut_written (tokenInfoItems newer) amount)

/-- The rest of a record is that of a zeroed slot exactly when its bytes are zero. -/
theorem zero_rest_iff (slot : HsmSlot) :
    slot.tokenRecord.drop amount = (List.replicate tokenRecordSize 0).drop amount ↔
      ∀ byte ∈ slot.tokenRecord.drop amount, byte = 0 := by
  rw [List.drop_replicate, List.eq_replicate_iff, List.length_drop, token_record_length]
  exact and_iff_right rfl

/-- After a crash the record is that of the newer state up to where the writing ended, and zero
from there on. A writing that reached the end restores the newer state; any other leaves one of
the two states exactly when what it did not reach is zero in the newer one, or the older one
begins the same and is zero there. -/
theorem token_info_after_crash :
    ((slotAfterCrash older newer storage amount).tokenRecord =
        newer.tokenRecord.take amount ++ List.replicate (tokenRecordSize - amount) 0) ∧
      (newer.tokenRecord.length ≤ amount →
        SameTokenInfo (slotAfterCrash older newer storage amount) newer) ∧
      (OlderOrNewer older newer storage amount ↔
        (∀ byte ∈ newer.tokenRecord.drop amount, byte = 0) ∨
          older.tokenRecord.take amount = newer.tokenRecord.take amount ∧
            ∀ byte ∈ older.tokenRecord.drop amount, byte = 0) := by
  have record := after_crash_record older newer storage amount
  have lengths (left right : HsmSlot) : left.tokenRecord.length = right.tokenRecord.length :=
    (token_record_length left).trans (token_record_length right).symm
  have exactly (slot : HsmSlot) : SameTokenInfo (slotAfterCrash older newer storage amount) slot ↔
      slot.tokenRecord.take amount = newer.tokenRecord.take amount ∧
        ∀ byte ∈ slot.tokenRecord.drop amount, byte = 0 := by
    rw [same_token_info_iff, record, patched_eq_iff _ _ _ _ (lengths newer slot), zero_rest_iff]
  refine ⟨?_, ?_, ?_⟩
  · rw [record, patched, List.drop_replicate]
  · intro reached
    rw [exactly, List.drop_eq_nil_of_le reached]
    exact ⟨rfl, List.forall_mem_nil _⟩
  · rw [OlderOrNewer, exactly, exactly]
    constructor
    · rintro (first | ⟨-, rest⟩)
      · exact Or.inr first
      · exact Or.inl rest
    · rintro (rest | first)
      · exact Or.inr ⟨rfl, rest⟩
      · exact Or.inl first

end Crash

/-- The slot after the first steps of the set-up. -/
def setUpSlot (steps : Nat) : HsmSlot :=
  ((Runs.run (step pinSha256) (bootProcess freshStorage) (tokenSetUp.take steps)).gHsmContext.map
    HsmContext.slot).getD blankSlot

/-- When the saving of the first user PIN ends after two bytes, the user's PIN is set, to a
hash of zeros, and the officer's is not. -/
theorem user_pin_torn : ¬ OlderOrNewer (setUpSlot 2) (setUpSlot 5) freshStorage 2 := by
  have torn :
      (slotAfterCrash (setUpSlot 2) (setUpSlot 5) freshStorage 2).userPinInitialized = true ∧
      (slotAfterCrash (setUpSlot 2) (setUpSlot 5) freshStorage 2).soPinInitialized = false := by
    decide +kernel
  have before : (setUpSlot 2).userPinInitialized = false := by decide +kernel
  have after : (setUpSlot 5).soPinInitialized = true := by decide +kernel
  rintro (older | newer)
  · cases torn.1.symm.trans (older.userPinInitialized.trans before)
  · cases torn.2.symm.trans (newer.soPinInitialized.trans after)

end PstHsm

import PstHsm.Durability
import PstHsm.PrefixCodes

/-!
# The records of stored objects

`hsm_storage_save_object` writes a header and then what the key type and the class select: the
numbers and components of one kind of key, each component after its length. A length stands
before everything that has no fixed size, and the two selectors stand in the header, so that the
records are a prefix code.
-/

namespace PstHsm

open PrefixCodes

/-! ## Objects that can be stored -/

/-- The components of an RSA key in the order in which they are written. -/
def HsmRsaKey.components (rsa : HsmRsaKey) : List Bytes :=
  [rsa.modulus, rsa.publicExponent, rsa.privateExponent, rsa.prime1, rsa.prime2, rsa.exponent1,
    rsa.exponent2, rsa.coefficient]

/-- Those of an EC key. -/
def HsmEcKey.components (ec : HsmEcKey) : List Bytes := [ec.ecParams, ec.ecPoint, ec.ecPrivate]

/-- The numbers of an RSA key and the lengths of its components fit their C types. -/
structure HsmRsaKey.Fits (rsa : HsmRsaKey) : Prop where
  bits : rsa.bits < 256 ^ 4
  components : ∀ component ∈ rsa.components, component.length < 256 ^ 8

/-- The numbers of an EC key and the lengths of its components fit their C types. -/
structure HsmEcKey.Fits (ec : HsmEcKey) : Prop where
  curveNid : ec.curveNid < 256 ^ 4
  components : ∀ component ∈ ec.components, component.length < 256 ^ 8

/-- A token object whose numbers fit their C types. -/
structure TokenObject where
  object : HsmObject
  token : object.isToken = true
  handle : object.handle < 256 ^ 8
  type : object.type < 256 ^ 4
  idLen : object.idLen < 256 ^ 8
  keyType : object.keyType < 256 ^ 4
  rsa : object.keyData.rsa.Fits
  ec : object.keyData.ec.Fits

/-- The bytes that a complete save leaves in the object's file. -/
def HsmObject.record (object : HsmObject) : Bytes := (objectItems object).flatten

/-- A complete save leaves the record in the file. -/
theorem saved_object_record (stored : TokenObject) (outcome : WriteOutcome)
    (complete : outcome.Complete) (storage : Storage) :
    (hsmStorageSaveObject stored.object outcome storage).2.keyFiles.lookup
      (objectFileName stored.object.handle) = some stored.object.record := by
  apply saved_record stored.object outcome storage stored.token complete.1
  intro item member reached cut
  rw [complete.2 item.2] at cut
  cases cut

/-! ## What is written -/

/-- Of a key that is not private only the public numbers are written. -/
def HsmRsaKey.written (type : Nat) (rsa : HsmRsaKey) : HsmRsaKey :=
  if type = objTypePrivateKey then rsa
  else { bits := rsa.bits, modulus := rsa.modulus, publicExponent := rsa.publicExponent }

/-- So it is with an EC key. -/
def HsmEcKey.written (type : Nat) (ec : HsmEcKey) : HsmEcKey :=
  if type = objTypePrivateKey then ec
  else { curveNid := ec.curveNid, ecParams := ec.ecParams, ecPoint := ec.ecPoint }

/-- Only the member of the union that the key type selects is written. -/
def HsmObject.writtenKey (object : HsmObject) : HsmKeyData :=
  if object.keyType = keyTypeRsa then { rsa := object.keyData.rsa.written object.type }
  else if object.keyType = keyTypeEc then { ec := object.keyData.ec.written object.type }
  else {}

/-- The object with everything blank that is not written for it: the rest of the key, and the
two capabilities. -/
def HsmObject.written (object : HsmObject) : HsmObject :=
  { object with keyData := object.writtenKey, canSign := false, canVerify := false }

/-! ## One item after the other -/

/-- A number has a fixed width. -/
theorem number_delimits (width left right : Nat) (leftFits : left < 256 ^ width)
    (rightFits : right < 256 ^ width) :
    Delimits (Bytes.littleEndian width left) (Bytes.littleEndian width right) (left = right) := by
  apply delimits_mono _ _ _ _ (delimits_fixed _ _ (by simp))
  intro same
  rw [← Bytes.little_endian_read width left leftFits, same,
    Bytes.little_endian_read width right rightFits]

/-- So has a flag. -/
theorem bool_delimits (left right : Bool) :
    Delimits (boolItem left) (boolItem right) (left = right) := by
  have lengths : (boolItem left).length = (boolItem right).length := rfl
  exact delimits_mono _ _ _ _ (delimits_fixed _ _ lengths) fun same => bool_item_injective same

/-- And so has a buffer. -/
theorem buffer_delimits {size : Nat} (left right : Buffer size) :
    Delimits left.toList right.toList (left = right) :=
  delimits_mono _ _ _ _ (delimits_fixed _ _ (by simp)) (List.Vector.eq _ _)

/-- A component is delimited by the length before it. -/
theorem sized_delimits (left right : Bytes) (leftFits : left.length < 256 ^ 8)
    (rightFits : right.length < 256 ^ 8) :
    Delimits (sizedItems left).flatten (sizedItems right).flatten (left = right) := by
  have bytes (component : Bytes) : (sizedItems component).flatten =
      Bytes.littleEndian 8 component.length ++ component := by
    cases component with
    | nil => rfl
    | cons byte rest => simp [sizedItems]
  rw [bytes, bytes]
  apply delimits_mono _ _ (left.length = right.length ∧ left = right) _ _ And.right
  apply delimits_append
  · exact number_delimits 8 _ _ leftFits rightFits
  · exact delimits_fixed left right

/-- So are equally many components. -/
theorem components_delimits (left right : List Bytes) (length : left.length = right.length)
    (leftFits : ∀ component ∈ left, component.length < 256 ^ 8)
    (rightFits : ∀ component ∈ right, component.length < 256 ^ 8) :
    Delimits (left.flatMap sizedItems).flatten (right.flatMap sizedItems).flatten
      (left = right) := by
  induction left generalizing right with
  | nil =>
    obtain rfl := List.eq_nil_of_length_eq_zero length.symm
    exact delimits_mono _ _ _ _ delimits_nil fun _ => rfl
  | cons component rest inductionHypothesis =>
    cases right with
    | nil => cases length
    | cons component' rest' =>
      rw [List.forall_mem_cons] at leftFits rightFits
      rw [List.flatMap_cons, List.flatMap_cons, List.flatten_append, List.flatten_append]
      apply delimits_mono _ _ (component = component' ∧ rest = rest')
      · apply delimits_append
        · exact sized_delimits _ _ leftFits.1 rightFits.1
        · intro _
          exact inductionHypothesis rest' (Nat.succ.inj length) leftFits.2 rightFits.2
      · rintro ⟨rfl, rfl⟩
        rfl

/-! ## Keys -/

/-- A key in general: its number, the components that are always written, and those that only a
private key has. -/
def numberedItems (type number : Nat) (shown hidden : List Bytes) : List Bytes :=
  [Bytes.littleEndian 4 number] ++ shown.flatMap sizedItems ++
    if type = objTypePrivateKey then hidden.flatMap sizedItems else []

/-- Two keys of one class with equally many components delimit themselves, and agree on their
numbers and on every component written. -/
theorem numbered_delimits (type left right : Nat) (shown shown' hidden hidden' : List Bytes)
    (leftFits : left < 256 ^ 4 ∧ ∀ component ∈ shown ++ hidden, component.length < 256 ^ 8)
    (rightFits : right < 256 ^ 4 ∧ ∀ component ∈ shown' ++ hidden', component.length < 256 ^ 8)
    (shownLength : shown.length = shown'.length) (hiddenLength : hidden.length = hidden'.length) :
    Delimits (numberedItems type left shown hidden).flatten
      (numberedItems type right shown' hidden').flatten
      (left = right ∧ shown = shown' ∧ (type = objTypePrivateKey → hidden = hidden')) := by
  have shownParts := components_delimits shown shown' shownLength
    (fun component member => leftFits.2 component (List.mem_append_left _ member))
    (fun component member => rightFits.2 component (List.mem_append_left _ member))
  have hiddenParts := components_delimits hidden hidden' hiddenLength
    (fun component member => leftFits.2 component (List.mem_append_right _ member))
    (fun component member => rightFits.2 component (List.mem_append_right _ member))
  have numbers := number_delimits 4 left right leftFits.1 rightFits.1
  rw [numberedItems, numberedItems]
  simp only [List.flatten_append, List.flatten_singleton, List.append_assoc]
  apply delimits_append _ _ _ _ _ _ numbers
  intro _
  apply delimits_append _ _ _ _ _ _ shownParts
  intro _
  by_cases isPrivate : type = objTypePrivateKey
  · simp only [isPrivate, if_true]
    exact delimits_mono _ _ _ _ hiddenParts fun same _ => same
  · simp only [isPrivate, if_false]
    exact delimits_mono _ _ _ _ delimits_nil fun _ chosen => chosen.elim

/-- An RSA key is written so. -/
theorem rsa_items (type : Nat) (rsa : HsmRsaKey) :
    rsaKeyItems type rsa = numberedItems type rsa.bits [rsa.modulus, rsa.publicExponent]
      [rsa.privateExponent, rsa.prime1, rsa.prime2, rsa.exponent1, rsa.exponent2,
        rsa.coefficient] := by
  simp [rsaKeyItems, numberedItems]

/-- And so is an EC key. -/
theorem ec_items (type : Nat) (ec : HsmEcKey) :
    ecKeyItems type ec =
      numberedItems type ec.curveNid [ec.ecParams, ec.ecPoint] [ec.ecPrivate] := by
  simp [ecKeyItems, numberedItems]

/-- RSA keys of one class agree on what is written of them. -/
theorem rsa_delimits (type : Nat) (left right : HsmRsaKey) (leftFits : left.Fits)
    (rightFits : right.Fits) :
    Delimits (rsaKeyItems type left).flatten (rsaKeyItems type right).flatten
      (left.written type = right.written type) := by
  rw [rsa_items, rsa_items]
  refine delimits_mono _ _ _ _ (numbered_delimits type _ _ _ _ _ _
    ⟨leftFits.bits, leftFits.components⟩ ⟨rightFits.bits, rightFits.components⟩ rfl rfl) ?_
  rintro ⟨bits, shown, hidden⟩
  rw [HsmRsaKey.written, HsmRsaKey.written]
  split
  · rename_i isPrivate
    have same := hidden isPrivate
    cases left
    cases right
    simp_all
  · cases left
    simp_all

/-- So do EC keys. -/
theorem ec_delimits (type : Nat) (left right : HsmEcKey) (leftFits : left.Fits)
    (rightFits : right.Fits) :
    Delimits (ecKeyItems type left).flatten (ecKeyItems type right).flatten
      (left.written type = right.written type) := by
  rw [ec_items, ec_items]
  refine delimits_mono _ _ _ _ (numbered_delimits type _ _ _ _ _ _
    ⟨leftFits.curveNid, leftFits.components⟩ ⟨rightFits.curveNid, rightFits.components⟩ rfl rfl) ?_
  rintro ⟨curveNid, shown, hidden⟩
  rw [HsmEcKey.written, HsmEcKey.written]
  split
  · rename_i isPrivate
    have same := hidden isPrivate
    cases left
    cases right
    simp_all
  · cases left
    simp_all

/-! ## Whole records -/

/-- What follows the header. -/
def keyItems (object : HsmObject) : List Bytes :=
  if object.keyType = keyTypeRsa then rsaKeyItems object.type object.keyData.rsa
  else if object.keyType = keyTypeEc then ecKeyItems object.type object.keyData.ec
  else []

/-- With the class and the key type known, the key delimits itself. -/
theorem key_delimits (left right : TokenObject) (type : left.object.type = right.object.type)
    (keyType : left.object.keyType = right.object.keyType) :
    Delimits (keyItems left.object).flatten (keyItems right.object).flatten
      (left.object.writtenKey = right.object.writtenKey) := by
  rw [keyItems, keyItems, HsmObject.writtenKey, HsmObject.writtenKey, ← type, ← keyType]
  split
  · apply delimits_mono _ _ _ _ (rsa_delimits left.object.type _ _ left.rsa right.rsa)
    intro same
    rw [same]
  · split
    · apply delimits_mono _ _ _ _ (ec_delimits left.object.type _ _ left.ec right.ec)
      intro same
      rw [same]
    · exact delimits_mono _ _ _ _ delimits_nil fun _ => rfl

/-- The record is the header and then the key. -/
theorem record_bytes (object : HsmObject) : object.record =
    Bytes.littleEndian 8 object.handle ++ (Bytes.littleEndian 4 object.type ++
      (boolItem object.isToken ++ (boolItem object.isPrivate ++
        (boolItem object.isSensitive ++ (boolItem object.isExtractable ++
          (object.label.toList ++ (object.id.toList ++
            (Bytes.littleEndian 8 object.idLen ++ (Bytes.littleEndian 4 object.keyType ++
              (keyItems object).flatten))))))))) := by
  simp [HsmObject.record, objectItems, keyItems]

/-- Two records agree on everything written, wherever both begin the same bytes. -/
theorem record_delimits (left right : TokenObject) :
    Delimits left.object.record right.object.record
      (left.object.written = right.object.written) := by
  rw [record_bytes, record_bytes]
  have parts := delimits_append _ _ _ _ _ _
    (number_delimits 8 _ _ left.handle right.handle) fun _ =>
    delimits_append _ _ _ _ _ _ (number_delimits 4 _ _ left.type right.type) fun type =>
    delimits_append _ _ _ _ _ _
      (bool_delimits left.object.isToken right.object.isToken) fun _ =>
    delimits_append _ _ _ _ _ _
      (bool_delimits left.object.isPrivate right.object.isPrivate) fun _ =>
    delimits_append _ _ _ _ _ _
      (bool_delimits left.object.isSensitive right.object.isSensitive) fun _ =>
    delimits_append _ _ _ _ _ _
      (bool_delimits left.object.isExtractable right.object.isExtractable) fun _ =>
    delimits_append _ _ _ _ _ _ (buffer_delimits left.object.label right.object.label) fun _ =>
    delimits_append _ _ _ _ _ _ (buffer_delimits left.object.id right.object.id) fun _ =>
    delimits_append _ _ _ _ _ _ (number_delimits 8 _ _ left.idLen right.idLen) fun _ =>
    delimits_append _ _ _ _ _ _ (number_delimits 4 _ _ left.keyType right.keyType) fun keyType =>
    key_delimits left right type keyType
  apply delimits_mono _ _ _ _ parts
  rintro ⟨handle, type, isToken, isPrivate, isSensitive, isExtractable, label, id, idLen, keyType,
    key⟩
  rw [HsmObject.written, HsmObject.written, handle, type, isToken, isPrivate, isSensitive,
    isExtractable, label, id, idLen, keyType, key]

/-- The records are a prefix code. -/
theorem records_prefix_code :
    PrefixCode (fun stored : TokenObject => stored.object.record) fun stored =>
      stored.object.written :=
  record_delimits

/-- The stored format is unambiguous and prefix-free: a record that begins another agrees with
it on everything written and is the whole of it, and one decoder recovers what was written from
every record and recognises every truncated one. -/
theorem stored_format_prefix_free :
    (∀ left right : TokenObject, left.object.record <+: right.object.record →
      left.object.written = right.object.written ∧
        left.object.record = right.object.record) ∧
      ∃ read : Bytes → Option HsmObject, ∀ stored : TokenObject,
        read stored.object.record = some stored.object.written ∧
          ∀ amount < stored.object.record.length,
            read (stored.object.record.take amount) = none := by
  refine ⟨?_, decode (fun stored : TokenObject => stored.object.record)
    (fun stored => stored.object.written), fun stored => ⟨?_, ?_⟩⟩
  · intro left right begins
    exact delimits_prefix _ _ _ (record_delimits left right) begins
  · exact decode_written _ _ records_prefix_code stored
  · intro amount short
    exact decode_truncated _ _ records_prefix_code stored amount short

end PstHsm

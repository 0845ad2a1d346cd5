import PstHsm.Types

/-!
# Attribute templates

Parsing a template into a new object, reading attributes out of an object and
setting the one attribute that may be set. Each function walks the template in
order and handles the entries one by one.
-/

namespace PstHsm

/-! ## Writing into a new object -/

/-- Copy a label with its terminating zero byte; a value of 256 bytes or more is
skipped. -/
def storeLabel (label : Buffer 256) (entry : CkAttribute) : Buffer 256 :=
  if entry.ulValueLen < 256 then label.overwrite (entry.read entry.ulValueLen ++ [0]) else label

/-- One turn of the loop in `hsm_parse_template`. The class is narrowed to the
32 bits of the C enumeration; entries of other types are skipped. -/
def parseAttribute (object : HsmObject) (entry : CkAttribute) : HsmObject :=
  if entry.type = ckaClass then { object with type := entry.readUlong % 2 ^ 32 }
  else if entry.type = ckaToken then { object with isToken := entry.readBbool == ckTrue }
  else if entry.type = ckaPrivate then { object with isPrivate := entry.readBbool == ckTrue }
  else if entry.type = ckaLabel then { object with label := storeLabel object.label entry }
  else if entry.type = ckaId then
    if entry.ulValueLen ≤ 64 then
      { object with
        id := object.id.overwrite (entry.read entry.ulValueLen)
        idLen := entry.ulValueLen }
    else object
  else object

/-- `hsm_parse_template`, which always returns `CKR_OK`. -/
def hsmParseTemplate (pTemplate : List CkAttribute) (object : HsmObject) : HsmObject :=
  pTemplate.foldl parseAttribute
    { object with isToken := false, isPrivate := true, isSensitive := true, isExtractable := false }

/-! ## Reading an object -/

/-- Write bytes through the value pointer, whatever length the caller stated. -/
def CkAttribute.write (entry : CkAttribute) (bytes : Bytes) : Option Bytes :=
  entry.pValue.map fun memory => bytes ++ memory.drop bytes.length

/-- A fixed-size value: written when there is a pointer, its length reported. -/
def reportFixed (entry : CkAttribute) (bytes : Bytes) : Option CkRv × CkAttribute :=
  (none, { entry with pValue := entry.write bytes, ulValueLen := bytes.length })

/-- A value of variable length: written when the stated length suffices, its
length reported in every case. -/
def reportSized (entry : CkAttribute) (bytes : Bytes) : Option CkRv × CkAttribute :=
  if entry.pValue.isNone then (none, { entry with ulValueLen := bytes.length })
  else if entry.ulValueLen ≥ bytes.length then reportFixed entry bytes
  else (some .bufferTooSmall, { entry with ulValueLen := bytes.length })

def bboolBytes (value : Bool) : Bytes := [if value then ckTrue else ckFalse]

/-- One turn of the loop in `hsm_get_attribute_value`: the value the entry leaves
in `rv`, if any, and the entry afterwards. -/
def getAttribute (object : HsmObject) (entry : CkAttribute) : Option CkRv × CkAttribute :=
  if entry.type = ckaClass then reportFixed entry (Bytes.littleEndian 8 object.type)
  else if entry.type = ckaToken then reportFixed entry (bboolBytes object.isToken)
  else if entry.type = ckaPrivate then reportFixed entry (bboolBytes object.isPrivate)
  else if entry.type = ckaLabel then reportSized entry (Bytes.cString object.label.toList)
  else if entry.type = ckaId then reportSized entry (object.id.toList.take object.idLen)
  else if entry.type = ckaKeyType then
    reportFixed entry (Bytes.littleEndian 8
      (if object.keyType = keyTypeRsa then ckkRsa else ckkEc))
  else (some .attributeTypeInvalid, { entry with ulValueLen := ckUnavailableInformation })

/-- `hsm_get_attribute_value`. The last entry that sets `rv` decides it. -/
def hsmGetAttributeValue (object : HsmObject) (pTemplate : List CkAttribute) :
    CkRv × List CkAttribute :=
  (pTemplate.foldl (fun rv entry => ((getAttribute object entry).1).getD rv) .ok,
    pTemplate.map fun entry => (getAttribute object entry).2)

/-! ## Setting attributes -/

/-- `hsm_set_attribute_value`. Only a label may be set; the first other entry
ends the loop, and the labels before it stay set. -/
def hsmSetAttributeValue (object : HsmObject) : List CkAttribute → CkRv × HsmObject
  | [] => (.ok, object)
  | entry :: rest =>
    if entry.type = ckaLabel then
      hsmSetAttributeValue { object with label := storeLabel object.label entry } rest
    else (.attributeReadOnly, object)

/-! ## What templates leave alone -/

/-- Parsing never touches the handle, the key or the capabilities. -/
theorem parse_template_key (pTemplate : List CkAttribute) (object : HsmObject) :
    (hsmParseTemplate pTemplate object).handle = object.handle ∧
      (hsmParseTemplate pTemplate object).keyType = object.keyType ∧
      (hsmParseTemplate pTemplate object).keyData = object.keyData ∧
      (hsmParseTemplate pTemplate object).canSign = object.canSign ∧
      (hsmParseTemplate pTemplate object).canVerify = object.canVerify := by
  have entryFrame (current : HsmObject) (entry : CkAttribute) :
      (parseAttribute current entry).handle = current.handle ∧
        (parseAttribute current entry).keyType = current.keyType ∧
        (parseAttribute current entry).keyData = current.keyData ∧
        (parseAttribute current entry).canSign = current.canSign ∧
        (parseAttribute current entry).canVerify = current.canVerify := by
    rw [parseAttribute]
    repeat' split
    all_goals exact ⟨rfl, rfl, rfl, rfl, rfl⟩
  have loopFrame (entries : List CkAttribute) (current : HsmObject) :
      (entries.foldl parseAttribute current).handle = current.handle ∧
        (entries.foldl parseAttribute current).keyType = current.keyType ∧
        (entries.foldl parseAttribute current).keyData = current.keyData ∧
        (entries.foldl parseAttribute current).canSign = current.canSign ∧
        (entries.foldl parseAttribute current).canVerify = current.canVerify := by
    induction entries generalizing current with
    | nil => exact ⟨rfl, rfl, rfl, rfl, rfl⟩
    | cons entry rest inductionHypothesis =>
      obtain ⟨handle, keyType, keyData, canSign, canVerify⟩ := entryFrame current entry
      obtain ⟨handle', keyType', keyData', canSign', canVerify'⟩ :=
        inductionHypothesis (parseAttribute current entry)
      exact ⟨handle'.trans handle, keyType'.trans keyType, keyData'.trans keyData,
        canSign'.trans canSign, canVerify'.trans canVerify⟩
  exact loopFrame pTemplate _

/-- Setting attributes changes the label only. -/
theorem set_attribute_value_label (pTemplate : List CkAttribute) (object : HsmObject) :
    ∃ label, (hsmSetAttributeValue object pTemplate).2 = { object with label := label } := by
  induction pTemplate generalizing object with
  | nil => exact ⟨object.label, rfl⟩
  | cons entry rest inductionHypothesis =>
    by_cases isLabel : entry.type = ckaLabel
    · obtain ⟨label, same⟩ :=
        inductionHypothesis { object with label := storeLabel object.label entry }
      exact ⟨label, by simpa [hsmSetAttributeValue, isLabel] using same⟩
    · exact ⟨object.label, by simp [hsmSetAttributeValue, isLabel]⟩

end PstHsm

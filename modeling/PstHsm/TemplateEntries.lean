import PstHsm.LastWrites
import PstHsm.Templates

/-!
# What a parsed template says

Every field that `hsm_parse_template` fills is decided by the last entry of one type,
or by the last such entry short enough for its field. Fields that no entry reaches have
the values that the function itself sets before its loop.
-/

namespace PstHsm

open LastWrites

/-- The last entry of a type. -/
def lastEntry (type : CkAttributeType) (pTemplate : List CkAttribute) : Option CkAttribute :=
  last (fun entry => decide (entry.type = type)) pTemplate

/-- The entry found is in the template and of the type. -/
theorem last_entry_sound (type : CkAttributeType) {pTemplate : List CkAttribute}
    {entry : CkAttribute} (found : lastEntry type pTemplate = some entry) :
    entry ∈ pTemplate ∧ entry.type = type := by
  obtain ⟨member, accepted⟩ := last_sound _ found
  exact ⟨member, of_decide_eq_true accepted⟩

/-- A Boolean attribute: the last entry that names it, or a default. -/
def namedFlag (type : CkAttributeType) (pTemplate : List CkAttribute) (unnamed : Bool) : Bool :=
  ((lastEntry type pTemplate).map fun entry => entry.readBbool == ckTrue).getD unnamed

/-! ## One entry -/

/-- A value short enough for the field is stored with its terminating zero byte. -/
theorem store_label_text (label : Buffer 256) (entry : CkAttribute)
    (fits : entry.ulValueLen < 256) :
    Bytes.cString (storeLabel label entry).toList =
      Bytes.cString (entry.read entry.ulValueLen) := by
  have whole : (entry.read entry.ulValueLen ++ [0]).length ≤ 256 := by
    simpa [CkAttribute.read, Bytes.memory] using Nat.succ_le_of_lt fits
  rw [storeLabel, if_pos fits, Buffer.overwrite_list, List.take_append,
    List.take_of_length_le whole, List.append_assoc]
  exact Bytes.c_string_terminated _ _

/-- A label that does not fit is not stored. -/
theorem store_label_long (label : Buffer 256) (entry : CkAttribute)
    (long : ¬ entry.ulValueLen < 256) : storeLabel label entry = label := by
  rw [storeLabel, if_neg long]

section OneEntry

variable (object : HsmObject) (entry : CkAttribute)

/-- The class is stored, narrowed. -/
theorem parse_class (named : entry.type = ckaClass) :
    parseAttribute object entry = { object with type := entry.readUlong % 2 ^ 32 } := by
  rw [parseAttribute, if_pos named]

/-- The token flag is stored. -/
theorem parse_token (named : entry.type = ckaToken) :
    parseAttribute object entry = { object with isToken := entry.readBbool == ckTrue } := by
  rw [parseAttribute, named, if_neg (by decide), if_pos rfl]

/-- So is the private flag. -/
theorem parse_private (named : entry.type = ckaPrivate) :
    parseAttribute object entry = { object with isPrivate := entry.readBbool == ckTrue } := by
  rw [parseAttribute, named, if_neg (by decide), if_neg (by decide), if_pos rfl]

/-- So is the label. -/
theorem parse_label (named : entry.type = ckaLabel) :
    parseAttribute object entry = { object with label := storeLabel object.label entry } := by
  rw [parseAttribute, named, if_neg (by decide), if_neg (by decide), if_neg (by decide),
    if_pos rfl]

/-- An identifier that fits is stored with its length. -/
theorem parse_id (named : entry.type = ckaId) (fits : entry.ulValueLen ≤ 64) :
    parseAttribute object entry =
      { object with
        id := object.id.overwrite (entry.read entry.ulValueLen)
        idLen := entry.ulValueLen } := by
  rw [parseAttribute, named, if_neg (by decide), if_neg (by decide), if_neg (by decide),
    if_neg (by decide), if_pos rfl, if_pos fits]

/-- A longer one is not. -/
theorem parse_long_id (named : entry.type = ckaId) (long : ¬ entry.ulValueLen ≤ 64) :
    parseAttribute object entry = object := by
  rw [parseAttribute, named, if_neg (by decide), if_neg (by decide), if_neg (by decide),
    if_neg (by decide), if_pos rfl, if_neg long]

/-- No other entry is. -/
theorem parse_other (notClass : entry.type ≠ ckaClass) (notToken : entry.type ≠ ckaToken)
    (notPrivate : entry.type ≠ ckaPrivate) (notLabel : entry.type ≠ ckaLabel)
    (notId : entry.type ≠ ckaId) : parseAttribute object entry = object := by
  rw [parseAttribute, if_neg notClass, if_neg notToken, if_neg notPrivate, if_neg notLabel,
    if_neg notId]

/-- An entry of one type leaves what belongs to another type alone. -/
theorem parse_elsewhere {Value : Type} (component : HsmObject → Value)
    (type : CkAttributeType) (different : entry.type ≠ type)
    (classFrame : type ≠ ckaClass → ∀ value, component { object with type := value } =
      component object)
    (tokenFrame : type ≠ ckaToken → ∀ value, component { object with isToken := value } =
      component object)
    (privateFrame : type ≠ ckaPrivate → ∀ value, component { object with isPrivate := value } =
      component object)
    (labelFrame : type ≠ ckaLabel → ∀ value, component { object with label := value } =
      component object)
    (idFrame : type ≠ ckaId → ∀ value length,
      component { object with id := value, idLen := length } = component object) :
    component (parseAttribute object entry) = component object := by
  by_cases isClass : entry.type = ckaClass
  · rw [parse_class object entry isClass]
    exact classFrame (isClass ▸ different.symm) _
  by_cases isToken : entry.type = ckaToken
  · rw [parse_token object entry isToken]
    exact tokenFrame (isToken ▸ different.symm) _
  by_cases isPrivate : entry.type = ckaPrivate
  · rw [parse_private object entry isPrivate]
    exact privateFrame (isPrivate ▸ different.symm) _
  by_cases isLabel : entry.type = ckaLabel
  · rw [parse_label object entry isLabel]
    exact labelFrame (isLabel ▸ different.symm) _
  by_cases isId : entry.type = ckaId
  · by_cases fits : entry.ulValueLen ≤ 64
    · rw [parse_id object entry isId fits]
      exact idFrame (isId ▸ different.symm) _ _
    · rw [parse_long_id object entry isId fits]
  · rw [parse_other object entry isClass isToken isPrivate isLabel isId]

end OneEntry

/-! ## The whole template -/

section Templates

variable (pTemplate : List CkAttribute) (object : HsmObject)

/-- The class is the last one named. -/
theorem parse_template_type :
    (hsmParseTemplate pTemplate object).type =
      ((lastEntry ckaClass pTemplate).map fun entry => entry.readUlong % 2 ^ 32).getD
        object.type := by
  apply fold_component _ parseAttribute HsmObject.type
  · intro state entry named
    rw [parse_class state entry (of_decide_eq_true named)]
  · intro state entry other
    apply parse_elsewhere state entry HsmObject.type ckaClass (of_decide_eq_false other)
    · exact fun impossible => absurd rfl impossible
    all_goals intros; rfl

/-- Whether the object is a token object is what the last entry says, and no by default. -/
theorem parse_template_token :
    (hsmParseTemplate pTemplate object).isToken = namedFlag ckaToken pTemplate false := by
  apply fold_component _ parseAttribute HsmObject.isToken
  · intro state entry named
    rw [parse_token state entry (of_decide_eq_true named)]
  · intro state entry other
    apply parse_elsewhere state entry HsmObject.isToken ckaToken (of_decide_eq_false other)
    · exact fun _ _ => rfl
    · exact fun impossible => absurd rfl impossible
    all_goals intros; rfl

/-- Whether the object is private is what the last entry says, and yes by default. -/
theorem parse_template_private :
    (hsmParseTemplate pTemplate object).isPrivate = namedFlag ckaPrivate pTemplate true := by
  apply fold_component _ parseAttribute HsmObject.isPrivate
  · intro state entry named
    rw [parse_private state entry (of_decide_eq_true named)]
  · intro state entry other
    apply parse_elsewhere state entry HsmObject.isPrivate ckaPrivate (of_decide_eq_false other)
    · intros; rfl
    · intros; rfl
    · exact fun impossible => absurd rfl impossible
    all_goals intros; rfl

/-- No entry makes the object less sensitive or extractable. -/
theorem parse_template_secrecy :
    (hsmParseTemplate pTemplate object).isSensitive = true ∧
      (hsmParseTemplate pTemplate object).isExtractable = false := by
  have kept (state : HsmObject) (entry : CkAttribute) :
      ((parseAttribute state entry).isSensitive, (parseAttribute state entry).isExtractable) =
        (state.isSensitive, state.isExtractable) := by
    rw [parseAttribute]
    repeat' split
    all_goals rfl
  have both := fold_component_frame parseAttribute
    (fun state => (state.isSensitive, state.isExtractable)) kept pTemplate
    { object with isToken := false, isPrivate := true, isSensitive := true, isExtractable := false }
  exact Prod.mk.inj both

/-- The label reads as the last value short enough for the field. -/
theorem parse_template_label :
    Bytes.cString (hsmParseTemplate pTemplate object).label.toList =
      ((last (fun entry => decide (entry.type = ckaLabel ∧ entry.ulValueLen < 256)) pTemplate).map
        fun entry => Bytes.cString (entry.read entry.ulValueLen)).getD
        (Bytes.cString object.label.toList) := by
  apply fold_component _ parseAttribute (fun state => Bytes.cString state.label.toList)
  · intro state entry named
    obtain ⟨isLabel, fits⟩ := of_decide_eq_true named
    rw [parse_label state entry isLabel]
    exact store_label_text state.label entry fits
  · intro state entry other
    have refused := of_decide_eq_false other
    by_cases isLabel : entry.type = ckaLabel
    · rw [parse_label state entry isLabel,
        store_label_long state.label entry fun fits => refused ⟨isLabel, fits⟩]
    · apply parse_elsewhere state entry (fun state => Bytes.cString state.label.toList) ckaLabel
        isLabel
      · intros; rfl
      · intros; rfl
      · intros; rfl
      · exact fun impossible => absurd rfl impossible
      · intros; rfl

/-- The identifier and its length come from the last entry that fits the field. -/
theorem parse_template_id :
    (hsmParseTemplate pTemplate object).id.toList.take
        (hsmParseTemplate pTemplate object).idLen =
      ((last (fun entry => decide (entry.type = ckaId ∧ entry.ulValueLen ≤ 64)) pTemplate).map
        fun entry => entry.read entry.ulValueLen).getD (object.id.toList.take object.idLen) := by
  apply fold_component _ parseAttribute (fun state => state.id.toList.take state.idLen)
  · intro state entry named
    obtain ⟨isId, fits⟩ := of_decide_eq_true named
    have length : (entry.read entry.ulValueLen).length = entry.ulValueLen := by
      simp [CkAttribute.read, Bytes.memory]
    rw [parse_id state entry isId fits]
    dsimp only
    rw [Buffer.overwrite_list, List.take_take, Nat.min_eq_left fits, List.take_left' length]
  · intro state entry other
    have refused := of_decide_eq_false other
    by_cases isId : entry.type = ckaId
    · rw [parse_long_id state entry isId fun fits => refused ⟨isId, fits⟩]
    · apply parse_elsewhere state entry (fun state => state.id.toList.take state.idLen) ckaId isId
      · intros; rfl
      · intros; rfl
      · intros; rfl
      · intros; rfl
      · exact fun impossible => absurd rfl impossible

end Templates

end PstHsm

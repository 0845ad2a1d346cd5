import PstHsm.AttributeRoundTrips

/-!
# Reading attributes into the caller's memory

`hsm_get_attribute_value` knows six attributes and treats them in two ways. The class, the
two flags and the key type are assigned through a cast pointer, whatever length the caller
states; the label and the identifier are copied when that length suffices. The lengths
reported are right in both, so a length query followed by a read succeeds. Only the copied
attributes respect a buffer that is too small.
-/

namespace PstHsm

open Tables

/-! ## The six attributes -/

/-- The attributes assigned through a cast pointer. -/
def assignedTypes : List CkAttributeType := [ckaClass, ckaToken, ckaPrivate, ckaKeyType]

/-- The attributes copied when there is room. -/
def copiedTypes : List CkAttributeType := [ckaLabel, ckaId]

/-- The size of the C type an attribute is assigned as. -/
def assignedWidth (type : CkAttributeType) : Nat :=
  if type = ckaToken ∨ type = ckaPrivate then 1 else 8

/-- The key type as the interface numbers it. -/
def HsmObject.ckkType (object : HsmObject) : CkUlong :=
  if object.keyType = keyTypeRsa then ckkRsa else ckkEc

/-- The bytes that an object shows for a type, if any. -/
def HsmObject.shownBytes (object : HsmObject) (type : CkAttributeType) : Option Bytes :=
  if type = ckaClass then some (Bytes.littleEndian 8 object.type)
  else if type = ckaToken then some (bboolBytes object.isToken)
  else if type = ckaPrivate then some (bboolBytes object.isPrivate)
  else if type = ckaLabel then some (Bytes.cString object.label.toList)
  else if type = ckaId then some (object.id.toList.take object.idLen)
  else if type = ckaKeyType then some (Bytes.littleEndian 8 object.ckkType)
  else none

section OneEntry

variable (object : HsmObject) (entry : CkAttribute) (value : Bytes)

/-- Exactly the six types are shown. -/
theorem shown_bytes_iff (type : CkAttributeType) :
    (∃ value, object.shownBytes type = some value) ↔ type ∈ assignedTypes ∨ type ∈ copiedTypes := by
  rw [HsmObject.shownBytes]
  constructor
  · rintro ⟨value, shown⟩
    split_ifs at shown with class_ token private_ label id keyType
    · exact Or.inl (by simp [assignedTypes, class_])
    · exact Or.inl (by simp [assignedTypes, token])
    · exact Or.inl (by simp [assignedTypes, private_])
    · exact Or.inr (by simp [copiedTypes, label])
    · exact Or.inr (by simp [copiedTypes, id])
    · exact Or.inl (by simp [assignedTypes, keyType])
  · rintro (assigned | copied)
    · simp only [assignedTypes, List.mem_cons, List.not_mem_nil, or_false] at assigned
      rcases assigned with rfl | rfl | rfl | rfl
      all_goals exact ⟨_, rfl⟩
    · simp only [copiedTypes, List.mem_cons, List.not_mem_nil, or_false] at copied
      rcases copied with rfl | rfl
      all_goals exact ⟨_, rfl⟩

/-- An assigned attribute has the size of its C type. -/
theorem assigned_bytes_length (type : CkAttributeType) (assigned : type ∈ assignedTypes)
    (shown : object.shownBytes type = some value) : value.length = assignedWidth type := by
  simp only [assignedTypes, List.mem_cons, List.not_mem_nil, or_false] at assigned
  rcases assigned with rfl | rfl | rfl | rfl
  all_goals
    obtain rfl := Option.some.inj shown
    first
    | exact Bytes.little_endian_length 8 _
    | rfl

/-- A type that is not known is refused. -/
theorem get_attribute_unknown (unknown : object.shownBytes entry.type = none) :
    getAttribute object entry =
      (some .attributeTypeInvalid, { entry with ulValueLen := ckUnavailableInformation }) := by
  rw [HsmObject.shownBytes] at unknown
  rw [getAttribute]
  split_ifs at unknown with class_ token private_ label id keyType
  rw [if_neg class_, if_neg token, if_neg private_, if_neg label, if_neg id, if_neg keyType]

theorem get_attribute_assigned (assigned : entry.type ∈ assignedTypes)
    (shown : object.shownBytes entry.type = some value) :
    getAttribute object entry = reportFixed entry value := by
  rw [getAttribute]
  simp only [assignedTypes, List.mem_cons, List.not_mem_nil, or_false] at assigned
  rcases assigned with named | named | named | named
  all_goals
    rw [named] at shown
    obtain rfl := Option.some.inj shown
    simp only [named]
    rfl

theorem get_attribute_copied (copied : entry.type ∈ copiedTypes)
    (shown : object.shownBytes entry.type = some value) :
    getAttribute object entry = reportSized entry value := by
  rw [getAttribute]
  simp only [copiedTypes, List.mem_cons, List.not_mem_nil, or_false] at copied
  rcases copied with named | named
  all_goals
    rw [named] at shown
    obtain rfl := Option.some.inj shown
    simp only [named]
    rfl

end OneEntry

/-! ## The return value -/

/-- No entry leaves `CKR_OK` in `rv`. -/
theorem get_attribute_fails (object : HsmObject) (entry : CkAttribute) (rv : CkRv)
    (failed : (getAttribute object entry).1 = some rv) : rv ≠ .ok := by
  rintro rfl
  cases shown : object.shownBytes entry.type with
  | none =>
    rw [get_attribute_unknown object entry shown] at failed
    cases failed
  | some value =>
    rcases (shown_bytes_iff object entry.type).mp ⟨value, shown⟩ with assigned | copied
    · rw [get_attribute_assigned object entry value assigned shown] at failed
      cases failed
    · rw [get_attribute_copied object entry value copied shown, reportSized] at failed
      split at failed
      · cases failed
      · split at failed
        · cases failed
        · cases failed

/-- A later success hides no earlier failure: the answer is `CKR_OK` exactly when no entry
fails. -/
theorem get_attribute_value_ok_iff (object : HsmObject) (template : List CkAttribute) :
    (hsmGetAttributeValue object template).1 = .ok ↔
      ∀ entry ∈ template, (getAttribute object entry).1 = none := by
  have loop (entries : List CkAttribute) (before : CkRv) :
      entries.foldl (fun rv entry => ((getAttribute object entry).1).getD rv) before = .ok ↔
        before = .ok ∧ ∀ entry ∈ entries, (getAttribute object entry).1 = none := by
    induction entries generalizing before with
    | nil => simp
    | cons entry rest inductionHypothesis =>
      rw [List.foldl_cons, inductionHypothesis, List.forall_mem_cons]
      cases failed : (getAttribute object entry).1 with
      | none => simp
      | some rv => simp [get_attribute_fails object entry rv failed]
  rw [hsmGetAttributeValue]
  exact (loop template .ok).trans (and_iff_right rfl)

/-! ## Length query and read -/

/-- The entry after a length query. -/
def Measured (object : HsmObject) (entry after : CkAttribute) : Prop :=
  ∃ value, object.shownBytes entry.type = some value ∧
    after = { entry with ulValueLen := value.length }

/-- Memory of exactly the size that a query reported. -/
def ExactBuffer (measured buffer : CkAttribute) : Prop :=
  buffer.type = measured.type ∧ buffer.ulValueLen = measured.ulValueLen ∧
    ∃ memory, buffer.pValue = some memory ∧ memory.length = measured.ulValueLen

/-- The memory is filled with the value, and the length stays as stated. -/
def Filled (object : HsmObject) (buffer after : CkAttribute) : Prop :=
  ∃ value, object.shownBytes buffer.type = some value ∧ value.length = buffer.ulValueLen ∧
    after = { buffer with pValue := some value }

section TwoCalls

variable (object : HsmObject) (entry buffer : CkAttribute) (value : Bytes)

/-- With memory and room a value is copied as one of fixed size is. -/
theorem report_sized_room (memory : Bytes) (pointer : entry.pValue = some memory)
    (room : value.length ≤ entry.ulValueLen) :
    reportSized entry value = reportFixed entry value := by
  have present : ¬ entry.pValue.isNone = true := by
    rw [pointer]
    exact Bool.false_ne_true
  rw [reportSized, if_neg present, if_pos room]

/-- With memory but no room nothing is copied. -/
theorem report_sized_short (memory : Bytes) (pointer : entry.pValue = some memory)
    (short : entry.ulValueLen < value.length) :
    reportSized entry value =
      (some .bufferTooSmall, { entry with ulValueLen := value.length }) := by
  have present : ¬ entry.pValue.isNone = true := by
    rw [pointer]
    exact Bool.false_ne_true
  rw [reportSized, if_neg present, if_neg (Nat.not_le_of_lt short)]

/-- Without memory both kinds of attributes report their length. -/
theorem get_attribute_measured (null : entry.pValue = none)
    (shown : object.shownBytes entry.type = some value) :
    getAttribute object entry = (none, { entry with ulValueLen := value.length }) := by
  rcases (shown_bytes_iff object entry.type).mp ⟨value, shown⟩ with assigned | copied
  · rw [get_attribute_assigned object entry value assigned shown, reportFixed, CkAttribute.write,
      null]
    rfl
  · have nothing : entry.pValue.isNone = true := by
      rw [null]
      rfl
    rw [get_attribute_copied object entry value copied shown, reportSized, if_pos nothing]

/-- Memory of the reported size is filled, and the length reported again. -/
theorem get_attribute_filled (memory : Bytes) (pointer : buffer.pValue = some memory)
    (size : memory.length = value.length) (stated : buffer.ulValueLen = value.length)
    (shown : object.shownBytes buffer.type = some value) :
    getAttribute object buffer = (none, { buffer with pValue := some value }) := by
  have written : reportFixed buffer value = (none, { buffer with pValue := some value }) := by
    have whole : buffer.write value = some value := by
      rw [CkAttribute.write, pointer, Option.map_some, ← size, List.drop_length, List.append_nil]
    rw [reportFixed, whole, ← stated]
  rcases (shown_bytes_iff object buffer.type).mp ⟨value, shown⟩ with assigned | copied
  · rw [get_attribute_assigned object buffer value assigned shown, written]
  · rw [get_attribute_copied object buffer value copied shown,
      report_sized_room buffer value memory pointer stated.ge, written]

/-- Each buffer has the entry it was measured for. -/
theorem buffer_measured (queried buffers : List CkAttribute)
    (exact : List.Forall₂ (fun entry buffer => ExactBuffer (getAttribute object entry).2 buffer)
      queried buffers) (member : buffer ∈ buffers) :
    ∃ entry ∈ queried, ExactBuffer (getAttribute object entry).2 buffer := by
  induction exact with
  | nil => cases member
  | cons here _ inductionHypothesis =>
    rcases List.mem_cons.mp member with rfl | later
    · exact ⟨_, List.mem_cons_self, here⟩
    · obtain ⟨entry, earlier, measured⟩ := inductionHypothesis later
      exact ⟨entry, List.mem_cons_of_mem _ earlier, measured⟩

end TwoCalls

/-- A length query of attributes that can be read, then a read into memory of the lengths it
reported: both succeed, and every value arrives whole. A template in two parts is handled
as its parts are. -/
theorem length_query_then_read (object : HsmObject) :
    (∀ template : List CkAttribute,
      (∀ entry ∈ template, entry.pValue = none ∧
        (entry.type ∈ assignedTypes ∨ entry.type ∈ copiedTypes)) →
      (hsmGetAttributeValue object template).1 = .ok ∧
        List.Forall₂ (Measured object) template (hsmGetAttributeValue object template).2 ∧
        ∀ buffers, List.Forall₂ ExactBuffer (hsmGetAttributeValue object template).2 buffers →
          (hsmGetAttributeValue object buffers).1 = .ok ∧
            List.Forall₂ (Filled object) buffers (hsmGetAttributeValue object buffers).2) ∧
      ∀ first second : List CkAttribute,
        (hsmGetAttributeValue object (first ++ second)).2 =
            (hsmGetAttributeValue object first).2 ++ (hsmGetAttributeValue object second).2 ∧
          ((hsmGetAttributeValue object (first ++ second)).1 = .ok ↔
            (hsmGetAttributeValue object first).1 = .ok ∧
              (hsmGetAttributeValue object second).1 = .ok) := by
  refine ⟨fun template supported => ?_, fun first second => ⟨List.map_append, ?_⟩⟩
  · have measured (entry : CkAttribute) (member : entry ∈ template) :
        ∃ value, object.shownBytes entry.type = some value ∧
          getAttribute object entry = (none, { entry with ulValueLen := value.length }) := by
      obtain ⟨null, readable⟩ := supported entry member
      obtain ⟨value, shown⟩ := (shown_bytes_iff object entry.type).mpr readable
      exact ⟨value, shown, get_attribute_measured object entry value null shown⟩
    refine ⟨?_, ?_, fun buffers exact => ?_⟩
    · rw [get_attribute_value_ok_iff]
      intro entry member
      obtain ⟨value, -, answer⟩ := measured entry member
      rw [answer]
    · rw [hsmGetAttributeValue, List.forall₂_map_right_iff, List.forall₂_same]
      intro entry member
      obtain ⟨value, shown, answer⟩ := measured entry member
      exact ⟨value, shown, by rw [answer]⟩
    · rw [hsmGetAttributeValue, List.forall₂_map_left_iff] at exact
      have filled (buffer : CkAttribute) (member : buffer ∈ buffers) :
          ∃ value, object.shownBytes buffer.type = some value ∧
            value.length = buffer.ulValueLen ∧
            getAttribute object buffer = (none, { buffer with pValue := some value }) := by
        obtain ⟨entry, queried, type, stated, memory, pointer, size⟩ :=
          buffer_measured object buffer template buffers exact member
        obtain ⟨value, shown, answer⟩ := measured entry queried
        rw [answer] at type stated size
        rw [← type] at shown
        exact ⟨value, shown, stated.symm,
          get_attribute_filled object buffer value memory pointer size stated shown⟩
      refine ⟨?_, ?_⟩
      · rw [get_attribute_value_ok_iff]
        intro buffer member
        obtain ⟨value, -, -, answer⟩ := filled buffer member
        rw [answer]
      · rw [hsmGetAttributeValue, List.forall₂_map_right_iff, List.forall₂_same]
        intro buffer member
        obtain ⟨value, shown, length, answer⟩ := filled buffer member
        exact ⟨value, shown, length, by rw [answer]⟩
  · simp only [get_attribute_value_ok_iff, List.forall_mem_append]

/-- A private key with a label of three bytes and an identifier of one. -/
def labelledKey : HsmObject :=
  hsmParseTemplate [entryOf ckaLabel [0x6b, 0x65, 0x79], entryOf ckaId [7]] initialPrivateKey

/-- The class, the label and the identifier are asked for, the label twice. -/
def labelQuery : List CkAttribute :=
  [⟨ckaLabel, none, 0⟩, ⟨ckaClass, none, 0⟩, ⟨ckaId, none, 9⟩, ⟨ckaLabel, none, 0⟩]

/-- Memory of the four lengths. -/
def labelBuffers : List CkAttribute :=
  [entryOf ckaLabel [0, 0, 0], entryOf ckaClass [9, 9, 9, 9, 9, 9, 9, 9], entryOf ckaId [0],
    entryOf ckaLabel [1, 2, 3]]

theorem labelled_key_read :
    (hsmGetAttributeValue labelledKey labelQuery).1 = .ok ∧
      (hsmGetAttributeValue labelledKey labelBuffers).1 = .ok := by
  obtain ⟨queried, -, read⟩ :=
    (length_query_then_read labelledKey).1 labelQuery (by decide)
  refine ⟨queried, (read labelBuffers ?_).1⟩
  exact .cons ⟨rfl, rfl, _, rfl, rfl⟩ (.cons ⟨rfl, rfl, _, rfl, rfl⟩
    (.cons ⟨rfl, rfl, _, rfl, rfl⟩ (.cons ⟨rfl, rfl, _, rfl, rfl⟩ .nil)))

/-! ## Bytes written -/

/-- The template with other memory behind one value pointer. -/
def withMemory (template : List CkAttribute) (index : Nat) (memory : Bytes) : List CkAttribute :=
  template.modify index fun entry => { entry with pValue := some memory }

/-- The memory behind one value pointer. -/
def memoryAt (template : List CkAttribute) (index : Nat) : Bytes :=
  (template[index]?.bind CkAttribute.pValue).getD []

section Call

variable (system : System) (hSession : CkSessionHandle) (hObject : CkObjectHandle)
  (template : List CkAttribute)

/-- `C_GetAttributeValue` writes the byte at an offset behind a value pointer: over some
memory it is another byte afterwards. -/
def WritesAt (index offset : Nat) : Prop :=
  ∃ memory : Bytes, offset < memory.length ∧
    (memoryAt (cGetAttributeValue system hSession hObject
      (some (withMemory template index memory))).2 index)[offset]? ≠ memory[offset]?

/-- The object that `C_GetAttributeValue` reads. -/
def System.objectRead : Option HsmObject :=
  match hsmGetSession system hSession with
  | .error _ => none
  | .ok found =>
    match hsmGetObject found.slot hObject with
    | .error _ => none
    | .ok (_, object) => some object

/-- Behind a value pointer only bytes within the stated length are written, and a value that
does not fit is refused without a byte written. -/
structure InsideBuffers : Prop where
  bounded : ∀ index entry, template[index]? = some entry → entry.pValue.isSome = true →
    ∀ offset, WritesAt system hSession hObject template index offset →
      offset < entry.ulValueLen
  refused : ∀ index entry object value, template[index]? = some entry →
    entry.pValue.isSome = true → system.objectRead hSession hObject = some object →
    object.shownBytes entry.type = some value → entry.ulValueLen < value.length →
    (∀ offset, ¬ WritesAt system hSession hObject template index offset) ∧
      (cGetAttributeValue system hSession hObject (some template)).1 ≠ .ok

theorem get_attribute_value_read (object : HsmObject)
    (read : system.objectRead hSession hObject = some object) :
    cGetAttributeValue system hSession hObject (some template) =
      hsmGetAttributeValue object template := by
  unfold System.objectRead at read
  split at read
  · cases read
  · rename_i found session
    split at read
    · cases read
    · rename_i index stored lookup
      obtain rfl := Option.some.inj read
      simp only [cGetAttributeValue, session, lookup]

/-- Without an object nothing is written. -/
theorem get_attribute_value_unread (nothing : system.objectRead hSession hObject = none) :
    (cGetAttributeValue system hSession hObject (some template)).2 = template := by
  unfold System.objectRead at nothing
  split at nothing
  · rename_i rv session
    simp only [cGetAttributeValue, session]
  · rename_i found session
    split at nothing
    · rename_i rv lookup
      simp only [cGetAttributeValue, session, lookup]
    · cases nothing

/-- Without an object no byte is written. -/
theorem unread_writes_nothing (nothing : system.objectRead hSession hObject = none)
    (index offset : Nat) (entry : CkAttribute) (here : template[index]? = some entry) :
    ¬ WritesAt system hSession hObject template index offset := by
  rintro ⟨memory, -, changed⟩
  rw [get_attribute_value_unread system hSession hObject _ nothing, memoryAt, withMemory,
    List.getElem?_modify_eq, here] at changed
  exact changed rfl

end Call

section Stored

variable (object : HsmObject) (entry : CkAttribute)

/-- The bytes that one entry has copied behind its pointer. -/
def storedBytes : Bytes :=
  ((object.shownBytes entry.type).filter fun value =>
    decide (entry.type ∈ assignedTypes ∨ value.length ≤ entry.ulValueLen)).getD []

theorem stored_bytes_written (value : Bytes) (shown : object.shownBytes entry.type = some value)
    (written : entry.type ∈ assignedTypes ∨ value.length ≤ entry.ulValueLen) :
    storedBytes object entry = value := by
  simp [storedBytes, shown, Option.filter, written]

theorem stored_bytes_refused (value : Bytes) (shown : object.shownBytes entry.type = some value)
    (refused : ¬ (entry.type ∈ assignedTypes ∨ value.length ≤ entry.ulValueLen)) :
    storedBytes object entry = [] := by
  simp [storedBytes, shown, Option.filter, refused]

/-- The memory of an entry starts with the bytes copied and is otherwise kept. -/
theorem get_attribute_memory (memory : Bytes) :
    (getAttribute object { entry with pValue := some memory }).2.pValue =
      some (storedBytes object entry ++ memory.drop (storedBytes object entry).length) := by
  cases shown : object.shownBytes entry.type with
  | none =>
    rw [get_attribute_unknown object { entry with pValue := some memory } shown]
    simp [storedBytes, shown]
  | some value =>
    by_cases assigned : entry.type ∈ assignedTypes
    · rw [get_attribute_assigned object { entry with pValue := some memory } value assigned shown,
        stored_bytes_written object entry value shown (Or.inl assigned)]
      rfl
    · have copied := ((shown_bytes_iff object entry.type).mp ⟨value, shown⟩).resolve_left assigned
      rw [get_attribute_copied object { entry with pValue := some memory } value copied shown]
      by_cases room : value.length ≤ entry.ulValueLen
      · rw [report_sized_room { entry with pValue := some memory } value memory rfl room,
          stored_bytes_written object entry value shown (Or.inr room)]
        rfl
      · rw [report_sized_short { entry with pValue := some memory } value memory rfl
            (Nat.lt_of_not_le room),
          stored_bytes_refused object entry value shown (not_or.mpr ⟨assigned, room⟩)]
        rfl

/-- Given the room for an assigned attribute, no entry has more copied than it states. -/
theorem stored_bytes_inside
    (wide : entry.type ∈ assignedTypes → assignedWidth entry.type ≤ entry.ulValueLen) :
    (storedBytes object entry).length ≤ entry.ulValueLen := by
  cases shown : object.shownBytes entry.type with
  | none => simp [storedBytes, shown]
  | some value =>
    by_cases assigned : entry.type ∈ assignedTypes
    · rw [stored_bytes_written object entry value shown (Or.inl assigned),
        assigned_bytes_length object value entry.type assigned shown]
      exact wide assigned
    · by_cases room : value.length ≤ entry.ulValueLen
      · rwa [stored_bytes_written object entry value shown (Or.inr room)]
      · rw [stored_bytes_refused object entry value shown (not_or.mpr ⟨assigned, room⟩)]
        exact Nat.zero_le _

end Stored

/-- The bytes written are those copied. -/
theorem writes_at_iff (system : System) (hSession : CkSessionHandle) (hObject : CkObjectHandle)
    (template : List CkAttribute) (object : HsmObject) (index offset : Nat) (entry : CkAttribute)
    (read : system.objectRead hSession hObject = some object)
    (here : template[index]? = some entry) :
    WritesAt system hSession hObject template index offset ↔
      offset < (storedBytes object entry).length := by
  have after (memory : Bytes) :
      memoryAt (cGetAttributeValue system hSession hObject
        (some (withMemory template index memory))).2 index =
        storedBytes object entry ++ memory.drop (storedBytes object entry).length := by
    rw [get_attribute_value_read system hSession hObject _ object read, memoryAt,
      hsmGetAttributeValue, List.getElem?_map, withMemory, List.getElem?_modify_eq, here]
    exact congrArg (Option.getD · []) (get_attribute_memory object entry memory)
  simp only [WritesAt, after]
  constructor
  · rintro ⟨memory, inside, changed⟩
    by_contra beyond
    have past : (storedBytes object entry).length ≤ offset := Nat.not_lt.mp beyond
    rw [List.getElem?_append_right past, List.getElem?_drop, Nat.add_sub_cancel' past] at changed
    exact changed rfl
  · intro copied
    obtain ⟨other, different⟩ : ∃ other : UInt8, (storedBytes object entry)[offset] ≠ other := by
      by_cases zero : (storedBytes object entry)[offset] = 0
      · exact ⟨1, by rw [zero]; decide⟩
      · exact ⟨0, zero⟩
    refine ⟨List.replicate (offset + 1) other, by simp, ?_⟩
    rw [List.getElem?_append_left copied, List.getElem?_eq_getElem copied,
      List.getElem?_replicate_of_lt (Nat.lt_succ_self offset)]
    exact fun same => different (Option.some.inj same)

/-- The call stays inside the buffers exactly when each attribute that is assigned, and not
copied, is given at least the size of its C type. -/
theorem inside_buffers_iff (system : System) (hSession : CkSessionHandle)
    (hObject : CkObjectHandle) (template : List CkAttribute) :
    InsideBuffers system hSession hObject template ↔
      (system.objectRead hSession hObject).isSome = true →
        ∀ entry ∈ template, entry.pValue.isSome = true → entry.type ∈ assignedTypes →
          assignedWidth entry.type ≤ entry.ulValueLen := by
  constructor
  · intro inside readable entry member pointer assigned
    obtain ⟨object, read⟩ := Option.isSome_iff_exists.mp readable
    obtain ⟨index, here⟩ := List.mem_iff_getElem?.mp member
    obtain ⟨value, shown⟩ := (shown_bytes_iff object entry.type).mpr (Or.inl assigned)
    have width := assigned_bytes_length object value entry.type assigned shown
    have positive : 0 < assignedWidth entry.type := by
      unfold assignedWidth
      split
      · decide
      · decide
    have last : WritesAt system hSession hObject template index (assignedWidth entry.type - 1) := by
      rw [writes_at_iff system hSession hObject template object index _ entry read here,
        stored_bytes_written object entry value shown (Or.inl assigned), width]
      omega
    have bounded := inside.bounded index entry here pointer _ last
    omega
  · intro wide
    constructor
    · intro index entry here pointer offset written
      cases read : system.objectRead hSession hObject with
      | none =>
        exact absurd written
          (unread_writes_nothing system hSession hObject template read index offset entry here)
      | some object =>
        rw [writes_at_iff system hSession hObject template object index offset entry read here]
          at written
        exact written.trans_le (stored_bytes_inside object entry
          (wide (by rw [read]; rfl) entry (List.mem_of_getElem? here) pointer))
    · intro index entry object value here pointer read shown short
      have member := List.mem_of_getElem? here
      have copied : entry.type ∉ assignedTypes := by
        intro assigned
        have enough := wide (by rw [read]; rfl) entry member pointer assigned
        rw [← assigned_bytes_length object value entry.type assigned shown] at enough
        omega
      refine ⟨fun offset => ?_, ?_⟩
      · rw [writes_at_iff system hSession hObject template object index offset entry read here,
          stored_bytes_refused object entry value shown
            (not_or.mpr ⟨copied, Nat.not_le_of_lt short⟩)]
        exact Nat.not_lt_zero offset
      · intro succeeded
        rw [get_attribute_value_read system hSession hObject template object read,
          get_attribute_value_ok_iff] at succeeded
        have quiet := succeeded entry member
        obtain ⟨memory, present⟩ := Option.isSome_iff_exists.mp pointer
        have sized := ((shown_bytes_iff object entry.type).mp ⟨value, shown⟩).resolve_left copied
        rw [get_attribute_copied object entry value sized shown,
          report_sized_short entry value memory present short] at quiet
        cases quiet

/-- A data object is there besides the logged-in user. -/
def dataStored : System :=
  Runs.run (step pinSha256) userReady [calmly (.createObject 1 (some []) true)]

/-- One byte of memory for the class. -/
def shortClass : List CkAttribute := [⟨ckaClass, some [0xff], 1⟩]

theorem class_overruns_buffer : ¬ InsideBuffers dataStored 1 0x40000001 shortClass := by
  intro inside
  have second : WritesAt dataStored 1 0x40000001 shortClass 0 1 :=
    ⟨[0xff, 0xff], by decide, by decide +kernel⟩
  exact absurd (inside.bounded 0 _ rfl rfl 1 second) (by decide)

end PstHsm

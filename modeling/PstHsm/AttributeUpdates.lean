import PstHsm.ObjectTable
import PstHsm.TemplateEntries

/-!
# Refused attribute updates

`C_SetAttributeValue` walks its template in order and writes each label into the live
object as it goes; the first entry of another type ends the walk with an error, and the
labels before it stay written. The object is as it was exactly when nothing is refused,
or when the labels before the refused entry put every byte of the label back.
-/

namespace PstHsm

open Tables LastWrites

/-! ## The labels that are reached -/

/-- The entries before the first one that is not a label. -/
def labelsReached (pTemplate : List CkAttribute) : List CkAttribute :=
  pTemplate.takeWhile fun entry => decide (entry.type = ckaLabel)

/-- The entry is short enough to be stored, and its text with the terminating zero byte
covers the position. -/
def CkAttribute.covers (position : Fin 256) (entry : CkAttribute) : Bool :=
  decide (entry.ulValueLen < 256 ∧ position.val ≤ entry.ulValueLen)

/-- The byte of the terminated text at a position. -/
def CkAttribute.labelByte (position : Fin 256) (entry : CkAttribute) : UInt8 :=
  (entry.read entry.ulValueLen ++ [0]).getD position 0

/-- At every position the last label that covers it has the byte that is already there. -/
def WritesSame (label : Buffer 256) (labels : List CkAttribute) : Prop :=
  ∀ position entry, last (CkAttribute.covers position) labels = some entry →
    entry.labelByte position = label.get position

theorem store_label_covers (label : Buffer 256) (entry : CkAttribute) (position : Fin 256)
    (covered : entry.covers position = true) :
    (storeLabel label entry).get position = entry.labelByte position := by
  obtain ⟨fits, reached⟩ := of_decide_eq_true covered
  have length : position.val < (entry.read entry.ulValueLen ++ [0]).length := by
    simpa [CkAttribute.read, Bytes.memory] using Nat.lt_succ_of_le reached
  rw [storeLabel, if_pos fits, Buffer.overwrite_get, CkAttribute.labelByte,
    List.getD_eq_getElem _ _ length, List.getD_eq_getElem _ _ length]

theorem store_label_elsewhere (label : Buffer 256) (entry : CkAttribute) (position : Fin 256)
    (uncovered : entry.covers position = false) :
    (storeLabel label entry).get position = label.get position := by
  have apart := of_decide_eq_false uncovered
  by_cases fits : entry.ulValueLen < 256
  · have beyond : (entry.read entry.ulValueLen ++ [0]).length ≤ position.val := by
      have past : entry.ulValueLen < position.val :=
        Nat.lt_of_not_le fun reached => apart ⟨fits, reached⟩
      simpa [CkAttribute.read, Bytes.memory] using past
    rw [storeLabel, if_pos fits, Buffer.overwrite_get, List.getD_eq_default _ _ beyond]
  · rw [store_label_long label entry fits]

/-- A sequence of labels leaves the label as it was exactly when it writes the same bytes. -/
theorem labels_kept_iff (labels : List CkAttribute) (label : Buffer 256) :
    labels.foldl storeLabel label = label ↔ WritesSame label labels := by
  have one (position : Fin 256) := fold_component_kept_iff (CkAttribute.covers position)
    storeLabel (fun stored : Buffer 256 => stored.get position) (CkAttribute.labelByte position)
    (fun stored entry => store_label_covers stored entry position)
    (fun stored entry => store_label_elsewhere stored entry position) labels label
  constructor
  · intro kept position
    exact (one position).mp (congrArg (fun stored : Buffer 256 => stored.get position) kept)
  · intro same
    exact List.Vector.ext fun position => (one position).mpr (same position)

/-! ## The walk over the template -/

/-- The walk stores the labels it reaches and nothing else. -/
theorem set_attribute_value_labels (pTemplate : List CkAttribute) (object : HsmObject) :
    (hsmSetAttributeValue object pTemplate).2 =
      { object with label := (labelsReached pTemplate).foldl storeLabel object.label } := by
  induction pTemplate generalizing object with
  | nil => rfl
  | cons entry rest inductionHypothesis =>
    by_cases isLabel : entry.type = ckaLabel
    · have reached : labelsReached (entry :: rest) = entry :: labelsReached rest :=
        List.takeWhile_cons_of_pos (decide_eq_true isLabel)
      rw [hsmSetAttributeValue, if_pos isLabel, inductionHypothesis, reached, List.foldl_cons]
    · have stopped : labelsReached (entry :: rest) = [] :=
        List.takeWhile_cons_of_neg (by simpa using isLabel)
      rw [hsmSetAttributeValue, if_neg isLabel, stopped, List.foldl_nil]

/-- The walk is refused exactly when an entry is not a label. -/
theorem set_attribute_value_accepted_iff (pTemplate : List CkAttribute) (object : HsmObject) :
    (hsmSetAttributeValue object pTemplate).1 = .ok ↔
      ∀ entry ∈ pTemplate, entry.type = ckaLabel := by
  induction pTemplate generalizing object with
  | nil => exact iff_of_true rfl fun entry member => absurd member List.not_mem_nil
  | cons entry rest inductionHypothesis =>
    rw [List.forall_mem_cons, hsmSetAttributeValue]
    by_cases isLabel : entry.type = ckaLabel
    · rw [if_pos isLabel, inductionHypothesis]
      exact (and_iff_right isLabel).symm
    · rw [if_neg isLabel]
      exact iff_of_false CkRv.noConfusion fun every => isLabel every.1

/-- Nothing is refused, or the labels before the refused entry write the same bytes. -/
def RefusalHarmless (object : HsmObject) (pTemplate : List CkAttribute) : Prop :=
  (∀ entry ∈ pTemplate, entry.type = ckaLabel) ∨
    WritesSame object.label (labelsReached pTemplate)

/-- The object is as it was exactly when the labels that are reached write the same bytes. -/
theorem set_attribute_value_kept_iff (pTemplate : List CkAttribute) (object : HsmObject) :
    (hsmSetAttributeValue object pTemplate).2 = object ↔
      WritesSame object.label (labelsReached pTemplate) := by
  rw [set_attribute_value_labels, ← labels_kept_iff]
  constructor
  · exact congrArg HsmObject.label
  · intro same
    rw [same]

/-! ## The call -/

section Call

variable (system : System) (hSession : CkSessionHandle) (hObject : CkObjectHandle)

/-- A call that finds its object walks the template over it. -/
theorem set_attribute_value_found (template : List CkAttribute) (found : FoundSession)
    (index : Fin hsmMaxObjects) (object : HsmObject)
    (session : hsmGetSession system hSession = .ok found)
    (located : hsmGetObject found.slot hObject = .ok (index, object)) :
    (cSetAttributeValue system hSession hObject (some template)).1 =
        (hsmSetAttributeValue object template).1 ∧
      (cSetAttributeValue system hSession hObject (some template)).2.objects =
        put system.objects index (some (hsmSetAttributeValue object template).2) := by
  have before := found_objects system hSession found session
  simp only [cSetAttributeValue, session, located, before]
  exact ⟨trivial, rfl⟩

/-- A call that does not find its object changes nothing. -/
theorem set_attribute_value_lost (pTemplate : Option (List CkAttribute))
    (lost : ∀ template found index object, pTemplate = some template →
      hsmGetSession system hSession = .ok found →
      hsmGetObject found.slot hObject ≠ .ok (index, object)) :
    (cSetAttributeValue system hSession hObject pTemplate).2 = system := by
  cases pTemplate with
  | none => rfl
  | some template =>
    cases session : hsmGetSession system hSession with
    | error rv => simp only [cSetAttributeValue, session]
    | ok found =>
      cases located : hsmGetObject found.slot hObject with
      | error rv => simp only [cSetAttributeValue, session, located]
      | ok pair =>
        obtain ⟨index, object⟩ := pair
        exact absurd located (lost template found index object rfl session)

/-- A failing update leaves every object as it was exactly when, if the session and the
object are found, the refusal is harmless. -/
theorem set_attribute_value_atomic_iff (pTemplate : Option (List CkAttribute)) :
    ((cSetAttributeValue system hSession hObject pTemplate).1 ≠ .ok →
        (cSetAttributeValue system hSession hObject pTemplate).2.objects = system.objects) ↔
      ∀ template found index object, pTemplate = some template →
        hsmGetSession system hSession = .ok found →
        hsmGetObject found.slot hObject = .ok (index, object) →
        RefusalHarmless object template := by
  constructor
  · rintro atomic template found index object rfl session located
    obtain ⟨returned, written⟩ :=
      set_attribute_value_found system hSession hObject template found index object session located
    rw [returned, written] at atomic
    by_cases accepted : (hsmSetAttributeValue object template).1 = .ok
    · exact Or.inl ((set_attribute_value_accepted_iff template object).mp accepted)
    · have kept := congrFun (atomic accepted) index
      rw [put_self, object_found system hSession hObject found index object session located] at kept
      exact Or.inr ((set_attribute_value_kept_iff template object).mp (Option.some.inj kept))
  · intro harmless refused
    by_cases lost : ∀ template found index object, pTemplate = some template →
        hsmGetSession system hSession = .ok found →
        hsmGetObject found.slot hObject ≠ .ok (index, object)
    · rw [set_attribute_value_lost system hSession hObject pTemplate lost]
    · push Not at lost
      obtain ⟨template, found, index, object, rfl, session, located⟩ := lost
      obtain ⟨returned, written⟩ := set_attribute_value_found system hSession hObject template
        found index object session located
      have before := object_found system hSession hObject found index object session located
      rcases harmless template found index object rfl session located with every | same
      · rw [returned] at refused
        exact absurd ((set_attribute_value_accepted_iff template object).mpr every) refused
      · rw [written, (set_attribute_value_kept_iff template object).mpr same, ← before]
        exact put_kept system.objects index

end Call

/-- The user has created an object with the label "a". -/
def labelledObject : System :=
  (cCreateObject (calmEnv 1) userReady 1 (some [entryOf ckaLabel [0x61]]) true).2.2

/-- The label "b", and a class, which may not be set. -/
def labelThenClass : List CkAttribute :=
  [entryOf ckaLabel [0x62], entryOf ckaClass (Bytes.littleEndian 8 objTypePublicKey)]

/-- The label written before the refused class stays. -/
theorem refused_update_applied :
    ¬ ((cSetAttributeValue labelledObject 1 (objectHandleDataBase + 1)
          (some labelThenClass)).1 ≠ .ok →
        (cSetAttributeValue labelledObject 1 (objectHandleDataBase + 1)
          (some labelThenClass)).2.objects = labelledObject.objects) := by
  intro atomic
  have refused : (cSetAttributeValue labelledObject 1 (objectHandleDataBase + 1)
      (some labelThenClass)).1 ≠ .ok := by decide +kernel
  have before : (labelledObject.objects ⟨0, by decide⟩).map
      (fun object => object.label.head) = some 0x61 := by decide +kernel
  have after : ((cSetAttributeValue labelledObject 1 (objectHandleDataBase + 1)
      (some labelThenClass)).2.objects ⟨0, by decide⟩).map
      (fun object => object.label.head) = some 0x62 := by decide +kernel
  rw [atomic refused, before] at after
  cases after

end PstHsm

import PstHsm.AttributeUpdates

/-!
# Attributes written and read back

Five attributes can be written by a template and read back. Creation and label updates
never look at what a value is: one that does not fit its field is dropped or narrowed,
and the call succeeds. An object therefore shows the bytes of the last entry of a type
exactly when that entry is one the field can hold.
-/

namespace PstHsm

open Tables LastWrites

/-! ## What an attribute shows -/

/-- The attributes that a template writes. -/
def attributeTypes : List CkAttributeType :=
  [ckaClass, ckaToken, ckaPrivate, ckaLabel, ckaId]

/-- The bytes that an object shows for one of these attributes. -/
def HsmObject.attributeValue (object : HsmObject) (type : CkAttributeType) : Bytes :=
  if type = ckaClass then Bytes.littleEndian 8 object.type
  else if type = ckaToken then bboolBytes object.isToken
  else if type = ckaPrivate then bboolBytes object.isPrivate
  else if type = ckaLabel then Bytes.cString object.label.toList
  else object.id.toList.take object.idLen

/-- The bytes at the value pointer of an entry, as many as it states. -/
def CkAttribute.stated (entry : CkAttribute) : Bytes := entry.read entry.ulValueLen

/-- There is memory behind the pointer, enough for any of the attributes. -/
def CkAttribute.Ample (query : CkAttribute) : Prop :=
  query.pValue.isSome = true ∧ 256 ≤ query.ulValueLen

theorem stated_length (entry : CkAttribute) : entry.stated.length = entry.ulValueLen :=
  Bytes.memory_length _ _

theorem report_fixed_stated (query : CkAttribute) (bytes : Bytes)
    (memory : query.pValue.isSome = true) : (reportFixed query bytes).2.stated = bytes := by
  obtain ⟨pointer, present⟩ := Option.isSome_iff_exists.mp memory
  simp [CkAttribute.stated, CkAttribute.read, reportFixed, CkAttribute.write, present,
    Bytes.memory]

theorem report_sized_ample (query : CkAttribute) (bytes : Bytes) (ample : query.Ample)
    (short : bytes.length ≤ 256) : reportSized query bytes = reportFixed query bytes := by
  have memory : query.pValue.isNone = false := by
    rw [← Option.not_isSome, ample.1]
    rfl
  rw [reportSized, if_neg (by rw [memory]; exact Bool.false_ne_true),
    if_pos (short.trans ample.2)]

/-- With ample memory every attribute is reported at its full length. -/
theorem get_attribute_ample (object : HsmObject) (query : CkAttribute)
    (asked : query.type ∈ attributeTypes) (ample : query.Ample) :
    getAttribute object query = reportFixed query (object.attributeValue query.type) := by
  have label : (Bytes.cString object.label.toList).length ≤ 256 :=
    (List.takeWhile_prefix _).length_le.trans object.label.toList_length.le
  have id : (object.id.toList.take object.idLen).length ≤ 256 := by
    rw [List.length_take, List.Vector.toList_length]
    omega
  simp only [attributeTypes, List.mem_cons, List.not_mem_nil, or_false] at asked
  rw [getAttribute, HsmObject.attributeValue]
  rcases asked with named | named | named | named | named
  all_goals simp only [named]
  · rfl
  · rfl
  · rfl
  · exact report_sized_ample query _ ample label
  · exact report_sized_ample query _ ample id

/-! ## What a field can hold -/

/-- The value that the entry states is one that the field of its type can hold. -/
def CkAttribute.Storable (entry : CkAttribute) : Prop :=
  if entry.type = ckaClass then entry.ulValueLen = 8 ∧ entry.readUlong < 2 ^ 32
  else if entry.type = ckaToken ∨ entry.type = ckaPrivate then
    entry.ulValueLen = 1 ∧ (entry.readBbool = ckFalse ∨ entry.readBbool = ckTrue)
  else if entry.type = ckaLabel then entry.ulValueLen < 256 ∧ 0 ∉ entry.stated
  else entry.ulValueLen ≤ 64

/-- The narrowed class has the stated bytes exactly when nothing was lost. -/
theorem class_kept_iff (entry : CkAttribute) :
    Bytes.littleEndian 8 (entry.readUlong % 2 ^ 32) = entry.stated ↔
      entry.ulValueLen = 8 ∧ entry.readUlong < 2 ^ 32 := by
  have written : entry.stated = Bytes.littleEndian entry.ulValueLen
      (Bytes.ofLittleEndian entry.stated) := by
    conv_lhs => rw [← Bytes.little_endian_written entry.stated, stated_length]
  constructor
  · intro same
    have length : entry.ulValueLen = 8 := by
      rw [← stated_length entry, ← same, Bytes.little_endian_length]
    have whole : Bytes.ofLittleEndian entry.stated = entry.readUlong := by
      rw [CkAttribute.stated, length]
      rfl
    have small : entry.readUlong % 2 ^ 32 < 2 ^ 32 := Nat.mod_lt _ (by decide)
    have kept := Bytes.little_endian_read 8 (entry.readUlong % 2 ^ 32) (by omega)
    rw [same, whole] at kept
    exact ⟨length, kept.trans_lt small⟩
  · rintro ⟨length, fits⟩
    rw [Nat.mod_eq_of_lt fits, written, length, CkAttribute.stated, length]
    rfl

/-- The stored flag has the stated bytes exactly when they are one of the two Booleans. -/
theorem flag_kept_iff (entry : CkAttribute) :
    bboolBytes (entry.readBbool == ckTrue) = entry.stated ↔
      entry.ulValueLen = 1 ∧ (entry.readBbool = ckFalse ∨ entry.readBbool = ckTrue) := by
  have single (length : entry.ulValueLen = 1) : entry.stated = [entry.readBbool] := by
    rw [CkAttribute.stated, length, CkAttribute.readBbool]
    obtain ⟨byte, only⟩ := List.length_eq_one_iff.mp (Bytes.memory_length (entry.pValue.getD []) 1)
    rw [CkAttribute.read, only]
    rfl
  constructor
  · intro same
    have length : entry.ulValueLen = 1 := by
      rw [← stated_length entry, ← same]
      rfl
    rw [single length, bboolBytes] at same
    have byte := (List.cons.inj same).1
    refine ⟨length, ?_⟩
    split at byte
    · exact Or.inr byte.symm
    · exact Or.inl byte.symm
  · rintro ⟨length, no | yes⟩
    · rw [single length, no]
      rfl
    · rw [single length, yes]
      rfl

/-! ## What a template leaves in the object -/

section Written

variable {writes : List CkAttribute} {entry : CkAttribute}

/-- The label shows the last stated bytes exactly when they fit and hold no zero byte. -/
theorem label_kept_iff (last : lastEntry ckaLabel writes = some entry) :
    Bytes.cString (hsmParseTemplate writes {}).label.toList = entry.stated ↔
      entry.ulValueLen < 256 ∧ 0 ∉ entry.stated := by
  obtain ⟨-, isLabel⟩ := last_entry_sound ckaLabel last
  rw [parse_template_label]
  by_cases fits : entry.ulValueLen < 256
  · rw [last_narrowed _ _ (fun tested short => decide_eq_true (of_decide_eq_true short).1) last
      (decide_eq_true ⟨isLabel, fits⟩), Option.map_some, Option.getD_some]
    exact (Bytes.c_string_whole_iff entry.stated).trans (and_iff_right fits).symm
  · refine iff_of_false (fun same => fits ?_) (fun holds => fits holds.1)
    rw [← stated_length entry, ← same]
    cases found : LastWrites.last
        (fun tested : CkAttribute => decide (tested.type = ckaLabel ∧ tested.ulValueLen < 256))
        writes with
    | none => decide
    | some stored =>
      obtain ⟨-, short⟩ := of_decide_eq_true (last_sound _ found).2
      exact ((List.takeWhile_prefix _).length_le.trans_eq (stated_length stored)).trans_lt short

/-- The identifier shows the last stated bytes exactly when they fit. -/
theorem id_kept_iff (last : lastEntry ckaId writes = some entry) :
    (hsmParseTemplate writes {}).id.toList.take (hsmParseTemplate writes {}).idLen =
        entry.stated ↔ entry.ulValueLen ≤ 64 := by
  obtain ⟨-, isId⟩ := last_entry_sound ckaId last
  constructor
  · intro same
    rw [← stated_length entry, ← same, List.length_take, List.Vector.toList_length]
    exact Nat.min_le_right _ _
  · intro fits
    rw [parse_template_id, last_narrowed _ _
      (fun tested short => decide_eq_true (of_decide_eq_true short).1) last
      (decide_eq_true ⟨isId, fits⟩), Option.map_some, Option.getD_some]
    rfl

/-- An attribute shows the bytes of the last entry of its type exactly when the field can
hold them. -/
theorem created_shows_iff (counter : Nat) {type : CkAttributeType}
    (written : type ∈ attributeTypes) (last : lastEntry type writes = some entry) :
    (createdObject writes counter).attributeValue type = entry.stated ↔ entry.Storable := by
  obtain ⟨-, rfl⟩ := last_entry_sound type last
  simp only [attributeTypes, List.mem_cons, List.not_mem_nil, or_false] at written
  rw [CkAttribute.Storable, HsmObject.attributeValue, createdObject]
  dsimp only
  rcases written with named | named | named | named | named
  all_goals rw [named] at last
  all_goals simp only [named]
  · rw [parse_template_type, last]
    exact class_kept_iff entry
  · rw [parse_template_token, namedFlag, last]
    exact flag_kept_iff entry
  · rw [parse_template_private, namedFlag, last]
    exact flag_kept_iff entry
  · exact label_kept_iff last
  · exact id_kept_iff last

end Written

/-! ## Creation and later updates -/

/-- The entry of the object table that a session and a handle lead to. -/
def System.reach (system : System) (hSession : CkSessionHandle) (hObject : CkObjectHandle) :
    Option (Fin hsmMaxObjects) :=
  match hsmGetSession system hSession with
  | .error _ => none
  | .ok found =>
    match hsmGetObject found.slot hObject with
    | .error _ => none
    | .ok (index, _) => some index

/-- The entries that an event sets on the object at an index. -/
def updateOf (index : Fin hsmMaxObjects) (system : System) : Event → List CkAttribute
  | .call (.setAttributeValue hSession hObject (some template)) _ =>
    if system.reach hSession hObject = some index then template else []
  | _ => []

/-- The entries written so far, in order. -/
def writesAfter (index : Fin hsmMaxObjects) (system : System) (writes : List CkAttribute)
    (event : Event) : List CkAttribute :=
  writes ++ updateOf index system event

/-- The object stays, and an update of it is accepted. -/
def ObjectKept (sha256 : Sha256) (index : Fin hsmMaxObjects) (system : System)
    (event : Event) : Prop :=
  (step sha256 system event).2.objects index ≠ none ∧
    (updateOf index system event ≠ [] → (step sha256 system event).1.rv = .ok)

instance (sha256 : Sha256) (index : Fin hsmMaxObjects) (system : System) (event : Event) :
    Decidable (ObjectKept sha256 index system event) :=
  inferInstanceAs (Decidable (_ ∧ _))

theorem reach_iff (system : System) (hSession : CkSessionHandle) (hObject : CkObjectHandle)
    (index : Fin hsmMaxObjects) :
    system.reach hSession hObject = some index ↔
      ∃ found object, hsmGetSession system hSession = .ok found ∧
        hsmGetObject found.slot hObject = .ok (index, object) := by
  cases session : hsmGetSession system hSession with
  | error rv => simp [System.reach, session]
  | ok found =>
    cases located : hsmGetObject found.slot hObject with
    | error rv => simp [System.reach, session, located]
    | ok pair =>
      obtain ⟨reached, object⟩ := pair
      simp [System.reach, session, located]

/-- Setting labels has the effect of a longer template at creation. -/
theorem created_object_labels (writes labels : List CkAttribute) (counter : Nat)
    (every : ∀ entry ∈ labels, entry.type = ckaLabel) :
    (hsmSetAttributeValue (createdObject writes counter) labels).2 =
      createdObject (writes ++ labels) counter := by
  induction labels generalizing writes with
  | nil =>
    rw [List.append_nil]
    rfl
  | cons entry rest inductionHypothesis =>
    obtain ⟨isLabel, others⟩ := List.forall_mem_cons.mp every
    have parsed : hsmParseTemplate (writes ++ [entry]) {} =
        { hsmParseTemplate writes {} with
          label := storeLabel (hsmParseTemplate writes {}).label entry } := by
      rw [hsmParseTemplate, List.foldl_append]
      exact parse_label _ entry isLabel
    have one : createdObject (writes ++ [entry]) counter =
        { createdObject writes counter with
          label := storeLabel (createdObject writes counter).label entry } := by
      rw [createdObject, parsed]
      rfl
    rw [hsmSetAttributeValue, if_pos isLabel, ← one, inductionHypothesis _ others,
      List.append_assoc]
    rfl

/-- A call other than an attribute update leaves an object that stays as it is. -/
theorem object_stays_call (sha256 : Sha256) (env : Env) (system : System) (call : Call)
    (other : ∀ hSession hObject pTemplate, call ≠ .setAttributeValue hSession hObject pTemplate)
    (index : Fin hsmMaxObjects) (object : HsmObject)
    (here : system.objects index = some object)
    (kept : (callStep sha256 env system call).2.objects index ≠ none) :
    (callStep sha256 env system call).2.objects index = some object := by
  have change := store_step sha256 env system call
  change (callStep sha256 env system call).2.objectStore.objects index ≠ none at kept
  change (callStep sha256 env system call).2.objectStore.objects index = some object
  have apart (filled : Fin hsmMaxObjects) (free : system.objects filled = none) :
      index ≠ filled := by
    rintro rfl
    cases here.symm.trans free
  generalize (callStep sha256 env system call).2.objectStore = after at change kept
  cases change with
  | kept => exact here
  | dropped => exact absurd rfl kept
  | created hSession template filled free =>
    exact (put_other _ _ _ _ (apart filled free)).trans here
  | destroyed hSession emptied stored present =>
    by_cases same : index = emptied
    · subst same
      exact absurd (put_self _ _ _) kept
    · exact (put_other _ _ _ _ same).trans here
  | relabelled hSession template updated stored present => exact absurd rfl (other _ _ _)
  | paired hSession mechanism publicTemplate privateTemplate pubObj privObj pubIdx privIdx generated
      pubFree privFree different =>
    exact (put_other _ _ _ _ (apart privIdx privFree)).trans
      ((put_other _ _ _ _ (apart pubIdx pubFree)).trans here)

section OneUpdate

variable (system : System) (hSession : CkSessionHandle) (hObject : CkObjectHandle)
  (index : Fin hsmMaxObjects)

/-- An accepted update that reaches the object writes its template. -/
theorem update_here (template writes : List CkAttribute) (counter : Nat)
    (here : system.objects index = some (createdObject writes counter))
    (reaches : system.reach hSession hObject = some index)
    (accepted : template ≠ [] →
      (cSetAttributeValue system hSession hObject (some template)).1 = .ok) :
    (cSetAttributeValue system hSession hObject (some template)).2.objects index =
      some (createdObject (writes ++ template) counter) := by
  obtain ⟨found, object, session, located⟩ := (reach_iff _ _ _ _).mp reaches
  obtain ⟨returned, after⟩ := set_attribute_value_found system hSession hObject template found index
    object session located
  have same : createdObject writes counter = object := Option.some.inj (here.symm.trans
    (object_found system hSession hObject found index object session located))
  have every : ∀ entry ∈ template, entry.type = ckaLabel := by
    by_cases empty : template = []
    · intro entry member
      rw [empty] at member
      cases member
    · rw [← set_attribute_value_accepted_iff template object, ← returned]
      exact accepted empty
  rw [after, put_self, ← same, created_object_labels writes template counter every]

/-- An update that does not reach the object leaves it as it is. -/
theorem update_elsewhere (pTemplate : Option (List CkAttribute))
    (apart : pTemplate ≠ none → system.reach hSession hObject ≠ some index) :
    (cSetAttributeValue system hSession hObject pTemplate).2.objects index =
      system.objects index := by
  by_cases lost : ∀ template found reached object, pTemplate = some template →
      hsmGetSession system hSession = .ok found →
      hsmGetObject found.slot hObject ≠ .ok (reached, object)
  · rw [set_attribute_value_lost system hSession hObject pTemplate lost]
  · push Not at lost
    obtain ⟨template, found, reached, object, rfl, session, located⟩ := lost
    have elsewhere : index ≠ reached := by
      rintro rfl
      exact apart (Option.some_ne_none template)
        ((reach_iff _ _ _ _).mpr ⟨found, object, session, located⟩)
    rw [(set_attribute_value_found system hSession hObject template found reached object session
      located).2, put_other _ _ _ _ elsewhere]

end OneUpdate

/-- An object that stays collects the entries that are set on it. -/
theorem object_written_step (sha256 : Sha256) (system : System) (event : Event)
    (index : Fin hsmMaxObjects) (writes : List CkAttribute) (counter : Nat)
    (here : system.objects index = some (createdObject writes counter))
    (kept : ObjectKept sha256 index system event) :
    (step sha256 system event).2.objects index =
      some (createdObject (writesAfter index system writes event) counter) := by
  obtain ⟨stays, accepted⟩ := kept
  have unwritten (nothing : updateOf index system event = []) :
      writesAfter index system writes event = writes := by
    rw [writesAfter, nothing, List.append_nil]
  cases event with
  | newProcess => exact absurd rfl stays
  | call call env =>
    by_cases update : ∃ hSession hObject pTemplate,
        call = .setAttributeValue hSession hObject pTemplate
    · obtain ⟨hSession, hObject, pTemplate, rfl⟩ := update
      change (cSetAttributeValue system hSession hObject pTemplate).2.objects index = _
      cases pTemplate with
      | none =>
        rw [unwritten rfl, ← here]
        exact update_elsewhere system hSession hObject index none fun some => absurd rfl some
      | some template =>
        by_cases reaches : system.reach hSession hObject = some index
        · have written : updateOf index system
              (.call (.setAttributeValue hSession hObject (some template)) env) = template :=
            if_pos reaches
          rw [written] at accepted
          rw [writesAfter, written]
          exact update_here system hSession hObject index template writes counter here reaches
            accepted
        · rw [unwritten (if_neg reaches), ← here]
          exact update_elsewhere system hSession hObject index (some template) fun _ => reaches
    · have other (hSession : CkSessionHandle) (hObject : CkObjectHandle)
          (pTemplate : Option (List CkAttribute)) :
          call ≠ .setAttributeValue hSession hObject pTemplate :=
        fun same => update ⟨hSession, hObject, pTemplate, same⟩
      have nothing : updateOf index system (.call call env) = [] := by
        cases call with
        | setAttributeValue hSession hObject pTemplate => exact absurd rfl (other _ _ _)
        | _ => rfl
      rw [unwritten nothing]
      exact object_stays_call sha256 env system call other index _ here stays

/-- Over a run the object collects everything that is written to it. -/
theorem object_written_run (sha256 : Sha256) (index : Fin hsmMaxObjects) (counter : Nat)
    (system : System) (writes : List CkAttribute) (events : List Event)
    (here : system.objects index = some (createdObject writes counter))
    (kept : Runs.EveryStep (step sha256) (ObjectKept sha256 index) system events) :
    (Runs.run (step sha256) system events).objects index =
      some (createdObject (Runs.run (Runs.traced (step sha256) (writesAfter index))
        (system, writes) events).2 counter) := by
  induction events generalizing system writes with
  | nil => exact here
  | cons event rest inductionHypothesis =>
    exact inductionHypothesis _ _
      (object_written_step sha256 system event index writes counter here kept.1) kept.2

/-! ## The round trip -/

/-- With ample memory every query succeeds and shows, for each attribute that was written,
the stated bytes of the last entry. -/
def ReadsBack (system : System) (hSession : CkSessionHandle) (hObject : CkObjectHandle)
    (writes : List CkAttribute) : Prop :=
  ∀ queries : List CkAttribute,
    (∀ query ∈ queries, query.type ∈ attributeTypes ∧ query.Ample) →
      (cGetAttributeValue system hSession hObject (some queries)).1 = .ok ∧
        List.Forall₂
          (fun query shown => ∀ entry, lastEntry query.type writes = some entry →
            shown.stated = entry.stated)
          queries (cGetAttributeValue system hSession hObject (some queries)).2

/-- Every value that was accepted reads back, and none was accepted that cannot be stored. -/
structure RoundTrips (system : System) (hSession : CkSessionHandle) (hObject : CkObjectHandle)
    (writes : List CkAttribute) : Prop where
  shown : ReadsBack system hSession hObject writes
  refused : ∀ entry ∈ writes, entry.type ∈ attributeTypes → entry.Storable

/-- Ample queries of the written attributes succeed. -/
theorem get_attribute_value_ample (object : HsmObject) (queries : List CkAttribute)
    (ample : ∀ query ∈ queries, query.type ∈ attributeTypes ∧ query.Ample) :
    (hsmGetAttributeValue object queries).1 = .ok := by
  rw [hsmGetAttributeValue]
  induction queries with
  | nil => rfl
  | cons query rest inductionHypothesis =>
    obtain ⟨⟨asked, memory⟩, others⟩ := List.forall_mem_cons.mp ample
    rw [List.foldl_cons, get_attribute_ample object query asked memory]
    exact inductionHypothesis others

/-- An object reads back exactly when the last entry of each type is one its field can
hold. -/
theorem reads_back_iff (system : System) (hSession : CkSessionHandle) (hObject : CkObjectHandle)
    (index : Fin hsmMaxObjects) (writes : List CkAttribute) (counter : Nat)
    (reaches : system.reach hSession hObject = some index)
    (here : system.objects index = some (createdObject writes counter)) :
    ReadsBack system hSession hObject writes ↔
      ∀ type ∈ attributeTypes, ∀ entry, lastEntry type writes = some entry → entry.Storable := by
  obtain ⟨found, object, session, located⟩ := (reach_iff _ _ _ _).mp reaches
  have same : object = createdObject writes counter := Option.some.inj
    ((object_found system hSession hObject found index object session located).symm.trans here)
  have answer (queries : List CkAttribute) :
      cGetAttributeValue system hSession hObject (some queries) =
        hsmGetAttributeValue (createdObject writes counter) queries := by
    simp only [cGetAttributeValue, session, located, same]
  have shows (query entry : CkAttribute) (asked : query.type ∈ attributeTypes)
      (ample : query.Ample) (last : lastEntry query.type writes = some entry) :
      (getAttribute (createdObject writes counter) query).2.stated = entry.stated ↔
        entry.Storable := by
    rw [get_attribute_ample _ query asked ample, report_fixed_stated _ _ ample.1]
    exact created_shows_iff counter asked last
  constructor
  · intro readsBack type written entry last
    have ample : CkAttribute.Ample ⟨type, some [], 256⟩ := ⟨rfl, Nat.le_refl 256⟩
    obtain ⟨-, shown⟩ := readsBack [⟨type, some [], 256⟩]
      (List.forall_mem_singleton.mpr ⟨written, ample⟩)
    rw [answer] at shown
    obtain ⟨first, -⟩ := List.forall₂_cons.mp shown
    exact (shows _ entry written ample last).mp (first entry last)
  · intro storable queries ample
    rw [answer]
    refine ⟨get_attribute_value_ample _ queries ample, ?_⟩
    rw [hsmGetAttributeValue, List.forall₂_map_right_iff, List.forall₂_same]
    intro query member entry last
    obtain ⟨asked, memory⟩ := ample query member
    exact (shows query entry asked memory last).mpr (storable query.type asked entry last)

/-- A creation and the events after it: the state they lead to, and the entries written to
the object at an index. -/
def createdThen (sha256 : Sha256) (env : Env) (system : System) (hSession : CkSessionHandle)
    (template : List CkAttribute) (index : Fin hsmMaxObjects) (events : List Event) :
    System × List CkAttribute :=
  Runs.run (Runs.traced (step sha256) (writesAfter index))
    ((cCreateObject env system hSession (some template) true).2.2, template) events

/-- An accepted creation fills a free entry with the parsed template. -/
theorem created_object_stored (env : Env) (system : System) (hSession : CkSessionHandle)
    (template : List CkAttribute) (index : Fin hsmMaxObjects)
    (accepted : (cCreateObject env system hSession (some template) true).1 = .ok)
    (free : system.objects index = none)
    (filled : (cCreateObject env system hSession (some template) true).2.2.objects index ≠ none) :
    (cCreateObject env system hSession (some template) true).2.2.objects index =
      some (createdObject template system.handleCounter) := by
  rcases create_object_cases env system hSession (some template) true with
    ⟨rv, failed, same⟩ | ⟨parsed, found, filledIndex, ⟨⟩, -, session, -, vacant, same⟩
  · rw [same] at accepted
    exact absurd accepted failed
  · have after : (cCreateObject env system hSession (some template) true).2.2.objects =
        put system.objects filledIndex (some (createdObject template system.handleCounter)) := by
      rw [same]
      exact (created_entry system hSession found filledIndex template _ session vacant).2
    have here : index = filledIndex := by
      by_contra elsewhere
      rw [after, put_other _ _ _ _ elsewhere] at filled
      exact filled free
    rw [after, here, put_self]

/-- After an accepted creation and any run in which the object stays and its updates are
accepted, everything accepted reads back and nothing was accepted that its field cannot hold
exactly when every entry is one its field can hold; for the reading alone the last entries
count. -/
theorem attributes_round_trip_iff (sha256 : Sha256) (env : Env) (system : System)
    (hSession reader : CkSessionHandle) (hObject : CkObjectHandle) (template : List CkAttribute)
    (index : Fin hsmMaxObjects) (events : List Event) (final : System) (writes : List CkAttribute)
    (accepted : (cCreateObject env system hSession (some template) true).1 = .ok)
    (free : system.objects index = none)
    (filled : (cCreateObject env system hSession (some template) true).2.2.objects index ≠ none)
    (kept : Runs.EveryStep (step sha256) (ObjectKept sha256 index)
      (cCreateObject env system hSession (some template) true).2.2 events)
    (ran : createdThen sha256 env system hSession template index events = (final, writes))
    (reaches : final.reach reader hObject = some index) :
    (RoundTrips final reader hObject writes ↔
        ∀ entry ∈ writes, entry.type ∈ attributeTypes → entry.Storable) ∧
      (ReadsBack final reader hObject writes ↔
        ∀ type ∈ attributeTypes, ∀ entry, lastEntry type writes = some entry →
          entry.Storable) := by
  have start := created_object_stored env system hSession template index accepted free filled
  have stored := object_written_run sha256 index system.handleCounter _ template events start kept
  rw [← Runs.traced_run (step sha256) (writesAfter index) _ template] at stored
  change (createdThen sha256 env system hSession template index events).1.objects index =
    some (createdObject (createdThen sha256 env system hSession template index events).2
      system.handleCounter) at stored
  rw [ran] at stored
  have readsBack := reads_back_iff final reader hObject index writes system.handleCounter reaches
    stored
  refine ⟨⟨RoundTrips.refused, fun storable => ⟨readsBack.mpr ?_, storable⟩⟩, readsBack⟩
  intro type written entry last
  obtain ⟨member, rfl⟩ := last_entry_sound type last
  exact storable entry member written

/-- The label "a" and a one-byte identifier. -/
def shortTemplate : List CkAttribute := [entryOf ckaLabel [0x61], entryOf ckaId [0x01]]

/-- The first object gets the label "b", and the slot is listed. -/
def relabelling : List Event :=
  [calmly (.setAttributeValue 1 (objectHandleDataBase + 1) (some [entryOf ckaLabel [0x62]])),
    calmly (.getSlotInfo 0 true)]

theorem object_table_nonempty : 0 < hsmMaxObjects := by decide

/-- The entry that the first object of an empty table gets. -/
def firstObjectIndex : Fin hsmMaxObjects := ⟨0, object_table_nonempty⟩

/-- The first object of the user with a short label, relabelled. -/
def relabelled : System × List CkAttribute :=
  createdThen pinSha256 (calmEnv 1) userReady 1 shortTemplate firstObjectIndex relabelling

theorem short_label_round_trips :
    (RoundTrips relabelled.1 1 (objectHandleDataBase + 1) relabelled.2 ↔
        ∀ entry ∈ relabelled.2, entry.type ∈ attributeTypes → entry.Storable) ∧
      (ReadsBack relabelled.1 1 (objectHandleDataBase + 1) relabelled.2 ↔
        ∀ type ∈ attributeTypes, ∀ entry, lastEntry type relabelled.2 = some entry →
          entry.Storable) := by
  have accepted : (cCreateObject (calmEnv 1) userReady 1 (some shortTemplate) true).1 = .ok := by
    decide +kernel
  have free : userReady.objects firstObjectIndex = none := by decide +kernel
  have filled : (cCreateObject (calmEnv 1) userReady 1 (some shortTemplate) true).2.2.objects
      firstObjectIndex ≠ none := by decide +kernel
  have kept : Runs.EveryStep (step pinSha256) (ObjectKept pinSha256 firstObjectIndex)
      (cCreateObject (calmEnv 1) userReady 1 (some shortTemplate) true).2.2 relabelling := by
    decide +kernel
  have reaches : relabelled.1.reach 1 (objectHandleDataBase + 1) = some firstObjectIndex := by
    decide +kernel
  have ran : createdThen pinSha256 (calmEnv 1) userReady 1 shortTemplate firstObjectIndex
      relabelling = (relabelled.1, relabelled.2) := by
    rw [← relabelled]
  exact attributes_round_trip_iff pinSha256 (calmEnv 1) userReady 1 1 _ shortTemplate
    firstObjectIndex relabelling relabelled.1 relabelled.2 accepted free filled kept ran reaches

/-- An identifier of 65 bytes. -/
def longId : CkAttribute := entryOf ckaId (List.replicate 65 0x01)

/-- It is accepted and dropped. -/
theorem long_id_dropped :
    ¬ ((cCreateObject (calmEnv 1) userReady 1 (some [longId]) true).1 = .ok →
      RoundTrips (cCreateObject (calmEnv 1) userReady 1 (some [longId]) true).2.2 1
        (objectHandleDataBase + 1) [longId]) := by
  intro roundTrips
  have accepted : (cCreateObject (calmEnv 1) userReady 1 (some [longId]) true).1 = .ok := by
    decide +kernel
  have ample : ∀ query ∈ [(⟨ckaId, some [], 256⟩ : CkAttribute)],
      query.type ∈ attributeTypes ∧ query.Ample :=
    List.forall_mem_singleton.mpr ⟨by decide, rfl, Nat.le_refl 256⟩
  obtain ⟨-, shown⟩ := (roundTrips accepted).shown [⟨ckaId, some [], 256⟩] ample
  have answer : (cGetAttributeValue
      (cCreateObject (calmEnv 1) userReady 1 (some [longId]) true).2.2 1
      (objectHandleDataBase + 1) (some [⟨ckaId, some [], 256⟩])).2 = [⟨ckaId, some [], 0⟩] := by
    decide +kernel
  rw [answer] at shown
  obtain ⟨first, -⟩ := List.forall₂_cons.mp shown
  have lengths := congrArg List.length (first longId rfl)
  revert lengths
  decide

end PstHsm

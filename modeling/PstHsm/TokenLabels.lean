import Mathlib.Data.Vector.Mem
import PstHsm.Durability
import PstHsm.PinMachine

/-!
# Token labels

`C_InitToken` copies as many bytes of the label as the PIN has, over a field of blanks.
What it leaves there stays until the next `C_InitToken`, in memory and through every
whole token file, and `C_GetTokenInfo` reports it up to its first zero byte. A label
without zero bytes therefore comes back on all its bytes exactly when it is blank from
the PIN's length on, and two labels that come back tell which of two lengths their PINs
have wherever the label is not blank between the two.
-/

namespace PstHsm

/-! ## The field -/

section Field

variable (label : Buffer 32)

/-- The label up to the PIN's length, and blanks. -/
theorem init_token_label_get (pinLength : Nat) (position : Fin 32) :
    (initTokenLabel pinLength label.toList).get position =
      if position < pinLength then label.get position else 32 := by
  have copied : Bytes.memory label.toList (min pinLength 32) =
      label.toList.take (min pinLength 32) := by
    rw [Bytes.memory, List.take_append_of_le_length (by simp)]
  have blank : (Buffer.filled 32 32).get position = 32 := List.Vector.get_replicate _ _
  rw [initTokenLabel, Buffer.overwrite_get, copied, blank]
  have inside := position.isLt
  by_cases reached : position < pinLength
  · rw [if_pos reached, List.getD_eq_getElem?_getD, List.getElem?_take_of_lt (by omega),
      Buffer.list_get]
    rfl
  · rw [if_neg reached, List.getD_eq_default]
    simp only [List.length_take, List.Vector.toList_length]
    omega

/-- A buffer holds a zero byte at some position or not at all. -/
theorem zero_free_iff : 0 ∉ label.toList ↔ ∀ position, label.get position ≠ 0 := by
  rw [List.Vector.mem_iff_get]
  exact not_exists

theorem init_token_label_zero_free (pinLength : Nat) (zeroFree : 0 ∉ label.toList) :
    0 ∉ (initTokenLabel pinLength label.toList).toList := by
  rw [zero_free_iff] at zeroFree ⊢
  intro position
  rw [init_token_label_get]
  split
  · exact zeroFree position
  · decide

/-- A label without zero bytes is reported as it is stored. -/
theorem reported_label_whole (zeroFree : 0 ∉ label.toList) : reportedLabel label = label := by
  have whole : Bytes.cString label.toList = label.toList :=
    (Bytes.c_string_whole_iff label.toList).mpr zeroFree
  have length := label.toList_length
  have nonempty : label.toList ≠ [] := by
    intro empty
    rw [empty] at length
    cases length
  rw [reportedLabel, whole, if_neg nonempty]
  apply List.Vector.eq
  rw [textField, Buffer.overwrite_list, List.take_append_of_le_length (Nat.le_of_eq length.symm),
    List.take_of_length_le (Nat.le_of_eq length)]

/-- The copy keeps the label exactly when the part it leaves out is blank. -/
theorem init_token_label_eq_iff (pinLength : Nat) :
    initTokenLabel pinLength label.toList = label ↔
      ∀ position : Fin 32, pinLength ≤ position → label.get position = 32 := by
  constructor
  · intro same position beyond
    rw [← same, init_token_label_get, if_neg (Nat.not_lt.mpr beyond)]
  · intro blank
    apply List.Vector.ext
    intro position
    rw [init_token_label_get]
    split
    · rfl
    · rename_i beyond
      exact (blank position (Nat.not_lt.mp beyond)).symm

/-- Two lengths keep the same exactly when the label is blank where only one reaches. -/
theorem init_token_labels_eq_iff (pinLength pinLength' : Nat) :
    initTokenLabel pinLength label.toList = initTokenLabel pinLength' label.toList ↔
      ∀ position : Fin 32, (position < pinLength ↔ position < pinLength') ∨
        label.get position = 32 := by
  have bytes : initTokenLabel pinLength label.toList = initTokenLabel pinLength' label.toList ↔
      ∀ position : Fin 32, (if position < pinLength then label.get position else 32) =
        if position < pinLength' then label.get position else 32 := by
    simp only [← init_token_label_get]
    constructor
    · intro same position
      rw [same]
    · exact List.Vector.ext
  rw [bytes]
  refine forall_congr' fun position => ?_
  by_cases first : (position : Nat) < pinLength
  · by_cases second : (position : Nat) < pinLength'
    · simp [first, second]
    · simp [first, second]
  · by_cases second : (position : Nat) < pinLength'
    · simp [first, second, eq_comm]
    · simp [first, second]

end Field

/-! ## The label after a run -/

/-- The event does not initialize the token. -/
def KeepsToken (sha256 : Sha256) (system : System) (event : Event) : Prop :=
  ∀ slotID pPin pLabel env, event = .call (.initToken slotID pPin pLabel) env →
    (step sha256 system event).1.rv ≠ .ok

/-- A token file that is written at all is written whole. -/
def WriteOutcome.TokenWhole (outcome : WriteOutcome) : Prop :=
  outcome.fopen = true → ∀ slot, outcome.Whole (tokenInfoItems slot)

def Event.WritesWhole : Event → Prop
  | .call _ env => env.tokenWrite.TokenWhole
  | .newProcess => True

/-- The library is initialized and holds the label. -/
def LabelInMemory (label : Buffer 32) (system : System) : Prop :=
  ∃ context, system.gHsmContext = some context ∧ context.slot.tokenLabel = label

/-- The token file is a whole record with the label, and so is the slot's field if there is
a slot. -/
structure LabelStored (label : Buffer 32) (system : System) : Prop where
  memory : ∀ context, system.gHsmContext = some context → context.slot.tokenLabel = label
  file : ∃ slot, slot.tokenLabel = label ∧
    system.storage.tokenFile = some (tokenInfoItems slot).flatten

/-- The label is part of the record. -/
theorem items_label (slot other : HsmSlot) (same : tokenInfoItems slot = tokenInfoItems other) :
    slot.tokenLabel = other.tokenLabel := by
  simp only [tokenInfoItems, List.cons.injEq] at same
  exact List.Vector.eq _ _ same.2.2.2.1

/-- A saved slot leaves its record in the file or the file as it was. -/
theorem saved_label_file (label : Buffer 32) (slot : HsmSlot) (outcome : WriteOutcome)
    (storage : Storage) (whole : outcome.TokenWhole) (same : slot.tokenLabel = label)
    (before : outcome.fopen = false → ∃ other, other.tokenLabel = label ∧
      storage.tokenFile = some (tokenInfoItems other).flatten) :
    ∃ other, other.tokenLabel = label ∧
      (hsmStorageSaveTokenInfo slot outcome storage).2.tokenFile =
        some (tokenInfoItems other).flatten := by
  rw [hsmStorageSaveTokenInfo]
  cases opened : outcome.fopen with
  | true =>
    refine ⟨slot, same, ?_⟩
    rw [← (written_whole_iff outcome (tokenInfoItems slot)).mpr (whole opened slot)]
    rfl
  | false => exact before opened

section Runs

variable (sha256 : Sha256) (label : Buffer 32)

/-- Within the period in which the library is initialized the label stays in memory,
whatever happens to the token file. -/
theorem label_in_memory_step (system : System) (event : Event)
    (held : LabelInMemory label system) (continues : event.endsPeriod = false)
    (keeps : KeepsToken sha256 system event) :
    LabelInMemory label (step sha256 system event).2 := by
  obtain ⟨context, present, here⟩ := held
  cases event with
  | newProcess => cases continues
  | call call env =>
    obtain ⟨later, afterwards⟩ := context_stays sha256 env system call context present (by
      rintro rfl
      cases continues)
    have change := token_step sha256 env system call
    change LabelInMemory label (callStep sha256 env system call).2
    generalize (callStep sha256 env system call).2 = after at change afterwards ⊢
    cases change with
    | kept call after file same =>
      obtain ⟨earlier, there, items⟩ := same later afterwards
      obtain rfl := Option.some.inj (present.symm.trans there)
      exact ⟨later, afterwards, (items_label _ _ items).trans here⟩
    | saved call earlier slot there saves same =>
      obtain rfl := Option.some.inj (present.symm.trans there)
      exact ⟨_, rfl, same.trans here⟩
    | initialized storage absent file => cases absent.symm.trans present
    | reset slotID pin text earlier succeeded =>
      exact absurd succeeded (keeps slotID (some pin) (some text) env rfl)

/-- Through any event that writes the token file whole, and opens it to read it, the label
stays stored. -/
theorem label_stored_step (system : System) (event : Event) (held : LabelStored label system)
    (keeps : KeepsToken sha256 system event) (whole : event.WritesWhole)
    (read : TokenRead system event) :
    LabelStored label (step sha256 system event).2 := by
  obtain ⟨memory, file⟩ := held
  cases event with
  | newProcess =>
    refine ⟨?_, file⟩
    rintro later ⟨⟩
  | call call env =>
    have change := token_step sha256 env system call
    change LabelStored label (callStep sha256 env system call).2
    generalize (callStep sha256 env system call).2 = after at change ⊢
    cases change with
    | kept call after kept same =>
      refine ⟨?_, by rwa [kept]⟩
      intro later afterwards
      obtain ⟨earlier, there, items⟩ := same later afterwards
      exact (items_label _ _ items).trans (memory earlier there)
    | saved call earlier slot there saves same =>
      have here : slot.tokenLabel = label := same.trans (memory earlier there)
      refine ⟨?_, saved_label_file label slot env.tokenWrite system.storage whole here
        fun _ => file⟩
      rintro later ⟨⟩
      exact here
    | initialized storage absent kept =>
      obtain ⟨slot, same, record⟩ := file
      refine ⟨?_, slot, same, kept.trans record⟩
      rintro later ⟨⟩
      rw [read rfl absent (by rw [record]; rfl)]
      exact (items_label _ _ (loaded_items storage slot blankSlot (kept.trans record))).trans same
    | reset slotID pin text earlier succeeded =>
      exact absurd succeeded (keeps slotID (some pin) (some text) env rfl)

end Runs

/-! ## The label reported -/

/-- Whatever label `C_GetTokenInfo` reports, it is this one. -/
def Reports (label : Buffer 32) (system : System) : Prop :=
  ∀ now slotID info, cGetTokenInfo now system slotID true = (.ok, some info) →
    info.label = label

/-- An answer shows the label field of the slot. -/
theorem token_info_label (now : Env) (system : System) (slotID : CkSlotId) (info : CkTokenInfo)
    (answered : cGetTokenInfo now system slotID true = (.ok, some info)) :
    ∃ context, system.gHsmContext = some context ∧
      info.label = reportedLabel context.slot.tokenLabel := by
  simp only [cGetTokenInfo, Bool.not_true, Bool.false_eq_true, if_false] at answered
  split at answered
  · cases answered
  · rename_i context present
    split at answered
    · cases answered
    · split at answered
      · cases answered
      · cases answered
        exact ⟨context, present, rfl⟩

/-- A token that is present answers. -/
theorem token_info_answers (now : Env) (system : System) (slotID : CkSlotId)
    (context : HsmContext) (present : system.gHsmContext = some context)
    (valid : slotID < slotCount) (token : context.slot.tokenPresent = true) :
    ∃ info, cGetTokenInfo now system slotID true = (.ok, some info) ∧
      info.label = reportedLabel context.slot.tokenLabel := by
  simp only [cGetTokenInfo, Bool.not_true, Bool.false_eq_true, if_false, present,
    if_neg (Nat.not_le_of_lt valid), token]
  exact ⟨_, rfl, rfl⟩

/-- With the label in memory nothing else is reported. -/
theorem memory_reports (label : Buffer 32) (zeroFree : 0 ∉ label.toList) (system : System)
    (memory : ∀ context, system.gHsmContext = some context → context.slot.tokenLabel = label) :
    Reports label system := by
  intro now slotID info answered
  obtain ⟨context, present, shown⟩ := token_info_label now system slotID info answered
  rw [shown, memory context present, reported_label_whole label zeroFree]

/-- The label given to `C_InitToken` is the one reported until the token is initialized
again: within the period in which the library is initialized, and, once the token file was
written whole, through further whole files and restarts that open the file. -/
structure LabelReported (sha256 : Sha256) (env : Env) (system : System) (slotID : CkSlotId)
    (pin : Bytes) (label : Buffer 32) : Prop where
  shown : ∀ later, Runs.EveryStep (step sha256)
      (fun system event => event.endsPeriod = false ∧ KeepsToken sha256 system event)
      (cInitToken sha256 env system slotID (some pin) (some label.toList)).2 later →
    Reports label (Runs.run (step sha256)
      (cInitToken sha256 env system slotID (some pin) (some label.toList)).2 later)
  reloaded : env.tokenWrite.fopen = true → env.tokenWrite.TokenWhole →
    ∀ later, Runs.EveryStep (step sha256)
      (fun system event => KeepsToken sha256 system event ∧ event.WritesWhole ∧
        TokenRead system event)
      (cInitToken sha256 env system slotID (some pin) (some label.toList)).2 later →
    Reports label (Runs.run (step sha256)
      (cInitToken sha256 env system slotID (some pin) (some label.toList)).2 later)

/-- `C_GetTokenInfo` reports the same label in both states. -/
def SameReport (system system' : System) : Prop :=
  ∀ now slotID info now' slotID' info',
    cGetTokenInfo now system slotID true = (.ok, some info) →
    cGetTokenInfo now' system' slotID' true = (.ok, some info') → info.label = info'.label

/-- The state after a successful `C_InitToken` holds the copy, in memory and, if the file
is written whole, in the file. -/
theorem init_token_label_held (sha256 : Sha256) (env : Env) (system : System)
    (slotID : CkSlotId) (pin label : Bytes)
    (initialized : (cInitToken sha256 env system slotID (some pin) (some label)).1 = .ok) :
    ∃ context slot, (cInitToken sha256 env system slotID (some pin) (some label)).2 =
        system.withSavedSlot env context slot ∧
      slotID < slotCount ∧ slot.tokenPresent = true ∧
      slot.tokenLabel = initTokenLabel pin.length label := by
  rcases init_token_cases sha256 env system slotID (some pin) (some label) with
    ⟨rv, failed, same⟩ | ⟨_, _, context, ⟨⟩, ⟨⟩, -, valid, -, -, same⟩
  · rw [same] at initialized
    exact absurd initialized failed
  · rw [same]
    exact ⟨context, _, rfl, valid, rfl, rfl⟩

section Reported

variable (sha256 : Sha256) (env : Env) (system : System) (slotID : CkSlotId) (pin : Bytes)
  (label : Buffer 32)

/-- Right after a successful `C_InitToken` the copy is reported. -/
theorem init_token_reported (zeroFree : 0 ∉ label.toList)
    (initialized : (cInitToken sha256 env system slotID (some pin) (some label.toList)).1 = .ok) :
    ∃ info, cGetTokenInfo env
        (cInitToken sha256 env system slotID (some pin) (some label.toList)).2 slotID true =
          (.ok, some info) ∧
      info.label = initTokenLabel pin.length label.toList := by
  obtain ⟨context, slot, state, valid, token, held⟩ :=
    init_token_label_held sha256 env system slotID pin label.toList initialized
  rw [state]
  obtain ⟨info, answered, shown⟩ := token_info_answers env
    (system.withSavedSlot env context slot) slotID { context with slot := slot } rfl valid token
  refine ⟨info, answered, ?_⟩
  rw [shown, held, reported_label_whole _ (init_token_label_zero_free label pin.length zeroFree)]

/-- And nothing else is. -/
theorem init_token_reports (zeroFree : 0 ∉ label.toList)
    (initialized : (cInitToken sha256 env system slotID (some pin) (some label.toList)).1 = .ok) :
    Reports (initTokenLabel pin.length label.toList)
      (cInitToken sha256 env system slotID (some pin) (some label.toList)).2 := by
  obtain ⟨context, slot, state, -, -, held⟩ :=
    init_token_label_held sha256 env system slotID pin label.toList initialized
  rw [state]
  apply memory_reports _ (init_token_label_zero_free label pin.length zeroFree)
  rintro tested ⟨⟩
  exact held

/-- A copy that is the label itself keeps being reported. -/
theorem label_copied_reported (zeroFree : 0 ∉ label.toList)
    (initialized : (cInitToken sha256 env system slotID (some pin) (some label.toList)).1 = .ok)
    (copied : initTokenLabel pin.length label.toList = label) :
    LabelReported sha256 env system slotID pin label := by
  obtain ⟨context, slot, state, -, -, held⟩ :=
    init_token_label_held sha256 env system slotID pin label.toList initialized
  rw [copied] at held
  constructor
  · intro later steps
    rw [state] at steps ⊢
    have memory : LabelInMemory label (system.withSavedSlot env context slot) := ⟨_, rfl, held⟩
    obtain ⟨last, present, same⟩ := Runs.invariant_run (step sha256) (LabelInMemory label) _
      (fun before event there admitted =>
        label_in_memory_step sha256 label before event there admitted.1 admitted.2)
      _ later memory steps
    apply memory_reports label zeroFree
    intro tested there
    obtain rfl := Option.some.inj (present.symm.trans there)
    exact same
  · intro opened whole later steps
    rw [state] at steps ⊢
    have stored : LabelStored label (system.withSavedSlot env context slot) := by
      refine ⟨?_, saved_label_file label slot env.tokenWrite system.storage whole held ?_⟩
      · rintro tested ⟨⟩
        exact held
      · intro closed
        cases opened.symm.trans closed
    have last := Runs.invariant_run (step sha256) (LabelStored label) _
      (fun before event there admitted =>
        label_stored_step sha256 label before event there admitted.1 admitted.2.1 admitted.2.2)
      _ later stored steps
    exact memory_reports label zeroFree _ last.memory

/-- The label keeps being reported exactly when the copy is the label itself. -/
theorem label_reported_copied_iff (zeroFree : 0 ∉ label.toList)
    (initialized : (cInitToken sha256 env system slotID (some pin) (some label.toList)).1 = .ok) :
    LabelReported sha256 env system slotID pin label ↔
      initTokenLabel pin.length label.toList = label := by
  constructor
  · intro reported
    obtain ⟨info, answered, shown⟩ :=
      init_token_reported sha256 env system slotID pin label zeroFree initialized
    exact shown.symm.trans (reported.shown [] trivial env slotID info answered)
  · exact label_copied_reported sha256 env system slotID pin label zeroFree initialized

/-- Two tokens initialized with one label report the same exactly when the copies agree. -/
theorem same_report_iff (env' : Env) (system' : System) (slotID' : CkSlotId) (pin' : Bytes)
    (zeroFree : 0 ∉ label.toList)
    (initialized : (cInitToken sha256 env system slotID (some pin) (some label.toList)).1 = .ok)
    (initialized' :
      (cInitToken sha256 env' system' slotID' (some pin') (some label.toList)).1 = .ok) :
    SameReport (cInitToken sha256 env system slotID (some pin) (some label.toList)).2
        (cInitToken sha256 env' system' slotID' (some pin') (some label.toList)).2 ↔
      initTokenLabel pin.length label.toList = initTokenLabel pin'.length label.toList := by
  constructor
  · intro same
    obtain ⟨info, answered, shown⟩ :=
      init_token_reported sha256 env system slotID pin label zeroFree initialized
    obtain ⟨info', answered', shown'⟩ :=
      init_token_reported sha256 env' system' slotID' pin' label zeroFree initialized'
    rw [← shown, ← shown']
    exact same env slotID info env' slotID' info' answered answered'
  · intro copies now anySlot info now' anySlot' info' answered answered'
    have first := init_token_reports sha256 env system slotID pin label zeroFree initialized
    have second :=
      init_token_reports sha256 env' system' slotID' pin' label zeroFree initialized'
    rw [first now anySlot info answered, second now' anySlot' info' answered', copies]

end Reported

/-! ## The law -/

/-- The label is reported exactly when it is blank from the PIN's length on, and two PINs
lead to one report exactly when the label is blank wherever only one of them reaches. -/
theorem label_reported_iff (sha256 : Sha256) (env env' : Env) (system system' : System)
    (slotID slotID' : CkSlotId) (pin pin' : Bytes) (label : Buffer 32)
    (zeroFree : 0 ∉ label.toList)
    (initialized : (cInitToken sha256 env system slotID (some pin) (some label.toList)).1 = .ok)
    (initialized' :
      (cInitToken sha256 env' system' slotID' (some pin') (some label.toList)).1 = .ok) :
    (LabelReported sha256 env system slotID pin label ↔
        ∀ position : Fin 32, pin.length ≤ position → label.get position = 32) ∧
      (SameReport (cInitToken sha256 env system slotID (some pin) (some label.toList)).2
          (cInitToken sha256 env' system' slotID' (some pin') (some label.toList)).2 ↔
        ∀ position : Fin 32, (position < pin.length ↔ position < pin'.length) ∨
          label.get position = 32) := by
  constructor
  · rw [label_reported_copied_iff sha256 env system slotID pin label zeroFree initialized,
      init_token_label_eq_iff]
  · rw [same_report_iff sha256 env system slotID pin label env' system' slotID' pin' zeroFree
      initialized initialized', init_token_labels_eq_iff]

/-- The label of the basic test, `PST HSM Token`, in a field of blanks. -/
def testLabel : Buffer 32 :=
  (Buffer.filled 32 32).overwrite
    [0x50, 0x53, 0x54, 0x20, 0x48, 0x53, 0x4d, 0x20, 0x54, 0x6f, 0x6b, 0x65, 0x6e]

/-- Its first word, in a field of blanks. -/
def shortLabel : Buffer 32 := (Buffer.filled 32 32).overwrite [0x50, 0x53, 0x54]

/-- A label no longer than either PIN is reported, whichever PIN it is. -/
theorem short_label_reported :
    LabelReported pinSha256 (calmEnv 1) blankToken 0 soPin shortLabel ∧
      SameReport
        (cInitToken pinSha256 (calmEnv 1) blankToken 0 (some soPin) (some shortLabel.toList)).2
        (cInitToken pinSha256 (calmEnv 1) blankToken 0 (some userPin)
          (some shortLabel.toList)).2 := by
  have law := label_reported_iff pinSha256 (calmEnv 1) (calmEnv 1) blankToken blankToken 0 0 soPin
    userPin shortLabel (by decide) (by decide +kernel) (by decide +kernel)
  exact ⟨law.1.mpr (by decide), law.2.mpr (by decide)⟩

/-- The test's own label is cut after the ten bytes of its PIN, and after eight under a PIN of
eight bytes. -/
theorem test_label_cut :
    Reachable pinSha256 blankToken ∧
      (cInitToken pinSha256 (calmEnv 1) blankToken 0 (some soPin) (some testLabel.toList)).1 =
        .ok ∧
      (cInitToken pinSha256 (calmEnv 1) blankToken 0 (some userPin)
        (some testLabel.toList)).1 = .ok ∧
      0 ∉ testLabel.toList ∧
      ¬ LabelReported pinSha256 (calmEnv 1) blankToken 0 soPin testLabel ∧
      ¬ SameReport
        (cInitToken pinSha256 (calmEnv 1) blankToken 0 (some soPin) (some testLabel.toList)).2
        (cInitToken pinSha256 (calmEnv 1) blankToken 0 (some userPin)
          (some testLabel.toList)).2 := by
  have first : (cInitToken pinSha256 (calmEnv 1) blankToken 0 (some soPin)
      (some testLabel.toList)).1 = .ok := by decide +kernel
  have second : (cInitToken pinSha256 (calmEnv 1) blankToken 0 (some userPin)
      (some testLabel.toList)).1 = .ok := by decide +kernel
  have zeroFree : 0 ∉ testLabel.toList := by decide
  have reached : Reachable pinSha256 blankToken :=
    ⟨bootProcess freshStorage, [calmly .initializeLibrary], rfl, rfl⟩
  refine ⟨reached, first, second, zeroFree, ?_, ?_⟩
  · rw [label_reported_copied_iff pinSha256 (calmEnv 1) blankToken 0 soPin testLabel zeroFree
      first]
    decide
  · rw [same_report_iff pinSha256 (calmEnv 1) blankToken 0 soPin testLabel (calmEnv 1) blankToken 0
      userPin zeroFree first second]
    decide

end PstHsm

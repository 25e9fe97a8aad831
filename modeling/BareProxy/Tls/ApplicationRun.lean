import BareProxy.Tls.Application

/-!
# Runs of an application state

Any calls of the four operations, in any order. A flag that is set stays set; what the flags forbid, no later
call does.
-/

namespace BareProxy.Tls

open Tls13ApplicationState

inductive ApplicationCall
  | encryptApplicationDataRecord (fragment : Bytes)
  | encryptCloseNotify
  | encryptFatalAlert (description : TlsAlertDescription)
  | receiveProtectedRecord (record : TlsCiphertextRecord)

inductive ApplicationResult
  | record (result : Except TlsRecordError TlsCiphertextRecord)
  | event (result : Except TlsRecordError Tls13ApplicationEvent)
  deriving DecidableEq

/-- The error of a call. -/
def ApplicationResult.error? : ApplicationResult → Option TlsRecordError
  | .record (.error error) => some error
  | .event (.error error) => some error
  | _ => none

namespace ApplicationCall

def run (state : Tls13ApplicationState) : ApplicationCall → ApplicationResult × Tls13ApplicationState
  | .encryptApplicationDataRecord fragment =>
    let (result, state) := state.encryptApplicationDataRecord fragment
    (.record result, state)
  | .encryptCloseNotify =>
    let (result, state) := state.encryptCloseNotify
    (.record result, state)
  | .encryptFatalAlert description =>
    let (result, state) := state.encryptFatalAlert description
    (.record result, state)
  | .receiveProtectedRecord record =>
    let (result, state) := state.receiveProtectedRecord record
    (.event result, state)

end ApplicationCall

/-! ### What a call does -/

/-- The branches of the four operations. A call that is refused may still have moved the record protection: a record
was opened and did not hold what may come. -/
inductive CallBranch (state : Tls13ApplicationState) :
    ApplicationCall → ApplicationResult → Tls13ApplicationState → Prop
  | refused {call : ApplicationCall} {result : ApplicationResult} {error : TlsRecordError}
      (hresult : result.error? = some error) (recordProtection : Tls13RecordProtection) :
      CallBranch state call result { state with recordProtection }
  | applicationDataSent {fragment : Bytes} {record : TlsCiphertextRecord} (hopen : state.closeNotifySent = false)
      (recordProtection : Tls13RecordProtection) :
      CallBranch state (.encryptApplicationDataRecord fragment) (.record (.ok record)) { state with recordProtection }
  | closeNotifySent {record : TlsCiphertextRecord} (hopen : state.closeNotifySent = false)
      (recordProtection : Tls13RecordProtection) :
      CallBranch state .encryptCloseNotify (.record (.ok record))
        { state with recordProtection, closeNotifySent := true }
  | fatalAlertSent {description : TlsAlertDescription} {record : TlsCiphertextRecord}
      (recordProtection : Tls13RecordProtection) :
      CallBranch state (.encryptFatalAlert description) (.record (.ok record)) (fail { state with recordProtection })
  | ignored {record : TlsCiphertextRecord} (hclosed : state.closeNotifyReceived = true)
      (recordProtection : Tls13RecordProtection) :
      CallBranch state (.receiveProtectedRecord record) (.event (.ok .ignoredAfterCloseNotify))
        { state with recordProtection }
  | applicationDataReceived {record : TlsCiphertextRecord} {fragment : Bytes}
      (hopen : state.closeNotifyReceived = false) (recordProtection : Tls13RecordProtection) :
      CallBranch state (.receiveProtectedRecord record) (.event (.ok (.applicationData fragment)))
        { state with recordProtection }
  | closeNotifyReceived {record : TlsCiphertextRecord} (hopen : state.closeNotifyReceived = false)
      (recordProtection : Tls13RecordProtection) :
      CallBranch state (.receiveProtectedRecord record) (.event (.ok .closeNotify))
        { state with recordProtection, closeNotifyReceived := true }
  | userCanceledReceived {record : TlsCiphertextRecord} (hopen : state.closeNotifyReceived = false)
      (recordProtection : Tls13RecordProtection) :
      CallBranch state (.receiveProtectedRecord record) (.event (.ok .userCanceled)) { state with recordProtection }
  | fatalAlertReceived {record : TlsCiphertextRecord} {description : TlsAlertDescription}
      (hopen : state.closeNotifyReceived = false) (recordProtection : Tls13RecordProtection) :
      CallBranch state (.receiveProtectedRecord record) (.event (.ok (.fatalAlert description)))
        (fail { state with recordProtection })

variable {state state' : Tls13ApplicationState} {call : ApplicationCall} {result : ApplicationResult}

theorem encryptApplicationDataRecord_branch (state : Tls13ApplicationState) (fragment : Bytes) :
    CallBranch state (.encryptApplicationDataRecord fragment) (.record (state.encryptApplicationDataRecord fragment).1)
      (state.encryptApplicationDataRecord fragment).2 := by
  rw [encryptApplicationDataRecord]
  split
  · exact .refused rfl state.recordProtection
  · split
    · exact .refused rfl state.recordProtection
    · rename_i hopen
      split
      · exact .refused rfl state.recordProtection
      · rename_i plaintext _
        rw [encryptPlaintext]
        rcases state.recordProtection.encryptRecord plaintext 0 with ⟨error | record, recordProtection⟩
        · exact .refused rfl _
        · exact .applicationDataSent (Bool.eq_false_iff.2 hopen) _

theorem encryptCloseNotify_branch (state : Tls13ApplicationState) :
    CallBranch state .encryptCloseNotify (.record state.encryptCloseNotify.1) state.encryptCloseNotify.2 := by
  rw [encryptCloseNotify]
  split
  · exact .refused rfl state.recordProtection
  · split
    · exact .refused rfl state.recordProtection
    · rename_i hopen
      split
      · exact .refused rfl state.recordProtection
      · rename_i plaintext _
        rw [encryptPlaintext]
        rcases state.recordProtection.encryptRecord plaintext 0 with ⟨error | record, recordProtection⟩
        · exact .refused rfl _
        · exact .closeNotifySent (Bool.eq_false_iff.2 hopen) _

theorem encryptFatalAlert_branch (state : Tls13ApplicationState) (description : TlsAlertDescription) :
    CallBranch state (.encryptFatalAlert description) (.record (state.encryptFatalAlert description).1)
      (state.encryptFatalAlert description).2 := by
  rw [encryptFatalAlert]
  split
  · exact .refused rfl state.recordProtection
  · split
    · exact .refused rfl state.recordProtection
    · rename_i plaintext _
      rw [encryptPlaintext]
      rcases state.recordProtection.encryptRecord plaintext 0 with ⟨error | record, recordProtection⟩
      · exact .refused rfl _
      · exact .fatalAlertSent _

theorem receiveAlert_branch (record : TlsCiphertextRecord) (fragment : Bytes) (hopen : state.closeNotifyReceived = false)
    (recordProtection : Tls13RecordProtection) :
    CallBranch state (.receiveProtectedRecord record)
      (.event (receiveAlert { state with recordProtection } fragment).1)
      (receiveAlert { state with recordProtection } fragment).2 := by
  rw [receiveAlert]
  split
  · exact .refused rfl _
  · split
    · exact .closeNotifyReceived hopen _
    · exact .userCanceledReceived hopen _
    · exact .fatalAlertReceived hopen _

theorem receiveProtectedRecord_branch (state : Tls13ApplicationState) (record : TlsCiphertextRecord) :
    CallBranch state (.receiveProtectedRecord record) (.event (state.receiveProtectedRecord record).1)
      (state.receiveProtectedRecord record).2 := by
  rw [receiveProtectedRecord]
  split
  · exact .refused rfl state.recordProtection
  · split
    · exact .refused rfl _
    · dsimp only
      split
      · rename_i hclosed
        exact .ignored hclosed _
      · rename_i hopen
        split
        · exact .applicationDataReceived (Bool.eq_false_iff.2 hopen) _
        · exact receiveAlert_branch record _ (Bool.eq_false_iff.2 hopen) _
        · exact .refused rfl _

/-- Every call takes one of these branches. -/
theorem run_branch (state : Tls13ApplicationState) (call : ApplicationCall) :
    CallBranch state call (call.run state).1 (call.run state).2 := by
  cases call with
  | encryptApplicationDataRecord fragment => exact encryptApplicationDataRecord_branch state fragment
  | encryptCloseNotify => exact encryptCloseNotify_branch state
  | encryptFatalAlert description => exact encryptFatalAlert_branch state description
  | receiveProtectedRecord record => exact receiveProtectedRecord_branch state record

/-- After a failure every call is refused and nothing changes. -/
theorem run_of_failed (h : state.failed = true) (call : ApplicationCall) :
    (call.run state).1.error? = some .connectionFailed ∧ (call.run state).2 = state := by
  cases call with
  | encryptApplicationDataRecord fragment =>
    rw [ApplicationCall.run, encryptApplicationDataRecord, if_pos h]
    exact ⟨rfl, rfl⟩
  | encryptCloseNotify =>
    rw [ApplicationCall.run, encryptCloseNotify, if_pos h]
    exact ⟨rfl, rfl⟩
  | encryptFatalAlert description =>
    rw [ApplicationCall.run, encryptFatalAlert, if_pos h]
    exact ⟨rfl, rfl⟩
  | receiveProtectedRecord record =>
    rw [ApplicationCall.run, receiveProtectedRecord, if_pos h]
    exact ⟨rfl, rfl⟩

/-! ### The flags -/

theorem CallBranch.failed (h : CallBranch state call result state') (hfailed : state.failed = true) :
    state'.failed = true := by
  cases h with
  | fatalAlertSent => rfl
  | fatalAlertReceived => rfl
  | _ => exact hfailed

theorem CallBranch.sent (h : CallBranch state call result state') (hsent : state.closeNotifySent = true) :
    state'.closeNotifySent = true := by
  cases h with
  | closeNotifySent => rfl
  | _ => exact hsent

theorem CallBranch.received (h : CallBranch state call result state') (hreceived : state.closeNotifyReceived = true) :
    state'.closeNotifyReceived = true := by
  cases h with
  | closeNotifyReceived => rfl
  | _ => exact hreceived

theorem stateAfter_failed (h : state.failed = true) (calls : List ApplicationCall) :
    (stateAfter ApplicationCall.run state calls).failed = true :=
  stateAfter_invariant (P := fun state => state.failed = true) (fun state call => (run_branch state call).failed) h calls

theorem stateAfter_sent (h : state.closeNotifySent = true) (calls : List ApplicationCall) :
    (stateAfter ApplicationCall.run state calls).closeNotifySent = true :=
  stateAfter_invariant (P := fun state => state.closeNotifySent = true)
    (fun state call => (run_branch state call).sent) h calls

theorem stateAfter_received (h : state.closeNotifyReceived = true) (calls : List ApplicationCall) :
    (stateAfter ApplicationCall.run state calls).closeNotifyReceived = true :=
  stateAfter_invariant (P := fun state => state.closeNotifyReceived = true)
    (fun state call => (run_branch state call).received) h calls

/-! ### What a success says -/

/-- Only these calls produce a record: application data and `close_notify` while the write side is open, and a
fatal alert. -/
theorem run_record {record : TlsCiphertextRecord} (h : (call.run state).1 = .record (.ok record)) :
    ((∃ fragment, call = .encryptApplicationDataRecord fragment) ∧ state.closeNotifySent = false) ∨
      (call = .encryptCloseNotify ∧ state.closeNotifySent = false ∧ (call.run state).2.closeNotifySent = true) ∨
      (∃ description, call = .encryptFatalAlert description ∧ (call.run state).2.failed = true) := by
  have hbranch := run_branch state call
  generalize (call.run state).2 = next at hbranch ⊢
  rw [h] at hbranch
  cases hbranch with
  | refused hresult => cases hresult
  | applicationDataSent hopen => exact Or.inl ⟨⟨_, rfl⟩, hopen⟩
  | closeNotifySent hopen => exact Or.inr (Or.inl ⟨rfl, hopen, rfl⟩)
  | fatalAlertSent => exact Or.inr (Or.inr ⟨_, rfl, rfl⟩)

theorem run_encryptCloseNotify {record : TlsCiphertextRecord}
    (h : (ApplicationCall.encryptCloseNotify.run state).1 = .record (.ok record)) :
    (ApplicationCall.encryptCloseNotify.run state).2.closeNotifySent = true := by
  rcases run_record h with ⟨⟨_, hcall⟩, -⟩ | ⟨-, -, hsent⟩ | ⟨_, hcall, -⟩
  · cases hcall
  · exact hsent
  · cases hcall

/-- After either of these events the peer has closed. -/
theorem run_closed {event : Tls13ApplicationEvent} (h : (call.run state).1 = .event (.ok event))
    (hevent : event = .closeNotify ∨ event = .ignoredAfterCloseNotify) :
    (call.run state).2.closeNotifyReceived = true := by
  have hbranch := run_branch state call
  generalize (call.run state).2 = next at hbranch ⊢
  rw [h] at hbranch
  cases hbranch with
  | refused hresult => cases hresult
  | ignored hclosed => exact hclosed
  | closeNotifyReceived => rfl
  | applicationDataReceived => rcases hevent with hevent | hevent <;> cases hevent
  | userCanceledReceived => rcases hevent with hevent | hevent <;> cases hevent
  | fatalAlertReceived => rcases hevent with hevent | hevent <;> cases hevent

/-- Application data comes in only before the peer has closed. -/
theorem run_applicationData {fragment : Bytes} (h : (call.run state).1 = .event (.ok (.applicationData fragment))) :
    state.closeNotifyReceived = false := by
  have hbranch := run_branch state call
  generalize (call.run state).2 = next at hbranch
  rw [h] at hbranch
  cases hbranch with
  | refused hresult => cases hresult
  | applicationDataReceived hopen => exact hopen

/-- `close_notify` was sent by a successful `encrypt_close_notify`. -/
theorem run_closeNotifySent (hstate : state.closeNotifySent ≠ true) (h : (call.run state).2.closeNotifySent = true) :
    call = .encryptCloseNotify ∧ ∃ record, (call.run state).1 = .record (.ok record) := by
  have hbranch := run_branch state call
  generalize (call.run state).1 = result at hbranch ⊢
  generalize (call.run state).2 = next at hbranch h
  cases hbranch with
  | closeNotifySent => exact ⟨rfl, _, rfl⟩
  | _ => exact absurd h hstate

/-- The peer has closed by a `close_notify` that was received. -/
theorem run_closeNotifyReceived (hstate : state.closeNotifyReceived ≠ true)
    (h : (call.run state).2.closeNotifyReceived = true) : (call.run state).1 = .event (.ok .closeNotify) := by
  have hbranch := run_branch state call
  generalize (call.run state).1 = result at hbranch ⊢
  generalize (call.run state).2 = next at hbranch h
  cases hbranch with
  | closeNotifyReceived => rfl
  | _ => exact absurd h hstate

/-- A fatal alert goes out exactly while the connection has not failed, the description is not one of closure and
a sequence number is left. -/
theorem encryptFatalAlert_ok_iff {description : TlsAlertDescription} :
    (∃ record, (state.encryptFatalAlert description).1 = .ok record) ↔
      state.failed = false ∧ description.isClosure = false ∧
        state.recordProtection.writeSequenceNumber ≠ none := by
  rw [encryptFatalAlert]
  by_cases hfailed : state.failed = true
  · simp [hfailed]
  · rw [if_neg hfailed, TlsAlert.fatal]
    by_cases hclosure : description.isClosure = true
    · simp [hclosure]
    · rw [if_neg hclosure]
      cases hsequence : state.recordProtection.writeSequenceNumber with
      | none => simp [TlsAlert.plaintextRecord, TlsPlaintextRecord.new, validatePlaintextFragment, encryptPlaintext,
          Tls13RecordProtection.encryptRecord, hsequence, tlsPlaintextFragmentLimit]
      | some sequenceNumber =>
        obtain ⟨encrypted, hencrypt⟩ := @Tls13RecordProtection.encryptRecord_isOk state.recordProtection
          ⟨.alert, tlsLegacyRecordVersion, [2, description.code]⟩ 0 sequenceNumber hsequence rfl ContentType.noConfusion
          (Nat.le_trans (Nat.le_refl 3) (by decide))
        simp [TlsAlert.plaintextRecord, TlsPlaintextRecord.new, validatePlaintextFragment, encryptPlaintext, hencrypt,
          hfailed, hclosure, tlsPlaintextFragmentLimit]

theorem encryptApplicationDataRecord_isOk {fragment : Bytes} {sequenceNumber : UInt64} (hfailed : state.failed = false)
    (hsent : state.closeNotifySent = false)
    (hsequence : state.recordProtection.writeSequenceNumber = some sequenceNumber)
    (hlength : fragment.length ≤ tlsPlaintextFragmentLimit) :
    ∃ record, state.encryptApplicationDataRecord fragment =
      (.ok record, { state with
        recordProtection := { state.recordProtection with writeSequenceNumber := checkedSucc sequenceNumber } }) := by
  have hvalid : validatePlaintextFragment .applicationData fragment = .ok () := if_neg (Nat.not_lt.2 hlength)
  have hplaintext : TlsPlaintextRecord.new .applicationData fragment =
      .ok ⟨.applicationData, tlsLegacyRecordVersion, fragment⟩ := by
    rw [TlsPlaintextRecord.new, hvalid]
    rfl
  obtain ⟨encrypted, hencrypt⟩ := @Tls13RecordProtection.encryptRecord_isOk state.recordProtection
    ⟨.applicationData, tlsLegacyRecordVersion, fragment⟩ 0 sequenceNumber hsequence hvalid ContentType.noConfusion
    (Nat.succ_le_succ hlength)
  refine ⟨encrypted, ?_⟩
  rw [encryptApplicationDataRecord, if_neg (by simp [hfailed]), if_neg (by simp [hsent]), hplaintext]
  simp only [encryptPlaintext, hencrypt]

/-- After the peer has closed a record that opens is dropped. -/
theorem receiveProtectedRecord_of_closed {record : TlsCiphertextRecord} {plaintext : TlsPlaintextRecord}
    {recordProtection : Tls13RecordProtection} (hfailed : state.failed = false)
    (hclosed : state.closeNotifyReceived = true)
    (h : state.recordProtection.decryptRecord record = (.ok plaintext, recordProtection)) :
    state.receiveProtectedRecord record = (.ok .ignoredAfterCloseNotify, { state with recordProtection }) := by
  rw [receiveProtectedRecord, if_neg (by simp [hfailed]), h]
  exact if_pos hclosed

theorem encryptCloseNotify_isOk {sequenceNumber : UInt64} (hfailed : state.failed = false)
    (hsent : state.closeNotifySent = false)
    (hsequence : state.recordProtection.writeSequenceNumber = some sequenceNumber) :
    ∃ record, state.encryptCloseNotify =
      (.ok record, { state with
        recordProtection := { state.recordProtection with writeSequenceNumber := checkedSucc sequenceNumber }
        closeNotifySent := true }) := by
  obtain ⟨encrypted, hencrypt⟩ := @Tls13RecordProtection.encryptRecord_isOk state.recordProtection
    ⟨.alert, tlsLegacyRecordVersion, [1, 0]⟩ 0 sequenceNumber hsequence rfl (by decide) (by decide)
  have hplaintext : TlsAlert.closeNotify.plaintextRecord = .ok ⟨.alert, tlsLegacyRecordVersion, [1, 0]⟩ := rfl
  refine ⟨encrypted, ?_⟩
  rw [encryptCloseNotify, if_neg (by simp [hfailed]), if_neg (by simp [hsent]), hplaintext]
  simp only [encryptPlaintext, hencrypt]

/-! ### Fatal alerts -/

/-- The call sends a fatal alert. -/
def SendsFatalAlert (state : Tls13ApplicationState) (call : ApplicationCall) : Prop :=
  ∃ description record, call = .encryptFatalAlert description ∧ (call.run state).1 = .record (.ok record)

/-- The call is given a record that the state opens and that holds a fatal alert. -/
def ReceivesFatalAlert (state : Tls13ApplicationState) (call : ApplicationCall) : Prop :=
  ∃ record plaintext alert, call = .receiveProtectedRecord record ∧
    (state.recordProtection.decryptRecord record).1 = .ok plaintext ∧ plaintext.contentType = .alert ∧
    TlsAlert.parse plaintext.fragment = .ok alert ∧ alert.description.isClosure = false

theorem receiveAlert_fatal {fragment : Bytes} {alert : TlsAlert} (halert : TlsAlert.parse fragment = .ok alert)
    (hclosure : alert.description.isClosure = false) :
    state.receiveAlert fragment = (.ok (.fatalAlert alert.description), state.fail) := by
  rw [receiveAlert, halert]
  dsimp only
  split
  · rename_i hdescription
    rw [hdescription] at hclosure
    cases hclosure
  · rename_i hdescription
    rw [hdescription] at hclosure
    cases hclosure
  · rfl

/-- A fatal alert that comes in before the peer has closed ends the connection. -/
theorem ReceivesFatalAlert.failed (h : ReceivesFatalAlert state call) (hopen : state.closeNotifyReceived = false) :
    (call.run state).2.failed = true := by
  obtain ⟨record, plaintext, alert, rfl, hdecrypt, htype, halert, hclosure⟩ := h
  by_cases hfailed : state.failed = true
  · exact (run_branch state _).failed hfailed
  · rcases hresult : state.recordProtection.decryptRecord record with ⟨result, recordProtection⟩
    rw [hresult] at hdecrypt
    subst hdecrypt
    have hstate : (state.receiveProtectedRecord record).2 = fail { state with recordProtection } := by
      rw [receiveProtectedRecord, if_neg hfailed, hresult]
      dsimp only
      rw [if_neg (Bool.eq_false_iff.1 hopen), htype]
      dsimp only
      rw [receiveAlert_fatal halert hclosure]
    exact congrArg Tls13ApplicationState.failed hstate

theorem SendsFatalAlert.failed (h : SendsFatalAlert state call) : (call.run state).2.failed = true := by
  obtain ⟨description, record, rfl, hresult⟩ := h
  rcases run_record hresult with ⟨⟨_, hcall⟩, -⟩ | ⟨hcall, -⟩ | ⟨_, -, hfailed⟩
  · cases hcall
  · cases hcall
  · exact hfailed

/-! ### Whole runs -/

theorem closeNotifyReceived_false {start : Tls13ApplicationState} (hstart : start.closeNotifyReceived = false)
    {calls : List ApplicationCall}
    (hcalls : ApplicationResult.event (.ok .closeNotify) ∉ outputsOf ApplicationCall.run start calls) :
    (stateAfter ApplicationCall.run start calls).closeNotifyReceived = false := by
  by_contra hreceived
  rw [Bool.not_eq_false] at hreceived
  obtain ⟨front, call, back, rfl, hbefore, hafter⟩ := exists_step_of_stateAfter
    (P := fun state : Tls13ApplicationState => state.closeNotifyReceived = true) (by rw [hstart]; exact Bool.false_ne_true)
    hreceived
  apply hcalls
  rw [outputsOf_append, outputsOf, run_closeNotifyReceived hbefore hafter]
  exact List.mem_append_right _ List.mem_cons_self

/-- In any run from a new state: after a fatal alert that was sent, or that came in with no `close_notify` before it,
every later call is refused; after a `close_notify` that was sent no application data and no second `close_notify`
goes out; after a `close_notify` that was received no application data comes in. -/
theorem applicationRun_safe (negotiatedAlpn : Option Bytes) (clientApplicationTrafficSecret
    serverApplicationTrafficSecret transcriptHash : ByteArrayN 32) (recordProtection : Tls13RecordProtection)
    (before between : List ApplicationCall) (call later : ApplicationCall) :
    let start := Tls13ApplicationState.new negotiatedAlpn clientApplicationTrafficSecret serverApplicationTrafficSecret
      transcriptHash recordProtection
    let now := stateAfter ApplicationCall.run start before
    let laterState := stateAfter ApplicationCall.run (call.run now).2 between
    (SendsFatalAlert now call ∨
        ReceivesFatalAlert now call ∧
          ApplicationResult.event (.ok .closeNotify) ∉ outputsOf ApplicationCall.run start before →
      (later.run laterState).1.error? = some .connectionFailed) ∧
    (call = .encryptCloseNotify → (∃ record, (call.run now).1 = .record (.ok record)) →
      (∃ fragment, later = .encryptApplicationDataRecord fragment) ∨ later = .encryptCloseNotify →
        ∀ record, (later.run laterState).1 ≠ .record (.ok record)) ∧
    ((call.run now).1 = .event (.ok .closeNotify) →
      ∀ fragment, (later.run laterState).1 ≠ .event (.ok (.applicationData fragment))) := by
  intro start now laterState
  refine ⟨?_, ?_, ?_⟩
  · intro halert
    have hnow : (call.run now).2.failed = true := by
      rcases halert with hsends | ⟨hreceives, hbefore⟩
      · exact hsends.failed
      · exact hreceives.failed (closeNotifyReceived_false rfl hbefore)
    exact (run_of_failed (stateAfter_failed hnow between) later).1
  · rintro rfl ⟨record, hresult⟩ hlater record' hrecord
    have hopen : laterState.closeNotifySent = false := by
      rcases run_record hrecord with ⟨-, hopen⟩ | ⟨-, hopen, -⟩ | ⟨_, rfl, -⟩
      · exact hopen
      · exact hopen
      · rcases hlater with ⟨_, hlater⟩ | hlater
        · cases hlater
        · cases hlater
    exact absurd (stateAfter_sent (run_encryptCloseNotify hresult) between) (by rw [hopen]; decide)
  · intro hresult fragment hevent
    have hclosed := stateAfter_received (run_closed hresult (Or.inl rfl)) between
    exact absurd hclosed (by rw [run_applicationData hevent]; decide)

/-- A new state with keys of zeros. -/
def zeroKeyState : Tls13ApplicationState :=
  .new none (Vector.replicate 32 0) (Vector.replicate 32 0) (Vector.replicate 32 0)
    (.new (Vector.replicate 32 0) (Vector.replicate 12 0) (Vector.replicate 32 0) (Vector.replicate 12 0))

/-- A fatal alert that comes in after `close_notify` is dropped, and the next call goes on as before. -/
theorem fatalAlert_ignored_after_closeNotify :
    ∃ closing alert record : TlsCiphertextRecord,
      ((ApplicationCall.receiveProtectedRecord closing).run zeroKeyState).1 = .event (.ok .closeNotify) ∧
      ReceivesFatalAlert (stateAfter ApplicationCall.run zeroKeyState [.receiveProtectedRecord closing])
        (.receiveProtectedRecord alert) ∧
      ((ApplicationCall.encryptApplicationDataRecord [1]).run (stateAfter ApplicationCall.run zeroKeyState
        [.receiveProtectedRecord closing, .receiveProtectedRecord alert])).1 = .record (.ok record) := by
  -- all keys are zero, so the state opens what it has encrypted itself
  let protection := zeroKeyState.recordProtection
  obtain ⟨closing, hclosing⟩ := @Tls13RecordProtection.encryptRecord_isOk protection
    ⟨.alert, tlsLegacyRecordVersion, [1, 0]⟩ 0 0 rfl rfl (by decide) (by decide)
  obtain ⟨alert, halert⟩ := @Tls13RecordProtection.encryptRecord_isOk
    { protection with writeSequenceNumber := checkedSucc 0 } ⟨.alert, tlsLegacyRecordVersion, [2, 80]⟩ 0 1 (by decide)
    rfl (by decide) (by decide)
  have hopened := @Tls13RecordProtection.decryptRecord_encryptRecord _ _ protection _ _ _ rfl rfl rfl hclosing
  have hdropped := @Tls13RecordProtection.decryptRecord_encryptRecord _ _
    { protection with readSequenceNumber := checkedSucc 0 } _ _ _ rfl rfl rfl halert
  have hfirst : (ApplicationCall.receiveProtectedRecord closing).run zeroKeyState =
      (.event (.ok .closeNotify), { zeroKeyState with
        recordProtection := { protection with readSequenceNumber := checkedSucc 0 }
        closeNotifyReceived := true }) := by
    rw [ApplicationCall.run, receiveProtectedRecord, if_neg (by decide), hopened]
    rfl
  obtain ⟨record, hrecord⟩ := @encryptApplicationDataRecord_isOk { zeroKeyState with
    recordProtection := { protection with readSequenceNumber := checkedSucc 1 }
    closeNotifyReceived := true } [1] 0 rfl rfl rfl (by decide)
  refine ⟨closing, alert, record, congrArg Prod.fst hfirst, ?_, ?_⟩
  · rw [stateAfter_cons, hfirst]
    exact ⟨alert, _, ⟨2, .internalError⟩, rfl, congrArg Prod.fst hdropped, rfl, rfl, rfl⟩
  · have hsecond := congrArg Prod.snd (@receiveProtectedRecord_of_closed { zeroKeyState with
      recordProtection := { protection with readSequenceNumber := checkedSucc 0 }
      closeNotifyReceived := true } _ _ _ rfl rfl hdropped)
    have hstate : stateAfter ApplicationCall.run zeroKeyState
        [.receiveProtectedRecord closing, .receiveProtectedRecord alert] = { zeroKeyState with
          recordProtection := { protection with readSequenceNumber := checkedSucc 1 }
          closeNotifyReceived := true } := by
      rw [stateAfter_cons, hfirst]
      exact hsecond
    rw [hstate]
    exact congrArg (fun result => ApplicationResult.record result.1) hrecord

/-- In a run from a new state no record follows `close_notify` exactly when each fatal alert that is asked for
after it is refused for another reason: the connection failed, the description is one of closure, or no sequence
number is left. -/
theorem noRecordAfterCloseNotify_iff (negotiatedAlpn : Option Bytes) (clientApplicationTrafficSecret
    serverApplicationTrafficSecret transcriptHash : ByteArrayN 32) (recordProtection : Tls13RecordProtection)
    (calls : List ApplicationCall) :
    let start := Tls13ApplicationState.new negotiatedAlpn clientApplicationTrafficSecret serverApplicationTrafficSecret
      transcriptHash recordProtection
    (∀ before between later after,
      calls = before ++ .encryptCloseNotify :: (between ++ later :: after) →
      (∃ record, (ApplicationCall.encryptCloseNotify.run (stateAfter ApplicationCall.run start before)).1 =
        .record (.ok record)) →
      ∀ record, (later.run (stateAfter ApplicationCall.run start (before ++ .encryptCloseNotify :: between))).1 ≠
        .record (.ok record)) ↔
    (∀ before description after, calls = before ++ .encryptFatalAlert description :: after →
      (stateAfter ApplicationCall.run start before).closeNotifySent = true →
        (stateAfter ApplicationCall.run start before).failed = true ∨ description.isClosure = true ∨
          (stateAfter ApplicationCall.run start before).recordProtection.writeSequenceNumber = none) := by
  intro start
  constructor
  · intro hrun before description after hcalls hsent
    by_contra hcontra
    rw [not_or, not_or, Bool.not_eq_true, Bool.not_eq_true] at hcontra
    obtain ⟨record, hrecord⟩ := encryptFatalAlert_ok_iff.2 hcontra
    -- the flag was set by an earlier call of the run
    obtain ⟨front, call, back, rfl, hbefore, hafter⟩ := exists_step_of_stateAfter
      (P := fun state : Tls13ApplicationState => state.closeNotifySent = true) (s := start) Bool.false_ne_true hsent
    obtain ⟨rfl, hclose⟩ := run_closeNotifySent hbefore hafter
    exact hrun front back (.encryptFatalAlert description) after (by simpa using hcalls) hclose record
      (congrArg ApplicationResult.record hrecord)
  · intro hcondition before between later after hcalls hclose record hrecord
    have hsent : (stateAfter ApplicationCall.run start (before ++ .encryptCloseNotify :: between)).closeNotifySent =
        true := by
      obtain ⟨closing, hclosing⟩ := hclose
      rw [stateAfter_append, stateAfter_cons]
      exact stateAfter_sent (run_encryptCloseNotify hclosing) between
    rcases run_record hrecord with ⟨-, hopen⟩ | ⟨-, hopen, -⟩ | ⟨description, rfl, -⟩
    · rw [hsent] at hopen
      cases hopen
    · rw [hsent] at hopen
      cases hopen
    · have hok := encryptFatalAlert_ok_iff.1 ⟨record, ApplicationResult.record.inj hrecord⟩
      rcases hcondition (before ++ .encryptCloseNotify :: between) description after (by simpa using hcalls) hsent
        with hfailed | hclosure | hsequence
      · rw [hok.1] at hfailed
        cases hfailed
      · rw [hok.2.1] at hclosure
        cases hclosure
      · exact hok.2.2 hsequence

/-- A fatal alert after `close_notify` is encrypted. -/
theorem encryptFatalAlert_after_closeNotify :
    ∃ closing record,
      (ApplicationCall.encryptCloseNotify.run zeroKeyState).1 = .record (.ok closing) ∧
      ((ApplicationCall.encryptFatalAlert .internalError).run
        (stateAfter ApplicationCall.run zeroKeyState [.encryptCloseNotify])).1 = .record (.ok record) := by
  obtain ⟨closing, hclosing⟩ := @encryptCloseNotify_isOk zeroKeyState 0 rfl rfl rfl
  have hstate : stateAfter ApplicationCall.run zeroKeyState [.encryptCloseNotify] = zeroKeyState.encryptCloseNotify.2 :=
    rfl
  rw [hstate, hclosing]
  obtain ⟨record, hrecord⟩ := (@encryptFatalAlert_ok_iff { zeroKeyState with
    recordProtection := { zeroKeyState.recordProtection with writeSequenceNumber := checkedSucc 0 }
    closeNotifySent := true } .internalError).2 ⟨rfl, rfl, by decide⟩
  refine ⟨closing, record, ?_, congrArg ApplicationResult.record hrecord⟩
  rw [ApplicationCall.run, hclosing]

end BareProxy.Tls

import BareProxy.Base.Run
import BareProxy.Tls.RecordProtection

/-!
# The application state

`Tls13ApplicationState` of `tls.rs`: what a connection may send and receive after the handshake. Three flags
say whether the connection failed and in which direction `close_notify` has gone.
-/

namespace BareProxy.Tls

structure TlsAlert where
  level : Byte
  description : TlsAlertDescription
  deriving DecidableEq, Repr

namespace TlsAlert

def closeNotify : TlsAlert := ⟨1, .closeNotify⟩

def fatal (description : TlsAlertDescription) : Except TlsRecordError TlsAlert :=
  if description.isClosure then .error (.invalidFatalAlertDescription description) else .ok ⟨2, description⟩

def parse (fragment : Bytes) : Except TlsRecordError TlsAlert :=
  if fragment.length ≠ 2 then .error (.invalidAlertLength fragment.length)
  else .ok ⟨fragment.getD 0 0, .fromCode (fragment.getD 1 0)⟩

def plaintextRecord (alert : TlsAlert) : Except TlsRecordError TlsPlaintextRecord :=
  TlsPlaintextRecord.new .alert [alert.level, alert.description.code]

end TlsAlert

/-- `erase`: the keys are wiped and no sequence number is left. -/
def Tls13RecordProtection.erase (_ : Tls13RecordProtection) : Tls13RecordProtection :=
  ⟨Vector.replicate 32 0, Vector.replicate 12 0, Vector.replicate 32 0, Vector.replicate 12 0, none, none⟩

inductive Tls13ApplicationEvent
  | applicationData (fragment : Bytes)
  | closeNotify
  | userCanceled
  | fatalAlert (description : TlsAlertDescription)
  | ignoredAfterCloseNotify
  deriving DecidableEq, Repr

structure Tls13ApplicationState where
  negotiatedAlpn : Option Bytes
  clientApplicationTrafficSecret : ByteArrayN 32
  serverApplicationTrafficSecret : ByteArrayN 32
  transcriptHash : ByteArrayN 32
  recordProtection : Tls13RecordProtection
  closeNotifySent : Bool
  closeNotifyReceived : Bool
  failed : Bool
  deriving DecidableEq

namespace Tls13ApplicationState

/-- The state that `complete_handshake` hands over. -/
def new (negotiatedAlpn : Option Bytes) (clientApplicationTrafficSecret serverApplicationTrafficSecret transcriptHash :
    ByteArrayN 32) (recordProtection : Tls13RecordProtection) : Tls13ApplicationState :=
  ⟨negotiatedAlpn, clientApplicationTrafficSecret, serverApplicationTrafficSecret, transcriptHash, recordProtection,
    false, false, false⟩

/-- `fail`. -/
def fail (state : Tls13ApplicationState) : Tls13ApplicationState :=
  { state with
    clientApplicationTrafficSecret := Vector.replicate 32 0
    serverApplicationTrafficSecret := Vector.replicate 32 0
    recordProtection := state.recordProtection.erase
    failed := true }

/-- Encrypts a record without padding; the state keeps the protection that comes back. -/
def encryptPlaintext (state : Tls13ApplicationState) (plaintext : TlsPlaintextRecord) :
    Except TlsRecordError TlsCiphertextRecord × Tls13ApplicationState :=
  let (result, recordProtection) := state.recordProtection.encryptRecord plaintext 0
  (result, { state with recordProtection })

def encryptApplicationDataRecord (state : Tls13ApplicationState) (fragment : Bytes) :
    Except TlsRecordError TlsCiphertextRecord × Tls13ApplicationState :=
  if state.failed then (.error .connectionFailed, state)
  else if state.closeNotifySent then (.error .writeAfterCloseNotify, state)
  else match TlsPlaintextRecord.new .applicationData fragment with
    | .error error => (.error error, state)
    | .ok plaintext => state.encryptPlaintext plaintext

def encryptCloseNotify (state : Tls13ApplicationState) :
    Except TlsRecordError TlsCiphertextRecord × Tls13ApplicationState :=
  if state.failed then (.error .connectionFailed, state)
  else if state.closeNotifySent then (.error .closeNotifyAlreadySent, state)
  else match TlsAlert.closeNotify.plaintextRecord with
    | .error error => (.error error, state)
    | .ok plaintext =>
      match state.encryptPlaintext plaintext with
      | (.error error, state) => (.error error, state)
      | (.ok encrypted, state) => (.ok encrypted, { state with closeNotifySent := true })

def encryptFatalAlert (state : Tls13ApplicationState) (description : TlsAlertDescription) :
    Except TlsRecordError TlsCiphertextRecord × Tls13ApplicationState :=
  if state.failed then (.error .connectionFailed, state)
  else match TlsAlert.fatal description >>= TlsAlert.plaintextRecord with
    | .error error => (.error error, state)
    | .ok plaintext =>
      match state.encryptPlaintext plaintext with
      | (.error error, state) => (.error error, state)
      | (.ok encrypted, state) => (.ok encrypted, state.fail)

/-- What a decrypted alert does. -/
def receiveAlert (state : Tls13ApplicationState) (fragment : Bytes) :
    Except TlsRecordError Tls13ApplicationEvent × Tls13ApplicationState :=
  match TlsAlert.parse fragment with
  | .error error => (.error error, state)
  | .ok alert =>
    match alert.description with
    | .closeNotify => (.ok .closeNotify, { state with closeNotifyReceived := true })
    | .userCanceled => (.ok .userCanceled, state)
    | description => (.ok (.fatalAlert description), state.fail)

def receiveProtectedRecord (state : Tls13ApplicationState) (record : TlsCiphertextRecord) :
    Except TlsRecordError Tls13ApplicationEvent × Tls13ApplicationState :=
  if state.failed then (.error .connectionFailed, state)
  else match state.recordProtection.decryptRecord record with
    | (.error error, recordProtection) => (.error error, { state with recordProtection })
    | (.ok plaintext, recordProtection) =>
      let state := { state with recordProtection }
      if state.closeNotifyReceived then (.ok .ignoredAfterCloseNotify, state)
      else match plaintext.contentType with
        | .applicationData => (.ok (.applicationData plaintext.fragment), state)
        | .alert => state.receiveAlert plaintext.fragment
        | contentType => (.error (.unexpectedProtectedContentType contentType), state)

end Tls13ApplicationState

end BareProxy.Tls

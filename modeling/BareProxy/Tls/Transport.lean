import BareProxy.Base.Chunks
import BareProxy.Tls.ApplicationRun
import BareProxy.Tls.WireRecords

/-!
# The transport of application data

`TlsApplicationTransport` of `tls_probe.rs`: a byte stream over protected records. A read hands out the rest of
the last fragment, or receives records until there is one; a write cuts its input into fragments.
-/

namespace BareProxy.Tls

open Reader

def readWireRecord {ρ : Type} [Reader ρ] (stream : ρ) : Except IoError Bytes × ρ := tlsProbe.readWireRecord stream

def decodeCiphertextRecord (wire : Bytes) : Except IoError TlsCiphertextRecord := tlsProbe.decodeCiphertextRecord wire

structure TlsApplicationTransport where
  stream : Endpoint
  applicationState : Tls13ApplicationState
  readBuffer : Bytes
  readPosition : Nat
  peerClosed : Bool
  deriving DecidableEq

namespace TlsApplicationTransport

def new (stream : Endpoint) (applicationState : Tls13ApplicationState) : TlsApplicationTransport :=
  ⟨stream, applicationState, [], 0, false⟩

/-- The bytes of the last fragment that were not handed out. -/
def unread (transport : TlsApplicationTransport) : Bytes := transport.readBuffer.drop transport.readPosition

/-- What `read` makes of an event; `none` when it goes on. -/
def takeEvent (transport : TlsApplicationTransport) :
    Tls13ApplicationEvent → Option (Except IoError Bytes) × TlsApplicationTransport
  | .applicationData fragment =>
    if fragment.isEmpty then (none, transport)
    else (none, { transport with readBuffer := fragment, readPosition := 0 })
  | .closeNotify => (some (.ok []), { transport with peerClosed := true })
  | .userCanceled => (some (.error ⟨.interrupted, "TLS peer canceled the connection"⟩), transport)
  | .fatalAlert description =>
    (some (.error (invalidData ("TLS peer sent fatal alert " ++ description.debug))), transport)
  | .ignoredAfterCloseNotify => (some (.ok []), { transport with peerClosed := true })

/-- The record in a wire record that `read` accepts. -/
def wireToRecord (wire : Bytes) : Except IoError TlsCiphertextRecord :=
  if wire.getD 0 0 ≠ ContentType.applicationData.code then
    .error (invalidData ("expected protected TLS application data, got content type " ++ toString (wire.getD 0 0)))
  else decodeCiphertextRecord wire

/-- Receives the next record; `none` when `read` goes on. -/
def receiveNext (transport : TlsApplicationTransport) : Option (Except IoError Bytes) × TlsApplicationTransport :=
  match readWireRecord transport.stream.input with
  | (.error error, input) => (some (.error error), { transport with stream := { transport.stream with input } })
  | (.ok wire, input) =>
    let transport := { transport with stream := { transport.stream with input } }
    match wireToRecord wire with
    | .error error => (some (.error error), transport)
    | .ok record =>
      match transport.applicationState.receiveProtectedRecord record with
      | (.error error, applicationState) =>
        (some (.error (invalidData error.text)), { transport with applicationState })
      | (.ok event, applicationState) => takeEvent { transport with applicationState } event

theorem takeEvent_frame {transport transport' : TlsApplicationTransport} {event : Tls13ApplicationEvent}
    {result : Option (Except IoError Bytes)} (h : transport.takeEvent event = (result, transport')) :
    transport'.stream = transport.stream ∧ transport'.applicationState = transport.applicationState := by
  cases event with
  | applicationData fragment =>
    rw [takeEvent] at h
    split at h
    · cases h
      exact ⟨rfl, rfl⟩
    · cases h
      exact ⟨rfl, rfl⟩
  | closeNotify =>
    cases h
    exact ⟨rfl, rfl⟩
  | userCanceled =>
    cases h
    exact ⟨rfl, rfl⟩
  | fatalAlert description =>
    cases h
    exact ⟨rfl, rfl⟩
  | ignoredAfterCloseNotify =>
    cases h
    exact ⟨rfl, rfl⟩

theorem receiveNext_none_size {transport transport' : TlsApplicationTransport}
    (h : transport.receiveNext = (none, transport')) :
    size transport'.stream.input < size transport.stream.input := by
  rw [receiveNext] at h
  split at h
  · cases h
  · rename_i wire input hwire
    have hsize := (ProbeTexts.readWireRecord_ok hwire).2.2
    dsimp only at h
    split at h
    · cases h
    · split at h
      · cases h
      · rename_i event applicationState hevent
        rw [(takeEvent_frame h).1]
        exact hsize

/-- The loop of `read`, for a buffer of this length. -/
def readLoop (transport : TlsApplicationTransport) (length : Nat) :
    Except IoError Bytes × TlsApplicationTransport :=
  if transport.readPosition < transport.readBuffer.length then
    let output := transport.unread.take (min transport.unread.length length)
    let readPosition := transport.readPosition + output.length
    if readPosition = transport.readBuffer.length then
      (.ok output, { transport with readBuffer := [], readPosition := 0 })
    else (.ok output, { transport with readPosition })
  else if transport.peerClosed then (.ok [], transport)
  else match _h : transport.receiveNext with
    | (some result, transport) => (result, transport)
    | (none, transport) => readLoop transport length
termination_by size transport.stream.input
decreasing_by exact receiveNext_none_size _h

/-- `read` into a buffer of this length: the bytes put there. -/
def read (transport : TlsApplicationTransport) (length : Nat) : Except IoError Bytes × TlsApplicationTransport :=
  if length = 0 then (.ok [], transport) else transport.readLoop length

/-- The loop of `write`. -/
def writeFragments (transport : TlsApplicationTransport) : List Bytes → Except IoError Unit × TlsApplicationTransport
  | [] => (.ok (), transport)
  | fragment :: fragments =>
    match transport.applicationState.encryptApplicationDataRecord fragment with
    | (.error error, applicationState) => (.error (invalidData error.text), { transport with applicationState })
    | (.ok record, applicationState) =>
      match transport.stream.output.writeAll record.serialize with
      | (.error error, output) =>
        (.error error, { transport with applicationState, stream := { transport.stream with output } })
      | (.ok (), output) =>
        writeFragments { transport with applicationState, stream := { transport.stream with output } } fragments

def write (transport : TlsApplicationTransport) (input : Bytes) : Except IoError Nat × TlsApplicationTransport :=
  if input.isEmpty then (.ok 0, transport)
  else match transport.writeFragments (chunks tlsPlaintextFragmentLimit input) with
    | (.error error, transport) => (.error error, transport)
    | (.ok (), transport) => (.ok input.length, transport)

end TlsApplicationTransport

end BareProxy.Tls

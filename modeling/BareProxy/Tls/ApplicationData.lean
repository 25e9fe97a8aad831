import BareProxy.Tls.ApplicationLink

/-!
# What arrives of the data

On the connection of `ApplicationLink` each side is given what the other one sent, and the server is told that the data
of the client has ended only after all of it. Both are facts of the connection without keys, where an end takes records
as they are.
-/

namespace BareProxy.Tls

/-- The record of a call of the server. -/
def ApplicationWrite.plaintext : ApplicationWrite → TlsPlaintextRecord
  | .applicationData fragment => ⟨.applicationData, tlsLegacyRecordVersion, fragment⟩
  | .closeNotify => ⟨.alert, tlsLegacyRecordVersion, [TlsAlert.closeNotify.level, TlsAlert.closeNotify.description.code]⟩
  | .fatalAlert description => ⟨.alert, tlsLegacyRecordVersion, [2, description.code]⟩

/-- What the server's callers were told is sent. -/
def sentByServer : ApplicationTurn × ApplicationOutput → Option TlsPlaintextRecord
  | (.callLeft write, .calledLeft (.ok ())) => some write.plaintext
  | _ => none

/-- What the client's callers were told is sent. -/
def sentByClient : ApplicationTurn × ApplicationOutput → Option TlsPlaintextRecord
  | (.callRight (record, _), .calledRight (.ok ())) => some { record with legacyRecordVersion := tlsLegacyRecordVersion }
  | _ => none

def openedByClient : ApplicationTurn × ApplicationOutput → Option TlsPlaintextRecord
  | (_, .arrivedRight (some (.ok record))) => some record
  | _ => none

/-- The application data that the server hands out. -/
def handedOut : ApplicationTurn × ApplicationOutput → Option Bytes
  | (_, .arrivedLeft (some (.ok (.applicationData fragment)))) => some fragment
  | _ => none

/-- The server tells that the client has ended its data. -/
def tellsEnd : ApplicationTurn × ApplicationOutput → Bool
  | (_, .arrivedLeft (some (.ok .closeNotify))) => true
  | (_, .arrivedLeft (some (.ok (.fatalAlert _)))) => true
  | _ => false

/-- Every alert but `user_canceled` ends the data. -/
def endsData (record : TlsPlaintextRecord) : Bool :=
  match record.contentType, TlsAlert.parse record.fragment with
  | .alert, .ok alert => alert.description != .userCanceled
  | _, _ => false

/-- The application data in some records, up to the first that ends it. -/
def dataBeforeEnd (records : List TlsPlaintextRecord) : List Bytes :=
  ((records.takeWhile fun record => !endsData record).filter fun record => record.contentType == .applicationData).map
    TlsPlaintextRecord.fragment

/-- Each side is given what the other one sent, in that order and nothing else, and the server tells the end of the
client's data only when it has handed out all of it. -/
structure IsFaithful (calls : List (ApplicationTurn × ApplicationOutput)) : Prop where
  opened : calls.filterMap openedByClient <+: calls.filterMap sentByServer
  handedOut : calls.filterMap handedOut <+: dataBeforeEnd (calls.filterMap sentByClient)
  ended : calls.any tellsEnd = true → calls.filterMap Tls.handedOut = dataBeforeEnd (calls.filterMap sentByClient)

theorem dataBeforeEnd_cons_of_endsData {record : TlsPlaintextRecord} (h : endsData record = true)
    (records : List TlsPlaintextRecord) : dataBeforeEnd (record :: records) = [] := by
  rw [dataBeforeEnd, List.takeWhile_cons_of_neg (by rw [h]; exact Bool.false_ne_true)]
  rfl

theorem dataBeforeEnd_cons_of_not_endsData {record : TlsPlaintextRecord} (h : endsData record = false)
    (records : List TlsPlaintextRecord) :
    dataBeforeEnd (record :: records) =
      (if record.contentType = .applicationData then [record.fragment] else []) ++ dataBeforeEnd records := by
  rw [dataBeforeEnd, List.takeWhile_cons_of_pos (by rw [h]; rfl), List.filter_cons]
  split_ifs with happlication hnot hnot
  · rfl
  · exact absurd (eq_of_beq happlication) hnot
  · exact absurd (beq_iff_eq.2 hnot) happlication
  · rfl

namespace PlainServer

/-- Nothing more is handed out. -/
def closed (server : PlainServer) : Bool := server.failed || server.closeNotifyReceived

variable {server : PlainServer}

/-- What was sent is what the caller asked for. -/
theorem plaintext_eq {write : ApplicationWrite} {record : TlsPlaintextRecord} (h : server.record write = .ok record) :
    record = write.plaintext := by
  cases write with
  | applicationData fragment =>
    rw [PlainServer.record] at h
    split at h
    · cases h
    · split at h
      · cases h
      · exact (TlsPlaintextRecord.new_eq_ok.1 h).2
  | closeNotify =>
    rw [PlainServer.record] at h
    split at h
    · cases h
    · split at h
      · cases h
      · exact (TlsPlaintextRecord.new_eq_ok.1 h).2
  | fatalAlert description =>
    rw [PlainServer.record] at h
    split at h
    · cases h
    · obtain ⟨alert, halert, hrecord⟩ := bind_eq_ok.1 h
      rw [TlsAlert.fatal] at halert
      split at halert
      · cases halert
      · cases halert
        exact (TlsPlaintextRecord.new_eq_ok.1 hrecord).2

/-- A closed server stays closed, whatever it sends. -/
theorem closed_write (h : server.closed = true) (write : ApplicationWrite) : (server.write write).2.closed = true := by
  rw [PlainServer.write]
  split
  · exact h
  · split
    · cases write with
      | applicationData fragment => exact h
      | closeNotify => exact h
      | fatalAlert description => rfl
    · exact h

theorem receive_of_closed (h : server.closed = true) (record : TlsPlaintextRecord) :
    server.receive record = (.error .connectionFailed, server) ∨
      server.receive record = (.ok .ignoredAfterCloseNotify, server) := by
  rw [receive]
  split
  · exact Or.inl rfl
  · exact Or.inr (if_pos ((Bool.or_eq_true_iff.1 h).resolve_left ‹_›))

/-- The end of the data closes the server. -/
theorem receive_of_endsData (h : server.closed = false) {record : TlsPlaintextRecord} (hends : endsData record = true) :
    (server.receive record).2.closed = true ∧
      ((server.receive record).1 = .ok .closeNotify ∨
        ∃ description, (server.receive record).1 = .ok (.fatalAlert description)) := by
  obtain ⟨hfailed, hreceived⟩ := Bool.or_eq_false_iff.1 h
  obtain ⟨contentType, version, fragment⟩ := record
  rw [receive, if_neg (by rw [hfailed]; exact Bool.false_ne_true), if_neg (by rw [hreceived]; exact Bool.false_ne_true)]
  cases contentType with
  | alert =>
    dsimp only
    rw [receiveAlert]
    rw [endsData] at hends
    cases halert : TlsAlert.parse fragment with
    | error error =>
      rw [halert] at hends
      cases hends
    | ok alert =>
      rw [halert] at hends
      obtain ⟨level, description⟩ := alert
      cases description with
      | closeNotify => exact ⟨Bool.or_true _, Or.inl rfl⟩
      | userCanceled => cases hends
      | _ => exact ⟨rfl, Or.inr ⟨_, rfl⟩⟩
  | _ => cases hends

/-- Anything else leaves the server open, and hands out what is application data. -/
theorem receive_of_not_endsData (h : server.closed = false) {record : TlsPlaintextRecord}
    (hends : endsData record = false) :
    (server.receive record).2 = server ∧
      ((record.contentType = .applicationData ∧ (server.receive record).1 = .ok (.applicationData record.fragment)) ∨
        (record.contentType ≠ .applicationData ∧
          ((server.receive record).1 = .ok .userCanceled ∨ ∃ error, (server.receive record).1 = .error error))) := by
  obtain ⟨hfailed, hreceived⟩ := Bool.or_eq_false_iff.1 h
  obtain ⟨contentType, version, fragment⟩ := record
  rw [receive, if_neg (by rw [hfailed]; exact Bool.false_ne_true), if_neg (by rw [hreceived]; exact Bool.false_ne_true)]
  cases contentType with
  | applicationData => exact ⟨rfl, Or.inl ⟨rfl, rfl⟩⟩
  | alert =>
    dsimp only
    rw [receiveAlert]
    rw [endsData] at hends
    cases halert : TlsAlert.parse fragment with
    | error error => exact ⟨rfl, Or.inr ⟨by simp, Or.inr ⟨error, rfl⟩⟩⟩
    | ok alert =>
      rw [halert] at hends
      obtain ⟨level, description⟩ := alert
      cases description with
      | userCanceled => exact ⟨rfl, Or.inr ⟨by simp, Or.inl rfl⟩⟩
      | _ => cases hends
  | changeCipherSpec => exact ⟨rfl, Or.inr ⟨by simp, Or.inr ⟨_, rfl⟩⟩⟩
  | handshake => exact ⟨rfl, Or.inr ⟨by simp, Or.inr ⟨_, rfl⟩⟩⟩

end PlainServer

/-- A turn of the connection without keys. -/
abbrev plainStep := Link.step plainServerEnd plainClientEnd

theorem sentToRight_plain (link : Link PlainServer Nat TlsPlaintextRecord) (turn : ApplicationTurn) :
    Link.sentToRight plainServerEnd link turn = (sentByServer (turn, (plainStep link turn).1)).toList := by
  cases turn with
  | callLeft write =>
    show (sendResult (link.left.write write)).1.2.toList =
      (sentByServer (.callLeft write, .calledLeft (sendResult (link.left.write write)).1.1)).toList
    rw [PlainServer.write]
    cases hrecord : link.left.record write with
    | error error => rfl
    | ok record =>
      dsimp only
      split
      · rw [PlainServer.plaintext_eq hrecord]
        rfl
      · rfl
  | _ => rfl

theorem sentToLeft_plain (link : Link PlainServer Nat TlsPlaintextRecord) (turn : ApplicationTurn) :
    Link.sentToLeft plainClientEnd link turn = (sentByClient (turn, (plainStep link turn).1)).toList := by
  cases turn with
  | callRight input =>
    obtain ⟨record, paddingLength⟩ := input
    show (sendResult (plainClientWrite link.right record paddingLength)).1.2.toList =
      (sentByClient (.callRight (record, paddingLength),
        .calledRight (sendResult (plainClientWrite link.right record paddingLength)).1.1)).toList
    rw [plainClientWrite]
    split
    · cases encodeTlsInnerPlaintext record paddingLength with
      | error error => rfl
      | ok innerPlaintext => rfl
    · rfl
  | _ => rfl

theorem arrivedAtRight_plain (link : Link PlainServer Nat TlsPlaintextRecord) (turn : ApplicationTurn) :
    Link.arrivedAtRight link turn = (openedByClient (turn, (plainStep link turn).1)).toList := by
  obtain ⟨left, right, toLeft, toRight⟩ := link
  cases turn with
  | arriveLeft => cases toLeft <;> rfl
  | arriveRight => cases toRight <;> rfl
  | _ => rfl

/-- From a closed server nothing more is heard. -/
theorem handedOut_of_closed (link : Link PlainServer Nat TlsPlaintextRecord) (hclosed : link.left.closed = true)
    (turns : List ApplicationTurn) :
    (Link.history plainServerEnd plainClientEnd link turns).filterMap handedOut = [] ∧
      (Link.history plainServerEnd plainClientEnd link turns).any tellsEnd = false := by
  induction turns generalizing link with
  | nil => exact ⟨rfl, rfl⟩
  | cons turn turns ih =>
    have hstep : handedOut (turn, (plainStep link turn).1) = none ∧ tellsEnd (turn, (plainStep link turn).1) = false ∧
        (plainStep link turn).2.left.closed = true := by
      cases turn with
      | callLeft write => exact ⟨rfl, rfl, PlainServer.closed_write hclosed write⟩
      | callRight input => exact ⟨rfl, rfl, hclosed⟩
      | arriveLeft =>
        obtain ⟨left, right, toLeft, toRight⟩ := link
        cases toLeft with
        | nil => exact ⟨rfl, rfl, hclosed⟩
        | cons record toLeft =>
          show handedOut (_, .arrivedLeft (some (left.receive record).1)) = none ∧
            tellsEnd (_, .arrivedLeft (some (left.receive record).1)) = false ∧ (left.receive record).2.closed = true
          obtain hreceive | hreceive := PlainServer.receive_of_closed hclosed record
          · rw [hreceive]
            exact ⟨rfl, rfl, hclosed⟩
          · rw [hreceive]
            exact ⟨rfl, rfl, hclosed⟩
      | arriveRight =>
        obtain ⟨left, right, toLeft, toRight⟩ := link
        cases toRight <;> exact ⟨rfl, rfl, hclosed⟩
    obtain ⟨hhanded, hends, hnext⟩ := hstep
    obtain ⟨hrest, hrestEnds⟩ := ih _ hnext
    show ((turn, (plainStep link turn).1) :: Link.history _ _ (plainStep link turn).2 turns).filterMap handedOut = [] ∧
      ((turn, (plainStep link turn).1) :: Link.history _ _ (plainStep link turn).2 turns).any tellsEnd = false
    rw [List.filterMap_cons_none hhanded, List.any_cons, hends]
    exact ⟨hrest, hrestEnds⟩

/-- What is handed out and told, against the records that arrive and whatever comes after them. -/
def HandsOut (calls : List (ApplicationTurn × ApplicationOutput)) (records : List TlsPlaintextRecord) : Prop :=
  calls.filterMap handedOut <+: dataBeforeEnd records ∧
    (calls.any tellsEnd = true → calls.filterMap handedOut = dataBeforeEnd records)

theorem handsOut_of_closed {link : Link PlainServer Nat TlsPlaintextRecord} (hclosed : link.left.closed = true)
    (turns : List ApplicationTurn) (records : List TlsPlaintextRecord) :
    HandsOut (Link.history plainServerEnd plainClientEnd link turns) records := by
  obtain ⟨hhanded, hends⟩ := handedOut_of_closed link hclosed turns
  refine ⟨?_, fun htrue => absurd (htrue.symm.trans hends) Bool.true_eq_false.mp⟩
  rw [hhanded]
  exact List.nil_prefix

/-- A turn without an arrival at the server changes nothing of it. -/
theorem HandsOut.cons_quiet {call : ApplicationTurn × ApplicationOutput}
    {calls : List (ApplicationTurn × ApplicationOutput)} {records : List TlsPlaintextRecord} (h : HandsOut calls records)
    (hhanded : handedOut call = none) (hends : tellsEnd call = false) : HandsOut (call :: calls) records := by
  rw [HandsOut, List.filterMap_cons_none hhanded, List.any_cons, hends, Bool.false_or]
  exact h

theorem HandsOut.cons_fragment {call : ApplicationTurn × ApplicationOutput}
    {calls : List (ApplicationTurn × ApplicationOutput)} {record : TlsPlaintextRecord} {records : List TlsPlaintextRecord}
    (h : HandsOut calls records) (hhanded : handedOut call = some record.fragment) (hends : tellsEnd call = false)
    (htype : record.contentType = .applicationData) (hopen : endsData record = false) :
    HandsOut (call :: calls) (record :: records) := by
  rw [HandsOut, dataBeforeEnd_cons_of_not_endsData hopen, if_pos htype, List.filterMap_cons_some hhanded, List.any_cons,
    hends, Bool.false_or]
  exact ⟨(List.prefix_cons_inj _).2 h.1, fun htold => congrArg _ (h.2 htold)⟩

/-- The arrival of a record at an open server, when nothing more is heard from it after it closes. -/
theorem HandsOut.cons_arrival {server : PlainServer} {turn : ApplicationTurn}
    {calls : List (ApplicationTurn × ApplicationOutput)} {record : TlsPlaintextRecord} {records : List TlsPlaintextRecord}
    (h : HandsOut calls records) (hopen : server.closed = false)
    (hclosed : (server.receive record).2.closed = true → calls.filterMap Tls.handedOut = []) :
    HandsOut ((turn, .arrivedLeft (some (server.receive record).1)) :: calls) (record :: records) := by
  cases hends : endsData record with
  | true =>
    obtain ⟨hafter, hevent⟩ := PlainServer.receive_of_endsData hopen hends
    have hhanded : handedOut (turn, .arrivedLeft (some (server.receive record).1)) = none := by
      obtain hclose | ⟨description, halert⟩ := hevent
      · rw [hclose]
        rfl
      · rw [halert]
        rfl
    rw [HandsOut, dataBeforeEnd_cons_of_endsData hends, List.filterMap_cons_none hhanded, hclosed hafter]
    exact ⟨List.nil_prefix, fun _ => rfl⟩
  | false =>
    obtain ⟨-, ⟨htype, hdata⟩ | ⟨htype, hother⟩⟩ := PlainServer.receive_of_not_endsData hopen hends
    · rw [hdata]
      exact h.cons_fragment rfl rfl htype hends
    · rw [HandsOut, dataBeforeEnd_cons_of_not_endsData hends, if_neg htype, List.nil_append]
      obtain hcanceled | ⟨error, herror⟩ := hother
      · rw [hcanceled]
        exact h.cons_quiet rfl rfl
      · rw [herror]
        exact h.cons_quiet rfl rfl

theorem handsOut_history (link : Link PlainServer Nat TlsPlaintextRecord) (turns : List ApplicationTurn)
    (rest : List TlsPlaintextRecord) :
    HandsOut (Link.history plainServerEnd plainClientEnd link turns)
      (Link.along plainServerEnd plainClientEnd Link.arrivedAtLeft link turns ++ rest) := by
  induction turns generalizing link with
  | nil => exact ⟨List.nil_prefix, nofun⟩
  | cons turn turns ih =>
    cases hclosed : link.left.closed with
    | true => exact handsOut_of_closed hclosed _ _
    | false =>
      show HandsOut ((turn, (plainStep link turn).1) :: Link.history _ _ (plainStep link turn).2 turns)
        (Link.arrivedAtLeft link turn ++ Link.along _ _ Link.arrivedAtLeft (plainStep link turn).2 turns ++ rest)
      obtain ⟨left, right, toLeft, toRight⟩ := link
      cases turn with
      | callLeft write => exact (ih _).cons_quiet rfl rfl
      | callRight input => exact (ih _).cons_quiet rfl rfl
      | arriveRight =>
        cases toRight with
        | nil => exact (ih _).cons_quiet rfl rfl
        | cons record toRight => exact (ih _).cons_quiet rfl rfl
      | arriveLeft =>
        cases toLeft with
        | nil => exact (ih _).cons_quiet rfl rfl
        | cons record toLeft =>
          exact (ih ⟨(left.receive record).2, right, toLeft, toRight⟩).cons_arrival hclosed fun hafter =>
            (handedOut_of_closed _ hafter turns).1

/-- Whatever the two sides send and in whatever order the records arrive among it, the connection is faithful: nothing
is lost, doubled, reordered, made up or cut off unnoticed. -/
theorem applicationLink_faithful (negotiatedAlpn : Option Bytes) (clientApplicationTrafficSecret
    serverApplicationTrafficSecret transcriptHash serverKey : ByteArrayN 32) (serverIv : ByteArrayN 12)
    (clientKey : ByteArrayN 32) (clientIv : ByteArrayN 12) (turns : List ApplicationTurn) :
    IsFaithful (Link.history serverEnd clientEnd (applicationLink negotiatedAlpn clientApplicationTrafficSecret
      serverApplicationTrafficSecret transcriptHash serverKey serverIv clientKey clientIv) turns) := by
  have hplain : Link.history serverEnd clientEnd (applicationLink negotiatedAlpn clientApplicationTrafficSecret
      serverApplicationTrafficSecret transcriptHash serverKey serverIv clientKey clientIv) turns =
        Link.history plainServerEnd plainClientEnd plainLink turns := by
    apply congrArg (List.zip turns)
    exact Link.outputsOf_eq (serverEnd_refines serverKey serverIv clientKey clientIv)
      (clientEnd_refines clientKey clientIv serverKey serverIv) ⟨rfl, fun _ => rfl⟩ ⟨rfl, rfl⟩ turns
  rw [hplain]
  obtain ⟨rest, hrest⟩ := Link.arrivedAtLeft_prefix plainServerEnd plainClientEnd PlainServer.start 0 turns
  have hhands : HandsOut (Link.history plainServerEnd plainClientEnd plainLink turns)
      ((Link.history plainServerEnd plainClientEnd plainLink turns).filterMap sentByClient) := by
    rw [← Link.along_eq_filterMap plainServerEnd plainClientEnd sentToLeft_plain]
    show HandsOut _ (Link.along plainServerEnd plainClientEnd (Link.sentToLeft plainClientEnd) (.start .start 0) turns)
    rw [← hrest]
    exact handsOut_history plainLink turns rest
  refine ⟨?_, hhands.1, hhands.2⟩
  rw [← Link.along_eq_filterMap plainServerEnd plainClientEnd arrivedAtRight_plain,
    ← Link.along_eq_filterMap plainServerEnd plainClientEnd sentToRight_plain]
  exact Link.arrivedAtRight_prefix plainServerEnd plainClientEnd PlainServer.start 0 turns

end BareProxy.Tls

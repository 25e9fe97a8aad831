import BareProxy.Tls.ClientHelloIndexed
import BareProxy.Tls.KeyAgreement

/-!
# A ClientHello and its bytes

Written again, with every length counted anew, the fields that `parse_client_hello` hands out are the message that it
was given, so no two messages are read as the same ClientHello. Beside that, this says what the checks between the
extensions leave of a message that is taken.
-/

namespace BareProxy.Tls

/-! ### Values of two bytes -/

theorem flatMap_u16Values {bytes : Bytes} (h : bytes.length % 2 = 0) :
    (u16Values bytes).flatMap (beBytes 2) = bytes := by
  fun_induction u16Values bytes with
  | case1 high low rest ih =>
    have hpair : beBytes 2 (ofBe [high, low]) = [high, low] := beBytes_ofBe [high, low]
    rw [List.length_cons, List.length_cons] at h
    rw [List.flatMap_cons, hpair, ih (by omega)]
    rfl
  | case2 bytes hshort =>
    rcases bytes with _ | ⟨high, _ | ⟨low, rest⟩⟩
    · rfl
    · cases h
    · exact absurd rfl (hshort high low rest)

/-! ### The extensions -/

/-- What is known after some extensions of a block: they and what is left are the block, no type came twice, and
behind a pre-shared key comes nothing. -/
structure ExtensionsRead (block : Bytes) (state : ParsedClientHelloExtensions × List Nat) (reader : Bytes) : Prop where
  bytes : tlsExtensions state.1.rawExtensions ++ reader = block
  types : state.1.rawExtensions.map Prod.fst = state.2
  nodup : state.2.Nodup
  present : state.1.preSharedKeyPresent = decide (extensionPreSharedKey ∈ state.2)
  last : extensionPreSharedKey ∉ state.2.dropLast
  end_of_present : state.1.preSharedKeyPresent = true → reader = []

theorem addExtension_preSharedKey {parsed parsed' : ParsedClientHelloExtensions} {data : Bytes} {isLastExtension : Bool}
    (h : parsed.addExtension extensionPreSharedKey data isLastExtension = .ok parsed') : isLastExtension = true := by
  rw [ParsedClientHelloExtensions.addExtension, if_neg (by decide), if_neg (by decide), if_neg (by decide),
    if_neg (by decide), if_pos rfl] at h
  split at h
  · assumption
  · cases h

theorem ExtensionsRead.step {block reader rest : Bytes} {state state' : ParsedClientHelloExtensions × List Nat}
    (hread : ExtensionsRead block state reader) (h : readClientHelloExtension state reader = .ok (state', rest)) :
    ExtensionsRead block state' rest := by
  obtain ⟨parsed, seenExtensions⟩ := state
  obtain ⟨⟨extensionType, reader₁⟩, htype, h⟩ := bind_eq_ok.mp h
  obtain ⟨⟨data, reader₂⟩, hdata, h⟩ := bind_eq_ok.mp h
  obtain ⟨_, hnew, h⟩ := bind_eq_ok.mp h
  obtain ⟨parsed', hadd, h⟩ := bind_eq_ok.mp h
  cases h
  obtain ⟨hraw, hpresent⟩ := addExtension_frame hadd
  have hnew := ensure_eq_ok.mp hnew
  have habsent : parsed.preSharedKeyPresent = false := by
    rw [← Bool.not_eq_true]
    intro hlast
    have hshorter := readU16_shorter htype
    rw [hread.end_of_present hlast] at hshorter
    exact absurd hshorter (Nat.not_lt_zero _)
  have hnone : extensionPreSharedKey ∉ seenExtensions := by
    rw [← decide_eq_false_iff_not, ← hread.present]
    exact habsent
  refine ⟨?_, ?_, ?_, ?_, ?_, ?_⟩
  · show tlsExtensions parsed'.rawExtensions ++ rest = block
    rw [hraw, ← hread.bytes, (HandshakeReader.readU16_eq_ok.mp htype).2,
      (HandshakeReader.readVectorU16_eq_ok.mp hdata).2]
    simp only [tlsExtensions, tlsExtension, List.flatMap_append, List.flatMap_singleton, List.append_assoc]
  · show parsed'.rawExtensions.map Prod.fst = seenExtensions ++ [extensionType]
    rw [hraw, List.map_append, hread.types]
    rfl
  · rw [List.nodup_append]
    refine ⟨hread.nodup, List.nodup_singleton _, ?_⟩
    rintro seen hseen _ hlast rfl
    rw [List.mem_singleton.mp hlast] at hseen
    exact hnew hseen
  · show parsed'.preSharedKeyPresent = decide (extensionPreSharedKey ∈ seenExtensions ++ [extensionType])
    rw [hpresent, habsent, Bool.false_or]
    simp [hnone, eq_comm]
  · show extensionPreSharedKey ∉ (seenExtensions ++ [extensionType]).dropLast
    rw [List.dropLast_concat]
    exact hnone
  · intro hlast
    have hkey : extensionType = extensionPreSharedKey := by
      rw [hpresent, habsent, Bool.false_or] at hlast
      exact of_decide_eq_true hlast
    rw [hkey] at hadd
    exact List.eq_nil_of_length_eq_zero (of_decide_eq_true (addExtension_preSharedKey hadd))

theorem parseClientHelloExtensions_read {block : Bytes} {parsed : ParsedClientHelloExtensions}
    (h : parseClientHelloExtensions block = .ok parsed) :
    ExtensionsRead block (parsed, parsed.rawExtensions.map Prod.fst) [] := by
  obtain ⟨⟨parsed, seenExtensions⟩, hrun, h⟩ := bind_eq_ok.mp h
  cases h
  have hstart : ExtensionsRead block ({}, []) block :=
    ⟨rfl, rfl, List.nodup_nil, rfl, List.not_mem_nil, fun h => by cases h⟩
  have hread := ReadLoop.run_invariant_rest (P := ExtensionsRead block) ExtensionsRead.step hstart hrun
  rw [hread.types]
  exact hread

/-! ### The key shares -/

/-- The groups of the shares are offered, each behind those of the shares before it. -/
theorem foldlM_validateKeyShareGroup {supportedGroups : List Nat} {keyShares : List TlsKeyShareEntry}
    {previous last : Option Nat} (h : keyShares.foldlM (validateKeyShareGroup supportedGroups) previous = .ok last) :
    (∀ keyShare ∈ keyShares, keyShare.group ∈ supportedGroups ∧
      ∀ index ∈ previous, index < supportedGroups.idxOf keyShare.group) ∧
    keyShares.Pairwise fun earlier later =>
      supportedGroups.idxOf earlier.group < supportedGroups.idxOf later.group := by
  induction keyShares generalizing previous with
  | nil => exact ⟨fun _ h => absurd h List.not_mem_nil, List.Pairwise.nil⟩
  | cons keyShare keyShares ih =>
    rw [List.foldlM_cons] at h
    obtain ⟨next, hstep, hrest⟩ := bind_eq_ok.mp h
    obtain ⟨groupIndex, hfound, hstep⟩ := bind_eq_ok.mp hstep
    obtain ⟨_, horder, hstep⟩ := bind_eq_ok.mp hstep
    cases hstep
    obtain ⟨hlt, hindex⟩ := List.findIdx?_eq_some_iff_findIdx_eq.mp (okOr_eq_ok.mp hfound)
    have hgroup : supportedGroups.idxOf keyShare.group = groupIndex := hindex
    have hoffered : keyShare.group ∈ supportedGroups := List.idxOf_lt_length_iff.mp (by rwa [hgroup])
    have hlater (index : Nat) (hprevious : index ∈ previous) : index < groupIndex := by
      rw [Option.mem_def.mp hprevious] at horder
      simpa using ensure_eq_ok.mp horder
    obtain ⟨hall, hpairs⟩ := ih hrest
    refine ⟨?_, List.pairwise_cons.mpr ⟨?_, hpairs⟩⟩
    · intro share hshare
      rcases List.mem_cons.mp hshare with rfl | hshare
      · rw [hgroup]
        exact ⟨hoffered, hlater⟩
      · obtain ⟨hmem, hbehind⟩ := hall share hshare
        exact ⟨hmem, fun index hprevious => (hlater index hprevious).trans (hbehind groupIndex rfl)⟩
    · intro share hshare
      rw [hgroup]
      exact (hall share hshare).2 groupIndex rfl

theorem validateKeyShareGroups_ok {supportedGroups : List Nat} {keyShares : List TlsKeyShareEntry}
    (h : validateKeyShareGroups supportedGroups keyShares = .ok ()) :
    (∀ keyShare ∈ keyShares, keyShare.group ∈ supportedGroups) ∧
      keyShares.Pairwise fun earlier later =>
        supportedGroups.idxOf earlier.group < supportedGroups.idxOf later.group := by
  obtain ⟨last, hfold, -⟩ := bind_eq_ok.mp h
  obtain ⟨hall, hpairs⟩ := foldlM_validateKeyShareGroup hfold
  exact ⟨fun keyShare hshare => (hall keyShare hshare).1, hpairs⟩

/-! ### The message -/

/-- The message that says what the fields say. -/
def ClientHello.encode (clientHello : ClientHello) : Bytes :=
  handshakeMessage handshakeTypeClientHello
    (clientHelloFields clientHello.random.toList clientHello.legacySessionId
      (clientHello.cipherSuites.flatMap (beBytes 2)) (tlsExtensions clientHello.rawExtensions))

/-- What holds between the fields of a message that is taken. -/
structure ClientHello.IsConsistent (clientHello : ClientHello) : Prop where
  extensionTypes : (clientHello.rawExtensions.map Prod.fst).Nodup
  preSharedKey : clientHello.preSharedKeyPresent = clientHello.hasExtension extensionPreSharedKey
  preSharedKeyLast : extensionPreSharedKey ∉ (clientHello.rawExtensions.map Prod.fst).dropLast
  tls13 : tlsVersion13 ∈ clientHello.supportedVersions
  keyShareGroups : ∀ keyShare ∈ clientHello.keyShares, keyShare.group ∈ clientHello.supportedGroups
  keyShareOrder : clientHello.keyShares.Pairwise fun earlier later =>
    clientHello.supportedGroups.idxOf earlier.group < clientHello.supportedGroups.idxOf later.group

section Message

variable {message : Bytes} {clientHello : ClientHello}

theorem encode_of_parseClientHello (h : parseClientHello message = .ok clientHello) : clientHello.encode = message := by
  obtain ⟨cipherSuites, extensions, parsed, hmessage, heven, hparsed, -, hclientHello⟩ := parseClientHello_ok h
  have hbytes := (parseClientHelloExtensions_read hparsed).bytes
  rw [List.append_nil] at hbytes
  rw [hmessage, ClientHello.encode, hclientHello, hbytes, flatMap_u16Values heven]

theorem isConsistent_of_parseClientHello (h : parseClientHello message = .ok clientHello) :
    clientHello.IsConsistent := by
  obtain ⟨cipherSuites, extensions, parsed, -, -, hparsed, hvalid, hclientHello⟩ := parseClientHello_ok h
  have hread := parseClientHelloExtensions_read hparsed
  obtain ⟨-, htls13, hshares⟩ := validateClientHelloExtensions_ok hvalid
  obtain ⟨hgroups, horder⟩ := validateKeyShareGroups_ok hshares
  rw [hclientHello]
  refine ⟨hread.nodup, ?_, hread.last, htls13, hgroups, horder⟩
  show parsed.preSharedKeyPresent = parsed.rawExtensions.any fun candidate => candidate.1 = extensionPreSharedKey
  rw [hread.present, Bool.eq_iff_iff, decide_eq_true_iff, List.any_eq_true, List.mem_map]
  simp only [decide_eq_true_iff]

end Message

/-- No message makes a reader leave its bounds, and one that is taken can be written again from its fields, byte for
byte. -/
theorem parseClientHello_lossless (message : Bytes) :
    Indexed.parseClientHello message = BareProxy.Indexed.lift (parseClientHello message) ∧
    Indexed.parseClientHello message ≠ .error .outOfBounds ∧
    ∀ clientHello, parseClientHello message = .ok clientHello →
      clientHello.encode = message ∧ clientHello.IsConsistent := by
  have hindexed := (Indexed.parseClientHello_refines message).eq_lift
  refine ⟨hindexed, ?_, fun clientHello h => ⟨encode_of_parseClientHello h, isConsistent_of_parseClientHello h⟩⟩
  rw [hindexed]
  exact BareProxy.Indexed.lift_ne_outOfBounds _

theorem parseClientHello_lossless_example :
    (builtClientHello (ascii "Example.com") (.replicate 32 7) (.replicate 65 4)).encode =
        handshakeMessage handshakeTypeClientHello (clientHelloBody (.replicate 32 7)
          (tlsExtensions (clientHelloExtensions (ascii "Example.com") (.replicate 65 4)))) ∧
      (builtClientHello (ascii "Example.com") (.replicate 32 7) (.replicate 65 4)).IsConsistent :=
  (parseClientHello_lossless _).2.2 _ (parseClientHello_build isValidServerName_example _ _)

end BareProxy.Tls

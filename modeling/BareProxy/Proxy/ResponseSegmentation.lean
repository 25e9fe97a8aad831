import BareProxy.Proxy.Forwarded

/-!
# Forwarding does not depend on how the response is cut

Two forwardings that see the same bytes, cut differently between the buffered part and the reads, come to
the same result and send the same bytes. After an upgrade the bytes already read are sent and the rest is
left for the tunnel, so there the bytes sent and still unread together are the same.
-/

namespace BareProxy.Proxy

open Http Reader

variable {ρ σ : Type} [Reader ρ] [Reader σ]

/-! ### One head -/

theorem forwardResponse_error_head {upstream upstream' : ρ} {client : Sink} {requestMethod buffered : Bytes}
    {requested : Option (List Bytes)} {e : ProxyError}
    (hread : readResponseHead upstream buffered = (.error e, upstream')) :
    forwardResponse upstream client requestMethod buffered requested = (.error e, upstream', client) := by
  rw [forwardResponse]
  grind

/-- What follows once a head is read. -/
theorem forwardResponse_head {upstream upstream' : ρ} {client : Sink} {requestMethod buffered head rest : Bytes}
    {requested : Option (List Bytes)}
    (hread : readResponseHead upstream buffered = (.ok (head, rest), upstream')) :
    forwardResponse upstream client requestMethod buffered requested =
      match responseStatusCode head with
      | .error e => (.error e, upstream', client)
      | .ok status =>
        if status = 101 then
          let (outcome, client) := forwardSwitchingProtocols head rest requested client
          (outcome, upstream', client)
        else if isInterimResponse status then
          match forwardInterimHead head client with
          | (.error e, client) => (.error e, upstream', client)
          | (.ok (), client) => forwardResponse upstream' client requestMethod rest requested
        else if responseHasNoBody requestMethod status then
          let (outcome, client) := forwardBodiless head client
          (outcome, upstream', client)
        else forwardWithBody head rest upstream' client := by
  rw [forwardResponse]
  grind

/-- The head of an upgrade that is accepted. -/
def switchingHead (head : Bytes) (requested : Option (List Bytes)) : Except ProxyError Bytes :=
  match requested with
  | none => .error (.invalidUpstreamResponse "upstream switched protocols without a client Upgrade request")
  | some requested => do
    validateSwitchingProtocolsResponse head requested
    sanitizeResponseHead head (some (ascii "Upgrade")) false true

theorem forwardSwitchingProtocols_accepting (head rest written : Bytes) (requested : Option (List Bytes)) :
    forwardSwitchingProtocols head rest requested (.accepting written) =
      match switchingHead head requested with
      | .error e => (.error e, .accepting written)
      | .ok sent => (.ok .upgraded, .accepting (written ++ sent ++ rest)) := by
  unfold forwardSwitchingProtocols switchingHead
  cases requested with
  | none => rfl
  | some requested =>
    dsimp only
    cases validateSwitchingProtocolsResponse head requested with
    | error e => rfl
    | ok =>
      dsimp only [ok_bind]
      cases sanitizeResponseHead head (some (ascii "Upgrade")) false true <;> rfl

theorem forwardInterimHead_accepting (head written : Bytes) :
    forwardInterimHead head (.accepting written) =
      match sanitizeResponseHead head none false false with
      | .error e => (.error e, .accepting written)
      | .ok sent => (.ok (), .accepting (written ++ sent)) := by
  unfold forwardInterimHead
  cases sanitizeResponseHead head none false false <;> rfl

/-- Two forwardings that come to the same. -/
structure SameForwarding (first : Except ProxyError ForwardResponseOutcome × ρ × Sink)
    (second : Except ProxyError ForwardResponseOutcome × σ × Sink) : Prop where
  result : first.1 = second.1
  written : first.1 ≠ .ok .upgraded → first.2.2.written = second.2.2.written
  upgraded : first.1 = .ok .upgraded →
    first.2.2.written ++ pending first.2.1 = second.2.2.written ++ pending second.2.1

theorem SameForwarding.of_eq {outcome : Except ProxyError ForwardResponseOutcome} (h : outcome ≠ .ok .upgraded)
    (upstream : ρ) (upstream' : σ) (client : Sink) :
    SameForwarding (outcome, upstream, client) (outcome, upstream', client) where
  result := rfl
  written _ := rfl
  upgraded hupgraded := absurd hupgraded h

theorem forwardWithBody_congr (head : Bytes) {upstream₁ : ρ} {upstream₂ : σ} (hclean₁ : Clean upstream₁)
    (hclean₂ : Clean upstream₂) {rest₁ rest₂ : Bytes} (hrest : rest₁ ++ pending upstream₁ = rest₂ ++ pending upstream₂)
    (written : Bytes) :
    SameForwarding (forwardWithBody head rest₁ upstream₁ (.accepting written))
      (forwardWithBody head rest₂ upstream₂ (.accepting written)) := by
  unfold forwardWithBody
  cases finalHead head with
  | error e => exact .of_eq (by simp) _ _ _
  | ok final =>
    have hwrite : writeClient final.head (.accepting written) = (.ok (), .accepting (written ++ final.head)) := rfl
    obtain ⟨upstream₁', hbody₁⟩ := streamResponseBody_clean hclean₁ (written ++ final.head) rest₁ final
    obtain ⟨upstream₂', hbody₂⟩ := streamResponseBody_clean hclean₂ (written ++ final.head) rest₂ final
    rw [hrest] at hbody₁
    simp only [hwrite, hbody₁, hbody₂]
    generalize bodyResult final (rest₂ ++ pending upstream₂) (written ++ final.head) = result
    obtain ⟨streamed, client⟩ := result
    cases streamed with
    | error e => exact .of_eq (by simp) _ _ _
    | ok =>
      dsimp only
      cases flushClient client with
      | mk flushed client' =>
        cases flushed with
        | error e => exact .of_eq (by simp) _ _ _
        | ok => exact .of_eq (by simp) _ _ _

/-- The head search of two readers with the same bytes: the same error, or the same head with the same
bytes after it. -/
theorem readResponseHead_congr {upstream₁ : ρ} {upstream₂ : σ} (hclean₁ : Clean upstream₁)
    (hclean₂ : Clean upstream₂) {buffered₁ buffered₂ : Bytes} (hle₁ : buffered₁.length ≤ maxResponseHeadSize)
    (hle₂ : buffered₂.length ≤ maxResponseHeadSize)
    (hbytes : buffered₁ ++ pending upstream₁ = buffered₂ ++ pending upstream₂) :
    (∃ e upstream₁' upstream₂', readResponseHead upstream₁ buffered₁ = (.error e, upstream₁') ∧
      readResponseHead upstream₂ buffered₂ = (.error e, upstream₂')) ∨
    ∃ head rest₁ rest₂ upstream₁' upstream₂',
      readResponseHead upstream₁ buffered₁ = (.ok (head, rest₁), upstream₁') ∧ Clean upstream₁' ∧
      readResponseHead upstream₂ buffered₂ = (.ok (head, rest₂), upstream₂') ∧ Clean upstream₂' ∧
      rest₁ ++ pending upstream₁' = rest₂ ++ pending upstream₂' := by
  obtain ⟨upstream₁', hclean₁', hread₁⟩ := readResponseHead_clean hclean₁ hle₁
  obtain ⟨upstream₂', hclean₂', hread₂⟩ := readResponseHead_clean hclean₂ hle₂
  rw [hbytes] at hread₁
  cases hhead : responseHeadOf (buffered₂ ++ pending upstream₂) with
  | error e =>
    rw [hhead] at hread₁ hread₂
    exact Or.inl ⟨e, upstream₁', upstream₂', hread₁, hread₂⟩
  | ok head =>
    rw [hhead] at hread₁ hread₂
    obtain ⟨rest₁, hread₁⟩ := hread₁
    obtain ⟨rest₂, hread₂⟩ := hread₂
    refine Or.inr ⟨head, rest₁, rest₂, upstream₁', upstream₂', hread₁, hclean₁', hread₂, hclean₂', ?_⟩
    refine List.append_cancel_left (?_ : head ++ _ = head ++ _)
    rw [← List.append_assoc, ← (readResponseHead_ok hread₁).2.1, hbytes, (readResponseHead_ok hread₂).2.1,
      List.append_assoc]

theorem forwardResponse_congr {requestMethod : Bytes} {requested : Option (List Bytes)} {upstream₁ : ρ} {upstream₂ : σ}
    (hclean₁ : Clean upstream₁) (hclean₂ : Clean upstream₂) {buffered₁ buffered₂ : Bytes}
    (hle₁ : buffered₁.length ≤ maxResponseHeadSize) (hle₂ : buffered₂.length ≤ maxResponseHeadSize)
    (hbytes : buffered₁ ++ pending upstream₁ = buffered₂ ++ pending upstream₂) (written : Bytes) :
    SameForwarding (forwardResponse upstream₁ (.accepting written) requestMethod buffered₁ requested)
      (forwardResponse upstream₂ (.accepting written) requestMethod buffered₂ requested) := by
  -- every interim head shortens the bytes that are left
  induction hlength : (buffered₁ ++ pending upstream₁).length using Nat.strong_induction_on
    generalizing upstream₁ upstream₂ buffered₁ buffered₂ written with
  | _ n ih =>
    rcases readResponseHead_congr hclean₁ hclean₂ hle₁ hle₂ hbytes with
      ⟨e, upstream₁', upstream₂', hread₁, hread₂⟩ |
      ⟨head, rest₁, rest₂, upstream₁', upstream₂', hread₁, hclean₁', hread₂, hclean₂', hrest⟩
    · rw [forwardResponse_error_head hread₁, forwardResponse_error_head hread₂]
      exact .of_eq (by simp) _ _ _
    · obtain ⟨hhead, hsplit, hbound₁⟩ := readResponseHead_ok hread₁
      obtain ⟨-, -, hbound₂⟩ := readResponseHead_ok hread₂
      rw [forwardResponse_head hread₁, forwardResponse_head hread₂]
      cases responseStatusCode head with
      | error e => exact .of_eq (by simp) _ _ _
      | ok status =>
        dsimp only
        split
        · simp only [forwardSwitchingProtocols_accepting]
          cases switchingHead head requested with
          | error e => exact .of_eq (by simp) _ _ _
          | ok sent =>
            refine ⟨rfl, fun hne => absurd rfl hne, fun _ => ?_⟩
            simp only [Sink.accepting_written, List.append_assoc, hrest]
        · split
          · rw [forwardInterimHead_accepting]
            cases sanitizeResponseHead head none false false with
            | error e => exact .of_eq (by simp) _ _ _
            | ok sent =>
              have hfour := hhead.four_le
              have hshorter : (rest₁ ++ pending upstream₁').length < n := by
                rw [← hlength, hsplit]
                simp only [List.length_append]
                omega
              have hle₁' := hbound₁ hle₁
              have hle₂' := hbound₂ hle₂
              exact ih _ hshorter hclean₁' hclean₂' (by omega) (by omega) hrest (written ++ sent) rfl
          · split
            · refine .of_eq (fun hupgraded => ?_) _ _ _
              exact forwardBodiless_ne_upgraded (Prod.ext hupgraded rfl)
            · exact forwardWithBody_congr head hclean₁' hclean₂' hrest written

/-- However the same bytes are cut between the buffered part, within what callers buffer, and the reads of
an upstream that ends without an error, forwarding has the same result and sends the same bytes; after an
upgrade it leaves the tunnel what it has not sent. And what it sends for an `Http` result is exactly one
response. -/
theorem forwardResponse_segmentation (requestMethod : Bytes) (requested : Option (List Bytes)) (written : Bytes)
    {upstream₁ : ρ} {upstream₂ : σ} (hclean₁ : Clean upstream₁) (hclean₂ : Clean upstream₂)
    {buffered₁ buffered₂ : Bytes} (hle₁ : buffered₁.length ≤ maxResponseHeadSize)
    (hle₂ : buffered₂.length ≤ maxResponseHeadSize)
    (hbytes : buffered₁ ++ pending upstream₁ = buffered₂ ++ pending upstream₂) :
    SameForwarding (forwardResponse upstream₁ (.accepting written) requestMethod buffered₁ requested)
      (forwardResponse upstream₂ (.accepting written) requestMethod buffered₂ requested) ∧
    ∀ reusable upstream' client',
      forwardResponse upstream₁ (.accepting written) requestMethod buffered₁ requested =
        (.ok (.http reusable), upstream', client') →
      ∃ surplus, ∃ response : ForwardedResponse requestMethod (surplus ++ pending upstream' = []),
        buffered₁ ++ pending upstream₁ = response.received ++ surplus ++ pending upstream' ∧
        client'.written = written ++ response.sent := by
  refine ⟨forwardResponse_congr hclean₁ hclean₂ hle₁ hle₂ hbytes written, ?_⟩
  intro reusable upstream' client' h
  obtain ⟨forwarded⟩ := forwardResponse_http h
  exact ⟨forwarded.surplus, forwarded.response.imp fun hend => hend.2 hclean₁, forwarded.bytes, forwarded.written⟩

theorem forwardResponse_segmentation_noContent :
    SameForwarding
      (forwardResponse (Source.ofSegments [ascii "HTTP/1.1 204 N\r\n\r", ascii "\nX"]) (.accepting []) (ascii "GET")
        [] none)
      (forwardResponse (Source.ofSegments [ascii "\n\r\nX"]) (.accepting []) (ascii "GET")
        (ascii "HTTP/1.1 204 N\r") none) :=
  (forwardResponse_segmentation (ascii "GET") none [] (Source.clean_ofSegments (by decide))
    (Source.clean_ofSegments (by decide)) (by decide) (by decide) (by decide)).1

/-! ### What does depend on the cut -/

def switchingResponse : Bytes := ascii "HTTP/1.1 101 S\r\nConnection: upgrade\r\nUpgrade: a\r\n\r\n"

/-- A buffer without a blank line in its first 64 KiB. -/
def longResponse : Bytes := List.replicate maxResponseHeadSize 65 ++ crlfCrlf

theorem findBytes_replicate (n : Nat) (needle rest : Bytes) :
    findBytes (List.replicate n 65 ++ (cr :: needle) ++ rest) (cr :: needle) = some n := by
  have hnot : cr ∉ List.replicate n (65 : Byte) := by
    rw [List.mem_replicate]
    intro hfacts
    obtain ⟨-, h⟩ := hfacts
    cases h
  have hfound : findBytes (List.replicate n 65 ++ (cr :: needle) ++ rest) (cr :: needle) = some _ :=
    indexOfSub_append_of_notMem hnot rest
  rw [hfound, List.length_replicate]

theorem checkLineEnds_replicate (n : Nat) (previous : Option Byte) :
    checkLineEnds previous (List.replicate n 65 ++ crlfCrlf) = .ok () := by
  induction n generalizing previous with
  | zero =>
    show checkLineEnds previous [cr, lf, cr, lf] = .ok ()
    simp [checkLineEnds, cr, lf]
  | succ n ih =>
    rw [List.replicate_succ, List.cons_append, checkLineEnds]
    rw [if_neg (by simp [lf]), if_neg (by simp [cr])]
    exact ih _

/-- A first line without a space is no status line. -/
theorem validateResponseHeadSyntax_replicate (n : Nat) :
    validateResponseHeadSyntax (List.replicate n 65 ++ crlfCrlf) =
      .error (.invalidUpstreamResponse "malformed response status line") := by
  have hsuffix : crlfCrlf.isSuffixOf (List.replicate n 65 ++ crlfCrlf) = true := by simp
  have hfind : findBytes (List.replicate n 65 ++ crlfCrlf) crlf = some n := by
    have hfound := findBytes_replicate n [lf] crlf
    rw [List.append_assoc] at hfound
    exact hfound
  have hspace : (List.replicate n (65 : Byte)).idxOf? 32 = none := by
    rw [List.idxOf?_eq_none_iff, List.mem_replicate]
    intro hfacts
    obtain ⟨-, h⟩ := hfacts
    cases h
  have hstatus : responseStatusCode (List.replicate n 65 ++ crlfCrlf) =
      .error (.invalidUpstreamResponse "malformed response status line") := by
    have htake : (List.replicate n (65 : Byte) ++ crlfCrlf).take n = List.replicate n 65 := by
      rw [List.take_left' (List.length_replicate)]
    simp only [responseStatusCode, hfind, htake, hspace]
    rfl
  unfold validateResponseHeadSyntax
  rw [hsuffix, checkLineEnds_replicate, hstatus]
  rfl

theorem readResponseHead_replicate (n : Nat) (upstream : ρ) :
    readResponseHead upstream (List.replicate n 65 ++ crlfCrlf) =
      (.error (.invalidUpstreamResponse "malformed response status line"), upstream) := by
  have hfind : findBytes (List.replicate n 65 ++ crlfCrlf) crlfCrlf = some n := by
    have hfound := findBytes_replicate n [lf, cr, lf] []
    rw [List.append_nil] at hfound
    exact hfound
  have hall : (List.replicate n (65 : Byte) ++ crlfCrlf).take (n + 4) = List.replicate n 65 ++ crlfCrlf := by
    apply List.take_of_length_le
    simp [crlfCrlf]
  rw [readResponseHead, hfind]
  simp only [hall, validateResponseHeadSyntax_replicate]

theorem forwardResponse_of_responseHeadOf {stream : Bytes} {e : ProxyError} (hne : stream ≠ [])
    (h : responseHeadOf stream = .error e) (client : Sink) (requestMethod : Bytes) :
    (forwardResponse (Source.ofSegments [stream]) client requestMethod [] none).1 = .error e := by
  have hclean : Clean (Source.ofSegments [stream]) := by
    apply Source.clean_ofSegments
    simpa using hne
  obtain ⟨upstream', -, hread⟩ := @readResponseHead_clean Source _ _ [] hclean (Nat.zero_le _)
  rw [List.nil_append, Source.pending_ofSegments, List.flatten_singleton, h] at hread
  rw [forwardResponse_error_head hread]

theorem responseHeadOf_longResponse : responseHeadOf longResponse = .error .incompleteResponse := by
  have htake : longResponse.take maxResponseHeadSize = List.replicate maxResponseHeadSize 65 :=
    List.take_left' List.length_replicate
  have hnone : findBytes (List.replicate maxResponseHeadSize 65) crlfCrlf = none := by
    apply indexOfSub_eq_none_of_notMem
    rw [List.mem_replicate]
    intro hfacts
    obtain ⟨-, h⟩ := hfacts
    cases h
  have hne : longResponse ≠ [] := by simp [longResponse, crlfCrlf]
  rw [responseHeadOf, htake, hnone, if_neg hne]

/-- The bytes sent for an upgrade are those that were read, and a buffer longer than a head may be is
searched as a whole. -/
theorem forwardResponse_cut_matters :
    (Source.ofSegments [switchingResponse ++ [88]]).pending = (Source.ofSegments [switchingResponse, [88]]).pending ∧
    (forwardResponse (Source.ofSegments [switchingResponse ++ [88]]) (.accepting []) (ascii "GET") []
        (some [ascii "a"])).2.2.written ≠
      (forwardResponse (Source.ofSegments [switchingResponse, [88]]) (.accepting []) (ascii "GET") []
        (some [ascii "a"])).2.2.written ∧
    (forwardResponse (Source.ofSegments []) (.accepting []) (ascii "GET") longResponse none).1 ≠
      (forwardResponse (Source.ofSegments [longResponse]) (.accepting []) (ascii "GET") [] none).1 := by
  refine ⟨by decide +kernel, by decide +kernel, ?_⟩
  have hbuffered : readResponseHead (Source.ofSegments []) longResponse = _ := readResponseHead_replicate _ _
  have hne : longResponse ≠ [] := by simp [longResponse, crlfCrlf]
  rw [forwardResponse_error_head hbuffered, forwardResponse_of_responseHeadOf hne responseHeadOf_longResponse]
  simp

end BareProxy.Proxy

import StunServer.Results.Authentication

/-! Where responses leave and where they go. -/

namespace StunServer

open Bytes Tlv CStunMessageReader CStunRequestHandler CStunMessageBuilder

/-- The bits of a role: its address and its port. -/
theorem code_changeSocket (change : StunChangeRequestAttribute) (role : SocketRole) :
    (changeSocket change role).code = role.code ^^^ (if change.fChangeIP then 2 else 0) ^^^
      (if change.fChangePort then 1 else 0) := by
  obtain ⟨ip, port⟩ := change
  cases ip <;> cases port <;> cases role <;> decide

section

variable {D : Digests} {x : Arrival} {m : Message}

/-- The request asks for what the server cannot do. -/
def Unservable (x : Arrival) (m : Message) : Prop :=
  (m.AsksChange ∧ (x.msgIn.fConnectionOriented = true ∨
    (x.addrSet.set (m.outputRole x.msgIn.socketrole)).fValid = false)) ∨
  (m.responsePort ≠ none ∧ (x.msgIn.fConnectionOriented = true ∨ m.HasPadding))

theorem not_unservable_iff : ¬Unservable x m ↔
    x.Servable m ∧ (m.responsePort ≠ none → x.msgIn.fConnectionOriented = false) := by
  unfold Unservable
  constructor
  · intro h
    obtain ⟨h1, h2⟩ := not_or.mp h
    refine ⟨⟨fun hp hpad => h2 ⟨hp, Or.inr hpad⟩, fun ha => ?_, fun ha => ?_⟩, fun hp => ?_⟩
    · rw [← Bool.not_eq_false]
      exact fun hv => h1 ⟨ha, Or.inr hv⟩
    · rw [← Bool.not_eq_true]
      exact fun ht => h1 ⟨ha, Or.inl ht⟩
    · rw [← Bool.not_eq_true]
      exact fun ht => h2 ⟨hp, Or.inl ht⟩
  · rintro ⟨hs, hport⟩ (⟨ha, ht | hv⟩ | ⟨hp, ht | hpad⟩)
    · exact Bool.false_ne_true ((hs.datagram ha).symm.trans ht)
    · exact Bool.false_ne_true (hv.symm.trans (hs.role ha))
    · exact Bool.false_ne_true ((hport hp).symm.trans ht)
    · exact hs.padding hp hpad

/-- An admitted Binding request is refused for what it asks, or not at all. -/
theorem verdict_of_admits (hmethod : m.method = StunMsgTypeBinding)
    (hadmits : Arrival.Admits D x.pAuth m) :
    (Unservable x m → x.verdict D m = .error .badRequest) ∧
      (¬Unservable x m → ∃ c, x.verdict D m = .ok c) := by
  obtain ⟨c, hc⟩ : ∃ c, Arrival.authorize D x.pAuth m = .ok c := by
    rcases authorize_cases D x.pAuth m with ⟨c, hc, -⟩ | ⟨e, -, hn, -⟩
    · exact ⟨c, hc⟩
    · exact absurd hadmits hn
  constructor
  · intro hu
    rw [Arrival.verdict]
    by_cases hw : x.WellPut m
    · rw [if_pos hw, hc]
      exact if_neg fun hs => not_unservable_iff.mpr ⟨hs, hw.port⟩ hu
    · rw [if_neg hw]
  · intro hu
    obtain ⟨hs, hport⟩ := not_unservable_iff.mp hu
    exact ⟨c, verdict_eq_ok.mpr ⟨⟨hmethod, hport⟩, hc, hs⟩⟩

/-- The reply goes to the sender's address, and to the port it asked for if there is one. -/
theorem dest_spec (x : Arrival) (m : Message) :
    (x.dest m).isSameIP x.msgIn.addrRemote = true ∧
    (∀ port, m.responsePort = some port → x.msgIn.fConnectionOriented = false →
      (x.dest m).getPort = port) ∧
    (m.responsePort = none ∨ x.msgIn.fConnectionOriented = true →
      (x.dest m).getPort = x.msgIn.addrRemote.getPort) := by
  unfold Arrival.dest
  cases m.responsePort with
  | none => exact ⟨isSameIP_self _, nofun, fun _ => rfl⟩
  | some port =>
    cases x.msgIn.fConnectionOriented with
    | true => exact ⟨isSameIP_self _, fun _ _ hf => absurd hf.symm Bool.false_ne_true, fun _ => rfl⟩
    | false =>
      refine ⟨isSameIP_setPort _ _, fun port' hp _ => ?_, fun hor => ?_⟩
      · rw [← Option.some.inj hp]
        exact getPort_setPort _ _
      · rcases hor with hn | hf
        · cases hn
        · exact absurd hf Bool.false_ne_true

/-- A socket that is asked for and served is in use. -/
theorem outputRole_valid (hvalid : (x.addrSet.set x.msgIn.socketrole).fValid = true)
    (hs : x.Servable m) : (x.addrSet.set (m.outputRole x.msgIn.socketrole)).fValid = true := by
  by_cases ha : m.AsksChange
  · exact hs.role ha
  · rwa [outputRole_of_not_asksChange ha]

end

/-- Where the response to a request leaves and goes to, and when a Binding request that the
provider admits is refused. -/
theorem response_routing (D : Digests) {r : CStunMessageReader} (h : HoldsRequest r)
    {x : Arrival} (hin : x.msgIn.pReader = some r) (out : StunMessageOut) {buf : CBuffer}
    (hout : out.spBufferOut = some buf) (hcap : 800 ≤ buf.getAllocatedSize)
    (hvalid : (x.addrSet.set x.msgIn.socketrole).fValid = true) :
    ∃ m : Message, r.stream.bytes = m.encode ∧
      let res := serve D x out
      let resp := responseReader res.2
      (x.addrSet.set res.2.socketrole).fValid = true ∧
      (resp.getMessageClass = .successResponse ∨ resp.getMessageClass = .failureResponse) ∧
      (resp.getMessageClass = .failureResponse → res.2.socketrole = x.msgIn.socketrole) ∧
      (resp.getMessageClass = .successResponse → res.2.socketrole.code =
        x.msgIn.socketrole.code ^^^ (if m.change.fChangeIP then 2 else 0) ^^^
          (if m.change.fChangePort then 1 else 0)) ∧
      res.2.addrDest.isSameIP x.msgIn.addrRemote = true ∧
      (∀ port, m.responsePort = some port → x.msgIn.fConnectionOriented = false →
        res.2.addrDest.getPort = port) ∧
      (m.responsePort = none ∨ x.msgIn.fConnectionOriented = true →
        res.2.addrDest.getPort = x.msgIn.addrRemote.getPort) ∧
      (m.method = StunMsgTypeBinding → Arrival.Admits D x.pAuth m →
        (resp.getMessageClass = .failureResponse ∧ resp.getErrorCode = .ok 400 ↔ Unservable x m) ∧
        (resp.getMessageClass = .successResponse ↔ ¬Unservable x m)) := by
  obtain ⟨m, hm, hserved⟩ := served D h hin hout hcap
  obtain ⟨hip, hport, hremote⟩ := dest_spec x m
  refine ⟨m, hm.stored.bytes, ?_⟩
  dsimp only
  rw [hserved.answered.dest]
  rcases hserved.cases with ⟨e, hv, hparsed, hcls, hrole⟩ | ⟨c, hv, hparsed, hcls, hrole⟩
  · rw [hcls, hrole, errorReply_code hparsed]
    refine ⟨hvalid, Or.inr rfl, fun _ => rfl, nofun, hip, hport, hremote, ?_⟩
    intro hmethod hadmits
    obtain ⟨hbad, hgood⟩ := verdict_of_admits hmethod hadmits
    have hu : Unservable x m := by
      by_contra hn
      obtain ⟨c, hc⟩ := hgood hn
      rw [hv] at hc
      cases hc
    have he : e = .badRequest := by
      rw [hbad hu, Except.error.injEq] at hv
      exact hv.symm
    exact ⟨⟨fun _ => hu, fun _ => ⟨rfl, by rw [he]; rfl⟩⟩, nofun, fun hn => absurd hu hn⟩
  · rw [hcls, hrole]
    refine ⟨outputRole_valid hvalid (verdict_eq_ok.mp hv).2.2, Or.inl rfl, nofun,
      fun _ => code_changeSocket m.change _, hip, hport, hremote, ?_⟩
    intro hmethod hadmits
    obtain ⟨hbad, -⟩ := verdict_of_admits hmethod hadmits
    have hu : ¬Unservable x m := by
      intro hu
      rw [hbad hu] at hv
      cases hv
    exact ⟨⟨fun hf => (nomatch hf.1), fun hn => absurd hn hu⟩, fun _ => hu, fun _ => rfl⟩

/-- A request for an answer from the other address and the other port, sent to port 5000. -/
def elsewhereRequest : Message where
  method := StunMsgTypeBinding
  cls := .request
  tid := List.Vector.replicate 16 7
  attrs :=
    [Record.ofValue STUN_ATTRIBUTE_CHANGEREQUEST [0, 0, 0, 6] (by decide),
      Record.ofValue STUN_ATTRIBUTE_RESPONSE_PORT [0x13, 0x88] (by decide)]
  isMethod := isMethod_binding
  cls_ne := request_ne_invalid
  count_le := by decide
  value_le := by decide
  body_le := by decide

/-- The request at a server with all four sockets in use. -/
def elsewhereArrival : Arrival :=
  { sampleArrival.withReader (readBack elsewhereRequest.encode) with
    addrSet := ⟨fun _ => ⟨.create, true⟩⟩ }

/-- It gets a success response from the opposite socket, to the port it names. -/
theorem response_routing_elsewhere :
    let res := serve sampleDigests elsewhereArrival sampleOut
    (responseReader res.2).getMessageClass = .successResponse ∧ res.2.socketrole = .roleAA ∧
      res.2.addrDest.isSameIP (.addr4 1 0x7f000001) = true ∧ res.2.addrDest.getPort = 5000 := by
  obtain ⟨m, hbytes, -, -, -, hrole, hip, hport, -, hserved⟩ := response_routing sampleDigests
    (holdsRequest_encode (m := elsewhereRequest) rfl) (x := elsewhereArrival) rfl sampleOut rfl
    sampleBuffer_capacity rfl
  obtain rfl : elsewhereRequest = m :=
    Message.encode_inj ((parsed_encode elsewhereRequest).stored.bytes.symm.trans hbytes)
  have hservable : ¬Unservable elsewhereArrival elsewhereRequest :=
    not_unservable_iff.mpr ⟨⟨fun _ => by decide, fun _ => rfl, fun _ => rfl⟩, fun _ => rfl⟩
  have hsuccess := (hserved rfl (by rintro auth ⟨⟩)).2.mpr hservable
  refine ⟨hsuccess, ?_, hip, hport 5000 (by decide) rfl⟩
  have hcode := hrole hsuccess
  revert hcode
  generalize (serve sampleDigests elsewhereArrival sampleOut).2.socketrole = role
  cases role <;> decide

end StunServer

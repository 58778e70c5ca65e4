import StunServer.Proofs.TcpClient

/-! What `TcpClientLoop` passes to the client logic is what it has received, unless the peer
closes the connection before its first byte: then it is the request. -/

namespace StunServer

open Bytes

/-- The buffer holds what was received for it. -/
def TcpFed.IsExact (fed : TcpFed) : Prop :=
  fed.spMsg.bytes = fed.received ∧ fed.spMsg.getSize = fed.received.length

namespace TcpClient

variable {client client' : TcpClient} {turn : TcpTurn} {hrRet : Option HRESULT} {fed : TcpFed}

theorem Receiving.Stores.isExact {request : CBuffer} {s : Receiving} (h : s.Stores request)
    (hne : s.received ≠ []) : s.spMsg.bytes = s.received ∧ s.spMsg.getSize = s.received.length := by
  have hsize := h.size hne
  refine ⟨?_, hsize⟩
  rw [CBuffer.bytes, ← h.front, h.count]
  exact congrArg (s.spMsg.data.take ·) hsize

/-- One pass. -/
theorem pass_isExact (h : client.pass turn = (hrRet, .ok (fed, client'))) :
    (fed.IsExact ↔ turn.closesAtOnce = false) ∧
      client'.spMsg.getAllocatedSize = client.spMsg.getAllocatedSize := by
  obtain ⟨-, request, addrDest, clientlogic, hcall, hexchange⟩ := pass_ok h
  obtain ⟨hcap, hsame, hrequest⟩ := CStunClientLogic.getNextMessage_buffer hcall
  obtain ⟨s, hreceive, hreceived, hmsg, hkept, -⟩ := exchange_ok hexchange
  have hstores : s.Stores request := (Receiving.Stores.start _ request).loop hreceive
  refine ⟨?_, (congrArg _ hkept).trans (hstores.allocated.trans hsame)⟩
  have hcap' : 800 ≤ request.getAllocatedSize := hsame.ge.trans' hcap
  rw [← Bool.not_eq_true, ← received_eq_nil_iff hcap' hreceive, TcpFed.IsExact, hreceived, hmsg]
  constructor
  · rintro ⟨hbytes, -⟩ hnil
    rw [hstores.untouched hnil, hnil] at hbytes
    exact hrequest hbytes
  · exact hstores.isExact

theorem loop_isExact (client : TcpClient) (turns : List TcpTurn) :
    ∀ e ∈ (loop turns client).fed, e.2.IsExact ↔ e.1.closesAtOnce = false := by
  induction turns generalizing client with
  | nil => exact fun e he => absurd he List.not_mem_nil
  | cons turn turns ih =>
    rw [loop]
    cases hpass : client.pass turn with
    | mk hrRet result =>
      cases result with
      | error ending => exact fun e he => absurd he List.not_mem_nil
      | ok next =>
        intro e he
        rcases List.mem_cons.mp he with rfl | hmem
        · exact (pass_isExact hpass).1
        · exact ih next.2 e hmem

end TcpClient

/-- In every run of the loop, what the client logic is given is exactly what was received on each
of the connections just if none of the peers closes its connection before the first byte. -/
theorem only_received_fed_iff (config : StunClientLogicConfig) (socketconfig : ClientSocketConfig)
    (turns : List TcpTurn) :
    (∀ e ∈ (tcpClientLoop config socketconfig turns).fed, e.2.IsExact) ↔
      ∀ e ∈ (tcpClientLoop config socketconfig turns).fed, e.1.closesAtOnce = false := by
  have hrun : ∀ e ∈ (tcpClientLoop config socketconfig turns).fed,
      (e.2.IsExact ↔ e.1.closesAtOnce = false) := by
    rw [tcpClientLoop]
    cases CStunClientLogic.initializeWith config .create with
    | error hr c => exact fun e he => absurd he List.not_mem_nil
    | ok _ c => exact TcpClient.loop_isExact _ turns
  exact forall₂_congr hrun

/-- A client that asks a server on port 3478. -/
def sampleTcpConfig : StunClientLogicConfig where
  addrServer := .addr4 (htons DEFAULT_STUN_PORT) 0x04030201
  fTimeoutIsInstant := false
  timeoutSeconds := 0
  uMaxAttempts := 1
  fBehaviorTest := false
  fFilteringTest := false

def sampleSocketConfig : ClientSocketConfig := ⟨AF_INET, .sockStream, .addr4 0 0⟩

/-- A turn in which every call succeeds and the peer closes the connection at once. -/
def closedTurn (timeCurrentMilliseconds : UInt32) : TcpTurn where
  tcpInit := S_OK
  entropy := ⟨⟨[1, 2, 3, 4, 5, 6, 7, 8], rfl⟩, ⟨[0, 0, 0, 0, 0, 0, 0, 0, 0, 0, 0, 0, 0, 0, 0, 0], rfl⟩⟩
  timeCurrentMilliseconds := timeCurrentMilliseconds
  connect := S_OK
  sends := []
  recvs := []
  addrLocal := .addr4 0 0

theorem request_fed_back_bytes :
    (tcpClientLoop sampleTcpConfig sampleSocketConfig [closedTurn 1000]).fed.map
        (fun e => (e.2.received, e.2.spMsg.bytes)) =
      [([], [0, 1, 0, 8, 33, 18, 164, 66, 1, 2, 3, 4, 5, 6, 7, 8, 0, 0, 0, 0,
        0, 3, 0, 4, 0, 0, 0, 0])] := by
  decide +kernel

/-- The client logic gets the 28 bytes of the request though nothing was received. -/
theorem request_fed_back :
    ¬∀ e ∈ (tcpClientLoop sampleTcpConfig sampleSocketConfig [closedTurn 1000]).fed,
      e.2.IsExact := by
  intro hexact
  obtain ⟨e, fed, hfed, hbytes, -⟩ := List.map_eq_cons_iff.mp request_fed_back_bytes
  have hfirst := (hexact e (by rw [hfed]; exact List.mem_cons_self)).1
  obtain ⟨hreceived, hmsg⟩ := Prod.mk.inj hbytes
  rw [hreceived, hmsg] at hfirst
  cases hfirst

end StunServer

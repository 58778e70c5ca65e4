import StunServer.Proofs.Client
import StunServer.Spec.Network
import StunServer.Results.Routing

/-! A client, its NAT and its server: what the server answers to the requests of each test,
which of the answers pass the NAT, and what the client has found out so far. -/

namespace StunServer

open Bytes CStunRequestHandler CStunMessageReader CStunClientLogic

/-! ### Endpoints -/

theorem getPort_inj {a b : CSocketAddress} (h : a.getPort = b.getPort) :
    a.getPort_NBO = b.getPort_NBO := by
  have hntohs := congrArg htons h
  rwa [CSocketAddress.getPort, CSocketAddress.getPort, htons_ntohs, htons_ntohs] at hntohs

theorem isSameIP_and_Port_iff {a b : CSocketAddress} : a.isSameIP_and_Port b = true ↔ a = b := by
  rw [CSocketAddress.isSameIP_and_Port, Bool.and_eq_true, decide_eq_true_eq]
  constructor
  · rintro ⟨hip, hport⟩
    have hnbo := getPort_inj hport
    cases a with
    | addr4 port ip =>
      cases b with
      | addr4 port' ip' =>
        have hload := congrArg load32 (of_decide_eq_true hip)
        rw [load32_mem32, load32_mem32] at hload
        rw [show port = port' from hnbo, hload]
      | addr6 port' ip' => cases hip
    | addr6 port ip =>
      cases b with
      | addr4 port' ip' => cases hip
      | addr6 port' ip' =>
        rw [show port = port' from hnbo, List.Vector.toList_injective (of_decide_eq_true hip)]
  · rintro rfl
    exact ⟨isSameIP_self a, rfl⟩

theorem isIPAddressZero_setPort (a : CSocketAddress) (p : UInt16) :
    (a.setPort p).isIPAddressZero = a.isIPAddressZero := by
  cases a <;> rfl

theorem setPort_setPort (a : CSocketAddress) (p q : UInt16) :
    (a.setPort p).setPort q = a.setPort q := by
  cases a <;> rfl

namespace Grid

variable (grid : Grid)

theorem isIPAddressZero_endpoint (role : SocketRole) :
    (grid.endpoint role).isIPAddressZero = false := by
  cases role <;> simp [endpoint, isIPAddressZero_setPort, grid.addrP_ne, grid.addrA_ne]

theorem getPort_endpoint_ne (role : SocketRole) : (grid.endpoint role).getPort ≠ 0 := by
  cases role <;> simp [endpoint, getPort_setPort, grid.portP_ne, grid.portA_ne]

theorem isSameIP_comm (a b : CSocketAddress) : a.isSameIP b = b.isSameIP a := by
  cases a <;> cases b <;> simp [CSocketAddress.isSameIP, eq_comm]

/-- Endpoints that differ in the address. -/
theorem isSameIP_swapIP (role : SocketRole) :
    (grid.endpoint role).isSameIP (grid.endpoint (socketRoleSwapIP (socketRoleSwapPort role))) =
      false := by
  have hd := grid.distinct
  have hd' := (isSameIP_comm grid.addrA grid.addrP).trans hd
  cases role <;>
    simp [endpoint, socketRoleSwapIP, socketRoleSwapPort, SocketRole.code, SocketRole.ofCode,
      isSameIP_setPort_setPort, hd, hd']

theorem endpoint_swapPort (role : SocketRole) :
    (grid.endpoint role).isSameIP (grid.endpoint (socketRoleSwapPort role)) = true ∧
      (grid.endpoint role).getPort ≠ (grid.endpoint (socketRoleSwapPort role)).getPort := by
  have hp := grid.ports
  cases role <;>
    simp [endpoint, socketRoleSwapPort, SocketRole.code, SocketRole.ofCode,
      isSameIP_setPort_setPort, isSameIP_self, getPort_setPort, hp, hp.symm]

theorem endpoint_injective {role role' : SocketRole} (h : grid.endpoint role = grid.endpoint role') :
    role = role' := by
  have hd := grid.distinct
  have hd' := (isSameIP_comm grid.addrA grid.addrP).trans hd
  have hp := grid.ports
  have hip : (grid.endpoint role).isSameIP (grid.endpoint role') = true := by
    rw [← h]
    exact isSameIP_self _
  have hport := congrArg CSocketAddress.getPort h
  clear h
  cases role <;> cases role' <;>
    simp [endpoint, isSameIP_setPort_setPort, getPort_setPort, hd, hd', hp, hp.symm] at hip hport ⊢

theorem roleAt_endpoint (role : SocketRole) : grid.roleAt (grid.endpoint role) = some role := by
  have hfind : ∀ roles : List SocketRole, role ∈ roles →
      roles.find? (fun r => grid.endpoint r = grid.endpoint role) = some role := by
    intro roles
    induction roles with
    | nil => exact nofun
    | cons r roles ih =>
      intro hmem
      by_cases hr : grid.endpoint r = grid.endpoint role
      · rw [List.find?_cons_of_pos (by simpa using hr), grid.endpoint_injective hr]
      · rw [List.find?_cons_of_neg (by simpa using hr)]
        refine ih ((List.mem_cons.mp hmem).resolve_left ?_)
        rintro rfl
        exact hr rfl
  exact hfind _ (by cases role <;> decide)

/-- The address a client works out from the one it knows and the other one. -/
theorem setPort_endpoint (role : SocketRole) :
    (grid.endpoint role).setPort
        (grid.endpoint (socketRoleSwapIP (socketRoleSwapPort role))).getPort =
      grid.endpoint (socketRoleSwapPort role) ∧
    (grid.endpoint (socketRoleSwapIP (socketRoleSwapPort role))).setPort
        (grid.endpoint role).getPort = grid.endpoint (socketRoleSwapIP role) := by
  cases role <;>
    simp [endpoint, socketRoleSwapIP, socketRoleSwapPort, SocketRole.code, SocketRole.ofCode,
      setPort_setPort, getPort_setPort]

end Grid

/-! ### The filter -/

namespace FilterRule

variable {contacted : List CSocketAddress} {addr source : CSocketAddress}

/-- Whoever has been sent to may answer. -/
theorem passes_contacted (rule : FilterRule) (h : source ∈ contacted) :
    rule.passes contacted source = true := by
  cases rule with
  | endpointIndependent => rfl
  | addressDependent => exact List.any_eq_true.mpr ⟨source, h, isSameIP_self source⟩
  | addressAndPortDependent =>
    exact List.any_eq_true.mpr ⟨source, h, isSameIP_and_Port_iff.mpr rfl⟩

theorem any_eq_of_forall {p : CSocketAddress → Bool} (h : addr ∈ contacted)
    (hall : ∀ a ∈ contacted, a = addr) : contacted.any p = [addr].any p := by
  rw [Bool.eq_iff_iff, List.any_eq_true, List.any_eq_true]
  constructor
  · rintro ⟨a, ha, hp⟩
    exact ⟨addr, List.mem_singleton_self _, hall a ha ▸ hp⟩
  · rintro ⟨a, ha, hp⟩
    rw [List.mem_singleton] at ha
    exact ⟨addr, h, ha ▸ hp⟩

/-- Sending to one endpoint several times is like sending to it once. -/
theorem passes_of_forall (rule : FilterRule) (h : addr ∈ contacted)
    (hall : ∀ a ∈ contacted, a = addr) :
    rule.passes contacted source = rule.passes [addr] source := by
  cases rule with
  | endpointIndependent => rfl
  | addressDependent => exact any_eq_of_forall h hall
  | addressAndPortDependent => exact any_eq_of_forall h hall

end FilterRule

/-! ### Requests and responses -/

namespace Site

variable (site : Site)

/-- The socket that the request of a test goes to. -/
def roleOf : IStunClientTest → SocketRole
  | .binding => site.target
  | .behavior fIsTest3 => if fIsTest3 then site.roleAA else site.roleAP
  | .filtering _ => site.target

/-- The socket that its response comes from. -/
def roleBack (t : IStunClientTest) : SocketRole := changeSocket t.change (site.roleOf t)

/-- The response passes the filter when nobody else has been sent to. -/
def LetsThrough (t : IStunClientTest) : Prop :=
  site.rule.passes [site.grid.endpoint (site.roleOf t)] (site.grid.endpoint (site.roleBack t)) = true

instance (t : IStunClientTest) : Decidable (site.LetsThrough t) :=
  inferInstanceAs (Decidable (_ = true))

/-- What a test reads off its response. -/
def answerOf (t : IStunClientTest) : Answer :=
  ⟨site.mapped (site.roleOf t),
    some (site.grid.endpoint (socketRoleSwapIP (socketRoleSwapPort (site.roleOf t)))),
    site.addrLocal⟩

/-- A request as the server gets it. -/
def arrival (role : SocketRole) (data : List UInt8) : Arrival :=
  ⟨⟨role, site.grid.endpoint role, site.mapped role, some (readBack data), false⟩,
    site.grid.addrSet, none⟩

section

variable (role : SocketRole) (change : StunChangeRequestAttribute) (tid : StunTransactionId)

theorem responsePort_bindingRequest : (bindingRequest change tid).responsePort = none := by
  have hfind : (bindingRequest change tid).find STUN_ATTRIBUTE_RESPONSE_PORT = none := by
    rw [Message.find, bindingRequest, List.reverse_singleton, List.find?_cons_of_neg]
    · rfl
    · rw [CStunMessageBuilder.record_type]
      decide
  rw [Message.responsePort, hfind]

theorem verdict_bindingRequest (data : List UInt8) :
    (site.arrival role data).verdict site.D (bindingRequest change tid) = .ok none := by
  have hport := responsePort_bindingRequest change tid
  exact verdict_eq_ok.mpr ⟨⟨rfl, fun hp => absurd hport hp⟩, rfl,
    ⟨fun hp => absurd hport hp, fun _ => rfl, fun _ => rfl⟩⟩

/-- The response of the server to a request. -/
noncomputable def response : Message :=
  (site.arrival role (bindingRequest change tid).encode).successReply site.D
    (bindingRequest change tid) none

theorem respond_bindingRequest (test : IStunClientTest) :
    site.respond ⟨test, site.grid.endpoint role, (bindingRequest change tid).encode⟩ =
      some ⟨changeSocket change role, site.mapped role, (site.response role change tid).encode⟩ := by
  set m := bindingRequest change tid with hm
  set x := site.arrival role m.encode with hx
  have hle := m.encode_length_le
  have hverdict : x.verdict site.D m = .ok none := site.verdict_bindingRequest role change tid _
  have hanswer : x.answer site.D m.encode =
      some ⟨changeSocket change role, site.mapped role, (site.response role change tid).encode⟩ := by
    have hdest : x.dest m = site.mapped role := by
      rw [Arrival.dest, responsePort_bindingRequest]
      rfl
    rw [Arrival.answer_encode rfl, hdest, Arrival.replyRole, Arrival.reply, hverdict]
    dsimp only
    rw [Message.outputRole, hm, bindingRequest_change]
    rfl
  obtain ⟨hpacket, -⟩ := packetOf_processRequest (D := site.D) (x := x)
    (fed_once (b := m.encode) (by omega)).2 rfl
    (rfl : (⟨.rolePP, .create, some (.initWithAllocation MAX_STUN_MESSAGE_SIZE)⟩ :
      StunMessageOut).spBufferOut = some _)
    (by rw [CBuffer.getAllocatedSize, CBuffer.initWithAllocation, List.length_replicate]; exact le_rfl)
  rw [respond, site.grid.roleAt_endpoint, Option.bind_some]
  exact hpacket.trans hanswer

theorem response_reads :
    let reader := readBack (site.response role change tid).encode
    reader.getAnyMappedAddress = .ok (site.mapped role) ∧
      reader.getOtherAddress =
        .ok (site.grid.endpoint (socketRoleSwapIP (socketRoleSwapPort role))) := by
  classical
  have hparsed := parsed_encode (site.response role change tid)
  have hknows : (site.arrival role (bindingRequest change tid).encode).KnowsOther :=
    ⟨fun _ => rfl, site.grid.isIPAddressZero_endpoint _⟩
  constructor
  · rw [getAnyMappedAddress, success_getXorMappedAddress hparsed]
    rfl
  · rw [success_getOtherAddress hparsed, if_pos hknows]
    rfl

end

end Site
end StunServer

import StunServer.Spec.Network
import StunServer.Spec.UdpClient

/-! The loop over UDP behind a NAT: what its passes receive is what the server answers to its
requests and the NAT lets through. -/

namespace StunServer

/-- A pass of the loop: when it comes, and the request, if there is one, whose response it
receives. -/
structure NetTurn where
  entropy : CStunMessageBuilder.Entropy
  milliseconds : ℕ
  deliver : Option ℕ

/-- Of the responses that are let through, each test has got one before it was given up. -/
def World.NothingDue (w : World) : Prop := ∀ t ∈ w.due, t ∈ w.reached

instance (w : World) : Decidable w.NothingDue := inferInstanceAs (Decidable (∀ _ ∈ _, _))

namespace Site

variable (site : Site)

/-- The world once the pass has asked for a message, and sent it. -/
def polled (w : World) (turn : NetTurn) : World :=
  site.step w (.poll turn.entropy (.initWithAllocation MAX_STUN_MESSAGE_SIZE)
    (getMillisecondCounter turn.milliseconds))

/-- What comes in. -/
def incoming (w : World) (turn : NetTurn) : Option SentPacket :=
  (turn.deliver.bind fun index => w.requests[index]?).bind (site.arriving w.requests)

/-- What the socket of the client comes back with. -/
def waitOf (w : World) (turn : NetTurn) : UdpWait :=
  (site.incoming (site.polled w turn) turn).elim .timedOut fun packet =>
    .ready (.datagram packet.data (site.grid.endpoint packet.socketrole) (some site.addrLocal))

/-- The world after the pass. -/
def passed (w : World) (turn : NetTurn) : World :=
  turn.deliver.elim (site.polled w turn) fun index => site.step (site.polled w turn) (.deliver index)

def afterPasses (w : World) (turns : List NetTurn) : World := turns.foldl site.passed w

/-- The passes, as the loop meets with them. -/
def udpTurns : World → List NetTurn → List UdpTurn
  | _, [] => []
  | w, turn :: turns =>
    ⟨turn.entropy, turn.milliseconds, site.waitOf w turn⟩ :: udpTurns (site.passed w turn) turns

end Site
end StunServer

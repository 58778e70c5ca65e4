import StunServer.Proofs.SampleAuthProvider
import StunServer.Results.Authentication
import StunServer.Results.Signature

/-! The server with the short-term provider of the sample: what it makes of a request. -/

namespace StunServer

open SampleAuthProvider CStunMessageReader CStunRequestHandler

/-- The provider as the handler sees it. `pResponse` is what it finds in the response. -/
def CShortTermAuth.provider (pResponse : AuthResponse) : IStunAuth :=
  ⟨fun pAuthAttributes => (S_OK, CShortTermAuth.doAuthCheck pAuthAttributes pResponse)⟩

/-- The request in a reader is signed by a user of the server. -/
def CShortTermAuth.Accepts (D : Digests) (r : CStunMessageReader) : Prop :=
  ∃ password, (cstr (authAttributes r).szUser.toList, password) ∈ users ∧
    r.validateMessageIntegrityShort D password = .ok ()

section

variable {D : Digests} {x : Arrival} {m : Message} {r : CStunMessageReader} {password : List UInt8}

end

end StunServer

import StunServer.Proofs.SampleAuthServer

/-! The server with the short-term provider of the sample: who gets a success response, and what
the others get. -/

namespace StunServer

open SampleAuthProvider CStunMessageReader CStunRequestHandler

end StunServer

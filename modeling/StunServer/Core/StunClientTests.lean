import StunServer.Core.StunReader
import StunServer.Core.StunBuilder

/-! The tests of a client, `stunclienttests.cpp`, with the configuration and the results
they share. A test works on its own state and on the results. -/

namespace StunServer

open Bytes

structure StunClientLogicConfig where
  addrServer : CSocketAddress
  fTimeoutIsInstant : Bool
  timeoutSeconds : UInt32
  uMaxAttempts : UInt32
  fBehaviorTest : Bool
  fFilteringTest : Bool

structure StunClientResults where
  fBindingTestSuccess : Bool
  fIsDirect : Bool
  addrLocal : CSocketAddress
  addrMapped : CSocketAddress
  fHasOtherAddress : Bool
  addrPA : CSocketAddress
  addrAP : CSocketAddress
  addrAA : CSocketAddress
  fBehaviorTestSuccess : Bool
  behavior : NatBehavior
  addrMappingAP : CSocketAddress
  addrMappingAA : CSocketAddress
  fFilteringTestSuccess : Bool
  filtering : NatFiltering
  fGotTest2Response : Bool
  fGotTest3Response : Bool
  errorBitmask : UInt32
deriving DecidableEq

/-- `Init()`. -/
def StunClientResults.create : StunClientResults where
  fBindingTestSuccess := false
  fIsDirect := false
  addrLocal := .create
  addrMapped := .create
  fHasOtherAddress := false
  addrPA := .create
  addrAP := .create
  addrAA := .create
  fBehaviorTestSuccess := false
  behavior := .unknownBehavior
  addrMappingAP := .create
  addrMappingAA := .create
  fFilteringTestSuccess := false
  filtering := .unknownFiltering
  fGotTest2Response := false
  fGotTest3Response := false
  errorBitmask := 0

/-- `IsTransactionIdValid` of `stunutils.cpp`. -/
def isTransactionIdValid (transid : StunTransactionId) : Bool := transid ≠ List.Vector.replicate _ 0

structure CStunClientTestBase where
  fCompleted : Bool
  transid : StunTransactionId
deriving DecidableEq

/-- What a call on a test reads and writes: the test and the results it points to. -/
structure ClientTestState where
  test : CStunClientTestBase
  results : StunClientResults
deriving DecidableEq

namespace CStunClientTestBase

/-- After `Init`. -/
def create : CStunClientTestBase := ⟨false, List.Vector.replicate _ 0⟩

def startBindingRequest (test : CStunClientTestBase) (entropy : CStunMessageBuilder.Entropy) :
    Hr CStunMessageBuilder Unit := do
  Hr.ignore CStunMessageBuilder.addBindingRequestHeader
  if isTransactionIdValid test.transid then
    Hr.ignore (CStunMessageBuilder.addTransactionId test.transid)
  else
    Hr.ignore (CStunMessageBuilder.addRandomTransactionId entropy)

/-- A test draws its transaction id once and keeps it. -/
def storeTransactionId (test : CStunClientTestBase) (entropy : CStunMessageBuilder.Entropy) :
    CStunClientTestBase :=
  if isTransactionIdValid test.transid then test
  else { test with transid := CStunMessageBuilder.randomTransactionId entropy }

/-- The reader of a message that is complete and has the transaction id of the test. -/
def basicReaderValidation (test : CStunClientTestBase) (spMsg : CBuffer) :
    Except HRESULT CStunMessageReader :=
  let (readerstate, reader) :=
    CStunMessageReader.create.addBytes (some spMsg.data) (UInt32.ofNat spMsg.getSize)
  if readerstate ≠ .bodyValidated then .error E_FAIL
  else if reader.getTransactionId ≠ test.transid then .error E_FAIL
  else .ok reader

/-- The calls on the builder; nobody looks at their result codes. A change request is
always there, as some servers do not answer a request without one. -/
def writeRequest (test : CStunClientTestBase) (change : StunChangeRequestAttribute)
    (entropy : CStunMessageBuilder.Entropy) : Hr CStunMessageBuilder Unit := do
  test.startBindingRequest entropy
  Hr.ignore (CStunMessageBuilder.addChangeRequest change)
  Hr.ignore CStunMessageBuilder.fixLengthField

/-- A Binding request in the caller's buffer, and the test once it is there. -/
def getMessage (change : StunChangeRequestAttribute) (entropy : CStunMessageBuilder.Entropy)
    (spMsg : CBuffer) (test : CStunClientTestBase) : CBuffer × CStunClientTestBase :=
  let builder := CStunMessageBuilder.create.attachStream spMsg
  let builder := (test.writeRequest change entropy).after builder
  (builder.stream.sharedBuffer.getD spMsg, test.storeTransactionId entropy)

end CStunClientTestBase

/-- The mapped address of a response, in either of its two forms. -/
def CStunMessageReader.getAnyMappedAddress (reader : CStunMessageReader) :
    Except HRESULT CSocketAddress :=
  match reader.getXorMappedAddress with
  | .ok addrMapped => .ok addrMapped
  | .error _ => reader.getMappedAddress

/-! ### `CBasicBindingTest` -/

namespace CBasicBindingTest

def isReadyToRun (s : ClientTestState) : Bool := s.test.fCompleted = false

def change : StunChangeRequestAttribute := ⟨false, false⟩

def addrDest (config : StunClientLogicConfig) : CSocketAddress := config.addrServer

/-- The results after a response that maps the client to `addrMapped`. -/
def succeed (config : StunClientLogicConfig) (addrMapped : CSocketAddress)
    (addrOther : Option CSocketAddress) (addrLocal : CSocketAddress) (r : StunClientResults) :
    StunClientResults :=
  let r := { r with
    fBindingTestSuccess := true
    fIsDirect := addrLocal.isSameIP_and_Port addrMapped
    addrLocal := addrLocal
    addrMapped := addrMapped
    fHasOtherAddress := addrOther.isSome }
  match addrOther with
  | none => r
  | some addrOther =>
    { r with
      addrAA := addrOther
      addrPA := config.addrServer.setPort addrOther.getPort
      addrAP := addrOther.setPort config.addrServer.getPort }

def notifyTimeout (s : ClientTestState) : ClientTestState where
  test := { s.test with fCompleted := true }
  results := { s.results with fBindingTestSuccess := false }

end CBasicBindingTest

/-! ### `CBehaviorTest` -/

namespace CBehaviorTest

variable (fIsTest3 : Bool)

/-- Neither of the two tests is needed on a direct connection. -/
def preRunCheck (s : ClientTestState) : ClientTestState :=
  if fIsTest3 = false ∧ s.results.fBindingTestSuccess = true ∧ s.results.fIsDirect = true then
    { test := { s.test with fCompleted := true }
      results := { s.results with behavior := .directMapping, fBehaviorTestSuccess := true } }
  else s

def isReadyToRun (s : ClientTestState) : Bool :=
  let fRet := s.test.fCompleted = false && s.results.fBindingTestSuccess &&
    s.results.fHasOtherAddress && s.results.fBehaviorTestSuccess = false
  -- test 2 must have succeeded before test 3
  if fIsTest3 then fRet && s.results.addrMappingAP.isIPAddressZero = false else fRet

def change : StunChangeRequestAttribute := ⟨false, false⟩

def addrDest (r : StunClientResults) : CSocketAddress := if fIsTest3 then r.addrAA else r.addrAP

/-- The results after a response that maps the client to `addrMapped`. -/
def succeed (addrMapped : CSocketAddress) (r : StunClientResults) : StunClientResults :=
  if fIsTest3 then
    { r with
      addrMappingAA := addrMapped
      fBehaviorTestSuccess := true
      behavior :=
        if addrMapped.isSameIP_and_Port r.addrMappingAP then .addressDependentMapping
        else .addressAndPortDependentMapping }
  else
    let r := { r with addrMappingAP := addrMapped }
    if addrMapped.isSameIP_and_Port r.addrMapped then
      { r with fBehaviorTestSuccess := true, behavior := .endpointIndependentMapping }
    else r

def notifyTimeout (s : ClientTestState) : ClientTestState where
  test := { s.test with fCompleted := true }
  results := { s.results with fBehaviorTestSuccess := false }

end CBehaviorTest

/-! ### `CFilteringTest` -/

namespace CFilteringTest

variable (fIsTest3 : Bool)

def isReadyToRun (s : ClientTestState) : Bool :=
  s.test.fCompleted = false && s.results.fBindingTestSuccess && s.results.fHasOtherAddress &&
    s.results.fFilteringTestSuccess = false && s.results.fGotTest2Response = false

/-- Test 2 asks for an answer from the other address and port, test 3 from the other port. -/
def change : StunChangeRequestAttribute := ⟨!fIsTest3, true⟩

def addrDest (config : StunClientLogicConfig) : CSocketAddress := config.addrServer

/-- The results after a response; what is in it does not matter. -/
def succeed (r : StunClientResults) : StunClientResults :=
  if fIsTest3 then
    { r with
      fGotTest3Response := true
      fFilteringTestSuccess := true
      filtering := .addressDependentFiltering }
  else
    { r with
      fGotTest2Response := true
      fFilteringTestSuccess := true
      filtering := .endpointIndependentFiltering }

/-- No response to either test is an answer, too. -/
def notifyTimeout (s : ClientTestState) : ClientTestState where
  test := { s.test with fCompleted := true }
  results :=
    if fIsTest3 then
      { s.results with
        fFilteringTestSuccess := true
        filtering := .addressAndPortDependentFiltering }
    else s.results

end CFilteringTest

/-! ### `IStunClientTest` -/

/-- The tests that there are. -/
inductive IStunClientTest where
  | binding
  | behavior (fIsTest3 : Bool)
  | filtering (fIsTest3 : Bool)
deriving DecidableEq, Repr

namespace IStunClientTest

def preRunCheck : IStunClientTest → ClientTestState → ClientTestState
  | binding, s => s
  | behavior fIsTest3, s => CBehaviorTest.preRunCheck fIsTest3 s
  | filtering _, s => s

def isReadyToRun : IStunClientTest → ClientTestState → Bool
  | binding, s => CBasicBindingTest.isReadyToRun s
  | behavior fIsTest3, s => CBehaviorTest.isReadyToRun fIsTest3 s
  | filtering _, s => CFilteringTest.isReadyToRun s

def change : IStunClientTest → StunChangeRequestAttribute
  | binding => CBasicBindingTest.change
  | behavior _ => CBehaviorTest.change
  | filtering fIsTest3 => CFilteringTest.change fIsTest3

def addrDest (config : StunClientLogicConfig) (r : StunClientResults) :
    IStunClientTest → CSocketAddress
  | binding => CBasicBindingTest.addrDest config
  | behavior fIsTest3 => CBehaviorTest.addrDest fIsTest3 r
  | filtering _ => CFilteringTest.addrDest config

/-- The message, its destination, and what the call leaves behind. -/
def getMessage (config : StunClientLogicConfig) (entropy : CStunMessageBuilder.Entropy)
    (spMsg : CBuffer) (t : IStunClientTest) (s : ClientTestState) :
    (CBuffer × CSocketAddress) × ClientTestState :=
  let (spMsg, test) := s.test.getMessage t.change entropy spMsg
  ((spMsg, t.addrDest config s.results), { s with test := test })

/-- The results after a message the test accepts. The message is dropped if an address is
needed that it does not have. -/
def readResults (config : StunClientLogicConfig) (reader : CStunMessageReader)
    (addrLocal : CSocketAddress) (r : StunClientResults) :
    IStunClientTest → Except HRESULT StunClientResults
  | binding =>
    match reader.getAnyMappedAddress with
    | .error hr => .error hr
    | .ok addrMapped =>
      .ok (CBasicBindingTest.succeed config addrMapped reader.getOtherAddress.toOption addrLocal r)
  | behavior fIsTest3 =>
    match reader.getAnyMappedAddress with
    | .error hr => .error hr
    | .ok addrMapped => .ok (CBehaviorTest.succeed fIsTest3 addrMapped r)
  | filtering fIsTest3 => .ok (CFilteringTest.succeed fIsTest3 r)

/-- `ProcessResponse`; no test looks at `addrRemote`. -/
def processResponse (config : StunClientLogicConfig) (spMsg : CBuffer)
    (_addrRemote addrLocal : CSocketAddress) (t : IStunClientTest) : Hr ClientTestState Unit :=
  fun s =>
    match s.test.basicReaderValidation spMsg with
    | .error hr => .error hr s
    | .ok reader =>
      match t.readResults config reader addrLocal s.results with
      | .error hr => .error hr s
      | .ok r => .ok () { test := { s.test with fCompleted := true }, results := r }

def notifyTimeout : IStunClientTest → ClientTestState → ClientTestState
  | binding, s => CBasicBindingTest.notifyTimeout s
  | behavior _, s => CBehaviorTest.notifyTimeout s
  | filtering fIsTest3, s => CFilteringTest.notifyTimeout fIsTest3 s

end IStunClientTest
end StunServer

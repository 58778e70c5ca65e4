import StunServer.Core.StunClientTests
import StunServer.Lib.Loop
import Mathlib.Logic.Function.Basic

/-! `CStunClientLogic`, which runs the tests one after the other. Its caller sends the
messages it gets from `GetNextMessage` and passes on what comes back. -/

namespace StunServer

def E_STUNCLIENT_STILL_WAITING : HRESULT := Int32.ofBitVec 0x81010001#32
def E_STUNCLIENT_RESULTS_READY : HRESULT := Int32.ofBitVec 0x81010002#32

/-- A pointer in `_testlist` is the name of the test it points to. -/
structure CStunClientLogic where
  config : StunClientLogicConfig
  results : StunClientResults
  fInitialized : Bool
  timeLastMessageSent : UInt32
  sendCount : UInt32
  fPreCheckRunOnTest : Bool
  test : IStunClientTest → CStunClientTestBase
  testlist : List IStunClientTest
  nTestIndex : ℕ

namespace CStunClientLogic

/-- `_config` and `_fPreCheckRunOnTest` are not looked at before `Initialize` sets them. -/
def create : CStunClientLogic where
  config := ⟨.create, false, 0, 0, false, false⟩
  results := .create
  fInitialized := false
  timeLastMessageSent := 0
  sendCount := 0
  fPreCheckRunOnTest := false
  test := fun _ => .create
  testlist := []
  nTestIndex := 0

/-- The configuration with its defaults filled in. -/
def configure (config : StunClientLogicConfig) : StunClientLogicConfig :=
  { config with
    timeoutSeconds :=
      if config.fTimeoutIsInstant then 0
      else if config.timeoutSeconds = 0 then 3 else config.timeoutSeconds
    uMaxAttempts := if config.uMaxAttempts ≤ 0 then 2 else config.uMaxAttempts }

/-- The tests that are asked for, in the order they are run. -/
def testsOf (config : StunClientLogicConfig) : List IStunClientTest :=
  [.binding] ++
    (if config.fFilteringTest then [.filtering false, .filtering true] else []) ++
    (if config.fBehaviorTest then [.behavior false, .behavior true] else [])

/-- `Initialize`. -/
def initializeWith (config : StunClientLogicConfig) : Hr CStunClientLogic Unit := do
  let c ← get
  Hr.chkIf (c.fInitialized = true) E_UNEXPECTED
  Hr.chkIf (config.addrServer.isIPAddressZero = true) E_INVALIDARG
  Hr.chkIf (config.addrServer.getPort = 0) E_INVALIDARG
  set { c with
    config := configure config
    fInitialized := true
    nTestIndex := 0
    test := fun t => if t ∈ testsOf config then .create else c.test t
    testlist := testsOf config
    fPreCheckRunOnTest := false
    timeLastMessageSent := 0 }

/-- `_testlist[_nTestIndex]`, if there is a test left to run. -/
def currentTest (c : CStunClientLogic) : Option IStunClientTest := c.testlist[c.nTestIndex]?

/-- The test and the results, for a call on the test. -/
def scope (c : CStunClientLogic) (t : IStunClientTest) : ClientTestState := ⟨c.test t, c.results⟩

def setScope (t : IStunClientTest) (c : CStunClientLogic) (s : ClientTestState) :
    CStunClientLogic :=
  { c with test := Function.update c.test t s.test, results := s.results }

/-- A test gets the chance to complete before it sends anything. -/
def preCheck (t : IStunClientTest) (c : CStunClientLogic) : CStunClientLogic :=
  if c.fPreCheckRunOnTest = false then
    { c.setScope t (t.preRunCheck (c.scope t)) with fPreCheckRunOnTest := true }
  else c

def nextTest (c : CStunClientLogic) : CStunClientLogic :=
  { c with nTestIndex := c.nTestIndex + 1, sendCount := 0, fPreCheckRunOnTest := false }

/-- The time since the last message, in whole seconds. -/
def diff (c : CStunClientLogic) (timeCurrentMilliseconds : UInt32) : UInt32 :=
  (timeCurrentMilliseconds - c.timeLastMessageSent) / 1000

abbrev MessageResult := EStateM.Result HRESULT CStunClientLogic (CBuffer × CSocketAddress)

section

variable (entropy : CStunMessageBuilder.Entropy) (spMsg : CBuffer)
  (timeCurrentMilliseconds : UInt32)

/-- The message of the current test. -/
def sendMessage (t : IStunClientTest) (c : CStunClientLogic) : MessageResult :=
  let (msg, s) := t.getMessage c.config entropy spMsg (c.scope t)
  .ok msg
    { c.setScope t s with
      sendCount := c.sendCount + 1
      timeLastMessageSent := timeCurrentMilliseconds }

/-- A pass of the loop in `GetNextMessage` once the current test has been checked. -/
def serveTest (t : IStunClientTest) (c : CStunClientLogic) : MessageResult ⊕ CStunClientLogic :=
  if (c.test t).fCompleted || t.isReadyToRun (c.scope t) = false then .inr c.nextTest
  else if c.diff timeCurrentMilliseconds < c.config.timeoutSeconds ∧ c.sendCount ≠ 0 then
    .inl (.error E_STUNCLIENT_STILL_WAITING c)
  else if c.sendCount ≥ c.config.uMaxAttempts then
    .inr (c.setScope t (t.notifyTimeout (c.scope t)))
  else .inl (sendMessage entropy spMsg timeCurrentMilliseconds t c)

/-- A pass of the loop in `GetNextMessage`. -/
def pass (c : CStunClientLogic) : MessageResult ⊕ CStunClientLogic :=
  match c.currentTest with
  | none => .inl (.error E_STUNCLIENT_RESULTS_READY c)
  | some t => serveTest entropy spMsg timeCurrentMilliseconds t (c.preCheck t)

/-- A test takes two passes at most, one to give up and one to go on to the next test. -/
def getNextMessage : Hr CStunClientLogic (CBuffer × CSocketAddress) := do
  let c ← get
  Hr.chkIf (c.fInitialized = false) E_FAIL
  Hr.chkIf (spMsg.getAllocatedSize = 0) E_INVALIDARG
  Hr.chkIf (spMsg.getAllocatedSize < MAX_STUN_MESSAGE_SIZE) E_INVALIDARG
  fun c =>
    (Loop.run (pass entropy spMsg timeCurrentMilliseconds) (2 * c.testlist.length + 2) c).getD
      (.error E_UNEXPECTED c)

end

def processResponse (spMsg : CBuffer) (addrRemote addrLocal : CSocketAddress) :
    Hr CStunClientLogic Unit := do
  let c ← get
  Hr.chkIf (c.fInitialized = false) E_FAIL
  Hr.chkIf (spMsg.getSize = 0) E_INVALIDARG
  match c.currentTest with
  | none => throw E_UNEXPECTED
  | some t =>
    -- a response to a test that is completed
    Hr.chkIf ((c.test t).fCompleted = true) E_UNEXPECTED
    Hr.on (scope · t) (setScope t) (t.processResponse c.config spMsg addrRemote addrLocal)

def getResults (c : CStunClientLogic) : StunClientResults := c.results

end CStunClientLogic
end StunServer

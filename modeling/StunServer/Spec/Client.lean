import StunServer.Core.StunClientLogic
import StunServer.Spec.Attribute

/-! What a run of the client comes to: the tests in order, each with what became of it,
and the results that follow from that. -/

namespace StunServer

/-! ### Requests -/

section

open Bytes Tlv CStunMessageBuilder

/-- The flags of a change request in one word. -/
def StunChangeRequestAttribute.word (change : StunChangeRequestAttribute) : UInt32 :=
  (if change.fChangeIP then 0x04 else 0) ||| (if change.fChangePort then 0x02 else 0)

/-- A Binding request as the tests send it. -/
def bindingRequest (change : StunChangeRequestAttribute) (tid : StunTransactionId) : Message where
  method := StunMsgTypeBinding
  cls := .request
  tid := tid
  attrs := [record false STUN_ATTRIBUTE_CHANGEREQUEST (be32 change.word)
    (by rw [be32_length]; decide)]
  isMethod := isMethod_binding
  cls_ne := request_ne_invalid
  count_le := by rw [List.length_singleton]; decide
  value_le := by
    intro a ha
    rw [List.mem_singleton] at ha
    rw [ha, record_value_aligned _ _ _ (by rw [be32_length]), be32_length]
    decide
  body_le := by
    rw [sizeAll_cons, sizeAll_nil, record_size, be32_length]
    decide

end

/-! ### Histories -/

/-- What a test reads off a response. -/
structure Answer where
  addrMapped : CSocketAddress
  addrOther : Option CSocketAddress
  addrLocal : CSocketAddress

inductive Outcome where
  | skipped
  | answered (answer : Answer)
  | timedOut

abbrev Entry := IStunClientTest × Outcome

namespace IStunClientTest

/-- The results after an answer. -/
def succeed (config : StunClientLogicConfig) (answer : Answer) (r : StunClientResults) :
    IStunClientTest → StunClientResults
  | binding =>
    CBasicBindingTest.succeed config answer.addrMapped answer.addrOther answer.addrLocal r
  | behavior fIsTest3 => CBehaviorTest.succeed fIsTest3 answer.addrMapped r
  | filtering fIsTest3 => CFilteringTest.succeed fIsTest3 r

/-- A test just set up, after its early check. -/
def checked (t : IStunClientTest) (r : StunClientResults) : ClientTestState :=
  t.preRunCheck ⟨.create, r⟩

/-- The results so far call for a request of the test. -/
def Runs (t : IStunClientTest) (r : StunClientResults) : Prop :=
  (t.checked r).test.fCompleted = false ∧ t.isReadyToRun (t.checked r) = true

instance (t : IStunClientTest) (r : StunClientResults) : Decidable (t.Runs r) :=
  inferInstanceAs (Decidable (_ ∧ _))

end IStunClientTest

section

variable (config : StunClientLogicConfig)

/-- The results after one more test. -/
def replayStep (r : StunClientResults) : Entry → StunClientResults
  | (t, .skipped) => (t.checked r).results
  | (t, .answered answer) => t.succeed config answer r
  | (t, .timedOut) => (t.notifyTimeout ⟨.create, r⟩).results

def replay (h : List Entry) : StunClientResults := h.foldl (replayStep config) .create

/-- A test is skipped when the results so far do not call for it, and only then. -/
def Entry.Fits (r : StunClientResults) : Entry → Prop
  | (t, .skipped) => ¬t.Runs r
  | (t, .answered _) => t.Runs r
  | (t, .timedOut) => t.Runs r

inductive IsHistory : List Entry → Prop where
  | nil : IsHistory []
  | snoc {h : List Entry} {e : Entry} :
      IsHistory h → e.Fits (replay config h) → IsHistory (h ++ [e])

end

variable {config : StunClientLogicConfig}

@[simp] theorem replay_nil : replay config [] = .create := rfl

theorem replay_snoc (h : List Entry) (e : Entry) :
    replay config (h ++ [e]) = replayStep config (replay config h) e := by
  rw [replay, List.foldl_append]
  rfl

/-! ### The client follows its history -/

/-- Where the client stands with its current test. -/
inductive Phase where
  | unsent
  | waiting (t : IStunClientTest)
  | finished (e : Entry)

namespace Phase

def current : Phase → List IStunClientTest
  | unsent => []
  | waiting t => [t]
  | finished e => [e.1]

/-- The outcome that is known already. -/
def entry : Phase → List Entry
  | unsent => []
  | waiting _ => []
  | finished e => [e]

end Phase

namespace CStunClientLogic

/-- The early check of the binding test does nothing, and may be left to be done. -/
def InPhase (r : StunClientResults) (c : CStunClientLogic) : Phase → Prop
  | .unsent => c.sendCount = 0 ∧ c.fPreCheckRunOnTest = false
  | .waiting t =>
    c.sendCount ≠ 0 ∧ c.fPreCheckRunOnTest = true ∧ t.Runs r ∧ (c.test t).fCompleted = false ∧
      isTransactionIdValid (c.test t).transid = true
  | .finished (t, _) =>
    (c.fPreCheckRunOnTest = true ∨ t = .binding) ∧ (c.test t).fCompleted = true

/-- The client has the tests of `past` behind it, is in `phase` with the next one and has
those of `rest` before it; its results are those of its history. -/
structure Follows (config : StunClientLogicConfig) (past : List Entry) (phase : Phase)
    (rest : List IStunClientTest) (c : CStunClientLogic) : Prop where
  fInitialized : c.fInitialized = true
  config_eq : c.config = config
  attempts : config.uMaxAttempts ≠ 0
  testlist : c.testlist = testsOf config
  split : testsOf config = past.map Prod.fst ++ (phase.current ++ rest)
  index : c.nTestIndex = past.length
  history : IsHistory config (past ++ phase.entry)
  results : c.results = replay config (past ++ phase.entry)
  rest : ∀ t ∈ rest, c.test t = .create
  phase : c.InPhase (replay config past) phase

end CStunClientLogic
end StunServer

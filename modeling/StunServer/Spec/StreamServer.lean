import StunServer.Core.TcpConnection
import StunServer.Spec.Answer

/-! A stream server in terms of bytes alone: what it has read of a message, and what it
still has to send of a response. It has no reader, no buffers and no counters. -/

namespace StunServer

open Bytes

structure StreamServer where
  /-- The bytes of the message that is being received. -/
  inbox : List UInt8
  /-- What is left of the response. -/
  outbox : List UInt8
  incoming : List UInt8
  log : List IoEvent
  closed : Bool

namespace StreamServer

/-- A server that has a connection and has received nothing. -/
def start (incoming : List UInt8) : StreamServer := ⟨[], [], incoming, [], false⟩

def logged (event : IoEvent) (a : StreamServer) : StreamServer := { a with log := a.log ++ [event] }

def close (a : StreamServer) : StreamServer := { a with closed := true }

/-- The bytes that end the header, or else the message. -/
def needed (inbox : List UInt8) : ℕ :=
  if inbox.length < 20 then 20 - inbox.length
  else 20 + (lengthFieldOf inbox).toNat - inbox.length

section

variable (call : ConnectionCall)

def write : List IoResult → StreamServer → StreamServer
  | [], a => a
  | .wouldBlock :: _, a => a
  | .failed :: _, a => a.close
  | .count n :: results, a =>
    let k := min (max n 1) a.outbox.length
    let a : StreamServer := { a.logged (.sent (a.outbox.take k)) with outbox := a.outbox.drop k }
    if a.outbox = [] then if call.fReadEventSet then a else a.close
    else write results a

variable (D : Digests) (x : Arrival)

/-- The message in the inbox is answered. -/
noncomputable def respond (results : List IoResult) (a : StreamServer) : StreamServer :=
  let a := a.logged (.rateChecked x.msgIn.addrRemote)
  if call.allowed_to_pass = false then a.close
  else
    match x.answer D a.inbox with
    | none => a.close
    | some packet =>
      let a : StreamServer := { a with inbox := [], outbox := packet.data }
      if call.fWriteEventSet then a.write call results else a.close

open Classical in
/-- Bytes are received until they make a message, or until they cannot make one any more. -/
noncomputable def read : List IoResult → StreamServer → StreamServer
  | [], a => a
  | .wouldBlock :: _, a => a
  | .failed :: _, a => a.close
  | .count n :: results, a =>
    let buffer := a.incoming.take (min (max n 1) (needed a.inbox))
    if buffer = [] then a
    else
      let a : StreamServer := { a.logged (.received buffer) with
        inbox := a.inbox ++ buffer
        incoming := a.incoming.drop buffer.length }
      if Accepted true a.inbox then a.respond call D x results
      else if a.inbox.length < 20 ∨
          HeaderOk true a.inbox ∧ a.inbox.length < 20 + (lengthFieldOf a.inbox).toNat then
        read results a
      else a.close

/-- While a response is left it is sent, and nothing is received. -/
noncomputable def event (a : StreamServer) : StreamServer :=
  if a.closed then a
  else if a.outbox = [] then a.read call D x call.results
  else a.write call call.results

noncomputable def run (calls : List ConnectionCall) (a : StreamServer) : StreamServer :=
  calls.foldl (fun a call => a.event call D x) a

end

end StreamServer

/-- No system call fails, and the sender is not too fast. -/
structure ConnectionCall.Smooth (call : ConnectionCall) : Prop where
  results : ∀ r ∈ call.results, r ≠ .failed
  allowed : call.allowed_to_pass = true
  writeEvents : call.fWriteEventSet = true
  readEvents : call.fReadEventSet = true

/-- The event finds something to do: the first call comes back with a count. -/
def ConnectionCall.Eager (call : ConnectionCall) : Prop :=
  ∃ n results, call.results = .count n :: results

instance (call : ConnectionCall) : Decidable call.Eager :=
  match h : call.results with
  | .count n :: results => .isTrue ⟨n, results, h⟩
  | [] => .isFalse fun ⟨n, results, h'⟩ => by simp [h] at h'
  | .wouldBlock :: results => .isFalse fun ⟨n, results', h'⟩ => by simp [h] at h'
  | .failed :: results => .isFalse fun ⟨n, results', h'⟩ => by simp [h] at h'

/-! ### What the log says -/

/-- The bytes received, in order. -/
def receivedBytes (log : List IoEvent) : List UInt8 :=
  log.flatMap fun
    | .received data => data
    | _ => []

/-- The bytes sent, in order. -/
def sentBytes (log : List IoEvent) : List UInt8 :=
  log.flatMap fun
    | .sent data => data
    | _ => []

/-- Messages one behind the other. -/
def stream (ms : List Message) : List UInt8 := ms.flatMap Message.encode

/-- The replies to messages, one behind the other. -/
noncomputable def replies (D : Digests) (x : Arrival) (ms : List Message) : List UInt8 :=
  ms.flatMap fun m => (x.reply D m).encode

/-- The responses follow the requests: nothing is received behind a message before its
response is out, and nothing is sent that is no response. -/
structure InStep (D : Digests) (x : Arrival) (log : List IoEvent) (ms : List Message)
    (rest : List UInt8) : Prop where
  requests : ∀ m ∈ ms, m.cls = .request
  received : receivedBytes log = stream ms ++ rest
  sent : sentBytes log <+: replies D x ms
  before : replies D x ms.dropLast <+: sentBytes log
  complete : rest ≠ [] → sentBytes log = replies D x ms
  unanswered : ∀ m : Message, m.encode <+: rest → rest = m.encode

end StunServer

import StunServer.Proofs.ReaderFeed
import StunServer.Spec.StreamServer
import Mathlib.Data.List.Infix

/-! What a stream server does over a run: its log is always in step, whatever arrives, and
it never closes a connection on which requests arrive and nothing else goes wrong. -/

namespace StunServer

open Bytes CStunMessageReader

/-! ### Messages one behind the other -/

/-- A message says where it ends. -/
theorem encode_append_inj {m m' : Message} {c c' : List UInt8}
    (h : m.encode ++ c = m'.encode ++ c') : m = m' ∧ c = c' := by
  have hb : 20 ≤ m.encode.length := m.accepted.header.complete
  have hb' : 20 ≤ m'.encode.length := m'.accepted.header.complete
  have hfield : lengthFieldOf m.encode = lengthFieldOf m'.encode := by
    rw [← lengthFieldOf_append hb c, h, lengthFieldOf_append hb' c']
  have hlen : m.encode.length = m'.encode.length := by
    rw [m.accepted.length_eq, m'.accepted.length_eq, hfield]
  obtain ⟨hm, hc⟩ := List.append_inj h hlen
  exact ⟨Message.encode_inj hm, hc⟩

@[simp] theorem stream_nil : stream [] = [] := rfl

@[simp] theorem stream_cons (m : Message) (ms : List Message) :
    stream (m :: ms) = m.encode ++ stream ms := List.flatMap_cons

@[simp] theorem stream_append (ms ms' : List Message) : stream (ms ++ ms') = stream ms ++ stream ms' :=
  List.flatMap_append

theorem encode_ne_nil (m : Message) : m.encode ≠ [] := by
  intro hm
  have hlen := m.encode_length
  rw [hm, List.length_nil] at hlen
  omega

/-- The messages at the front of a stream are the first ones of it. -/
theorem stream_prefix {ms ms' : List Message} {rest : List UInt8} (h : stream ms ++ rest <+: stream ms') :
    ∃ later, ms' = ms ++ later ∧ rest <+: stream later := by
  induction ms generalizing ms' with
  | nil => exact ⟨ms', rfl, h⟩
  | cons m ms ih =>
    obtain ⟨c, hc⟩ := h
    cases ms' with
    | nil =>
      rw [stream_cons, stream_nil, List.append_assoc, List.append_assoc, List.append_eq_nil_iff] at hc
      exact absurd hc.1 (encode_ne_nil m)
    | cons m' ms' =>
      rw [stream_cons, stream_cons, List.append_assoc, List.append_assoc] at hc
      obtain ⟨rfl, hrest⟩ := encode_append_inj hc
      obtain ⟨later, rfl, hlater⟩ := ih ⟨c, by rw [List.append_assoc, hrest]⟩
      exact ⟨later, rfl, hlater⟩

/-! ### The start of a message -/

/-- The start of a message lacks at least a byte, and the bytes needed do not reach behind
the message. -/
theorem needed_of_front {m : Message} {inbox : List UInt8} (h : inbox <+: m.encode)
    (hne : inbox ≠ m.encode) :
    0 < StreamServer.needed inbox ∧ inbox.length + StreamServer.needed inbox ≤ m.encode.length := by
  obtain ⟨c, hc⟩ := h
  have hlen := congrArg List.length hc
  have haccepted := m.accepted
  have hcpos : 0 < c.length := by
    refine List.length_pos_iff.mpr ?_
    rintro rfl
    exact hne (by rw [← hc, List.append_nil])
  have hcomplete := haccepted.header.complete
  have hlength := haccepted.length_eq
  rw [List.length_append] at hlen
  rw [StreamServer.needed]
  split_ifs with hshort
  · omega
  · have hfield : lengthFieldOf m.encode = lengthFieldOf inbox := by
      rw [← hc]
      exact lengthFieldOf_append (not_lt.mp hshort) c
    rw [hfield] at hlength
    omega

theorem prefix_of_waiting {m : Message} {inbox c : List UInt8} (h : inbox <+: m.encode ++ c)
    (hw : 0 < StreamServer.needed inbox) : inbox <+: m.encode ∧ inbox ≠ m.encode := by
  have hcomplete := m.accepted.header.complete
  have hlength := m.accepted.length_eq
  have hlt : inbox.length < m.encode.length := by
    by_contra hle
    obtain ⟨d, rfl⟩ := List.prefix_of_prefix_length_le (List.prefix_append m.encode c) h (not_lt.mp hle)
    rw [StreamServer.needed, lengthFieldOf_append hcomplete, List.length_append] at hw
    split_ifs at hw <;> omega
  refine ⟨List.prefix_of_prefix_length_le h (List.prefix_append _ _) hlt.le, ?_⟩
  rintro rfl
  exact lt_irrefl _ hlt

/-- The start of a message is neither complete nor an error. -/
theorem incomplete_of_prefix {m : Message} {inbox : List UInt8} (h : inbox <+: m.encode)
    (hne : inbox ≠ m.encode) : ¬Accepted true inbox ∧ (inbox.length < 20 ∨
      HeaderOk true inbox ∧ inbox.length < 20 + (lengthFieldOf inbox).toNat) := by
  obtain ⟨hpos, -⟩ := needed_of_front h hne
  obtain ⟨c, hc⟩ := h
  constructor
  · intro hacc
    obtain ⟨m', rfl⟩ := hacc.exists_message
    obtain ⟨rfl, -⟩ := encode_append_inj (hc.trans (List.append_nil m.encode).symm)
    exact hne rfl
  · by_cases hshort : inbox.length < 20
    · exact Or.inl hshort
    · have hheader := m.accepted.header
      rw [← hc, headerOk_append (not_lt.mp hshort)] at hheader
      rw [StreamServer.needed, if_neg hshort] at hpos
      exact Or.inr ⟨hheader, by omega⟩

/-- Bytes that are needed never reach behind a message. -/
theorem eq_of_needed {m : Message} {inbox buffer : List UInt8} (hw : 0 < StreamServer.needed inbox)
    (hlen : buffer.length ≤ StreamServer.needed inbox) (h : m.encode <+: inbox ++ buffer) :
    inbox ++ buffer = m.encode := by
  obtain ⟨c, hc⟩ := h
  obtain ⟨hinbox, hne⟩ := prefix_of_waiting ⟨buffer, hc.symm⟩ hw
  obtain ⟨-, hle⟩ := needed_of_front hinbox hne
  have hsize := congrArg List.length hc
  rw [List.length_append, List.length_append] at hsize
  have hnil : c = [] := List.length_eq_zero_iff.mp (by omega)
  rw [← hc, hnil, List.append_nil]

theorem needed_pos {inbox : List UInt8} (h : inbox.length < 20 ∨
    HeaderOk true inbox ∧ inbox.length < 20 + (lengthFieldOf inbox).toNat) :
    0 < StreamServer.needed inbox := by
  rw [StreamServer.needed]
  split_ifs <;> omega

/-! ### In step -/

section

variable {D : Digests} {x : Arrival} {call : ConnectionCall} {a : StreamServer}

@[simp] theorem replies_nil : replies D x [] = [] := rfl

@[simp] theorem replies_append (ms ms' : List Message) :
    replies D x (ms ++ ms') = replies D x ms ++ replies D x ms' := List.flatMap_append

@[simp] theorem replies_singleton (m : Message) : replies D x [m] = (x.reply D m).encode :=
  List.flatMap_singleton _ _

@[simp] theorem receivedBytes_append (log log' : List IoEvent) :
    receivedBytes (log ++ log') = receivedBytes log ++ receivedBytes log' := List.flatMap_append

@[simp] theorem sentBytes_append (log log' : List IoEvent) :
    sentBytes (log ++ log') = sentBytes log ++ sentBytes log' := List.flatMap_append

@[simp] theorem receivedBytes_received (data : List UInt8) :
    receivedBytes [.received data] = data := List.flatMap_singleton _ _

@[simp] theorem receivedBytes_sent (data : List UInt8) : receivedBytes [.sent data] = [] := rfl

@[simp] theorem receivedBytes_rateChecked (addr : CSocketAddress) :
    receivedBytes [.rateChecked addr] = [] := rfl

@[simp] theorem sentBytes_sent (data : List UInt8) : sentBytes [.sent data] = data :=
  List.flatMap_singleton _ _

@[simp] theorem sentBytes_received (data : List UInt8) : sentBytes [.received data] = [] := rfl

@[simp] theorem sentBytes_rateChecked (addr : CSocketAddress) :
    sentBytes [.rateChecked addr] = [] := rfl

/-- The responses follow the requests at every moment of the log. -/
def AlwaysInStep (D : Digests) (x : Arrival) (log : List IoEvent) : Prop :=
  ∀ p, p <+: log → ∃ ms rest, InStep D x p ms rest

theorem alwaysInStep_nil : AlwaysInStep D x [] := by
  intro p hp
  rw [List.prefix_nil.mp hp]
  refine ⟨[], [], by simp, rfl, List.prefix_rfl, List.prefix_rfl, fun _ => rfl, fun m hm => ?_⟩
  exact (List.prefix_nil.mp hm).symm

theorem AlwaysInStep.concat {log : List IoEvent} {event : IoEvent} {ms : List Message}
    {rest : List UInt8} (h : AlwaysInStep D x log) (hstep : InStep D x (log ++ [event]) ms rest) :
    AlwaysInStep D x (log ++ [event]) := by
  intro p hp
  rcases List.prefix_concat_iff.mp hp with rfl | hp
  · exact ⟨ms, rest, hstep⟩
  · exact h p hp

/-- What was received and sent, and what is in the boxes: the messages `ms` are answered, or
the last of them is being answered. -/
structure Balanced (D : Digests) (x : Arrival) (a : StreamServer) (ms : List Message) : Prop where
  requests : ∀ m ∈ ms, m.cls = .request
  received : receivedBytes a.log = stream ms ++ a.inbox
  sent : sentBytes a.log ++ a.outbox = replies D x ms
  before : replies D x ms.dropLast <+: sentBytes a.log
  idle : a.outbox ≠ [] → a.inbox = []
  unanswered : ∀ m : Message, m.encode <+: a.inbox → a.inbox = m.encode

theorem Balanced.inStep {ms : List Message} (h : Balanced D x a ms) :
    InStep D x a.log ms a.inbox where
  requests := h.requests
  received := h.received
  sent := ⟨a.outbox, h.sent⟩
  before := h.before
  complete hne := by
    have hout : a.outbox = [] := by
      by_contra hc
      exact hne (h.idle hc)
    rw [← h.sent, hout, List.append_nil]
  unanswered := h.unanswered

/-- The log is in step, and so are the boxes unless the connection is closed. -/
structure Orderly (D : Digests) (x : Arrival) (a : StreamServer) : Prop where
  log : AlwaysInStep D x a.log
  boxes : a.closed = false → (∃ ms, Balanced D x a ms) ∧
    (a.outbox = [] → 0 < StreamServer.needed a.inbox)

theorem AlwaysInStep.close (h : AlwaysInStep D x a.log) : Orderly D x a.close :=
  ⟨h, fun hc => by cases hc⟩

theorem orderly_write (results : List IoResult) {ms : List Message} (hlog : AlwaysInStep D x a.log)
    (h : Balanced D x a ms) (hout : a.outbox ≠ []) : Orderly D x (a.write call results) := by
  induction results generalizing a with
  | nil => exact ⟨hlog, fun _ => ⟨⟨ms, h⟩, fun hc => absurd hc hout⟩⟩
  | cons r results ih =>
    cases r with
    | wouldBlock => exact ⟨hlog, fun _ => ⟨⟨ms, h⟩, fun hc => absurd hc hout⟩⟩
    | failed => exact hlog.close
    | count n =>
      rw [StreamServer.write]
      set k := min (max n 1) a.outbox.length
      set a' : StreamServer := { a.logged (.sent (a.outbox.take k)) with outbox := a.outbox.drop k }
      have hin : a.inbox = [] := h.idle hout
      have hbalanced : Balanced D x a' ms :=
        { requests := h.requests
          received := by
            show receivedBytes (a.log ++ _) = _
            rw [receivedBytes_append, receivedBytes_sent, List.append_nil]
            exact h.received
          sent := by
            show sentBytes (a.log ++ _) ++ a.outbox.drop k = _
            rw [sentBytes_append, sentBytes_sent, List.append_assoc, List.take_append_drop, h.sent]
          before := by
            show _ <+: sentBytes (a.log ++ _)
            rw [sentBytes_append]
            exact h.before.trans (List.prefix_append _ _)
          idle := fun _ => hin
          unanswered := h.unanswered }
      have hlog' : AlwaysInStep D x a'.log := hlog.concat hbalanced.inStep
      change Orderly D x (if a'.outbox = [] then if call.fReadEventSet then a' else a'.close
        else a'.write call results)
      by_cases hdone : a'.outbox = []
      · rw [if_pos hdone]
        split_ifs
        · refine ⟨hlog', fun _ => ⟨⟨ms, hbalanced⟩, fun _ => ?_⟩⟩
          rw [show a'.inbox = [] from hin]
          decide
        · exact hlog'.close
      · rw [if_neg hdone]
        exact ih hlog' hbalanced hdone

theorem orderly_respond (results : List IoResult) {ms : List Message} (hlog : AlwaysInStep D x a.log)
    (h : Balanced D x a ms) (hout : a.outbox = []) : Orderly D x (a.respond call D x results) := by
  have hsent : sentBytes a.log = replies D x ms := by rw [← h.sent, hout, List.append_nil]
  have hchecked : Balanced D x (a.logged (.rateChecked x.msgIn.addrRemote)) ms :=
    { requests := h.requests
      received := by
        rw [StreamServer.logged, receivedBytes_append, receivedBytes_rateChecked, List.append_nil]
        exact h.received
      sent := by
        rw [StreamServer.logged, sentBytes_append, sentBytes_rateChecked, List.append_nil]
        exact h.sent
      before := by
        rw [StreamServer.logged, sentBytes_append, sentBytes_rateChecked, List.append_nil]
        exact h.before
      idle := h.idle
      unanswered := h.unanswered }
  have hlog' := hlog.concat hchecked.inStep
  rw [StreamServer.respond]
  dsimp only
  by_cases hallowed : call.allowed_to_pass = false
  · rw [if_pos hallowed]
    exact AlwaysInStep.close hlog'
  rw [if_neg hallowed]
  rw [show (a.logged (.rateChecked x.msgIn.addrRemote)).inbox = a.inbox from rfl]
  cases hanswer : x.answer D a.inbox with
  | none => exact AlwaysInStep.close hlog'
  | some packet =>
    obtain ⟨m, hm, hcls, hdata⟩ := Arrival.of_answer hanswer
    dsimp only
    set a' : StreamServer := { a.logged (.rateChecked x.msgIn.addrRemote) with
      inbox := [], outbox := packet.data }
    have hsame : sentBytes a'.log = replies D x ms := by
      show sentBytes (a.log ++ _) = _
      rw [sentBytes_append, sentBytes_rateChecked, List.append_nil, hsent]
    have hbalanced : Balanced D x a' (ms ++ [m]) :=
      { requests := by
          intro m' hm'
          rcases List.mem_append.mp hm' with hm' | hm'
          · exact h.requests m' hm'
          · rw [List.mem_singleton.mp hm']
            exact hcls
        received := by
          rw [stream_append, stream_cons, stream_nil, hm, List.append_nil, List.append_nil]
          exact hchecked.received
        sent := by rw [hsame, replies_append, replies_singleton, ← hdata]
        before := by
          rw [hsame, List.dropLast_concat]
        idle := fun _ => rfl
        unanswered := fun m hm => (List.prefix_nil.mp hm).symm }
    have hlogged : AlwaysInStep D x a'.log := hlog'
    split_ifs
    · refine orderly_write results hlogged hbalanced ?_
      show packet.data ≠ []
      rw [hdata]
      exact encode_ne_nil _
    · exact hlogged.close

theorem orderly_read (results : List IoResult) {ms : List Message} (hlog : AlwaysInStep D x a.log)
    (h : Balanced D x a ms) (hout : a.outbox = []) (hw : 0 < StreamServer.needed a.inbox) :
    Orderly D x (a.read call D x results) := by
  induction results generalizing a with
  | nil => exact ⟨hlog, fun _ => ⟨⟨ms, h⟩, fun _ => hw⟩⟩
  | cons r results ih =>
    cases r with
    | wouldBlock => exact ⟨hlog, fun _ => ⟨⟨ms, h⟩, fun _ => hw⟩⟩
    | failed => exact hlog.close
    | count n =>
      rw [StreamServer.read]
      dsimp only
      have hbuffer : (a.incoming.take (min (max n 1) (StreamServer.needed a.inbox))).length ≤
          StreamServer.needed a.inbox := (List.length_take_le _ _).trans (Nat.min_le_right _ _)
      set buffer := a.incoming.take (min (max n 1) (StreamServer.needed a.inbox))
      by_cases hnothing : buffer = []
      · rw [if_pos hnothing]
        exact ⟨hlog, fun _ => ⟨⟨ms, h⟩, fun _ => hw⟩⟩
      rw [if_neg hnothing]
      set a' : StreamServer := { a.logged (.received buffer) with
        inbox := a.inbox ++ buffer, incoming := a.incoming.drop buffer.length }
      have hsame : sentBytes a'.log = sentBytes a.log := by
        show sentBytes (a.log ++ _) = _
        rw [sentBytes_append, sentBytes_received, List.append_nil]
      have hbalanced : Balanced D x a' ms :=
        { requests := h.requests
          received := by
            show receivedBytes (a.log ++ _) = _
            rw [receivedBytes_append, receivedBytes_received, h.received, List.append_assoc]
          sent := by
            rw [hsame]
            exact h.sent
          before := by
            rw [hsame]
            exact h.before
          idle := fun hc => absurd hout hc
          unanswered := fun m hm => eq_of_needed hw hbuffer hm }
      have hlog' : AlwaysInStep D x a'.log := hlog.concat hbalanced.inStep
      split_ifs with haccepted hpartial
      · exact orderly_respond results hlog' hbalanced hout
      · exact ih hlog' hbalanced hout (needed_pos hpartial)
      · exact hlog'.close

theorem orderly_event (h : Orderly D x a) : Orderly D x (a.event call D x) := by
  rw [StreamServer.event]
  cases hc : a.closed with
  | true => exact h
  | false =>
    obtain ⟨⟨ms, hbalanced⟩, hw⟩ := h.boxes hc
    rw [if_neg Bool.false_ne_true]
    by_cases hout : a.outbox = []
    · rw [if_pos hout]
      exact orderly_read _ h.log hbalanced hout (hw hout)
    · rw [if_neg hout]
      exact orderly_write _ h.log hbalanced hout

theorem orderly_start (incoming : List UInt8) : Orderly D x (.start incoming) where
  log := alwaysInStep_nil
  boxes _ := ⟨⟨[], by simp, rfl, rfl, List.prefix_rfl, fun hc => absurd rfl hc,
    fun m hm => (List.prefix_nil.mp hm).symm⟩, fun _ => needed_pos (Or.inl (Nat.zero_lt_succ _))⟩

/-- Whatever arrives and whatever goes wrong, the log is in step. -/
theorem orderly_run (calls : List ConnectionCall) (h : Orderly D x a) :
    Orderly D x (a.run D x calls) := by
  induction calls generalizing a with
  | nil => exact h
  | cons call calls ih => exact ih (orderly_event h)

/-! ### Never closed -/

/-- An open connection on which requests are under way. -/
structure Fluent (a : StreamServer) : Prop where
  isOpen : a.closed = false
  waiting : a.outbox = [] → 0 < StreamServer.needed a.inbox
  idle : a.outbox ≠ [] → a.inbox = []
  requests : ∃ ms : List Message, (∀ m ∈ ms, m.cls = .request) ∧ a.inbox ++ a.incoming <+: stream ms

theorem fluent_write (hcall : call.Smooth) {results : List IoResult} (hr : ∀ r ∈ results, r ≠ .failed)
    (h : Fluent a) (hout : a.outbox ≠ []) : Fluent (a.write call results) := by
  induction results generalizing a with
  | nil => exact h
  | cons r results ih =>
    obtain ⟨hfirst, hlater⟩ := List.forall_mem_cons.mp hr
    cases r with
    | wouldBlock => exact h
    | failed => exact absurd rfl hfirst
    | count n =>
      have hin := h.idle hout
      rw [StreamServer.write]
      set k := min (max n 1) a.outbox.length
      set a' : StreamServer := { a.logged (.sent (a.outbox.take k)) with outbox := a.outbox.drop k }
      have hfluent : Fluent a' :=
        { isOpen := h.isOpen
          waiting := fun _ => by
            rw [show a'.inbox = [] from hin]
            decide
          idle := fun _ => hin
          requests := h.requests }
      change Fluent (if a'.outbox = [] then if call.fReadEventSet then a' else a'.close
        else a'.write call results)
      by_cases hdone : a'.outbox = []
      · rw [if_pos hdone, if_pos hcall.readEvents]
        exact hfluent
      · rw [if_neg hdone]
        exact ih hlater hfluent hdone

/-- A request is answered. -/
theorem fluent_respond (hcall : call.Smooth) {results : List IoResult}
    (hr : ∀ r ∈ results, r ≠ .failed) {m : Message} (hm : a.inbox = m.encode) (hcls : m.cls = .request)
    (hopen : a.closed = false)
    (hlater : ∃ ms : List Message, (∀ m ∈ ms, m.cls = .request) ∧ a.incoming <+: stream ms) :
    Fluent (a.respond call D x results) := by
  have hanswer : x.answer D (a.logged (.rateChecked x.msgIn.addrRemote)).inbox =
      some ⟨x.replyRole D m, x.dest m, (x.reply D m).encode⟩ := by
    show x.answer D a.inbox = _
    rw [hm, Arrival.answer_encode hcls]
  rw [StreamServer.respond]
  dsimp only
  rw [if_neg (by rw [hcall.allowed]; decide), hanswer]
  dsimp only
  rw [if_pos hcall.writeEvents]
  refine fluent_write hcall hr ?_ (encode_ne_nil _)
  exact ⟨hopen, fun hc => absurd hc (encode_ne_nil _), fun _ => rfl, hlater⟩

theorem fluent_read (hcall : call.Smooth) {results : List IoResult} (hr : ∀ r ∈ results, r ≠ .failed)
    (h : Fluent a) (hout : a.outbox = []) : Fluent (a.read call D x results) := by
  induction results generalizing a with
  | nil => exact h
  | cons r results ih =>
    obtain ⟨hfirst, hlater⟩ := List.forall_mem_cons.mp hr
    cases r with
    | wouldBlock => exact h
    | failed => exact absurd rfl hfirst
    | count n =>
      rw [StreamServer.read]
      dsimp only
      have hbuffer : (a.incoming.take (min (max n 1) (StreamServer.needed a.inbox))).length ≤
          StreamServer.needed a.inbox := (List.length_take_le _ _).trans (Nat.min_le_right _ _)
      have hfront : a.incoming.take (min (max n 1) (StreamServer.needed a.inbox)) <+: a.incoming :=
        List.take_prefix _ _
      set buffer := a.incoming.take (min (max n 1) (StreamServer.needed a.inbox))
      by_cases hnothing : buffer = []
      · rw [if_pos hnothing]
        exact h
      rw [if_neg hnothing]
      set a' : StreamServer := { a.logged (.received buffer) with
        inbox := a.inbox ++ buffer, incoming := a.incoming.drop buffer.length }
      obtain ⟨ms, hms, hfronts⟩ := h.requests
      have hsplit : buffer ++ a'.incoming = a.incoming := by
        obtain ⟨c, hc⟩ := hfront
        show buffer ++ a.incoming.drop buffer.length = a.incoming
        rw [← hc, List.drop_left]
      have htotal : a'.inbox ++ a'.incoming <+: stream ms := by
        show a.inbox ++ buffer ++ a'.incoming <+: _
        rw [List.append_assoc, hsplit]
        exact hfronts
      cases ms with
      | nil =>
        have hnil := List.prefix_nil.mp htotal
        rw [List.append_eq_nil_iff] at hnil
        exact absurd (List.append_eq_nil_iff.mp hnil.1).2 hnothing
      | cons m ms =>
        rw [stream_cons] at hfronts htotal
        obtain ⟨hinbox, hne⟩ := prefix_of_waiting ((List.prefix_append _ _).trans hfronts) (h.waiting hout)
        obtain ⟨-, hle⟩ := needed_of_front hinbox hne
        have hinbox' : a'.inbox <+: m.encode := by
          refine List.prefix_of_prefix_length_le ((List.prefix_append _ _).trans htotal)
            (List.prefix_append _ _) ?_
          show (a.inbox ++ buffer).length ≤ _
          rw [List.length_append]
          omega
        by_cases hcomplete : a'.inbox = m.encode
        · have haccepted : Accepted true a'.inbox := by
            rw [hcomplete]
            exact m.accepted
          rw [if_pos haccepted]
          rw [hcomplete, List.prefix_append_right_inj] at htotal
          exact fluent_respond hcall hlater hcomplete (hms m (List.mem_cons_self ..)) h.isOpen
            ⟨ms, fun m' hm' => hms m' (List.mem_cons_of_mem _ hm'), htotal⟩
        · obtain ⟨hnot, hpartial⟩ := incomplete_of_prefix hinbox' hcomplete
          rw [if_neg hnot, if_pos hpartial]
          refine ih hlater ⟨h.isOpen, fun _ => ?_, fun hc => absurd hout hc, m :: ms, hms, ?_⟩ hout
          · exact (needed_of_front hinbox' hcomplete).1
          · rwa [stream_cons]

theorem fluent_event (hcall : call.Smooth) (h : Fluent a) : Fluent (a.event call D x) := by
  rw [StreamServer.event, if_neg (by rw [h.isOpen]; decide)]
  by_cases hout : a.outbox = []
  · rw [if_pos hout]
    exact fluent_read hcall hcall.results h hout
  · rw [if_neg hout]
    exact fluent_write hcall hcall.results h hout

theorem fluent_run {calls : List ConnectionCall} (hcalls : ∀ call ∈ calls, call.Smooth)
    (h : Fluent a) : Fluent (a.run D x calls) := by
  induction calls generalizing a with
  | nil => exact h
  | cons call calls ih =>
    obtain ⟨hcall, hlater⟩ := List.forall_mem_cons.mp hcalls
    exact ih hlater (fluent_event hcall h)

/-! ### Conservation -/

/-- The bytes received, and those to be received. -/
def StreamServer.flow (a : StreamServer) : List UInt8 := receivedBytes a.log ++ a.incoming

theorem flow_write (results : List IoResult) : (a.write call results).flow = a.flow := by
  induction results generalizing a with
  | nil => rfl
  | cons r results ih =>
    cases r with
    | wouldBlock => rfl
    | failed => rfl
    | count n =>
      rw [StreamServer.write]
      dsimp only
      set k := min (max n 1) a.outbox.length
      set a' : StreamServer := { a.logged (.sent (a.outbox.take k)) with outbox := a.outbox.drop k }
      have hsame : a'.flow = a.flow := by
        show receivedBytes (a.log ++ _) ++ a.incoming = _
        rw [receivedBytes_append, receivedBytes_sent, List.append_nil]
        rfl
      split_ifs
      · exact hsame
      · exact hsame
      · exact ih.trans hsame

theorem flow_respond (results : List IoResult) : (a.respond call D x results).flow = a.flow := by
  have hsame : (a.logged (.rateChecked x.msgIn.addrRemote)).flow = a.flow := by
    show receivedBytes (a.log ++ _) ++ a.incoming = _
    rw [receivedBytes_append, receivedBytes_rateChecked, List.append_nil]
    rfl
  rw [StreamServer.respond]
  dsimp only
  split_ifs
  · exact hsame
  · cases x.answer D (a.logged (.rateChecked x.msgIn.addrRemote)).inbox with
    | none => exact hsame
    | some packet => exact (flow_write results).trans hsame
  · cases x.answer D (a.logged (.rateChecked x.msgIn.addrRemote)).inbox with
    | none => exact hsame
    | some packet => exact hsame

theorem flow_read (results : List IoResult) : (a.read call D x results).flow = a.flow := by
  induction results generalizing a with
  | nil => rfl
  | cons r results ih =>
    cases r with
    | wouldBlock => rfl
    | failed => rfl
    | count n =>
      rw [StreamServer.read]
      dsimp only
      set buffer := a.incoming.take (min (max n 1) (StreamServer.needed a.inbox))
      set a' : StreamServer := { a.logged (.received buffer) with
        inbox := a.inbox ++ buffer, incoming := a.incoming.drop buffer.length }
      have hsame : a'.flow = a.flow := by
        have hsplit : buffer ++ a.incoming.drop buffer.length = a.incoming := by
          obtain ⟨c, hc⟩ : buffer <+: a.incoming := List.take_prefix _ _
          rw [← hc, List.drop_left]
        show receivedBytes (a.log ++ _) ++ a.incoming.drop buffer.length = _
        rw [receivedBytes_append, receivedBytes_received, List.append_assoc, hsplit]
        rfl
      split_ifs
      · rfl
      · exact (flow_respond results).trans hsame
      · exact ih.trans hsame
      · exact hsame

theorem flow_event : (a.event call D x).flow = a.flow := by
  rw [StreamServer.event]
  split_ifs
  · rfl
  · exact flow_read _
  · exact flow_write _

/-- No byte is lost or made up on the way in. -/
theorem flow_run (calls : List ConnectionCall) : (a.run D x calls).flow = a.flow := by
  induction calls generalizing a with
  | nil => rfl
  | cons call calls ih => exact (ih (a := a.event call D x)).trans flow_event

end

end StunServer

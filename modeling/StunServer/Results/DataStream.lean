import StunServer.Spec.DataStream
import StunServer.Proofs.DataStream

/-! A stream is a byte array with a cursor: whatever is written, read, sought or reserved, the
stream answers as the plain model does and holds what the plain model holds. -/

namespace StunServer.CDataStream

open Bytes

variable {s : CDataStream} {p : PlainStream}

/-- What a stream holds, if its position, size and allocation are in order. -/
def plain (s : CDataStream) (h : s.Wf) : PlainStream where
  array := ⟨s.bytes, s.pos, h.pos_le.trans h.bytes_length.ge⟩
  capacity := s.getAllocatedSize
  fNoGrow := s.fNoGrow
  size_le := h.bytes_length.le.trans h.size_le

theorem represents_plain (h : s.Wf) : s.Represents (s.plain h) :=
  ⟨rfl, h.bytes_length.symm, rfl, rfl, rfl⟩

theorem Represents.wf (h : s.Represents p) : s.Wf where
  pos_le := by
    rw [h.position, h.size]
    exact p.array.pos_le
  size_le := by
    rw [h.size, h.allocated]
    exact p.size_le

/-! ### The answers -/

section

variable {α : Type} {m : Hr CDataStream α} {copied : α → List UInt8}

theorem answer_ok {a : α} {s' : CDataStream} (h : m s = .ok a s') :
    answer m copied s = (.ok (copied a), s') := by
  rw [answer, h]

theorem answer_error {hr : HRESULT} {s' : CDataStream} (h : m s = .error hr s') :
    answer m copied s = (.error hr, s') := by
  rw [answer, h]

end

/-! ### One call -/

theorem Represents.moveTo (h : s.Represents p) {pos : ℕ} (hpos : pos ≤ p.array.items.length) :
    (s.moveTo pos).Represents (p.moveTo pos hpos) :=
  ⟨h.contents, h.size, rfl, h.allocated, h.fNoGrow⟩

theorem Represents.seek (h : s.Represents p) {pos : ℕ} {target : ℤ}
    (htarget : target = pos ∨ (target < 0 ∧ p.array.items.length < pos)) :
    (answer (seekDirect pos) (fun _ => []) s).1 = (p.seek target).1 ∧
      (answer (seekDirect pos) (fun _ => []) s).2.Represents (p.seek target).2 := by
  have hlen : s.bytes.length = p.array.items.length := congrArg List.length h.contents
  by_cases hin : pos ≤ p.array.items.length
  · obtain rfl : target = pos := by omega
    have hok : seekDirect pos s = .ok () (s.moveTo pos) :=
      seekDirect_ok (p := s.pos) h.wf (hlen ▸ hin)
    have hrange : 0 ≤ (pos : ℤ) ∧ (pos : ℤ) ≤ p.array.items.length := by omega
    rw [PlainStream.seek, dif_pos hrange, answer_ok hok]
    exact ⟨rfl, h.moveTo hin⟩
  · have herror : seekDirect pos s = .error E_FAIL s :=
      seekDirect_error (p := s.pos) h.wf (by omega)
    have hrange : ¬(0 ≤ target ∧ target ≤ p.array.items.length) := by omega
    rw [PlainStream.seek, dif_neg hrange, answer_error herror]
    exact ⟨rfl, h⟩

/-- The offset is added in unsigned arithmetic. A target before the start comes out behind every
array of this size. -/
theorem Represents.seekRelative (h : s.Represents p) (hsize : p.array.items.length < 2 ^ 62)
    (offset : Int32) :
    (s.call (.seekRelative offset)).1 = (p.call (.seekRelative offset)).1 ∧
      (s.call (.seekRelative offset)).2.Represents (p.call (.seekRelative offset)).2 := by
  have hlow : -2 ^ 31 ≤ offset.toInt := offset.le_toInt
  have hhigh : offset.toInt < 2 ^ 31 := offset.toInt_lt
  have hpos := p.array.pos_le
  have hsum : CDataStream.seekRelative offset.toInt s =
      seekDirect ((offset.toInt + s.pos) % 2 ^ 64).toNat s := by
    rw [CDataStream.seekRelative, Hr.bind_ok (Hr.get_apply s)]
  have hanswer : s.call (.seekRelative offset) =
      answer (seekDirect ((offset.toInt + s.pos) % 2 ^ 64).toNat) (fun _ => []) s := by
    rw [call, answer, hsum, answer]
  rw [hanswer]
  refine h.seek ?_
  rw [h.position]
  omega

theorem Represents.read (h : s.Represents p) (hsize : p.array.items.length < 2 ^ 62) {size : ℕ}
    (hread : size < 2 ^ 62) :
    (s.call (.read size)).1 = (p.call (.read size)).1 ∧
      (s.call (.read size)).2.Represents (p.call (.read size)).2 := by
  have hpos := p.array.pos_le
  have hsum : s.pos + size < 2 ^ 64 := by
    rw [h.position]
    omega
  have hlen : s.bytes.length = p.array.items.length := congrArg List.length h.contents
  rw [call, PlainStream.call]
  by_cases hin : p.array.pos + size ≤ p.array.items.length
  · obtain ⟨v, hv, hbytes⟩ := read_ok (p := s.pos) h.wf (by rw [hlen, h.position]; exact hin) hsum
    rw [moveTo_pos, h.position] at hv
    rw [dif_pos hin, answer_ok hv, hbytes, h.contents, h.position]
    exact ⟨rfl, h.moveTo hin⟩
  · have herror : CDataStream.read size s = .error E_INVALIDARG s :=
      read_error (p := s.pos) h.wf (by rw [hlen, h.position]; omega) hsum
    rw [dif_neg hin, answer_error herror]
    exact ⟨rfl, h⟩

/-- Growing makes room as the plain model does. -/
theorem Represents.grow (h : s.Represents p) {n : ℕ} (hroom : p.HasRoom n) :
    ∃ s', CDataStream.grow n s = .ok () s' ∧ s'.Represents (p.reserve n) := by
  by_cases hn : n ≤ s.getAllocatedSize
  · have hcap : p.capacityFor n = p.capacity := if_pos (h.allocated ▸ hn)
    exact ⟨s, grow_fits hn, h.contents, h.size, h.position, h.allocated.trans hcap.symm, h.fNoGrow⟩
  · have hcap : p.capacityFor n = max n (p.capacity * 2) := if_neg (h.allocated ▸ hn)
    have hg : s.fNoGrow = false := h.fNoGrow.trans (hroom.resolve_left (h.allocated ▸ hn))
    obtain ⟨s', he, hw, hb, hp, hng, ha⟩ := grow_more h.wf hg hn
    refine ⟨s', he, hb.trans h.contents, ?_, hp.trans h.position, ?_, hng.trans h.fNoGrow⟩
    · rw [← hw.bytes_length, hb, h.contents]
      rfl
    · rw [ha, h.allocated]
      exact hcap.symm

theorem Represents.grow_error (h : s.Represents p) {n : ℕ} (hroom : ¬p.HasRoom n) :
    CDataStream.grow n s = .error E_FAIL s := by
  obtain ⟨hn, hg⟩ := not_or.mp hroom
  refine grow_fixed (h.allocated ▸ hn) ?_
  rw [h.fNoGrow]
  simpa using hg

theorem Represents.write (h : s.Represents p) {d : List UInt8} (hd : d ≠ [])
    (hroom : p.HasRoom (p.array.pos + d.length)) :
    ∃ s', CDataStream.write (some d) d.length s = .ok () s' ∧ s'.Represents (p.write d) := by
  have hsum : d.length + s.pos = p.array.pos + d.length := by rw [h.position, Nat.add_comm]
  obtain ⟨s₁, hgrow, h₁⟩ := h.grow hroom
  have hfits : d.length + s.pos ≤ s₁.getAllocatedSize := by
    rw [hsum, h₁.allocated]
    exact p.le_capacityFor _
  obtain ⟨s', he, hw, hb, hp, hng, ha, -⟩ := write_of_grow h.wf hd (hsum ▸ hgrow) h₁.wf
    (h₁.contents.trans h.contents.symm) (h₁.position.trans h.position.symm) hfits
  have hcontents : s'.bytes = (p.write d).array.items := by
    rw [hb, h.contents, h.position]
    rfl
  exact ⟨s', he, hcontents, hw.bytes_length ▸ congrArg List.length hcontents,
    hp.trans (congrArg (· + d.length) h.position), ha.trans h₁.allocated, hng.trans h₁.fNoGrow⟩

theorem write_error_of_grow {d : Option (List UInt8)} {n : ℕ} {hr : HRESULT}
    (hd : ¬(n = 0 ∨ d = none)) (hgrow : CDataStream.grow (n + s.pos) s = .error hr s) :
    CDataStream.write d n s = .error hr s := by
  rw [CDataStream.write, Hr.bind_ok (Hr.get_apply s), Hr.bind_ok (Hr.chkIf_false hd _ s),
    Hr.bind_error hgrow]

/-- One call answers as the plain model does and leaves what the plain model leaves. -/
theorem Represents.call (h : s.Represents p) (hsize : p.array.items.length < 2 ^ 62)
    (c : StreamCall) (hread : ∀ size, c = .read size → size < 2 ^ 62) :
    (s.call c).1 = (p.call c).1 ∧ (s.call c).2.Represents (p.call c).2 := by
  cases c with
  | write size data =>
    cases data with
    | none =>
      rw [CDataStream.call, PlainStream.call, Option.map_none,
        answer_error (write_null none (.inr rfl))]
      exact ⟨rfl, h⟩
    | some data =>
      rw [CDataStream.call, PlainStream.call, Option.map_some]
      by_cases hzero : size = 0
      · rw [if_neg fun hc => hc.1 hzero, answer_error (write_null _ (.inl hzero))]
        exact ⟨rfl, h⟩
      · have hd : data.toList ≠ [] := List.ne_nil_of_length_pos (by
          rw [data.toList_length]
          exact Nat.pos_of_ne_zero hzero)
        by_cases hroom : p.HasRoom (p.array.pos + size)
        · rw [if_pos ⟨hzero, hroom⟩]
          obtain ⟨s', he, hs'⟩ := h.write hd (data.toList_length.symm ▸ hroom)
          rw [data.toList_length] at he
          rw [answer_ok he]
          exact ⟨rfl, hs'⟩
        · rw [if_neg fun hc => hroom hc.2]
          have hgrow := h.grow_error hroom
          rw [← h.position, Nat.add_comm] at hgrow
          rw [answer_error (write_error_of_grow (by simp [hzero]) hgrow)]
          exact ⟨rfl, h⟩
  | read size => exact h.read hsize (hread size rfl)
  | seekDirect pos => exact h.seek (.inl rfl)
  | seekRelative offset => exact h.seekRelative hsize offset
  | setSizeHint size =>
    rw [CDataStream.call, PlainStream.call, setSizeHint]
    by_cases hroom : p.HasRoom size
    · obtain ⟨s', he, hs'⟩ := h.grow hroom
      rw [if_pos hroom, answer_ok he]
      exact ⟨rfl, hs'⟩
    · rw [if_neg hroom, answer_error (h.grow_error hroom)]
      exact ⟨rfl, h⟩
  | setNoGrow fNoGrow => exact ⟨rfl, h.contents, h.size, h.position, h.allocated, rfl⟩

theorem call_of_error {m : Hr CDataStream Unit} {hr : HRESULT}
    (hm : (∃ s', m s = .ok () s') ∨ ∃ hr', m s = .error hr' s)
    (h : (answer m (fun _ => []) s).1 = .error hr) : (answer m (fun _ => []) s).2 = s := by
  rcases hm with ⟨s', hok⟩ | ⟨hr', herror⟩
  · rw [answer_ok hok] at h
    cases h
  · rw [answer_error herror]

theorem write_cases (data : Option (List UInt8)) (size : ℕ) (s : CDataStream) :
    (∃ s', CDataStream.write data size s = .ok () s') ∨
      ∃ hr, CDataStream.write data size s = .error hr s := by
  by_cases hnull : size = 0 ∨ data = none
  · exact .inr ⟨E_FAIL, write_null data hnull⟩
  · rcases grow_cases (size + s.pos) s with ⟨s₁, hgrow, -⟩ | hgrow
    · refine .inl ?_
      rw [CDataStream.write, Hr.bind_ok (Hr.get_apply s), Hr.bind_ok (Hr.chkIf_false hnull _ s),
        Hr.bind_ok hgrow]
      exact ⟨_, rfl⟩
    · exact .inr ⟨E_FAIL, write_error_of_grow hnull hgrow⟩

theorem seekDirect_cases (pos : ℕ) (s : CDataStream) :
    (∃ s', seekDirect pos s = .ok () s') ∨ ∃ hr, seekDirect pos s = .error hr s := by
  rw [seekDirect, Hr.bind_ok (Hr.get_apply s)]
  split_ifs
  · exact .inl ⟨_, rfl⟩
  · exact .inr ⟨E_FAIL, rfl⟩

/-- A call that fails changes nothing. -/
theorem call_error {c : StreamCall} {hr : HRESULT} (h : (s.call c).1 = .error hr) :
    (s.call c).2 = s := by
  cases c with
  | write size data => exact call_of_error (write_cases _ _ s) h
  | read size =>
    rcases read_cases size s with ⟨-, hok⟩ | ⟨-, herror⟩
    · rw [call, answer_ok hok] at h
      cases h
    · rw [call, answer_error herror]
  | seekDirect pos => exact call_of_error (seekDirect_cases pos s) h
  | seekRelative offset =>
    refine call_of_error ?_ h
    rw [CDataStream.seekRelative, Hr.bind_ok (Hr.get_apply s)]
    exact seekDirect_cases _ s
  | setSizeHint size =>
    refine call_of_error ?_ h
    rcases grow_cases size s with ⟨s', hok, -⟩ | herror
    · exact .inl ⟨s', hok⟩
    · exact .inr ⟨E_FAIL, herror⟩
  | setNoGrow fNoGrow => cases h

/-! ### Whole runs -/

theorem length_le_call (p : PlainStream) (c : StreamCall) :
    p.array.items.length ≤ (p.call c).2.array.items.length := by
  have hseek (target : ℤ) : p.array.items.length ≤ (p.seek target).2.array.items.length := by
    unfold PlainStream.seek
    split_ifs
    · exact le_rfl
    · exact le_rfl
  cases c with
  | write size data =>
    cases data with
    | none => exact le_rfl
    | some data =>
      rw [PlainStream.call]
      split_ifs
      · exact Cursor.length_le_write _ _
      · exact le_rfl
  | read size =>
    rw [PlainStream.call]
    split_ifs
    · exact le_rfl
    · exact le_rfl
  | seekDirect pos => exact hseek pos
  | seekRelative offset => exact hseek _
  | setSizeHint size =>
    rw [PlainStream.call]
    split_ifs
    · exact le_rfl
    · exact le_rfl
  | setNoGrow fNoGrow => exact le_rfl

/-- The array never gets shorter. -/
theorem length_le_afterCalls (p : PlainStream) (calls : List StreamCall) :
    p.array.items.length ≤ (p.afterCalls calls).array.items.length := by
  induction calls generalizing p with
  | nil => exact le_rfl
  | cons c calls ih => exact (length_le_call p c).trans (ih _)

theorem Represents.run (h : s.Represents p) (calls : List StreamCall)
    (hsize : (p.afterCalls calls).array.items.length < 2 ^ 62)
    (hreads : ∀ size, .read size ∈ calls → size < 2 ^ 62) :
    Machine.trace CDataStream.call s calls = Machine.trace PlainStream.call p calls ∧
      (s.afterCalls calls).Represents (p.afterCalls calls) := by
  induction calls generalizing s p with
  | nil => exact ⟨rfl, h⟩
  | cons c calls ih =>
    have hnow : p.array.items.length < 2 ^ 62 :=
      lt_of_le_of_lt (length_le_afterCalls p (c :: calls)) hsize
    obtain ⟨hanswer, hnext⟩ := h.call hnow c fun size hc => hreads size (hc ▸ List.mem_cons_self ..)
    obtain ⟨htrace, hafter⟩ := ih hnext hsize fun size hmem => hreads size (List.mem_cons_of_mem _ hmem)
    refine ⟨?_, hafter⟩
    rw [Machine.trace, Machine.trace, hanswer, htrace]

/-- As long as the array and what is asked of `Read` stay below 2^62 bytes, every call answers as
the plain model does and leaves what the plain model leaves; the position stays within the size
and the size within the allocation, and a call that fails changes nothing. -/
theorem run_is_plain (h : s.Wf) (calls : List StreamCall)
    (hsize : ((s.plain h).afterCalls calls).array.items.length < 2 ^ 62)
    (hreads : ∀ size, .read size ∈ calls → size < 2 ^ 62) :
    Machine.trace CDataStream.call s calls = Machine.trace PlainStream.call (s.plain h) calls ∧
      (s.afterCalls calls).Represents ((s.plain h).afterCalls calls) ∧
      (s.afterCalls calls).Wf ∧
      ∀ c hr, ((s.afterCalls calls).call c).1 = .error hr →
        ((s.afterCalls calls).call c).2 = s.afterCalls calls := by
  obtain ⟨htrace, hafter⟩ := (represents_plain h).run calls hsize hreads
  exact ⟨htrace, hafter, hafter.wf, fun c hr => call_error⟩

/-- A write across the end, a step back over what it wrote, a step before the start, and a write
for which there is no room. -/
def scriptAcrossTheEnd : List StreamCall :=
  [.seekDirect 3, .write 2 (some ⟨[90, 91], rfl⟩), .seekRelative (-3), .read 3, .seekRelative (-6),
    .setNoGrow true, .write 4 (some ⟨[1, 2, 3, 4], rfl⟩), .read 1]

theorem run_is_plain_acrossTheEnd :
    (Machine.trace CDataStream.call (ofBuffer (CBuffer.initNoAlloc [65, 66, 67, 68]))
        scriptAcrossTheEnd).map Prod.snd =
      [.ok [], .ok [], .ok [], .ok [67, 90, 91], .error E_FAIL, .ok [], .error E_FAIL,
        .error E_INVALIDARG] ∧
      ((ofBuffer (CBuffer.initNoAlloc [65, 66, 67, 68])).afterCalls scriptAcrossTheEnd).bytes =
        [65, 66, 67, 90, 91] := by
  obtain ⟨htrace, hafter, -⟩ :=
    run_is_plain (wf_ofBuffer [65, 66, 67, 68]) scriptAcrossTheEnd (by decide) fun size hread => by
      have hthree : size ≤ 3 := by simp [scriptAcrossTheEnd] at hread; omega
      omega
  rw [htrace, hafter.contents]
  decide

end StunServer.CDataStream

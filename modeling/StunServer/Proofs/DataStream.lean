import StunServer.Core.DataStream

/-! `CDataStream` is a byte list with a cursor: a write overwrites or extends the list
at the cursor, a read copies from it, and growing the buffer is invisible in both. -/

namespace StunServer.CDataStream

open Bytes

/-- Position, size and allocation are in order. -/
structure Wf (s : CDataStream) : Prop where
  pos_le : s.pos ≤ s.getSize
  size_le : s.getSize ≤ s.getAllocatedSize

/-- The stream still works on the buffer it started with, which holds `cap` bytes. -/
structure InPlace (s : CDataStream) (cap : ℕ) : Prop where
  allocated : s.getAllocatedSize = cap
  replaced : s.replaced = none

theorem bytes_eq (s : CDataStream) : s.bytes = s.data.take s.getSize := by
  unfold bytes data getSize
  cases s.pBuffer <;> rfl

theorem data_length (s : CDataStream) : s.data.length = s.getAllocatedSize := by
  unfold data getAllocatedSize
  cases s.pBuffer <;> rfl

theorem Wf.bytes_length {s : CDataStream} (h : s.Wf) : s.bytes.length = s.getSize := by
  rw [bytes_eq, List.length_take, data_length, Nat.min_eq_left h.size_le]

theorem wf_create : create.Wf := ⟨Nat.le_refl _, Nat.le_refl _⟩

/-- The stream with its cursor moved. -/
def moveTo (s : CDataStream) (p : ℕ) : CDataStream := { s with pos := p }

@[simp] theorem bytes_moveTo (s : CDataStream) (p : ℕ) : (s.moveTo p).bytes = s.bytes := rfl
@[simp] theorem pos_moveTo (s : CDataStream) (p : ℕ) : (s.moveTo p).pos = p := rfl
@[simp] theorem getSize_moveTo (s : CDataStream) (p : ℕ) : (s.moveTo p).getSize = s.getSize := rfl
@[simp] theorem moveTo_moveTo (s : CDataStream) (p q : ℕ) : (s.moveTo p).moveTo q = s.moveTo q :=
  rfl

theorem moveTo_pos (s : CDataStream) : s.moveTo s.pos = s := rfl

theorem Wf.moveTo {s : CDataStream} (h : s.Wf) {p : ℕ} (hp : p ≤ s.bytes.length) :
    (s.moveTo p).Wf :=
  ⟨by rwa [h.bytes_length] at hp, h.size_le⟩

theorem wf_attach (s : CDataStream) (buf : CBuffer) : (s.attach buf true).Wf := by
  refine ⟨Nat.zero_le _, ?_⟩
  simp [attach, getSize, CBuffer.getSize]

/-- A stream over a buffer whose size is in order. -/
theorem wf_ofBuffer_of_le {buf : CBuffer} (h : buf.getSize ≤ buf.getAllocatedSize) : (ofBuffer buf).Wf :=
  ⟨Nat.zero_le _, h⟩

theorem wf_ofBuffer (d : List UInt8) : (ofBuffer (CBuffer.initNoAlloc d)).Wf :=
  wf_ofBuffer_of_le le_rfl

@[simp] theorem bytes_attach (s : CDataStream) (buf : CBuffer) :
    (s.attach buf true).bytes = [] := by
  simp [attach, bytes, CBuffer.bytes]

theorem inPlace_attach (s : CDataStream) (buf : CBuffer) :
    (s.attach buf true).InPlace buf.getAllocatedSize := by
  refine ⟨?_, rfl⟩
  simp [attach, getAllocatedSize, CBuffer.getAllocatedSize]

/-! ### Reading and seeking -/

theorem peek_toList {s : CDataStream} (h : s.Wf) {off n : ℕ} (hn : off + n ≤ s.bytes.length) :
    (s.peek off n).toList = slice s.bytes off n := by
  have hlen := h.bytes_length
  have hsz := h.size_le
  rw [bytes_eq, slice_take (by omega)]
  cases hb : s.pBuffer with
  | none =>
    have h0 : s.getSize = 0 := by rw [getSize, hb]; rfl
    obtain rfl : n = 0 := by omega
    simp [slice]
  | some buf =>
    have hd : s.data = buf.data := by rw [data, hb]; rfl
    have hle : off + n ≤ buf.data.length := by
      rw [← hd, data_length]
      omega
    rw [peek, hb, hd]
    exact CBuffer.peek_toList hle

/-- `Read` moves the cursor to what it has checked, or does nothing. -/
theorem read_cases (size : ℕ) (s : CDataStream) :
    ((size + s.pos) % 2 ^ 64 ≤ s.getSize ∧
        read size s = .ok (s.peek s.pos size) (s.moveTo ((size + s.pos) % 2 ^ 64))) ∨
      (s.getSize < (size + s.pos) % 2 ^ 64 ∧ read size s = .error E_INVALIDARG s) := by
  rcases Nat.lt_or_ge s.getSize ((size + s.pos) % 2 ^ 64) with hlt | hle
  · refine Or.inr ⟨hlt, ?_⟩
    rw [read, Hr.bind_ok (Hr.get_apply s), Hr.bind_error (Hr.chkIf_true hlt _ s)]
  · refine Or.inl ⟨hle, ?_⟩
    rw [read, Hr.bind_ok (Hr.get_apply s), Hr.bind_ok (Hr.chkIf_false (not_lt.mpr hle) _ s)]
    rfl

theorem read_ok {s : CDataStream} (h : s.Wf) {p n : ℕ} (hn : p + n ≤ s.bytes.length)
    (hsum : p + n < 2 ^ 64) :
    ∃ v, read n (s.moveTo p) = .ok v (s.moveTo (p + n)) ∧ v.toList = slice s.bytes p n := by
  refine ⟨s.peek p n, ?_, peek_toList h hn⟩
  have hcases := read_cases n (s.moveTo p)
  rw [h.bytes_length] at hn
  rw [pos_moveTo, getSize_moveTo, Nat.add_comm, Nat.mod_eq_of_lt hsum] at hcases
  rcases hcases with ⟨-, hok⟩ | ⟨hlt, -⟩
  · exact hok
  · exact absurd hn (not_le.mpr hlt)

theorem read_error {s : CDataStream} (h : s.Wf) {p n : ℕ} (hn : s.bytes.length < p + n)
    (hsum : p + n < 2 ^ 64) : read n (s.moveTo p) = .error E_INVALIDARG (s.moveTo p) := by
  have hcases := read_cases n (s.moveTo p)
  rw [h.bytes_length] at hn
  rw [pos_moveTo, getSize_moveTo, Nat.add_comm, Nat.mod_eq_of_lt hsum] at hcases
  rcases hcases with ⟨hle, -⟩ | ⟨-, herror⟩
  · exact absurd hn (not_lt.mpr hle)
  · exact herror

theorem readUint16_ok {s : CDataStream} (h : s.Wf) {p : ℕ} (hn : p + 2 ≤ s.bytes.length)
    (hsum : p + 2 < 2 ^ 64) :
    readUint16 (s.moveTo p) = .ok (load16 (slice s.bytes p 2)) (s.moveTo (p + 2)) := by
  obtain ⟨v, hv, hs⟩ := read_ok h hn hsum
  rw [readUint16, Hr.bind_ok hv, hs]
  rfl

theorem readUint16_error {s : CDataStream} (h : s.Wf) {p : ℕ} (hn : s.bytes.length < p + 2)
    (hsum : p + 2 < 2 ^ 64) : readUint16 (s.moveTo p) = .error E_INVALIDARG (s.moveTo p) := by
  rw [readUint16, Hr.bind_error (read_error h hn hsum)]

theorem readUint32_ok {s : CDataStream} (h : s.Wf) {p : ℕ} (hn : p + 4 ≤ s.bytes.length)
    (hsum : p + 4 < 2 ^ 64) :
    readUint32 (s.moveTo p) = .ok (load32 (slice s.bytes p 4)) (s.moveTo (p + 4)) := by
  obtain ⟨v, hv, hs⟩ := read_ok h hn hsum
  rw [readUint32, Hr.bind_ok hv, hs]
  rfl

theorem seekDirect_ok {s : CDataStream} (h : s.Wf) {p q : ℕ} (hp : q ≤ s.bytes.length) :
    seekDirect q (s.moveTo p) = .ok () (s.moveTo q) := by
  rw [h.bytes_length] at hp
  rw [seekDirect, Hr.bind_ok (Hr.get_apply _), getSize_moveTo, if_pos hp]
  rfl

theorem seekDirect_error {s : CDataStream} (h : s.Wf) {p q : ℕ} (hp : s.bytes.length < q) :
    seekDirect q (s.moveTo p) = .error E_FAIL (s.moveTo p) := by
  rw [h.bytes_length] at hp
  rw [seekDirect, Hr.bind_ok (Hr.get_apply _), getSize_moveTo, if_neg (by omega)]
  rfl

theorem getSize_seekDirect (pos : ℕ) (s : CDataStream) :
    ((seekDirect pos).after s).getSize = s.getSize := by
  rw [Hr.after, seekDirect, Hr.bind_ok (Hr.get_apply s)]
  split_ifs <;> rfl

theorem pos_seekDirect_le (pos : ℕ) {s : CDataStream} (h : s.pos ≤ s.getSize) :
    ((seekDirect pos).after s).pos ≤ s.getSize := by
  rw [Hr.after, seekDirect, Hr.bind_ok (Hr.get_apply s)]
  split_ifs with hpos
  · exact hpos
  · exact h

theorem seekRelative_nat {s : CDataStream} {n : ℕ} (hb : s.pos + n < 2 ^ 64) :
    seekRelative n s = seekDirect (s.pos + n) s := by
  rw [seekRelative, Hr.bind_ok (Hr.get_apply s)]
  congr 1
  omega

theorem seekRelative_neg {s : CDataStream} {n : ℕ} (hn : n ≤ s.pos) (hb : s.pos < 2 ^ 64) :
    seekRelative (-n) s = seekDirect (s.pos - n) s := by
  rw [seekRelative, Hr.bind_ok (Hr.get_apply s)]
  congr 1
  omega

/-! ### Writing -/

theorem grow_fits {s : CDataStream} {n : ℕ} (hn : n ≤ s.getAllocatedSize) :
    grow n s = .ok () s := by
  rw [grow, Hr.bind_ok (Hr.get_apply s), if_pos hn]
  rfl

theorem grow_fixed {s : CDataStream} {n : ℕ} (hn : ¬n ≤ s.getAllocatedSize)
    (hg : s.fNoGrow = true) : grow n s = .error E_FAIL s := by
  rw [grow, Hr.bind_ok (Hr.get_apply s), if_neg hn]
  exact Hr.bind_error (Hr.chkIf_true hg E_FAIL s)

/-- A new buffer is twice as large, or as large as it has to be, and holds the same bytes. -/
theorem grow_more {s : CDataStream} (h : s.Wf) (hg : s.fNoGrow = false) {n : ℕ}
    (hn : ¬n ≤ s.getAllocatedSize) :
    ∃ s', grow n s = .ok () s' ∧ s'.Wf ∧ s'.bytes = s.bytes ∧ s'.pos = s.pos ∧
      s'.fNoGrow = s.fNoGrow ∧ s'.getAllocatedSize = max n (s.getAllocatedSize * 2) := by
  set a := if n > s.getAllocatedSize * 2 then n else s.getAllocatedSize * 2 with ha
  have hmax : a = max n (s.getAllocatedSize * 2) := by
    rw [ha]
    split_ifs <;> omega
  set buf : CBuffer := ⟨overwrite (List.replicate a 0) 0 (s.data.take s.getSize), s.getSize,
    (a + 2) % 2 ^ 64⟩ with hbuf
  have hcopy : (s.data.take s.getSize).length = s.getSize := by
    rw [List.length_take, data_length, Nat.min_eq_left h.size_le]
  have hle := h.size_le
  have hlen : buf.data.length = a := by
    rw [hbuf, overwrite_length (by rw [List.length_replicate, hcopy]; omega),
      List.length_replicate]
  refine ⟨{ s with pBuffer := some buf, replaced := s.replaced.or s.pBuffer }, ?_, ?_, ?_, rfl,
    rfl, hlen.trans hmax⟩
  · rw [grow, Hr.bind_ok (Hr.get_apply s), if_neg hn,
      Hr.bind_ok (Hr.chkIf_false (by simp [hg]) _ s)]
    simp only [CBuffer.setSize_snd, ← ha, Hr.set_apply, CBuffer.initWithAllocation]
    congr 2
    by_cases h0 : s.getSize = 0
    · rw [if_neg (by omega), hbuf]
      simp [h0, overwrite]
    · rw [if_pos (by omega)]
  · refine ⟨h.pos_le, ?_⟩
    change s.getSize ≤ buf.data.length
    omega
  · have ht : (overwrite (List.replicate a 0) 0 (s.data.take s.getSize)).take
        (0 + (s.data.take s.getSize).length) = _ := take_overwrite (Nat.zero_le _)
    rw [hcopy, Nat.zero_add, List.take_zero, List.nil_append] at ht
    rw [bytes_eq s]
    exact ht

/-- Growing changes nothing but the allocation, and not even that if it suffices. -/
theorem grow_ok {s : CDataStream} (h : s.Wf) (hg : s.fNoGrow = false) (n : ℕ) :
    ∃ s', grow n s = .ok () s' ∧ s'.Wf ∧ s'.bytes = s.bytes ∧ s'.pos = s.pos ∧
      s'.fNoGrow = false ∧ n ≤ s'.getAllocatedSize ∧ (n ≤ s.getAllocatedSize → s' = s) := by
  by_cases hn : n ≤ s.getAllocatedSize
  · exact ⟨s, grow_fits hn, h, rfl, rfl, hg, hn, fun _ => rfl⟩
  · obtain ⟨s', he, hw, hb, hp, hng, ha⟩ := grow_more h hg hn
    exact ⟨s', he, hw, hb, hp, hng.trans hg, ha ▸ le_max_left _ _, fun hle => absurd hle hn⟩

/-- Once there is room, a write overwrites or extends the bytes at the cursor. -/
theorem write_of_grow {s s₁ : CDataStream} (h : s.Wf) {d : List UInt8} (hd : d ≠ [])
    (hgrow : grow (d.length + s.pos) s = .ok () s₁) (hw : s₁.Wf) (hbytes : s₁.bytes = s.bytes)
    (hpos : s₁.pos = s.pos) (halloc : d.length + s.pos ≤ s₁.getAllocatedSize) :
    ∃ s', write (some d) d.length s = .ok () s' ∧ s'.Wf ∧ s'.bytes = overwrite s.bytes s.pos d ∧
      s'.pos = s.pos + d.length ∧ s'.fNoGrow = s₁.fNoGrow ∧
      s'.getAllocatedSize = s₁.getAllocatedSize ∧ s'.replaced = s₁.replaced := by
  have hd0 : d.length ≠ 0 := by simpa using hd
  have hsize : s₁.getSize = s.getSize := by
    rw [← hw.bytes_length, hbytes, h.bytes_length]
  obtain ⟨buf, hbuf⟩ : ∃ buf, s₁.pBuffer = some buf := by
    cases hb : s₁.pBuffer with
    | none =>
      rw [getAllocatedSize, hb] at halloc
      simp only [Option.elim_none] at halloc
      omega
    | some buf => exact ⟨buf, rfl⟩
  have hal : buf.data.length = s₁.getAllocatedSize := by
    rw [getAllocatedSize, hbuf]
    rfl
  have hsz : buf.size = s.getSize := by
    rw [← hsize, getSize, hbuf]
    rfl
  have hbb : buf.data.take buf.size = s.bytes := by
    rw [← hbytes, bytes, hbuf]
    rfl
  have hfit : s.pos + d.length ≤ buf.data.length := by omega
  set size' := max s.getSize (s.pos + d.length) with hsize'
  set buf' : CBuffer := ⟨overwrite buf.data s.pos d, size', buf.backing⟩ with hbuf'
  have hple := h.pos_le
  have hold : s.getSize ≤ buf.data.length := by
    rw [hal, ← hsize]
    exact hw.size_le
  refine ⟨{ s₁ with pBuffer := some buf', pos := d.length + s.pos }, ?_, ?_, ?_, Nat.add_comm _ _,
    rfl, (overwrite_length hfit).trans hal, rfl⟩
  · rw [write, Hr.bind_ok (Hr.get_apply s),
      Hr.bind_ok (Hr.chkIf_false (by simp only [hd0, reduceCtorEq, or_self, not_false_eq_true]) _ s),
      Hr.bind_ok hgrow, Hr.bind_ok (Hr.get_apply s₁)]
    simp only [hbuf, Option.getD_some, CBuffer.setSize_snd, Hr.set_apply, List.take_length, hpos,
      poke]
    congr 3
    by_cases hlt : d.length + s.pos > s.getSize
    · rw [if_pos hlt, hbuf', hsize', Nat.max_eq_right (by omega), Nat.add_comm]
    · rw [if_neg hlt, hbuf', hsize', Nat.max_eq_left (by omega), hsz]
  · refine ⟨?_, ?_⟩
    · change d.length + s.pos ≤ size'
      omega
    · change size' ≤ (overwrite buf.data s.pos d).length
      rw [overwrite_length hfit]
      omega
  · change (overwrite buf.data s.pos d).take size' = _
    rw [← hbb, hsz]
    by_cases hin : s.pos + d.length ≤ s.getSize
    · rw [hsize', Nat.max_eq_left hin]
      exact take_overwrite_inside hin hold
    · rw [hsize', Nat.max_eq_right (by omega), take_overwrite (by omega), overwrite,
        List.take_take, Nat.min_eq_left hple, List.drop_of_length_le (by simp; omega),
        List.append_nil]

/-- A write overwrites or extends the bytes at the cursor. It stays in the buffer when
the buffer holds the result. -/
theorem write_ok {s : CDataStream} (h : s.Wf) (hg : s.fNoGrow = false) {d : List UInt8}
    (hd : d ≠ []) :
    ∃ s', write (some d) d.length s = .ok () s' ∧ s'.Wf ∧ s'.bytes = overwrite s.bytes s.pos d ∧
      s'.pos = s.pos + d.length ∧ s'.fNoGrow = false ∧
      ∀ cap, s.InPlace cap → s.pos + d.length ≤ cap → s'.InPlace cap := by
  obtain ⟨s₁, hgrow, hw, hbytes, hpos, hng, halloc, hsame⟩ := grow_ok h hg (d.length + s.pos)
  obtain ⟨s', he, hw', hb', hp', hng', ha', hr'⟩ := write_of_grow h hd hgrow hw hbytes hpos halloc
  refine ⟨s', he, hw', hb', hp', hng'.trans hng, fun cap hcap hle => ?_⟩
  obtain rfl : s₁ = s := hsame (by rw [hcap.allocated]; omega)
  exact ⟨ha'.trans hcap.allocated, hr'.trans hcap.replaced⟩

/-- Growing either fails or makes room. -/
theorem grow_cases (size : ℕ) (s : CDataStream) :
    (∃ s', grow size s = .ok () s' ∧ size ≤ s'.getAllocatedSize) ∨
      grow size s = .error E_FAIL s := by
  by_cases hfits : size ≤ s.getAllocatedSize
  · refine .inl ⟨s, ?_, hfits⟩
    rw [grow, Hr.bind_ok (Hr.get_apply s), if_pos hfits]
    rfl
  · rw [grow, Hr.bind_ok (Hr.get_apply s), if_neg hfits]
    by_cases hfixed : s.fNoGrow = true
    · exact .inr (Hr.bind_error (Hr.chkIf_true hfixed E_FAIL s))
    · refine .inl ⟨_, Hr.bind_ok (Hr.chkIf_false hfixed E_FAIL s), ?_⟩
      set a := if size > s.getAllocatedSize * 2 then size else s.getAllocatedSize * 2 with ha
      have hsize : size ≤ a := by
        rw [ha]
        split_ifs <;> omega
      have hcopy := length_le_overwrite (List.replicate a (0 : UInt8)) (s.data.take s.getSize) 0
      rw [List.length_replicate] at hcopy
      simp only [CBuffer.setSize_snd]
      split_ifs
      · exact hsize.trans hcopy
      · exact hsize.trans (List.length_replicate ..).ge

/-- What has been written fits in the stream as it has grown. -/
theorem write_room {data : Option (List UInt8)} {size : ℕ} {s s' : CDataStream}
    (h : write data size s = .ok () s') :
    s.pos + size ≤ ((grow (size + s.pos)).after s).getAllocatedSize := by
  rw [write, Hr.bind_ok (Hr.get_apply s)] at h
  dsimp only at h
  by_cases hnone : size = 0 ∨ data = none
  · rw [Hr.bind_error (Hr.chkIf_true hnone E_FAIL s)] at h
    cases h
  · rw [Hr.bind_ok (Hr.chkIf_false hnone E_FAIL s)] at h
    rcases grow_cases (size + s.pos) s with ⟨s₁, hgrow, hroom⟩ | hgrow
    · rw [(Hr.after_ok hgrow).1, Nat.add_comm]
      exact hroom
    · rw [Hr.bind_error hgrow] at h
      cases h

theorem write_null {s : CDataStream} (d : Option (List UInt8)) {n : ℕ} (h : n = 0 ∨ d = none) :
    write d n s = .error E_FAIL s := by
  rw [write, Hr.bind_ok (Hr.get_apply s), Hr.bind_error (Hr.chkIf_true h _ s)]

/-- No more than `size` bytes are read off the data. -/
theorem write_take {data : List UInt8} {size n : ℕ} (h : size ≤ n) :
    write (some (data.take n)) size = write (some data) size := by
  have htake : (data.take n).take size = data.take size := by
    rw [List.take_take, Nat.min_eq_left h]
  funext s
  by_cases hzero : size = 0
  · rw [write_null _ (Or.inl hzero), write_null _ (Or.inl hzero)]
  · unfold write
    rw [Hr.bind_ok (Hr.get_apply s), Hr.bind_ok (Hr.get_apply s),
      Hr.bind_ok (Hr.chkIf_false (by simp [hzero]) _ _),
      Hr.bind_ok (Hr.chkIf_false (by simp [hzero]) _ _), Option.getD_some, Option.getD_some, htake]

/-- The stream holds `pre` and the cursor stands behind it. -/
structure AtEnd (s : CDataStream) (pre : List UInt8) : Prop where
  wf : s.Wf
  bytes : s.bytes = pre
  pos : s.pos = pre.length
  grow : s.fNoGrow = false

theorem atEnd_create : create.AtEnd [] := ⟨wf_create, rfl, rfl, rfl⟩

theorem atEnd_attach (s : CDataStream) (buf : CBuffer) : (s.attach buf true).AtEnd [] :=
  ⟨wf_attach s buf, bytes_attach s buf, rfl, rfl⟩

/-- What stands before the last part of what was written. -/
theorem AtEnd.before {s : CDataStream} {pre last : List UInt8} (h : s.AtEnd (pre ++ last)) :
    s.getSize - last.length = pre.length ∧ s.data.take pre.length = pre := by
  have hsize : s.getSize = pre.length + last.length := by
    rw [← h.wf.bytes_length, h.bytes, List.length_append]
  constructor
  · omega
  · have hbytes := congrArg (List.take pre.length) h.bytes
    rwa [CDataStream.bytes_eq, List.take_take, Nat.min_eq_left (by omega), List.take_left] at hbytes

/-- Behind the end a write appends. -/
theorem AtEnd.write {s : CDataStream} {pre d : List UInt8} (h : s.AtEnd pre) (hd : d ≠ []) :
    ∃ s', CDataStream.write (some d) d.length s = .ok () s' ∧ s'.AtEnd (pre ++ d) ∧
      ∀ cap, s.InPlace cap → (pre ++ d).length ≤ cap → s'.InPlace cap := by
  obtain ⟨s', he, hw, hb, hp, hng, hin⟩ := write_ok h.wf h.grow hd
  refine ⟨s', he, ⟨hw, ?_, ?_, hng⟩, ?_⟩
  · rw [hb, h.bytes, h.pos, overwrite, List.take_length, List.drop_of_length_le (by omega),
      List.append_nil]
  · rw [hp, h.pos, List.length_append]
  · intro cap hcap hle
    refine hin cap hcap ?_
    rwa [h.pos, ← List.length_append]

theorem AtEnd.seek {s : CDataStream} {pre : List UInt8} (h : s.AtEnd pre) {q : ℕ}
    (hq : q ≤ pre.length) : seekDirect q s = .ok () (s.moveTo q) :=
  seekDirect_ok (p := s.pos) h.wf (by rwa [h.bytes])

/-- A write inside the bytes changes those bytes only. -/
theorem write_inside {s : CDataStream} (h : s.Wf) (hg : s.fNoGrow = false) {d : List UInt8}
    (hd : d ≠ []) {p : ℕ} (hp : p + d.length ≤ s.bytes.length) :
    ∃ s', CDataStream.write (some d) d.length (s.moveTo p) = .ok () s' ∧ s'.Wf ∧
      s'.bytes = overwrite s.bytes p d ∧ s'.pos = p + d.length ∧ s'.fNoGrow = false ∧
      ∀ cap, s.InPlace cap → s'.InPlace cap := by
  obtain ⟨s', he, hw, hb, hpos, hng, hin⟩ := write_ok (h.moveTo (p := p) (by omega)) hg hd
  refine ⟨s', he, hw, hb, hpos, hng, fun cap hcap => ?_⟩
  have hsize := h.size_le
  rw [hcap.allocated, ← h.bytes_length] at hsize
  refine hin cap ⟨hcap.allocated, hcap.replaced⟩ ?_
  rw [pos_moveTo]
  omega

/-- A write somewhere before the end changes those bytes only. -/
theorem AtEnd.patch {s : CDataStream} {pre d : List UInt8} (h : s.AtEnd pre) (hd : d ≠ [])
    {p : ℕ} (hp : p + d.length ≤ pre.length) :
    ∃ s', CDataStream.write (some d) d.length (s.moveTo p) = .ok () s' ∧
      s'.pos = p + d.length ∧ s'.bytes.length = pre.length ∧ s'.Wf ∧
      (s'.moveTo pre.length).AtEnd (overwrite pre p d) ∧
      ∀ cap, s.InPlace cap → s'.InPlace cap := by
  obtain ⟨s', he, hw, hb, hpos, hng, hin⟩ := write_inside h.wf h.grow hd (by rwa [h.bytes])
  rw [h.bytes] at hb
  have hov : (overwrite pre p d).length = pre.length := overwrite_length hp
  have hlen' : s'.bytes.length = pre.length := by rw [hb, hov]
  exact ⟨s', he, hpos, hlen', hw,
    ⟨hw.moveTo (Nat.le_of_eq hlen'.symm), hb, hov.symm, hng⟩, hin⟩

/-- Bytes stored straight into the buffer. -/
def stored (s : CDataStream) (pos : ℕ) (d : List UInt8) : CDataStream :=
  { s with pBuffer := s.pBuffer.map fun buf => poke buf pos d }

theorem AtEnd.stored {s : CDataStream} {pre d : List UInt8} (h : s.AtEnd pre) {p : ℕ}
    (hp : p + d.length ≤ pre.length) :
    (s.stored p d).AtEnd (overwrite pre p d) ∧
      ∀ cap, s.InPlace cap → (s.stored p d).InPlace cap := by
  have hsize := h.wf.size_le
  have hlen := h.wf.bytes_length
  rw [h.bytes] at hlen
  cases hb : s.pBuffer with
  | none =>
    have h0 : s.getSize = 0 := by rw [getSize, hb]; rfl
    have hd : d = [] := List.length_eq_zero_iff.mp (by omega)
    have hs : s.stored p d = s := by
      cases s
      simp only at hb
      subst hb
      rfl
    have hov : overwrite pre p d = pre := by
      rw [overwrite, hd, List.append_nil, List.length_nil, Nat.add_zero, List.take_append_drop]
    rw [hs, hov]
    exact ⟨h, fun _ hc => hc⟩
  | some buf =>
    have hgs : s.getSize = buf.size := by rw [getSize, hb]; rfl
    have hga : s.getAllocatedSize = buf.data.length := by rw [getAllocatedSize, hb]; rfl
    have hpre : buf.data.take buf.size = pre := by
      rw [← h.bytes, CDataStream.bytes, hb]
      rfl
    have hs : (s.stored p d).pBuffer = some (poke buf p d) := by simp [CDataStream.stored, hb]
    have hov : (overwrite buf.data p d).length = buf.data.length :=
      overwrite_length (by omega)
    have hgs' : (s.stored p d).getSize = s.getSize := by
      rw [getSize, hs, hgs]
      rfl
    have hga' : (s.stored p d).getAllocatedSize = s.getAllocatedSize := by
      rw [getAllocatedSize, hs, hga]
      exact hov
    refine ⟨⟨⟨?_, ?_⟩, ?_, ?_, h.grow⟩, fun cap hc => ⟨hga'.trans hc.allocated, hc.replaced⟩⟩
    · rw [hgs']
      exact h.wf.pos_le
    · rw [hgs', hga']
      exact hsize
    · have hin : p + d.length ≤ buf.size := by omega
      have hfit : buf.size ≤ buf.data.length := by omega
      rw [CDataStream.bytes, hs, ← hpre]
      exact take_overwrite_inside hin hfit
    · rw [overwrite_length hp]
      exact h.pos

end StunServer.CDataStream

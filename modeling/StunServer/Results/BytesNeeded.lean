import StunServer.Proofs.TcpConnection

/-! How many bytes a reader asks for, and what feeding them does. -/

namespace StunServer

open Bytes

namespace CStunMessageReader

/-- The reader that has taken the bytes of a call and not yet looked at them. -/
def written (r : CStunMessageReader) (pData : List UInt8) : CStunMessageReader :=
  (onStream (CDataStream.write (some pData) pData.length)).after
    ((onStream (CDataStream.seekDirect r.stream.getSize)).after r)

/-- `AddBytes` with a pointer that is not null. -/
def fedWith (r : CStunMessageReader) (pData : List UInt8) : CStunMessageReader :=
  (r.addBytes (some pData) (UInt32.ofNat pData.length)).2

/-- One of the two checks of `AddBytes` finds more bytes than the message has. -/
def TripsTooManyBytes (r : CStunMessageReader) (pData : List UInt8) : Prop :=
  let r₁ := parseHeaderBlock (r.written pData)
  let r₂ := parseBodyBlock r₁
  (r₁.state = .headerValidated ∧ r₁.stream.getSize > r₁.msgLength.toNat + STUN_HEADER_SIZE) ∨
    (r₂.state = .bodyValidated ∧ r₂.stream.getSize > r₂.msgLength.toNat + STUN_HEADER_SIZE)

/-- The state after the boundary that the reader waited for. -/
def Forward (r r' : CStunMessageReader) : Prop :=
  (r.state = .headerNotRead ∧
      (r'.state = .headerValidated ∨ r'.state = .bodyValidated ∨ r'.state = .parseError)) ∨
    (r.state = .headerValidated ∧ (r'.state = .bodyValidated ∨ r'.state = .parseError))

section

variable {fAllow : Bool} {r : CStunMessageReader} {b c : List UInt8}

/-- The three blocks do not look at surplus bytes when the header has just been completed. -/
theorem header_not_trips (hstate : r.state = .headerNotRead) (hs : r.Stored b)
    (hlen : b.length = 20) :
    let r₁ := parseHeaderBlock r
    (r₁.stream.getSize = 20 ∧ (r₁.state = .bodyValidated ∨
      r₁.state = .headerValidated ∧ 0 < r₁.msgLength.toNat)) ∨ r₁.state = .parseError := by
  intro r₁
  obtain ⟨tid, htid, hread⟩ := readHeader_eq hs.wf (by rw [hs.bytes]; omega)
  have hr₁ : r₁ = parseHeaderBlock r := rfl
  rw [parseHeaderBlock, if_pos ⟨hstate, by rw [hs.getSize, hlen]; decide⟩] at hr₁
  obtain ⟨hyes, hno⟩ := storeHeader_spec (r.withStream (r.stream.moveTo 20))
    (typeFieldOf r.stream.bytes) (lengthFieldOf r.stream.bytes) tid
  by_cases hok : HeaderFieldsOk (r.withStream (r.stream.moveTo 20)).fAllowLegacyFormat
      (typeFieldOf r.stream.bytes) (lengthFieldOf r.stream.bytes) tid
  · rw [hread, hyes hok] at hr₁
    refine Or.inl ?_
    have hsize : r.stream.getSize = 20 := by rw [hs.getSize, hlen]
    dsimp only at hr₁
    split_ifs at hr₁ with hzero
    · rw [hr₁]
      exact ⟨hsize, Or.inl rfl⟩
    · rw [hr₁]
      refine ⟨hsize, Or.inr ⟨rfl, Nat.pos_of_ne_zero fun h => hzero (UInt16.toNat_inj.mp h)⟩⟩
  · obtain ⟨e, r', herr⟩ := hno hok
    rw [hread, herr] at hr₁
    rw [hr₁]
    exact Or.inr rfl

/-- What is checked in the state after the header: the message has just been completed. -/
theorem body_not_trips (hstate : r.state = .headerValidated) (hs : r.Stored b)
    (ht : r.TableHolds []) (hlong : 20 ≤ b.length) (hlen : b.length = 20 + r.msgLength.toNat) :
    (parseBodyBlock r).stream.getSize = 20 + (parseBodyBlock r).msgLength.toNat ∨
      (parseBodyBlock r).state = .parseError := by
  have hsize : r.stream.getSize = r.msgLength.toNat + 20 := by rw [hs.getSize, hlen, Nat.add_comm]
  have hlt : b.length < 2 ^ 63 := by
    have := r.msgLength.toNat_lt
    omega
  rw [parseBodyBlock, STUN_HEADER_SIZE, if_pos ⟨hstate, hsize.ge⟩, if_pos hsize]
  rcases readBody_spec (by rwa [hs.bytes]) hs.wf (by rwa [hs.bytes]) ht with
    ⟨rs, r', -, hread, hreading, hfields⟩ | ⟨-, e, r', hread⟩
  · simp only [headerFields, Prod.mk.injEq] at hfields
    obtain ⟨-, -, -, -, -, -, hlength⟩ := hfields
    have hsize' : r'.stream.getSize = r.stream.getSize := by rw [hreading.stream]; rfl
    rw [hread]
    exact Or.inl (by rw [hsize', hlength, hsize, Nat.add_comm])
  · rw [hread]
    exact Or.inr rfl

/-- A boundary is reached without a byte too many. -/
theorem not_tripsTooManyBytes (h : Fed fAllow r b) (hw : r.IsWaiting) (hc : c ≠ [])
    (hlen : c.length = StreamServer.needed b) : ¬r.TripsTooManyBytes c := by
  have hne : r.state ≠ .parseError := by
    rcases hw with hw | hw <;> rw [hw] <;> decide
  obtain ⟨s', hwrite, hs'⟩ := write_stored (h.stored hne) hc
  have hwritten : r.written c = r.withStream s' := by
    rw [written, Hr.after, hwrite]
  rw [TripsTooManyBytes, hwritten]
  cases h with
  | headerNotRead state allow stored table short =>
    have hneeded : StreamServer.needed b = 20 - b.length := if_pos short
    have hlen' : (b ++ c).length = 20 := by
      rw [List.length_append]
      omega
    have hstate : (r.withStream s').state = .headerNotRead := state
    rcases header_not_trips hstate hs' hlen' with ⟨hsize, hv | ⟨hv, hpos⟩⟩ | hv
    · rw [parseBodyBlock_of_ne (by rw [hv]; decide), hsize, STUN_HEADER_SIZE]
      omega
    · have hshort : parseBodyBlock (parseHeaderBlock (r.withStream s')) =
          parseHeaderBlock (r.withStream s') :=
        if_neg fun hc => by
          have hge := hc.2
          rw [hsize, STUN_HEADER_SIZE] at hge
          omega
      rw [hshort, hsize, STUN_HEADER_SIZE]
      omega
    · rw [parseBodyBlock_of_ne (by rw [hv]; decide), hv]
      rintro (⟨hs, -⟩ | ⟨hs, -⟩) <;> cases hs
  | headerValidated state stored table header read short =>
    have hlong := header.complete
    have hlength : (r.withStream s').msgLength.toNat = (lengthFieldOf b).toNat := by
      rw [← read.length]
      rfl
    have hneeded : StreamServer.needed b = 20 + (lengthFieldOf b).toNat - b.length :=
      if_neg (not_lt.mpr hlong)
    have hlen' : (b ++ c).length = 20 + (r.withStream s').msgLength.toNat := by
      rw [List.length_append, hlength]
      omega
    have hstate : (r.withStream s').state = .headerValidated := state
    rw [parseHeaderBlock_of_ne (by rw [hstate]; decide)]
    rintro (⟨-, hgt⟩ | ⟨hv, hgt⟩)
    · rw [hs'.getSize, hlen', STUN_HEADER_SIZE] at hgt
      omega
    · rcases body_not_trips hstate hs' (table.frame rfl rfl rfl rfl) (by omega) hlen' with heq | herr
      · rw [heq, STUN_HEADER_SIZE] at hgt
        omega
      · rw [hv] at herr
        cases herr
  | bodyValidated m encode accepted parsed =>
    rcases hw with hw | hw <;> cases parsed.state.symm.trans hw
  | parseError state => exact absurd state hne

/-- Fewer bytes than asked for leave the state as it is. -/
theorem state_of_fewer {r' : CStunMessageReader} (h : Fed fAllow r b) (hw : r.IsWaiting)
    (h' : Fed fAllow r' (b ++ c)) (hlt : c.length < StreamServer.needed b) :
    r'.state = r.state ∧ StreamServer.needed (b ++ c) = StreamServer.needed b - c.length := by
  have hlen : (b ++ c).length = b.length + c.length := List.length_append
  obtain ⟨-, hshort, hheader, -⟩ := h.state_iff
  obtain ⟨-, hshort', hheader', -⟩ := h'.state_iff
  rcases hw with hw | hw
  · have hb : b.length < 20 := hshort.mp hw
    have hneeded : StreamServer.needed b = 20 - b.length := if_pos hb
    rw [hneeded] at hlt ⊢
    rw [StreamServer.needed, if_pos (by omega)]
    exact ⟨(hshort'.mpr (by omega)).trans hw.symm, by omega⟩
  · obtain ⟨hok, hb⟩ := hheader.mp hw
    have hlong := hok.complete
    have hneeded : StreamServer.needed b = 20 + (lengthFieldOf b).toNat - b.length :=
      if_neg (by omega)
    rw [hneeded] at hlt ⊢
    rw [StreamServer.needed, if_neg (by omega), lengthFieldOf_append hlong]
    refine ⟨(hheader'.mpr ⟨(headerOk_append hlong c).mpr hok, ?_⟩).trans hw.symm, by omega⟩
    rw [lengthFieldOf_append hlong]
    omega

/-- As many bytes as asked for move the state forward. -/
theorem forward_of_needed {r' : CStunMessageReader} (h : Fed fAllow r b) (hw : r.IsWaiting)
    (h' : Fed fAllow r' (b ++ c)) (hlen : c.length = StreamServer.needed b) : Forward r r' := by
  have hlen' : (b ++ c).length = b.length + c.length := List.length_append
  obtain ⟨-, hshort, hheader, -⟩ := h.state_iff
  obtain ⟨-, hshort', hheader', -⟩ := h'.state_iff
  rcases hw with hw | hw
  · refine Or.inl ⟨hw, ?_⟩
    have hb : b.length < 20 := hshort.mp hw
    rw [StreamServer.needed, if_pos hb] at hlen
    cases hs : r'.state with
    | headerNotRead =>
      have := hshort'.mp hs
      omega
    | headerValidated => exact Or.inl rfl
    | bodyValidated => exact Or.inr (Or.inl rfl)
    | parseError => exact Or.inr (Or.inr rfl)
  · refine Or.inr ⟨hw, ?_⟩
    obtain ⟨hok, hb⟩ := hheader.mp hw
    have hlong := hok.complete
    rw [StreamServer.needed, if_neg (by omega)] at hlen
    cases hs : r'.state with
    | headerNotRead =>
      have := hshort'.mp hs
      omega
    | headerValidated =>
      have hlt := (hheader'.mp hs).2
      rw [lengthFieldOf_append hlong] at hlt
      omega
    | bodyValidated => exact Or.inl rfl
    | parseError => exact Or.inr rfl

/-- A request of the reader fits the buffer of the server. -/
theorem needed_le (h : Fed fAllow r b) (hw : r.IsWaiting) : StreamServer.needed b ≤ 800 := by
  obtain ⟨-, hshort, hheader, -⟩ := h.state_iff
  rw [StreamServer.needed]
  rcases hw with hw | hw
  · rw [if_pos (hshort.mp hw)]
    omega
  · obtain ⟨hok, -⟩ := hheader.mp hw
    have hlong := hok.complete
    have hle := hok.length_le
    rw [if_neg (by omega)]
    omega

theorem isWaiting_of_not (h : ¬(r.state = .bodyValidated ∨ r.state = .parseError)) :
    r.IsWaiting := by
  cases hs : r.state with
  | headerNotRead => exact Or.inl hs
  | headerValidated => exact Or.inr hs
  | bodyValidated => exact absurd (Or.inl hs) h
  | parseError => exact absurd (Or.inr hs) h

/-- The reader asks for bytes exactly when it waits for some. -/
theorem howManyBytesNeeded_eq_zero_iff (h : Fed fAllow r b) :
    r.howManyBytesNeeded = 0 ↔ r.state = .bodyValidated ∨ r.state = .parseError := by
  constructor
  · intro hzero
    by_contra hnot
    obtain ⟨heq, hpos⟩ := howManyBytesNeeded_eq h (isWaiting_of_not hnot)
    rw [hzero] at heq
    exact hpos.ne heq
  · rintro (hs | hs) <;> rw [howManyBytesNeeded, hs]

end

/-- `HowManyBytesNeeded` is zero at the end of a message and after an error, and the distance to
the next boundary of the message before. -/
theorem bytes_needed_exact {r : CStunMessageReader} (h : Reachable r) :
    (r.howManyBytesNeeded = 0 ↔ r.state = .bodyValidated ∨ r.state = .parseError) ∧
      (r.howManyBytesNeeded ≠ 0 →
        1 ≤ r.howManyBytesNeeded.toNat ∧ r.howManyBytesNeeded.toNat ≤ 800 ∧
        (∀ c : List UInt8, c.length < r.howManyBytesNeeded.toNat →
          (r.fedWith c).state = r.state ∧
          (r.fedWith c).howManyBytesNeeded.toNat = r.howManyBytesNeeded.toNat - c.length) ∧
        ∀ c : List UInt8, c.length = r.howManyBytesNeeded.toNat →
          Forward r (r.fedWith c) ∧ ¬r.TripsTooManyBytes c) := by
  obtain ⟨-, fAllow, b, hfed⟩ := h.fed
  have hzero := howManyBytesNeeded_eq_zero_iff hfed
  refine ⟨hzero, fun hne => ?_⟩
  have hw : r.IsWaiting := isWaiting_of_not (mt hzero.mpr hne)
  obtain ⟨heq, hpos⟩ := howManyBytesNeeded_eq hfed hw
  have hle := needed_le hfed hw
  rw [heq]
  refine ⟨hpos, hle, fun c hlt => ?_, fun c hlen => ?_⟩
  · obtain ⟨-, -, hfed'⟩ := h.fed_addBytes (c := c) hfed (by omega)
    obtain ⟨hstate, hneeded⟩ := state_of_fewer hfed hw hfed' hlt
    have hw' : (r.fedWith c).IsWaiting := by
      rw [IsWaiting, fedWith, hstate]
      exact hw
    exact ⟨hstate, (howManyBytesNeeded_eq hfed' hw').1.trans hneeded⟩
  · obtain ⟨-, -, hfed'⟩ := h.fed_addBytes (c := c) hfed (by omega)
    have hc : c ≠ [] := by
      rintro rfl
      exact hpos.ne hlen
    exact ⟨forward_of_needed hfed hw hfed' hlen, not_tripsTooManyBytes hfed hw hc hlen⟩

/-- A reader with eight bytes of a header that announces eight bytes of body. -/
def partHeader : CStunMessageReader := create.fedWith [0, 1, 0, 8, 33, 18, 164, 66]

/-- The rest of the header has come, and the first three bytes of the body. -/
def partBody : CStunMessageReader :=
  (partHeader.fedWith (List.replicate 12 7)).fedWith [0, 6, 0]

theorem reachable_partHeader : Reachable partHeader := by
  refine .addBytes .create _ _ ?_
  rintro c ⟨⟩
  rfl

theorem reachable_partBody : Reachable partBody := by
  refine .addBytes (.addBytes reachable_partHeader _ _ ?_) _ _ ?_
  · rintro c ⟨⟩
    rfl
  · rintro c ⟨⟩
    rfl

/-- Twelve bytes complete the header and five the body; four or two bring that nearer. -/
theorem bytes_needed_partly_fed :
    (partHeader.howManyBytesNeeded = 12 ∧
      (partHeader.fedWith [7, 7, 7, 7]).state = .headerNotRead ∧
      (partHeader.fedWith [7, 7, 7, 7]).howManyBytesNeeded.toNat = 8 ∧
      Forward partHeader (partHeader.fedWith (List.replicate 12 7))) ∧
    partBody.howManyBytesNeeded = 5 ∧
      (partBody.fedWith [4, 65]).state = .headerValidated ∧
      (partBody.fedWith [4, 65]).howManyBytesNeeded.toNat = 3 ∧
      Forward partBody (partBody.fedWith [4, 65, 66, 67, 68]) ∧
      ¬partBody.TripsTooManyBytes [4, 65, 66, 67, 68] := by
  have hheader : partHeader.howManyBytesNeeded = 12 ∧ partHeader.state = .headerNotRead := by
    decide +kernel
  have hbody : partBody.howManyBytesNeeded = 5 ∧ partBody.state = .headerValidated := by
    decide +kernel
  obtain ⟨-, -, hfewer, hall⟩ :=
    (bytes_needed_exact reachable_partHeader).2 (by rw [hheader.1]; decide)
  obtain ⟨-, -, hfewer', hall'⟩ :=
    (bytes_needed_exact reachable_partBody).2 (by rw [hbody.1]; decide)
  rw [hheader.1, hheader.2] at hfewer
  rw [hbody.1, hbody.2] at hfewer'
  rw [hheader.1] at hall
  rw [hbody.1] at hall'
  obtain ⟨hstate, hneeded⟩ := hfewer [7, 7, 7, 7] (by decide)
  obtain ⟨hstate', hneeded'⟩ := hfewer' [4, 65] (by decide)
  obtain ⟨hforward, hnot⟩ := hall' [4, 65, 66, 67, 68] rfl
  exact ⟨⟨hheader.1, hstate, hneeded, (hall _ rfl).1⟩, hbody.1, hstate', hneeded', hforward, hnot⟩

end CStunMessageReader

end StunServer

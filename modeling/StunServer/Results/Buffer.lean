import StunServer.Spec.Buffer
import StunServer.Proofs.DataStream
import Mathlib.Data.List.Induction

/-! The size of a buffer is no more than its allocation for as long as nobody asks for more: what
`SetSize` finds out about its argument it returns as a success either way, and two sums are made
in the arithmetic of `size_t`. -/

namespace StunServer

open Bytes

namespace CBuffer

variable {b : CBuffer}

/-- What is counted is there. -/
structure Sound (b : CBuffer) : Prop where
  size_le : b.getSize ≤ b.getAllocatedSize
  backed : b.getAllocatedSize ≤ b.backing
  lt : b.getAllocatedSize < 2 ^ 64

theorem Sound.fits (h : b.Sound) : b.Fits := ⟨h.size_le, h.size_le.trans h.backed⟩

theorem sound_reset : reset.Sound := ⟨le_rfl, le_rfl, by decide⟩

theorem Sound.setSize (h : b.Sound) {size : ℕ} (hsize : size ≤ b.getAllocatedSize) :
    (b.setSize size).2.Sound := by
  rw [setSize_snd]
  exact ⟨hsize, h.backed, h.lt⟩

@[simp] theorem getSize_initWithAllocation (size : ℕ) : (initWithAllocation size).getSize = size :=
  rfl

@[simp] theorem getAllocatedSize_initWithAllocation (size : ℕ) :
    (initWithAllocation size).getAllocatedSize = size := List.length_replicate ..

@[simp] theorem backing_initWithAllocation (size : ℕ) :
    (initWithAllocation size).backing = (size + 2) % 2 ^ 64 := rfl

theorem sound_initWithAllocation {size : ℕ} (h : size + 2 < 2 ^ 64) :
    (initWithAllocation size).Sound := by
  refine ⟨by simp, ?_, ?_⟩
  · rw [getAllocatedSize_initWithAllocation, backing_initWithAllocation]
    omega
  · rw [getAllocatedSize_initWithAllocation]
    omega

/-- The two bytes more are there unless the sum wraps around. -/
theorem lt_of_le_backing {size : ℕ} (hlt : size < 2 ^ 64)
    (h : size ≤ (initWithAllocation size).backing) : size + 2 < 2 ^ 64 := by
  rw [backing_initWithAllocation] at h
  omega

/-- Copying changes neither the sizes nor what is there. -/
theorem initWithAllocAndCopy_some {size : ℕ} (bytes : List.Vector UInt8 size) :
    let b := initWithAllocAndCopy (some bytes.toList) size
    b.getSize = size ∧ b.getAllocatedSize = size ∧
      b.backing = (initWithAllocation size).backing := by
  refine ⟨rfl, ?_, rfl⟩
  have hfit : 0 + (bytes.toList.take size).length ≤ (List.replicate size (0 : UInt8)).length := by
    simp
  exact (overwrite_length hfit).trans (List.length_replicate ..)

theorem Sound.call (h : b.Sound) {c : BufferCall} (hasks : b.AsksWithin c) : (b.call c).2.Sound := by
  cases c with
  | reset => exact sound_reset
  | initWithAllocation size => exact sound_initWithAllocation hasks
  | initNoAlloc size pByteArray =>
    cases pByteArray with
    | none => exact sound_reset
    | some bytes => exact ⟨le_rfl, le_rfl, bytes.toList_length.trans_lt size.toNat_lt⟩
  | initWithAllocAndCopy size pByteArray =>
    cases pByteArray with
    | none => exact sound_initWithAllocation (by decide : 0 + 2 < 2 ^ 64)
    | some bytes =>
      obtain ⟨hsize, hallocated, hbacking⟩ := initWithAllocAndCopy_some bytes
      have hnew := sound_initWithAllocation hasks
      exact ⟨hsize.trans_le hallocated.ge,
        (hallocated.trans_le (by simpa using hnew.backed)).trans hbacking.ge,
        hallocated.trans_lt size.toNat_lt⟩
  | setSize size => exact h.setSize hasks

/-- Whoever asks for more gets a buffer whose size is not in order. -/
theorem asksWithin_of_fits {c : BufferCall} (h : (b.call c).2.Fits) : b.AsksWithin c := by
  cases c with
  | reset => exact trivial
  | initWithAllocation size => exact lt_of_le_backing size.toNat_lt h.2
  | initNoAlloc size pByteArray => exact trivial
  | initWithAllocAndCopy size pByteArray =>
    cases pByteArray with
    | none => exact trivial
    | some bytes =>
      obtain ⟨hsize, -, hbacking⟩ := initWithAllocAndCopy_some bytes
      exact lt_of_le_backing size.toNat_lt (hsize.ge.trans (h.2.trans hbacking.le))
  | setSize size =>
    rw [call, setSize_snd] at h
    exact h.1

end CBuffer

namespace CDataStream

variable {s : CDataStream}

theorem getSize_buffer (s : CDataStream) : s.buffer.getSize = s.getSize := by
  unfold buffer getSize
  cases s.pBuffer <;> rfl

theorem event_owner (s : CDataStream) (c : BufferCall) :
    (s.event (.owner c)).2.buffer = (s.buffer.call c).2 := rfl

theorem buffer_seekDirect (pos : ℕ) (s : CDataStream) :
    ((seekDirect pos).after s).buffer = s.buffer := by
  rw [Hr.after, seekDirect, Hr.bind_ok (Hr.get_apply s)]
  split_ifs <;> rfl

theorem event_seekDirect (s : CDataStream) (pos : UInt64) :
    (s.event (.seekDirect pos)).2.buffer = s.buffer := by
  rw [← buffer_seekDirect pos.toNat s, event, Hr.after]
  cases seekDirect pos.toNat s <;> rfl

theorem event_seekRelative (s : CDataStream) (offset : Int32) :
    (s.event (.seekRelative offset)).2.buffer = s.buffer := by
  have hsum : seekRelative offset.toInt s =
      seekDirect ((offset.toInt + s.pos) % 2 ^ 64).toNat s := by
    rw [seekRelative, Hr.bind_ok (Hr.get_apply s)]
  rw [← buffer_seekDirect ((offset.toInt + s.pos) % 2 ^ 64).toNat s, event, hsum, Hr.after]
  cases seekDirect ((offset.toInt + s.pos) % 2 ^ 64).toNat s <;> rfl

/-- `Read` moves the cursor to what it has checked, or does nothing. -/
theorem event_read (s : CDataStream) (size : UInt64) :
    ((size.toNat + s.pos) % 2 ^ 64 ≤ s.buffer.getSize ∧
        s.event (.read size) = (S_OK, s.moveTo ((size.toNat + s.pos) % 2 ^ 64))) ∨
      (s.buffer.getSize < (size.toNat + s.pos) % 2 ^ 64 ∧
        s.event (.read size) = (E_INVALIDARG, s)) := by
  rw [getSize_buffer]
  rcases read_cases size.toNat s with ⟨hin, hok⟩ | ⟨hout, herror⟩
  · exact .inl ⟨hin, by rw [event, hok]⟩
  · exact .inr ⟨hout, by rw [event, herror]⟩

/-- The buffer stays as it is counted, unless somebody asks for more. -/
theorem sound_event (hs : s.buffer.Sound) {e : BufferEvent} (hasks : s.AsksWithin e) :
    (s.event e).2.buffer.Sound := by
  cases e with
  | owner c =>
    rw [event_owner]
    exact hs.call hasks
  | attach fForWriting =>
    cases fForWriting with
    | false => exact hs
    | true => exact hs.setSize (Nat.zero_le _)
  | read size =>
    rcases event_read s size with ⟨-, hread⟩ | ⟨-, hread⟩
    · rw [hread]
      exact hs
    · rw [hread]
      exact hs
  | seekDirect pos =>
    rw [event_seekDirect]
    exact hs
  | seekRelative offset =>
    rw [event_seekRelative]
    exact hs

/-- What has been read was counted, if the sum does not wrap around. -/
theorem inside_of_asksWithin (hs : s.buffer.Sound) {size : UInt64} (hasks : s.AsksWithin (.read size))
    (hok : SUCCEEDED (s.event (.read size)).1 = true) :
    s.pos + size.toNat ≤ s.buffer.getAllocatedSize := by
  have hle := hs.size_le
  rcases event_read s size with ⟨hin, -⟩ | ⟨-, hread⟩
  · have hsum : size.toNat + s.pos < 2 ^ 64 := hasks.resolve_right (not_lt.mpr hin)
    rw [Nat.mod_eq_of_lt hsum] at hin
    omega
  · rw [hread] at hok
    exact absurd hok (show ¬SUCCEEDED E_INVALIDARG = true by decide)

/-- A sum that wraps around to where the read is not refused has gone past every allocation. -/
theorem asksWithin_of_inside (hs : s.buffer.Sound) {size : UInt64}
    (h : SUCCEEDED (s.event (.read size)).1 = true →
      s.pos + size.toNat ≤ s.buffer.getAllocatedSize) : s.AsksWithin (.read size) := by
  have hlt := hs.lt
  rcases event_read s size with ⟨-, hread⟩ | ⟨hout, -⟩
  · rw [hread] at h
    have hin := h (show SUCCEEDED S_OK = true by decide)
    exact Or.inl (by omega)
  · exact Or.inr hout

/-- An event keeps to the bounds just if it asks for no more than is allocated. -/
theorem bounded_iff (hs : s.buffer.Sound) (e : BufferEvent) : s.Bounded e ↔ s.AsksWithin e := by
  constructor
  · intro h
    cases e with
    | owner c => exact CBuffer.asksWithin_of_fits h.fits
    | read size => exact asksWithin_of_inside hs fun hok => (h.inside size rfl hok).1
    | attach fForWriting => exact trivial
    | seekDirect pos => exact trivial
    | seekRelative offset => exact trivial
  · intro hasks
    refine ⟨(sound_event hs hasks).fits, ?_, ?_⟩
    · rintro size rfl hlt
      exact absurd hasks (not_le.mpr hlt)
    · rintro size rfl hok
      have hin := inside_of_asksWithin hs hasks hok
      exact ⟨hin, hin.trans hs.backed⟩

theorem sound_afterEvents {events : List BufferEvent} {s : CDataStream} (hs : s.buffer.Sound)
    (hasks : Log.Always (fun before e => (s.afterEvents before).AsksWithin e) events) :
    (s.afterEvents events).buffer.Sound := by
  induction events using List.reverseRecOn with
  | nil => exact hs
  | append_singleton events e ih =>
    obtain ⟨hbefore, he⟩ := Log.always_concat.mp hasks
    rw [afterEvents, Machine.after_concat]
    exact sound_event (ih hbefore) he

/-- Over all the calls on a buffer and all the reads of a stream attached to it, the bounds are
kept exactly when nobody asks for more than is allocated at the time. -/
theorem bounds_kept_iff (events : List BufferEvent) :
    Log.Always (fun before e => (overBuffer.afterEvents before).Bounded e) events ↔
      Log.Always (fun before e => (overBuffer.afterEvents before).AsksWithin e) events := by
  have hstart : overBuffer.buffer.Sound := CBuffer.sound_reset
  induction events using List.reverseRecOn with
  | nil => exact iff_of_true Log.always_nil Log.always_nil
  | append_singleton events e ih =>
    rw [Log.always_concat, Log.always_concat]
    refine (and_congr_left' ih).trans (and_congr_right fun hasks => ?_)
    exact bounded_iff (sound_afterEvents hstart hasks) e

/-- Eight bytes of a buffer that holds four: `SetSize` succeeds, and the stream reads them all. -/
theorem setSize_beyond_allocation :
    let s := overBuffer.afterEvents
      [.owner (.initWithAllocation 4), .owner (.setSize 8), .attach false]
    SUCCEEDED ((overBuffer.afterEvents [.owner (.initWithAllocation 4)]).event
      (.owner (.setSize 8))).1 = true ∧
      s.getAllocatedSize = 4 ∧ s.getSize = 8 ∧ SUCCEEDED (s.event (.read 8)).1 = true ∧
      ¬Log.Always (fun before e => (overBuffer.afterEvents before).Bounded e)
        [.owner (.initWithAllocation 4), .owner (.setSize 8), .attach false, .read 8] := by
  refine ⟨by decide, by decide, by decide, by decide, fun h => ?_⟩
  have hsize := (h [.owner (.initWithAllocation 4)] _ _ rfl).fits.1
  exact absurd hsize (by decide)

end CDataStream
end StunServer

import StunServer.Core.StunReader
import StunServer.Core.StunBuilder
import Mathlib.Tactic.IntervalCases

/-! The 16-bit type field of a message header: two zero bits and the twelve bits of the
method with the two bits of the class between them. The builder merges and the reader
takes apart; the two are inverse. -/

namespace StunServer

open CStunMessageReader CStunMessageBuilder

theorem eq_of_bits {a b : UInt16}
    (h : ∀ i < 16, a.toBitVec.getLsbD i = b.toBitVec.getLsbD i) : a = b :=
  UInt16.toBitVec_inj.1 (BitVec.eq_of_getLsbD_eq h)

/-- The bits of the method and of the class do not overlap, and the reader's masks
undo the builder's shifts. -/
theorem mask_merge (t c : UInt16) (ht : t &&& 0xf000 = 0) :
    let f := (t &&& (0x0f80 : UInt16)) <<< 2 ||| (t &&& (0x0070 : UInt16)) <<< 1 |||
      (t &&& (0x000f : UInt16)) ||| (c &&& (0x02 : UInt16)) <<< 7 |||
      (c &&& (0x01 : UInt16)) <<< 4
    (f &&& (0x000f : UInt16)) ||| (f &&& (0x00e0 : UInt16)) >>> 1 |||
      (f &&& (0x3e00 : UInt16)) >>> 2 = t := by
  intro f
  apply eq_of_bits
  intro i hi
  have hb := congrArg (fun v => v.toBitVec.getLsbD i) ht
  simp only [f, UInt16.toBitVec_and, UInt16.toBitVec_or, UInt16.toBitVec_shiftLeft,
    UInt16.toBitVec_shiftRight, UInt16.toBitVec_ofNat] at hb ⊢
  interval_cases i <;> simp at hb ⊢
  all_goals assumption

theorem class_bits_merge (t c : UInt16) :
    ((t &&& (0x0f80 : UInt16)) <<< 2 ||| (t &&& (0x0070 : UInt16)) <<< 1 |||
      (t &&& (0x000f : UInt16)) ||| (c &&& (0x02 : UInt16)) <<< 7 |||
      (c &&& (0x01 : UInt16)) <<< 4) &&& (0x0110 : UInt16) =
    (c &&& (0x02 : UInt16)) <<< 7 ||| (c &&& (0x01 : UInt16)) <<< 4 := by
  apply eq_of_bits
  intro i hi
  simp only [UInt16.toBitVec_and, UInt16.toBitVec_or, UInt16.toBitVec_shiftLeft,
    UInt16.toBitVec_ofNat]
  interval_cases i <;> simp

theorem high_bits_merge (t c : UInt16) :
    ((t &&& (0x0f80 : UInt16)) <<< 2 ||| (t &&& (0x0070 : UInt16)) <<< 1 |||
      (t &&& (0x000f : UInt16)) ||| (c &&& (0x02 : UInt16)) <<< 7 |||
      (c &&& (0x01 : UInt16)) <<< 4) &&& (0xc000 : UInt16) = 0 := by
  apply eq_of_bits
  intro i hi
  simp only [UInt16.toBitVec_and, UInt16.toBitVec_or, UInt16.toBitVec_shiftLeft,
    UInt16.toBitVec_ofNat]
  interval_cases i <;> simp

theorem merge_mask (f c : UInt16) (hf : f &&& 0xc000 = 0)
    (hc : (c &&& (0x02 : UInt16)) <<< 7 ||| (c &&& (0x01 : UInt16)) <<< 4 = f &&& 0x0110) :
    let t := (f &&& (0x000f : UInt16)) ||| (f &&& (0x00e0 : UInt16)) >>> 1 |||
      (f &&& (0x3e00 : UInt16)) >>> 2
    (t &&& (0x0f80 : UInt16)) <<< 2 ||| (t &&& (0x0070 : UInt16)) <<< 1 |||
      (t &&& (0x000f : UInt16)) ||| (c &&& (0x02 : UInt16)) <<< 7 |||
      (c &&& (0x01 : UInt16)) <<< 4 = f := by
  intro t
  apply eq_of_bits
  intro i hi
  have hbf := congrArg (fun v => v.toBitVec.getLsbD i) hf
  have hbc := congrArg (fun v => v.toBitVec.getLsbD i) hc
  simp only [t, UInt16.toBitVec_and, UInt16.toBitVec_or, UInt16.toBitVec_shiftLeft,
    UInt16.toBitVec_shiftRight, UInt16.toBitVec_ofNat] at hbf hbc ⊢
  interval_cases i <;> simp at hbf hbc ⊢ <;> simp_all

theorem mask_high (f : UInt16) :
    ((f &&& (0x000f : UInt16)) ||| (f &&& (0x00e0 : UInt16)) >>> 1 |||
      (f &&& (0x3e00 : UInt16)) >>> 2) &&& (0xf000 : UInt16) = 0 := by
  apply eq_of_bits
  intro i hi
  simp only [UInt16.toBitVec_and, UInt16.toBitVec_or, UInt16.toBitVec_shiftRight,
    UInt16.toBitVec_ofNat]
  interval_cases i <;> simp

/-- The class bits of a type field take four values. -/
theorem class_bits_cases (f : UInt16) :
    f &&& 0x0110 = 0x0000 ∨ f &&& 0x0110 = 0x0010 ∨ f &&& 0x0110 = 0x0100 ∨
      f &&& 0x0110 = 0x0110 := by
  have hbit : ∀ p q, f.toBitVec.getLsbD 4 = p → f.toBitVec.getLsbD 8 = q →
      f.toBitVec &&& 0x0110#16 = (if p then 0x0010#16 else 0) ||| if q then 0x0100#16 else 0 := by
    intro p q hp hq
    ext i hi
    interval_cases i <;> cases p <;> cases q <;> simp_all
  have h := hbit _ _ rfl rfl
  simp only [← UInt16.toBitVec_inj, UInt16.toBitVec_and, UInt16.toBitVec_ofNat]
  cases h4 : f.toBitVec.getLsbD 4 <;> cases h8 : f.toBitVec.getLsbD 8 <;>
    simp only [h4, h8] at h <;> simp [h]

/-- A method is a number of twelve bits. -/
def IsMethod (t : UInt16) : Prop := t &&& 0xf000 = 0

instance (t : UInt16) : Decidable (IsMethod t) := inferInstanceAs (Decidable (_ = _))

/-! The method and the classes that the messages of this program have. -/

theorem isMethod_binding : IsMethod StunMsgTypeBinding := by decide

theorem request_ne_invalid : StunMessageClass.request ≠ .invalidMessageClass := by decide

theorem successResponse_ne_invalid :
    StunMessageClass.successResponse ≠ .invalidMessageClass := by decide

theorem failureResponse_ne_invalid :
    StunMessageClass.failureResponse ≠ .invalidMessageClass := by decide

/-! Merging, and taking apart. -/

theorem normalizeType_isMethod (f : UInt16) : IsMethod (normalizeType f) := mask_high f

theorem normalizeType_mergeType {t : UInt16} (ht : IsMethod t) (cls : StunMessageClass) :
    normalizeType (mergeType t cls) = t := mask_merge t cls.code ht

theorem mergeType_high (t : UInt16) (cls : StunMessageClass) : mergeType t cls &&& 0xc000 = 0 :=
  high_bits_merge t cls.code

theorem classOfType_ne_invalid (f : UInt16) : classOfType f ≠ .invalidMessageClass := by
  rcases class_bits_cases f with h | h | h | h <;>
    simp [classOfType, STUN_IS_REQUEST, STUN_IS_INDICATION, STUN_IS_SUCCESS_RESP,
      STUN_IS_ERR_RESP, h]

theorem classOfType_mergeType (t : UInt16) {cls : StunMessageClass}
    (hc : cls ≠ .invalidMessageClass) : classOfType (mergeType t cls) = cls := by
  have h : mergeType t cls &&& 0x0110 = _ := class_bits_merge t cls.code
  simp only [classOfType, STUN_IS_REQUEST, STUN_IS_INDICATION, STUN_IS_SUCCESS_RESP,
    STUN_IS_ERR_RESP, h]
  cases cls with
  | invalidMessageClass => exact absurd rfl hc
  | request => decide
  | indication => decide
  | successResponse => decide
  | failureResponse => decide

theorem mergeType_normalizeType {f : UInt16} (hf : f &&& 0xc000 = 0) :
    mergeType (normalizeType f) (classOfType f) = f := by
  refine merge_mask f (classOfType f).code hf ?_
  rcases class_bits_cases f with h | h | h | h <;>
    simp only [classOfType, STUN_IS_REQUEST, STUN_IS_INDICATION, STUN_IS_SUCCESS_RESP,
      STUN_IS_ERR_RESP, h] <;> decide

end StunServer

import StunServer.Spec.Message

/-! Which messages carry a message integrity, and the bytes it is computed over: the
header as it was when the integrity attribute ended the message, and everything
before that attribute. -/

namespace StunServer

open Bytes Tlv

theorem fingerprint_ne_integrity :
    STUN_ATTRIBUTE_FINGERPRINT ≠ STUN_ATTRIBUTE_MESSAGEINTEGRITY := by decide

namespace Message

/-- The message integrity `mi` ends the message, but for a fingerprint. -/
structure Sealed (m : Message) (before : List Record) (mi : Record) (tail : List Record) :
    Prop where
  attrs : m.attrs = before ++ mi :: tail
  type : mi.type = STUN_ATTRIBUTE_MESSAGEINTEGRITY
  size : mi.value.length = 20
  tail : tail = [] ∨ ∃ fp : Record, tail = [fp] ∧ fp.type = STUN_ATTRIBUTE_FINGERPRINT

/-- The text that is hashed. A fingerprint is taken to be eight bytes long. -/
def hmacText (m : Message) (before tail : List Record) : List UInt8 :=
  headerBytes m.typeField (sizeAll m.attrs - if tail = [] then 0 else 8) m.tid ++ encodeAll before

/-- A message that carries the hash of its text under a key. -/
def Authentic (D : Digests) (key : List UInt8) (m : Message) : Prop :=
  key ≠ [] ∧ ∃ before mi tail, m.Sealed before mi tail ∧
    mi.value = (D.hmacSha1 key (m.hmacText before tail)).toList

namespace Sealed

variable {m : Message} {before before' : List Record} {mi mi' : Record}
  {tail tail' : List Record}

/-- A message is sealed in at most one way. -/
theorem unique (h : m.Sealed before mi tail) (h' : m.Sealed before' mi' tail') :
    before = before' ∧ mi = mi' ∧ tail = tail' := by
  have he : before ++ mi :: tail = before' ++ mi' :: tail' := h.attrs.symm.trans h'.attrs
  have hne := fingerprint_ne_integrity
  have hmi := h.type
  have hmi' := h'.type
  rcases h.tail with rfl | ⟨fp, rfl, hfp⟩ <;> rcases h'.tail with rfl | ⟨fp', rfl, hfp'⟩
  · have hlast := List.append_inj' he rfl
    simp_all
  · have hlast := congrArg List.getLast? he
    simp only [List.getLast?_append, List.getLast?_cons, List.getLast?_nil, Option.getD_none,
      Option.some_or, Option.getD_some, Option.some.injEq] at hlast
    rw [hlast, hfp'] at hmi
    exact absurd hmi hne
  · have hlast := congrArg List.getLast? he
    simp only [List.getLast?_append, List.getLast?_cons, List.getLast?_nil, Option.getD_none,
      Option.some_or, Option.getD_some, Option.some.injEq] at hlast
    rw [← hlast, hfp] at hmi'
    exact absurd hmi' hne
  · have hlast := List.append_inj' he rfl
    simp_all

end Sealed

end Message
end StunServer

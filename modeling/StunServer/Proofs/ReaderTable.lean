import StunServer.Spec.Message
import StunServer.Proofs.FastHash
import StunServer.Proofs.DataStream

/-! The attribute table of the reader: after some records of the body have been read,
the table and the counters describe exactly those records. -/

namespace StunServer

open Bytes Tlv

/-- What the reader remembers of a record whose value lies at a position. -/
def attribOf (p : ℕ × Record) : StunAttribute :=
  ⟨p.2.type, UInt16.ofNat p.2.value.length, UInt16.ofNat p.1⟩

/-- The index of the last record of a type, or -1. -/
def lastIndex (t : UInt16) (rs : List Record) : Int :=
  rs.zipIdx.foldl (fun last p => if p.1.type = t then (p.2 : Int) else last) (-1)

theorem lastIndex_concat (t : UInt16) (rs : List Record) (a : Record) :
    lastIndex t (rs ++ [a]) = if a.type = t then (rs.length : Int) else lastIndex t rs := by
  simp [lastIndex, List.zipIdx_append, List.foldl_append]

namespace CStunMessageReader

/-- The table and the counters describe the records `rs` of a body that starts behind
the header. -/
structure TableHolds (r : CStunMessageReader) (rs : List Record) : Prop where
  table : ∃ free items, r.mapAttributes.Models free items ∧ r.mapAttributes.Indexed items ∧
    items.map Prod.snd = (locate 20 rs).map fun p => (p.2.type, attribOf p)
  capacity : r.mapAttributes.fsize = 30
  count : r.countAttributes = rs.length
  fingerprint : r.indexFingerprint = lastIndex STUN_ATTRIBUTE_FINGERPRINT rs
  integrity : r.indexMessageIntegrity = lastIndex STUN_ATTRIBUTE_MESSAGEINTEGRITY rs

theorem TableHolds.frame {r r' : CStunMessageReader} {rs : List Record} (h : r.TableHolds rs)
    (ht : r'.mapAttributes = r.mapAttributes) (hc : r'.countAttributes = r.countAttributes)
    (hf : r'.indexFingerprint = r.indexFingerprint)
    (hi : r'.indexMessageIntegrity = r.indexMessageIntegrity) : r'.TableHolds rs :=
  ⟨ht ▸ h.table, ht ▸ h.capacity, hc ▸ h.count, hf ▸ h.fingerprint, hi ▸ h.integrity⟩

theorem tableHolds_create : create.TableHolds [] where
  table := ⟨List.range 30, [], FastHash.models_create (by decide), FastHash.indexed_create, rfl⟩
  capacity := rfl
  count := rfl
  fingerprint := rfl
  integrity := rfl

/-- `Reset` empties the table whatever it held. -/
theorem tableHolds_reset {r : CStunMessageReader} (hf : r.mapAttributes.fsize = 30)
    (ht : r.mapAttributes.tsize = 53) : r.reset.TableHolds [] := by
  have hmodels := FastHash.models_reset r.mapAttributes (by omega)
  refine ⟨⟨_, [], hmodels, FastHash.indexed_reset _, rfl⟩, hf, rfl, rfl, rfl⟩

namespace TableHolds

variable {r : CStunMessageReader} {rs : List Record}

theorem items_length {items : List (ℕ × UInt16 × StunAttribute)}
    (h : items.map Prod.snd = (locate 20 rs).map fun p => (p.2.type, attribOf p)) :
    items.length = rs.length := by
  have hl := congrArg List.length h
  simpa using hl

/-- Below the capacity an insertion succeeds and appends the record. -/
theorem insert_ok (h : r.TableHolds rs) (hc : rs.length < 30) (a : Record) :
    ∃ table, r.mapAttributes.insert a.type (attribOf (20 + sizeAll rs + 4, a)) = (1, table) ∧
      TableHolds
        { r with
          mapAttributes := table
          indexFingerprint :=
            if a.type = STUN_ATTRIBUTE_FINGERPRINT then r.countAttributes
            else r.indexFingerprint
          indexMessageIntegrity :=
            if a.type = STUN_ATTRIBUTE_MESSAGEINTEGRITY then r.countAttributes
            else r.indexMessageIntegrity
          countAttributes := r.countAttributes + 1 } (rs ++ [a]) := by
  obtain ⟨free, items, hm, hx, he⟩ := h.table
  have hl := hm.length_eq
  rw [items_length he, h.capacity] at hl
  cases free with
  | nil =>
    simp only [List.length_nil] at hl
    omega
  | cons n free =>
    obtain ⟨table, hins, hm', hfs, -, hx'⟩ :=
      FastHash.insert_free hm a.type (attribOf (20 + sizeAll rs + 4, a))
    refine ⟨table, hins, ⟨free, _, hm', hx' hx, ?_⟩, hfs.trans h.capacity, ?_, ?_, ?_⟩
    · rw [locate_append, List.map_append, List.map_append, he]
      rfl
    · simp [h.count]
    · rw [lastIndex_concat, ← h.fingerprint, ← h.count]
    · rw [lastIndex_concat, ← h.integrity, ← h.count]

/-- At the capacity an insertion fails: this is how too many attributes are refused. -/
theorem insert_full (h : r.TableHolds rs) (hc : rs.length = 30) (t : UInt16)
    (v : StunAttribute) : r.mapAttributes.insert t v = (-1, r.mapAttributes) := by
  obtain ⟨free, items, hm, -, he⟩ := h.table
  refine FastHash.insert_full hm ?_ t v
  rw [items_length he, hc, h.capacity]

theorem length_le (h : r.TableHolds rs) : rs.length ≤ 30 := by
  obtain ⟨free, items, hm, -, he⟩ := h.table
  have hl := hm.length_eq
  rw [items_length he, h.capacity] at hl
  omega

theorem size_eq (h : r.TableHolds rs) : r.getAttributeCount = rs.length := by
  obtain ⟨free, items, hm, -, he⟩ := h.table
  rw [getAttributeCount, hm.size_eq, items_length he]

/-- A lookup finds the last record of the type. -/
theorem lookup_eq (h : r.TableHolds rs) (t : UInt16) :
    r.mapAttributes.lookup t =
      ((locate 20 rs).reverse.find? fun p => p.2.type = t).map attribOf := by
  obtain ⟨free, items, hm, -, he⟩ := h.table
  have hitems : (items.reverse.find? fun p => p.2.1 = t).map (fun p => p.2.2) =
      ((items.map Prod.snd).reverse.find? fun p => p.1 = t).map Prod.snd := by
    rw [← List.map_reverse, List.find?_map, Option.map_map]
    rfl
  rw [FastHash.lookup_eq hm, hitems, he, ← List.map_reverse, List.find?_map, Option.map_map]
  rfl

/-- Access by position is in order of appearance. -/
theorem lookupValueByIndex_eq (h : r.TableHolds rs) (i : ℕ) :
    (r.mapAttributes.lookupValueByIndex i).1 = ((locate 20 rs)[i]?).map attribOf := by
  obtain ⟨free, items, hm, hx, he⟩ := h.table
  have hi := congrArg (fun l => l[i]?) he
  simp only [List.getElem?_map] at hi
  rw [FastHash.lookupValueByIndex_eq hm hx]
  have hv := congrArg (Option.map Prod.snd) hi
  rw [Option.map_map, Option.map_map] at hv
  exact hv

end TableHolds

end CStunMessageReader
end StunServer

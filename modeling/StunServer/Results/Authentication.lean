import StunServer.Results.Response

/-! Who gets a success response, and what the others get. -/

namespace StunServer

open Bytes Tlv CStunMessageReader CStunRequestHandler CStunMessageBuilder

theorem failed_eq (hr : HRESULT) : FAILED hr = !SUCCEEDED hr := by
  by_cases h : 0 ≤ hr
  · have hn : ¬hr < 0 := Int32.not_lt.mpr h
    simp [FAILED, SUCCEEDED, h, hn]
  · have hn : hr < 0 := Int32.not_le.mp h
    simp [FAILED, SUCCEEDED, h, hn]

section

variable {D : Digests} {x : Arrival} {m : Message} {pAuth : Option IStunAuth}

/-- The three ways an authorization ends. -/
theorem authorize_cases (D : Digests) (pAuth : Option IStunAuth) (m : Message) :
    (∃ c, Arrival.authorize D pAuth m = .ok c ∧ Arrival.Admits D pAuth m ∧
      ¬Arrival.Challenges D pAuth m ∧ ¬Arrival.FindsStale pAuth m) ∨
    (∃ e, Arrival.authorize D pAuth m = .error e ∧ ¬Arrival.Admits D pAuth m ∧
      (e.code = STUN_ERROR_UNAUTHORIZED ↔ Arrival.Challenges D pAuth m) ∧
      (e.code = STUN_ERROR_STALENONCE ↔ Arrival.FindsStale pAuth m)) := by
  have hcodes : (Refusal.badRequest.code ≠ STUN_ERROR_UNAUTHORIZED ∧
      Refusal.badRequest.code ≠ STUN_ERROR_STALENONCE) ∧
      STUN_ERROR_UNAUTHORIZED ≠ STUN_ERROR_STALENONCE := by decide
  obtain ⟨⟨hbad, hbad'⟩, hne⟩ := hcodes
  cases pAuth with
  | none =>
    refine Or.inl ⟨none, rfl, ?_, ?_, ?_⟩
    · rintro auth ⟨⟩
    · rintro ⟨auth, ⟨⟩, -⟩
    · rintro ⟨auth, ⟨⟩, -⟩
  | some auth =>
    simp only [Arrival.authorize, Arrival.Admits, Arrival.Challenges, Arrival.FindsStale,
      Option.some.injEq, forall_eq', exists_eq_left', failed_eq]
    set response := (auth.doAuthCheck m.authAttributes).2
    cases SUCCEEDED (auth.doAuthCheck m.authAttributes).1 with
    | false => exact Or.inr ⟨.badRequest, rfl, by simp, by simp [hbad], by simp [hbad']⟩
    | true =>
      simp only [Bool.not_true, Bool.false_eq_true, if_false, true_and, Arrival.judge]
      cases response.responseType with
      | allow => exact Or.inl ⟨none, rfl, Or.inl rfl, by simp, by simp⟩
      | reject => exact Or.inr ⟨.badRequest, rfl, by simp, by simp [hbad], by simp [hbad']⟩
      | staleNonce =>
        exact Or.inr ⟨_, rfl, by simp, by simp [Refusal.code, hne.symm], by simp [Refusal.code]⟩
      | unauthorized =>
        exact Or.inr ⟨_, rfl, by simp, by simp [Refusal.code], by simp [Refusal.code, hne]⟩
      | allowConditional =>
        by_cases ha : m.Authentic D ((m.credential response).key D)
        · exact Or.inl ⟨_, if_pos ha, Or.inr ⟨rfl, ha⟩, by simp [ha], by simp⟩
        · exact Or.inr ⟨_, if_neg ha, by simp [ha], by simp [Refusal.code, ha],
            by simp [Refusal.code, hne]⟩

theorem textRecords_type {fLegacyMode : Bool} {t : UInt16} {s : AuthText} {a : Record}
    (h : a ∈ textRecords fLegacyMode t s) : a.type = t := by
  unfold textRecords at h
  split_ifs at h
  · simp at h
  · rw [List.mem_singleton.mp h, record_type]

/-- The attributes behind the error code. -/
theorem records_tail (fLegacyMode : Bool) (e : Refusal) : ∃ hv rest,
    e.records fLegacyMode = record fLegacyMode STUN_ATTRIBUTE_ERRORCODE
      (errorValue e.code (cstr pszFailed)) hv :: rest ∧
    ∀ a ∈ rest, a.type = STUN_ATTRIBUTE_NONCE ∨ a.type = STUN_ATTRIBUTE_REALM := by
  refine ⟨_, _, rfl, ?_⟩
  intro a ha
  cases hc : e.challenge with
  | none => simp [hc] at ha
  | some p =>
    simp only [hc, List.mem_append] at ha
    rcases ha with ha | ha
    · exact Or.inl (textRecords_type ha)
    · exact Or.inr (textRecords_type ha)

section

variable {r : CStunMessageReader} {e : Refusal} (h : r.Parsed (errorReply m e))

include h

theorem errorReply_code : r.getErrorCode = .ok e.code := by
  obtain ⟨hv, rest, hrecords, hrest⟩ := records_tail m.isLegacy e
  have hfind : (errorReply m e).find STUN_ATTRIBUTE_ERRORCODE =
      some (record m.isLegacy STUN_ATTRIBUTE_ERRORCODE (errorValue e.code (cstr pszFailed)) hv) := by
    have hnone : lastOf STUN_ATTRIBUTE_ERRORCODE rest = none := by
      refine lastOf_eq_none.mpr fun a ha => ?_
      rcases hrest a ha with hn | hn <;> rw [hn] <;> decide
    change lastOf _ (e.records m.isLegacy) = _
    rw [hrecords, ← List.singleton_append, lastOf_append, hnone, lastOf_singleton, record_type]
    rfl
  have hhigh : e.code.toNat ≤ 600 := by
    rcases e.code_cases with hc | hc | hc <;> rw [hc] <;> decide
  exact h.getErrorCode_of_record hhigh hfind

end

end

end StunServer

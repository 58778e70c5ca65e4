import StunServer.Proofs.SampleAuthProvider

/-! The long-term provider of the sample: whether it accepts the nonces it has issued, and whom it
lets through. -/

namespace StunServer

open SampleAuthProvider

/-! ### Fresh nonces -/

theorem SampleAuthProvider.validateNonce_succeeds {D : Digests} {thecurrenttime : ℤ}
    {pszNonce : List UInt8} : SUCCEEDED (validateNonce D thecurrenttime pszNonce) = true ↔
      validateNonce D thecurrenttime pszNonce = S_OK := by
  unfold validateNonce
  dsimp only
  split
  · decide
  · split_ifs <;> decide

/-- The colon is signed with the time when a nonce is created, but not when it is validated: a
fresh nonce is accepted just if both have the same HMAC. -/
theorem fresh_nonce_accepted_iff (D : Digests) {t t' : ℤ} (hpos : 0 ≤ t) (ht : t < 2 ^ 31)
    (hissued : 0 ≤ t' - t) (hfresh : t' - t ≤ 120) :
    SUCCEEDED (validateNonce D t' (createNonce D t)) = true ↔
      D.hmacSha1 c_szPrivateKey (decimal t.toNat) =
        D.hmacSha1 c_szPrivateKey (decimal t.toNat ++ chars ":") := by
  obtain ⟨n, rfl⟩ := Int.eq_ofNat_of_zero_le hpos
  have hn : n < 2 ^ 31 := by omega
  have hunsigned : ((n : ℤ) % 2 ^ 32).toNat = n := by omega
  have htime : ∀ ch ∈ decimal n, ch ≠ 0 ∧ ch ≠ 58 := by
    intro ch hch
    have hdigit := isDigit_decimal n ch hch
    constructor <;> (rintro rfl; revert hdigit; decide)
  have hright : ∀ ch ∈ sign D (decimal n ++ chars ":"), ch ≠ 0 := hmacToString_plain _
  have hlen : (decimal n).length + (sign D (decimal n ++ chars ":")).length ≤ 98 := by
    have hdecimal := decimal_length_le (hn.trans (by decide))
    rw [sign, hmacToString_length, List.Vector.toList_length]
    omega
  have hnonce : createNonce D n = decimal n ++ 58 :: sign D (decimal n ++ chars ":") := by
    rw [createNonce, hunsigned]
    exact List.append_assoc _ _ _
  rw [validateNonce_succeeds, hnonce, validateNonce_parts D t' htime hright hlen, atoi_decimal hn,
    and_iff_right ⟨hissued, hfresh⟩, Int.toNat_natCast]
  constructor
  · intro hsign
    exact List.Vector.eq _ _ (hmacToString_injective hsign)
  · intro hmac
    rw [sign, sign, hmac]

/-- The HMAC-SHA1 values of one time, with and without the colon, under the key of the server. -/
def sampleSignatures : Digests where
  hmacSha1 _ sz :=
    if sz = chars "1000:" then
      ⟨[0x25, 0x6e, 0x1e, 0xbc, 0xc1, 0xe3, 0x41, 0xc6, 0x67, 0xd6,
        0x67, 0x57, 0x63, 0x92, 0x7c, 0x4a, 0x98, 0xe1, 0xd2, 0x6f], rfl⟩
    else
      ⟨[0x25, 0xde, 0x80, 0x4c, 0xd8, 0x50, 0x40, 0xf5, 0xdd, 0x11,
        0x5b, 0x10, 0xcd, 0x2e, 0x27, 0xa4, 0x05, 0x47, 0x7a, 0xff], rfl⟩
  md5 _ := List.Vector.replicate 16 0
  crc32 _ := 0

theorem fresh_nonce_accepted_twoMinutes :
    ¬SUCCEEDED (validateNonce sampleSignatures 1120 (createNonce sampleSignatures 1000)) = true := by
  rw [fresh_nonce_accepted_iff sampleSignatures (by decide) (by decide) (by decide) (by decide)]
  decide

/-- The nonce is rejected in the second in which it is issued. -/
theorem fresh_nonce_rejected :
    SUCCEEDED (validateNonce sampleSignatures 1000 (createNonce sampleSignatures 1000)) = false := by
  decide +kernel

/-! ### Known users -/

namespace CLongTermAuth

variable (D : Digests) (thetime thecurrenttime : ℤ) (pAuthAttributes : AuthAttributes)
  (pResponse : AuthResponse)

/-- A request of a user of the server, for its realm and with a nonce of its own. -/
structure IsKnown (password : List UInt8) : Prop where
  integrity : pAuthAttributes.fMessageIntegrityPresent = true
  user : (cstr pAuthAttributes.szUser.toList, password) ∈ users
  realm : cstr pAuthAttributes.szRealm.toList = c_szRealm
  nonce : SUCCEEDED (validateNonce D thecurrenttime pAuthAttributes.szNonce.toList) = true

/-- The known users are let through with their passwords, and nobody else is. -/
def LetsThrough : Prop :=
  let response := doAuthCheck D thetime thecurrenttime pAuthAttributes pResponse
  (∀ password, IsKnown D thecurrenttime pAuthAttributes password →
    response.responseType = .allowConditional ∧ cstr response.szPassword.toList = password) ∧
  (response.responseType = .allowConditional →
    ∃ password, IsKnown D thecurrenttime pAuthAttributes password)

variable {D thetime thecurrenttime pAuthAttributes pResponse}

/-- The name of the realm is no nonce. -/
theorem validateNonce_realm {pszNonce : List UInt8} (h : cstr pszNonce = c_szRealm) :
    validateNonce D thecurrenttime pszNonce = E_FAIL := by
  rw [validateNonce, h]
  rfl

theorem lookupPassword_ok {pszUserName pszRealm password : List UInt8}
    (h : lookupPassword true (some pszUserName) (some pszRealm) = .ok password) :
    cstr pszRealm = c_szRealm := by
  obtain ⟨_, hcheck, -⟩ := bind_eq_ok.mp h
  have hrealm := chkIf_eq_ok.mp hcheck
  simpa using hrealm

theorem not_allowConditional :
    (doAuthCheck D thetime thecurrenttime pAuthAttributes pResponse).responseType ≠
      .allowConditional := by
  rw [doAuthCheck]
  dsimp only
  by_cases hmissing : pAuthAttributes.fMessageIntegrityPresent = false ∨
    pAuthAttributes.szNonce.head = 0 ∨ pAuthAttributes.szUser.head = 0
  · rw [if_pos hmissing]
    exact nofun
  rw [if_neg hmissing]
  cases hlookup : lookupPassword true (some pAuthAttributes.szUser.toList)
      (some pAuthAttributes.szNonce.toList) with
  | error hr => exact nofun
  | ok password =>
    have hnonce : validateNonce D thecurrenttime pAuthAttributes.szNonce.toList = E_FAIL :=
      validateNonce_realm (lookupPassword_ok hlookup)
    rw [hnonce]
    exact nofun

/-- The realm that is looked up is the nonce of the request, so that nobody is let through. The
provider does what it should just for requests that are to be refused. -/
theorem letsThrough_iff (D : Digests) (thetime thecurrenttime : ℤ)
    (pAuthAttributes : AuthAttributes) (pResponse : AuthResponse) :
    LetsThrough D thetime thecurrenttime pAuthAttributes pResponse ↔
      ¬∃ password, IsKnown D thecurrenttime pAuthAttributes password := by
  constructor
  · rintro ⟨hthrough, -⟩ ⟨password, hknown⟩
    exact not_allowConditional (hthrough password hknown).1
  · intro hunknown
    exact ⟨fun password hknown => absurd ⟨password, hknown⟩ hunknown,
      fun hallowed => absurd hallowed not_allowConditional⟩

/-- A user of the server, its realm, and a nonce that is accepted. -/
def sampleAttributes : AuthAttributes where
  szUser := strcpy AuthString.zero (chars "bruce")
  szRealm := strcpy AuthString.zero (chars "YourRealmNameHere")
  szNonce := strcpy AuthString.zero (chars "1000:25de804cd85040f5dd115b10cd2e27a405477aff")
  szLegacyPassword := AuthString.zero
  fMessageIntegrityPresent := true

/-- Every byte is zero. -/
def sampleResponse : AuthResponse :=
  ⟨.allow, .authCredShortTerm, AuthString.zero, AuthString.zero, AuthString.zero⟩

theorem known_sampleAttributes :
    IsKnown sampleSignatures 1000 sampleAttributes (chars "AcesHigh") := by
  refine ⟨rfl, ?_, ?_, ?_⟩ <;> decide +kernel

/-- The user gets a 401. -/
theorem known_user_refused :
    IsKnown sampleSignatures 1000 sampleAttributes (chars "AcesHigh") ∧
      ¬LetsThrough sampleSignatures 1000 1000 sampleAttributes sampleResponse := by
  have hrefused : (doAuthCheck sampleSignatures 1000 1000 sampleAttributes
      sampleResponse).responseType = .unauthorized := by decide +kernel
  refine ⟨known_sampleAttributes, fun hthrough => ?_⟩
  have hallowed := (hthrough.1 _ known_sampleAttributes).1
  rw [hrefused] at hallowed
  cases hallowed

end CLongTermAuth
end StunServer

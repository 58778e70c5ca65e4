import StunServer.Common.StringHelper
import StunServer.Core.MessageHandler

/-! `server/sampleauthprovider.cpp`: the two providers of the sample. What `time(NULL)` returns is
given to each call. -/

namespace StunServer

namespace SampleAuthProvider

def c_szPrivateKey : List UInt8 := chars "Change this string if you are going to use this code"
def c_szRealm : List UInt8 := chars "YourRealmNameHere"

/-- The two tables of `LookupPassword`, side by side. -/
def users : List (List UInt8 × List UInt8) :=
  [(chars "bruce", chars "AcesHigh"), (chars "steve", chars "2MinToMid"),
    (chars "nicko", chars "fearofthedark!"), (chars "dave", chars "#ofthebeast"),
    (chars "adrian", chars "Run2TheHills")]

/-- The password that is copied to `pszPassword`. -/
def lookupPassword (fWithRealm : Bool) (pszUserName pszRealm : Option (List UInt8)) :
    Except HRESULT (List UInt8) := do
  chkIf (fWithRealm = true ∧ pszRealm.map cstr ≠ some c_szRealm) E_FAIL
  match pszUserName with
  | none => throw E_FAIL
  | some pszUserName =>
    match users.find? fun user => cstr pszUserName = user.1 with
    | none => throw E_FAIL
    | some user => return user.2

/-! ### Nonces -/

/-- `"%u"`. -/
def decimal (n : ℕ) : List UInt8 := (Nat.toDigits 10 n).map Char.toUInt8

def hexDigit (n : ℕ) : UInt8 := UInt8.ofNat (if n < 10 then 48 + n else 87 + n)

/-- `"%.2x"` for each byte. -/
def hmacToString (hmacresult : List UInt8) : List UInt8 :=
  hmacresult.flatMap fun b => [hexDigit (b.toNat / 16), hexDigit (b.toNat % 16)]

/-- The HMAC of a string under the key of the server, as it stands in a nonce. -/
def sign (D : Digests) (sz : List UInt8) : List UInt8 :=
  hmacToString (D.hmacSha1 c_szPrivateKey sz).toList

/-- The nonce without its terminator. -/
def createNonce (D : Digests) (thetime : ℤ) : List UInt8 :=
  let szTime := decimal (thetime % 2 ^ 32).toNat ++ chars ":"
  szTime ++ sign D szTime

def validateNonce (D : Digests) (thecurrenttime : ℤ) (pszNonce : List UInt8) : HRESULT :=
  let szNonce := (cstr pszNonce).take 99
  match szNonce.dropWhile (· ≠ 58) with
  | [] => E_FAIL
  | _ :: pRightHalf =>
    let szTime := szNonce.takeWhile (· ≠ 58)
    let diff := thecurrenttime - atoi szTime
    if diff > 120 ∨ diff < 0 then E_FAIL
    else if sign D szTime ≠ pRightHalf then E_FAIL
    else S_OK

end SampleAuthProvider

open SampleAuthProvider

/-! ### `DoAuthCheck`

Both return `S_OK`. `pResponse` is the response as it was before. -/

def CShortTermAuth.doAuthCheck (pAuthAttributes : AuthAttributes) (pResponse : AuthResponse) :
    AuthResponse :=
  let pResponse := { pResponse with authCredMech := .authCredShortTerm }
  if pAuthAttributes.fMessageIntegrityPresent = false then
    { pResponse with responseType := .reject }
  else
    match lookupPassword false (some pAuthAttributes.szUser.toList) none with
    | .ok password =>
      { pResponse with
        szPassword := strcpy pResponse.szPassword password
        responseType := .allowConditional }
    | .error _ => { pResponse with responseType := .unauthorized }

/-- The clock is read once for the new nonce and once to validate the old one. -/
def CLongTermAuth.doAuthCheck (D : Digests) (thetime thecurrenttime : ℤ)
    (pAuthAttributes : AuthAttributes) (pResponse : AuthResponse) : AuthResponse :=
  let pResponse := { pResponse with
    authCredMech := .authCredLongTerm
    szNonce := strcpy pResponse.szNonce (createNonce D thetime)
    szRealm := strcpy pResponse.szRealm c_szRealm }
  if pAuthAttributes.fMessageIntegrityPresent = false ∨ pAuthAttributes.szNonce.head = 0 ∨
      pAuthAttributes.szUser.head = 0 then
    { pResponse with responseType := .unauthorized }
  else
    -- the nonce is passed where the realm is expected
    match lookupPassword true (some pAuthAttributes.szUser.toList)
        (some pAuthAttributes.szNonce.toList) with
    | .error _ => { pResponse with responseType := .unauthorized }
    | .ok password =>
      let pResponse := { pResponse with szPassword := strcpy pResponse.szPassword password }
      if FAILED (validateNonce D thecurrenttime pAuthAttributes.szNonce.toList) then
        { pResponse with responseType := .staleNonce }
      else { pResponse with responseType := .allowConditional }

end StunServer

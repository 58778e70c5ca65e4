import StunServer.Common.HResult
import StunServer.Lib.Bytes

/-! `common/stringhelper.cpp`, and `atoi`. A `std::string` is the list of its characters; a
`const char*` is the memory it points to. The lengths fit an `int`. -/

namespace StunServer

open Bytes

/-- The characters of a literal. -/
def chars (s : String) : List UInt8 := s.toList.map Char.toUInt8

/-- `ISWHITESPACE`, which is `isspace` in the C locale, too. -/
def IsWhitespace (ch : UInt8) : Bool := (9 ≤ ch && ch ≤ 0xd) || ch = 32

def isDigit (ch : UInt8) : Bool := 48 ≤ ch && ch ≤ 57

/-- The sign in front of a number, and what follows it. -/
def readSign : List UInt8 → Bool × List UInt8
  | [] => (false, [])
  | ch :: psz =>
    if ch = 45 then (true, psz) else if ch = 43 then (false, psz) else (false, ch :: psz)

/-- The value of a string of digits. -/
def valueOf (digits : List UInt8) : ℕ := digits.foldl (fun v ch => 10 * v + (ch.toNat - 48)) 0

/-- White space, a sign, the longest string of digits; the value is reduced to 32 bits. -/
def atoi (psz : List UInt8) : ℤ :=
  let (negative, psz) := readSign (psz.dropWhile IsWhitespace)
  let v : ℤ := valueOf (psz.takeWhile isDigit)
  (if negative then -v else v).bmod (2 ^ 32)

namespace StringHelper

/-- The pointer itself is never null here. -/
def isNullOrEmpty (psz : List UInt8) : Bool := cstr psz = []

def toLower (str : List UInt8) : List UInt8 :=
  str.map fun ch => if 65 ≤ ch ∧ ch ≤ 90 then ch + 32 else ch

/-- The loop of `Trim`: `start` and `end`, once there is a character that is not white space. -/
def trimRange : List UInt8 → ℕ → Option (ℕ × ℕ) → Option (ℕ × ℕ)
  | [], _, range => range
  | ch :: psz, index, range =>
    if IsWhitespace ch then trimRange psz (index + 1) range
    else
      match range with
      | none => trimRange psz (index + 1) (some (index, index))
      | some (start, _) => trimRange psz (index + 1) (some (start, index))

/-- A string without any other character stays as it is. -/
def trim (str : List UInt8) : List UInt8 :=
  match trimRange str 0 none with
  | none => str
  | some (start, last) => slice str start (last - start + 1)

/-- Any failure is -1. -/
def validateNumberString (psz : List UInt8) (nMinValue nMaxValue : ℤ) : Except HRESULT ℤ :=
  if isNullOrEmpty psz then .error (-1)
  else
    let nVal := atoi psz
    if nVal < nMinValue then .error (-1)
    else if nVal > nMaxValue then .error (-1)
    else .ok nVal

end StringHelper
end StunServer

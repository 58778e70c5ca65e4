import Mathlib.Logic.Function.Iterate

/-! The CRC-32 with the reflected polynomial, as `boost::crc_32_type` computes it: the register
starts with all bits set, the bytes go in lowest bit first, and the result is inverted. -/

namespace Crc32

def POLYNOMIAL : UInt32 := 0xEDB88320

/-- The register after one bit. -/
def shift (crc : UInt32) : UInt32 :=
  if crc &&& 1 = 0 then crc >>> 1 else (crc >>> 1) ^^^ POLYNOMIAL

/-- The register after one byte. -/
def process_byte (crc : UInt32) (byte : UInt8) : UInt32 := shift^[8] (crc ^^^ byte.toUInt32)

/-- The register after some bytes. -/
def process_bytes (crc : UInt32) (bs : List UInt8) : UInt32 := bs.foldl process_byte crc

def checksum (bs : List UInt8) : UInt32 := process_bytes 0xFFFFFFFF bs ^^^ 0xFFFFFFFF

-- the check value of the algorithm: the digits from 1 to 9
example : checksum [49, 50, 51, 52, 53, 54, 55, 56, 57] = 0xCBF43926 := by decide +kernel

end Crc32

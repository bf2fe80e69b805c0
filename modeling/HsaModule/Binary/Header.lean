import HsaModule.Bytes

namespace HsaModule.Binary

/-- The eight bytes that every binary module starts with: `HSA BRIG` in ASCII. -/
def identification : Bytes := [0x48, 0x53, 0x41, 0x20, 0x42, 0x52, 0x49, 0x47]

structure Header where
  major : UInt32
  minor : UInt32
  byteCount : UInt64
  hash : Block 64
  sectionCount : UInt32
  tableOffset : UInt64
  deriving DecidableEq

namespace Header

def size : Nat := 104

/-- Reads the header of `data`, which may be too short for one or start otherwise. The four bytes
from 88 on are reserved and not read. -/
def parse? (data : Bytes) : Option Header :=
  if data.take 8 = identification then do
    let major ← (data.word32 8).toOption
    let minor ← (data.word32 12).toOption
    let byteCount ← (data.word64 16).toOption
    let hash ← (data.block 24 64).toOption
    let sectionCount ← (data.word32 92).toOption
    let tableOffset ← (data.word64 96).toOption
    return { major, minor, byteCount, hash, sectionCount, tableOffset }
  else none

end Header

end HsaModule.Binary

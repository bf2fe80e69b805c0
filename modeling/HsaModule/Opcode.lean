import HsaModule.Coded

namespace HsaModule

inductive Opcode
  | nop
  | abs
  | add
  | borrow
  | carry
  | ceil
  | copySign
  | div
  | floor
  | fma
  | fract
  | mad
  | max
  | min
  | mul
  | mulHi
  | neg
  | rem
  | rint
  | sqrt
  | sub
  | trunc
  | mad24
  | mad24Hi
  | mul24
  | mul24Hi
  | shl
  | shr
  | and
  | or
  | xor
  | not
  | bitExtract
  | bitInsert
  | bitMask
  | bitRev
  | bitSelect
  | firstBit
  | lastBit
  | popCount
  | combine
  | expand
  | lda
  | mov
  | shuffle
  | unpackHi
  | unpackLo
  | pack
  | unpack
  | cmov
  | classify
  | nCos
  | nExp2
  | nFma
  | nLog2
  | nRcp
  | nRsqrt
  | nSin
  | nSqrt
  | bitAlign
  | byteAlign
  | packCvt
  | unpackCvt
  | lerp
  | sad
  | sadHi
  | segmentP
  | ftoS
  | stoF
  | cmp
  | cvt
  | ld
  | st
  | atomic
  | atomicNoRet
  | signal
  | signalNoRet
  | memFence
  | rdImage
  | ldImage
  | stImage
  | imageFence
  | queryImage
  | querySampler
  | cbr
  | br
  | sbr
  | barrier
  | waveBarrier
  | arriveFbar
  | initFbar
  | joinFbar
  | leaveFbar
  | releaseFbar
  | waitFbar
  | ldf
  | activeLaneCount
  | activeLaneId
  | activeLaneMask
  | activeLanePermute
  | call
  | scall
  | icall
  | ret
  | alloca
  | currentWorkgroupSize
  | currentWorkitemFlatId
  | dim
  | gridGroups
  | gridSize
  | packetCompletionSig
  | packetId
  | workgroupId
  | workgroupSize
  | workitemAbsId
  | workitemFlatAbsId
  | workitemFlatId
  | workitemId
  | clearDetectExcept
  | getDetectExcept
  | setDetectExcept
  | addQueueWriteIndex
  | casQueueWriteIndex
  | ldQueueReadIndex
  | ldQueueWriteIndex
  | stQueueReadIndex
  | stQueueWriteIndex
  | clock
  | cuId
  | debugTrap
  | groupBasePtr
  | kernargBasePtr
  | laneId
  | maxCuId
  | maxWaveId
  | nullPtr
  | waveId
  | amdRdImageLod
  | amdRdImageGrad
  | amdLdImageMip
  | amdStImageMip
  deriving DecidableEq, Repr

namespace Opcode

def firstVendorCode : Nat := 0x8000

/-- Number of core operations; their codes count up from zero. -/
def coreCount : Nat := 137

def members : List Opcode :=
  [nop, abs, add, borrow, carry, ceil, copySign, div, floor, fma, fract, mad, max, min, mul, mulHi,
    neg, rem, rint, sqrt, sub, trunc, mad24, mad24Hi, mul24, mul24Hi, shl, shr, and, or, xor, not,
    bitExtract, bitInsert, bitMask, bitRev, bitSelect, firstBit, lastBit, popCount, combine, expand,
    lda, mov, shuffle, unpackHi, unpackLo, pack, unpack, cmov, classify, nCos, nExp2, nFma, nLog2,
    nRcp, nRsqrt, nSin, nSqrt, bitAlign, byteAlign, packCvt, unpackCvt, lerp, sad, sadHi, segmentP,
    ftoS, stoF, cmp, cvt, ld, st, atomic, atomicNoRet, signal, signalNoRet, memFence, rdImage,
    ldImage, stImage, imageFence, queryImage, querySampler, cbr, br, sbr, barrier, waveBarrier,
    arriveFbar, initFbar, joinFbar, leaveFbar, releaseFbar, waitFbar, ldf, activeLaneCount,
    activeLaneId, activeLaneMask, activeLanePermute, call, scall, icall, ret, alloca,
    currentWorkgroupSize, currentWorkitemFlatId, dim, gridGroups, gridSize, packetCompletionSig,
    packetId, workgroupId, workgroupSize, workitemAbsId, workitemFlatAbsId, workitemFlatId,
    workitemId, clearDetectExcept, getDetectExcept, setDetectExcept, addQueueWriteIndex,
    casQueueWriteIndex, ldQueueReadIndex, ldQueueWriteIndex, stQueueReadIndex, stQueueWriteIndex,
    clock, cuId, debugTrap, groupBasePtr, kernargBasePtr, laneId, maxCuId, maxWaveId, nullPtr,
    waveId, amdRdImageLod, amdRdImageGrad, amdLdImageMip, amdStImageMip]

def code (op : Opcode) : Nat :=
  if op.ctorIdx < coreCount then op.ctorIdx else firstVendorCode + (op.ctorIdx - coreCount)

def label : Opcode → String
  | nop => "Nop"
  | abs => "Abs"
  | add => "Add"
  | borrow => "Borrow"
  | carry => "Carry"
  | ceil => "Ceil"
  | copySign => "CopySign"
  | div => "Div"
  | floor => "Floor"
  | fma => "Fma"
  | fract => "Fract"
  | mad => "Mad"
  | max => "Max"
  | min => "Min"
  | mul => "Mul"
  | mulHi => "MulHi"
  | neg => "Neg"
  | rem => "Rem"
  | rint => "Rint"
  | sqrt => "Sqrt"
  | sub => "Sub"
  | trunc => "Trunc"
  | mad24 => "Mad24"
  | mad24Hi => "Mad24Hi"
  | mul24 => "Mul24"
  | mul24Hi => "Mul24Hi"
  | shl => "Shl"
  | shr => "Shr"
  | and => "And"
  | or => "Or"
  | xor => "Xor"
  | not => "Not"
  | bitExtract => "BitExtract"
  | bitInsert => "BitInsert"
  | bitMask => "BitMask"
  | bitRev => "BitRev"
  | bitSelect => "BitSelect"
  | firstBit => "FirstBit"
  | lastBit => "LastBit"
  | popCount => "PopCount"
  | combine => "Combine"
  | expand => "Expand"
  | lda => "Lda"
  | mov => "Mov"
  | shuffle => "Shuffle"
  | unpackHi => "UnpackHi"
  | unpackLo => "UnpackLo"
  | pack => "Pack"
  | unpack => "Unpack"
  | cmov => "Cmov"
  | classify => "Class"
  | nCos => "NCos"
  | nExp2 => "NExp2"
  | nFma => "NFma"
  | nLog2 => "NLog2"
  | nRcp => "NRcp"
  | nRsqrt => "NRsqrt"
  | nSin => "NSin"
  | nSqrt => "NSqrt"
  | bitAlign => "BitAlign"
  | byteAlign => "ByteAlign"
  | packCvt => "PackCvt"
  | unpackCvt => "UnpackCvt"
  | lerp => "Lerp"
  | sad => "Sad"
  | sadHi => "SadHi"
  | segmentP => "SegmentP"
  | ftoS => "FtoS"
  | stoF => "StoF"
  | cmp => "Cmp"
  | cvt => "Cvt"
  | ld => "Ld"
  | st => "St"
  | atomic => "Atomic"
  | atomicNoRet => "AtomicNoRet"
  | signal => "Signal"
  | signalNoRet => "SignalNoRet"
  | memFence => "MemFence"
  | rdImage => "RdImage"
  | ldImage => "LdImage"
  | stImage => "StImage"
  | imageFence => "ImageFence"
  | queryImage => "QueryImage"
  | querySampler => "QuerySampler"
  | cbr => "Cbr"
  | br => "Br"
  | sbr => "Sbr"
  | barrier => "Barrier"
  | waveBarrier => "WaveBarrier"
  | arriveFbar => "ArriveFbar"
  | initFbar => "InitFbar"
  | joinFbar => "JoinFbar"
  | leaveFbar => "LeaveFbar"
  | releaseFbar => "ReleaseFbar"
  | waitFbar => "WaitFbar"
  | ldf => "Ldf"
  | activeLaneCount => "ActiveLaneCount"
  | activeLaneId => "ActiveLaneId"
  | activeLaneMask => "ActiveLaneMask"
  | activeLanePermute => "ActiveLanePermute"
  | call => "Call"
  | scall => "Scall"
  | icall => "Icall"
  | ret => "Ret"
  | alloca => "Alloca"
  | currentWorkgroupSize => "CurrentWorkgroupSize"
  | currentWorkitemFlatId => "CurrentWorkitemFlatId"
  | dim => "Dim"
  | gridGroups => "GridGroups"
  | gridSize => "GridSize"
  | packetCompletionSig => "PacketCompletionSig"
  | packetId => "PacketId"
  | workgroupId => "WorkgroupId"
  | workgroupSize => "WorkgroupSize"
  | workitemAbsId => "WorkitemAbsId"
  | workitemFlatAbsId => "WorkitemFlatAbsId"
  | workitemFlatId => "WorkitemFlatId"
  | workitemId => "WorkitemId"
  | clearDetectExcept => "ClearDetectExcept"
  | getDetectExcept => "GetDetectExcept"
  | setDetectExcept => "SetDetectExcept"
  | addQueueWriteIndex => "AddQueueWriteIndex"
  | casQueueWriteIndex => "CasQueueWriteIndex"
  | ldQueueReadIndex => "LdQueueReadIndex"
  | ldQueueWriteIndex => "LdQueueWriteIndex"
  | stQueueReadIndex => "StQueueReadIndex"
  | stQueueWriteIndex => "StQueueWriteIndex"
  | clock => "Clock"
  | cuId => "CuId"
  | debugTrap => "DebugTrap"
  | groupBasePtr => "GroupBasePtr"
  | kernargBasePtr => "KernargBasePtr"
  | laneId => "LaneId"
  | maxCuId => "MaxCuId"
  | maxWaveId => "MaxWaveId"
  | nullPtr => "NullPtr"
  | waveId => "WaveId"
  | amdRdImageLod => "AmdRdImageLod"
  | amdRdImageGrad => "AmdRdImageGrad"
  | amdLdImageMip => "AmdLdImageMip"
  | amdStImageMip => "AmdStImageMip"

instance : Coded Opcode where
  family := "Opcode"
  capacity := UInt16.size
  members := members
  code := code
  label := label

theorem members_getElem?_ctorIdx (op : Opcode) : members[op.ctorIdx]? = some op := by
  cases op <;> rfl

instance : LawfulCoded Opcode where
  mem_members op := List.mem_of_getElem? (members_getElem?_ctorIdx op)
  ascending := by decide +kernel
  code_lt := by decide +kernel

def isImage : Opcode → Bool
  | rdImage | ldImage | stImage | queryImage | querySampler => true
  | amdRdImageLod | amdRdImageGrad | amdLdImageMip | amdStImageMip => true
  | _ => false

def isCall : Opcode → Bool
  | call | scall | icall => true
  | _ => false

def isBranch : Opcode → Bool
  | br | cbr | sbr => true
  | _ => false

/-- Ends a basic block whatever happens. -/
def isTerminator : Opcode → Bool
  | br | sbr | ret => true
  | _ => false

def isIntegerArithmetic : Opcode → Bool
  | abs | add | borrow | carry | div | max | min | mul | mulHi | neg | rem | sub => true
  | _ => false

def isIntegerShift : Opcode → Bool
  | shl | shr => true
  | _ => false

def isBitArithmetic : Opcode → Bool
  | and | or | xor | not | popCount => true
  | _ => false

end Opcode

end HsaModule

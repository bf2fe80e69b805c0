import HsaModule.DataType.Category
import HsaModule.Error

namespace HsaModule

/-- The lanes taken from one source: each in its turn, or the lowest again and again. -/
inductive LaneUse
  | each
  | lowest
  deriving DecidableEq, Repr

def LaneUse.letter : LaneUse → Char
  | each => 'p'
  | lowest => 's'

structure Packing where
  first : LaneUse
  /-- Missing where the operation has a single source. -/
  second : Option LaneUse
  saturating : Bool
  deriving DecidableEq, Repr

namespace Packing

def isUnary (p : Packing) : Bool := p.second.isNone

def isBinary (p : Packing) : Bool := !p.isUnary

def letters (p : Packing) : Char × Char :=
  (p.first.letter, p.second.elim ' ' LaneUse.letter)

def place (p : Packing) : Nat :=
  match p.first, p.second with
  | .each, some .each => 1
  | .each, some .lowest => 2
  | .lowest, some .each => 3
  | .lowest, some .lowest => 4
  | .lowest, none => 5
  | .each, none => 6

def label (p : Packing) : String :=
  String.ofList (p.first.letter.toUpper :: p.second.toList.map LaneUse.letter) ++
    if p.saturating then "Sat" else ""

def members : List Packing :=
  [false, true].flatMap fun saturating =>
    [⟨.each, some .each, saturating⟩, ⟨.each, some .lowest, saturating⟩,
      ⟨.lowest, some .each, saturating⟩, ⟨.lowest, some .lowest, saturating⟩,
      ⟨.lowest, none, saturating⟩, ⟨.each, none, saturating⟩]

instance : Coded Packing where
  family := "PackingMode"
  capacity := UInt8.size
  members := members
  code p := p.place + if p.saturating then 6 else 0
  label := label

instance : LawfulCoded Packing where
  mem_members p := by
    rcases p with ⟨_ | _, _ | _ | _, _ | _⟩ <;> decide
  ascending := by decide
  code_lt := by decide

def usesEachLane (p : Packing) : Bool := p.first == .each || p.second == some .each

def letter (packing : Option Packing) (slot : Nat) : Except ContractViolation Char :=
  let letters := packing.elim (' ', ' ') Packing.letters
  match slot with
  | 0 => .ok letters.1
  | 1 => .ok letters.2
  | _ => .error (.packingSlot slot)

end Packing

/-- Number of lanes that a packed operation writes: all, or the lowest one where no source gives
all of its own. -/
def DataType.writtenLanes (t : DataType) (packing : Option Packing) :
    Except ContractViolation Nat :=
  if t.isPacked then .ok (if packing.any Packing.usesEachLane then t.lanes else 1)
  else .error (.unsupportedType .writtenLanes t)

end HsaModule

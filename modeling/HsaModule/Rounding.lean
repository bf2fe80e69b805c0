import HsaModule.Coded

namespace HsaModule

inductive Direction
  | nearEven
  | zero
  | plusInfinity
  | minusInfinity
  deriving DecidableEq, Repr

namespace Direction

def members : List Direction := [nearEven, zero, plusInfinity, minusInfinity]

def label : Direction → String
  | nearEven => "NearEven"
  | zero => "Zero"
  | plusInfinity => "PlusInfinity"
  | minusInfinity => "MinusInfinity"

theorem mem_members (d : Direction) : d ∈ members := by
  cases d <;> decide

end Direction

inductive Rounding
  | none
  | floatDefault
  | float (direction : Direction)
  | integer (direction : Direction) (saturating signaling : Bool)
  deriving DecidableEq, Repr

namespace Rounding

def code : Rounding → Nat
  | none => 0
  | floatDefault => 1
  | float d => d.ctorIdx + 2
  | integer d saturating signaling =>
      d.ctorIdx + 6 + (if saturating then 4 else 0) + (if signaling then 8 else 0)

def label : Rounding → String
  | none => "None"
  | floatDefault => "FloatDefault"
  | float d => "Float" ++ d.label
  | integer d saturating signaling =>
      "Integer" ++ (if signaling then "Signaling" else "") ++ d.label ++
        (if saturating then "Sat" else "")

instance : Coded Rounding where
  family := "Round"
  capacity := UInt8.size
  members :=
    [none, floatDefault] ++ Direction.members.map float ++
      [false, true].flatMap fun signaling => [false, true].flatMap fun saturating =>
        Direction.members.map fun d => integer d saturating signaling
  code := code
  label := label

instance : LawfulCoded Rounding where
  mem_members r := by
    rcases r with _ | _ | d | ⟨d, saturating, signaling⟩
    · decide
    · decide
    · cases d <;> decide
    · cases d <;> cases saturating <;> cases signaling <;> decide
  ascending := by decide
  code_lt := by decide

def isFloat : Rounding → Bool
  | floatDefault | float _ => true
  | _ => false

def isInteger : Rounding → Bool
  | integer .. => true
  | _ => false

end Rounding

end HsaModule

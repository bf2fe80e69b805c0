import HsaModule.Coded.Decode

namespace HsaModule

inductive Profile
  | base
  | full
  deriving DecidableEq, Repr

namespace Profile

def label : Profile → String
  | base => "Base"
  | full => "Full"

instance : Coded Profile where
  family := "Profile"
  capacity := UInt8.size
  members := [base, full]
  code p := p.ctorIdx
  label := label

instance : LawfulCoded Profile where
  mem_members p := by cases p <;> decide
  ascending := by decide
  code_lt := by decide

end Profile

inductive MachineModel
  | small
  | large
  deriving DecidableEq, Repr

namespace MachineModel

def label : MachineModel → String
  | small => "Small"
  | large => "Large"

instance : Coded MachineModel where
  family := "MachineModel"
  capacity := UInt8.size
  members := [small, large]
  code m := m.ctorIdx
  label := label

instance : LawfulCoded MachineModel where
  mem_members m := by cases m <;> decide
  ascending := by decide
  code_lt := by decide

def flatAddressBits : MachineModel → Nat
  | small => 32
  | large => 64

end MachineModel

/-- A set of extensions, one bit each; bits without a meaning are kept. -/
structure Extensions where
  bits : UInt32
  deriving DecidableEq, Repr

namespace Extensions

def none : Extensions := ⟨0⟩

def image : Extensions := ⟨1⟩

def union (e f : Extensions) : Extensions := ⟨e.bits ||| f.bits⟩

def contains (e f : Extensions) : Bool := e.bits &&& f.bits == f.bits

end Extensions

structure Target where
  model : MachineModel
  profile : Profile
  extensions : Extensions := .none
  deriving DecidableEq, Repr

namespace Target

/-- The target with these stored numbers, the first unknown one of which is reported. -/
def decode (model profile : Nat) : Logged ContractViolation Target := do
  let model ← Coded.decode MachineModel model
  let profile ← Coded.decode Profile profile
  return { model, profile }

def extend (t : Target) (e : Extensions) : Target :=
  { t with extensions := t.extensions.union e }

def hasImage (t : Target) : Bool := t.extensions.contains .image

end Target

end HsaModule

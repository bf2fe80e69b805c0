import HsaModule.Coded

namespace HsaModule

inductive RegisterKind
  | control
  | single
  | double
  | quad
  deriving DecidableEq, Repr

namespace RegisterKind

def label : RegisterKind → String
  | control => "Control"
  | single => "Single"
  | double => "Double"
  | quad => "Quad"

instance : Coded RegisterKind where
  family := "RegisterKind"
  capacity := UInt16.size
  members := [control, single, double, quad]
  code k := k.ctorIdx
  label := label

instance : LawfulCoded RegisterKind where
  mem_members k := by cases k <;> decide
  ascending := by decide
  code_lt := by decide

def bits : RegisterKind → Nat
  | control => 1
  | single => 32
  | double => 64
  | quad => 128

def sigil : RegisterKind → String
  | control => "$c"
  | single => "$s"
  | double => "$d"
  | quad => "$q"

/-- The kind of a register of that name; what follows the letter does not matter. -/
def ofName? (name : String) : Option RegisterKind :=
  match name.toList with
  | '$' :: 'c' :: _ => some control
  | '$' :: 's' :: _ => some single
  | '$' :: 'd' :: _ => some double
  | '$' :: 'q' :: _ => some quad
  | _ => none

end RegisterKind

structure Register where
  kind : RegisterKind
  number : UInt16
  deriving DecidableEq, Repr

namespace Register

def bits (r : Register) : Nat := r.kind.bits

def name (r : Register) : String := r.kind.sigil ++ toString r.number.toNat

end Register

end HsaModule

import HsaModule.Logged

/-!
Decoding of stored numbers. A number without a member is a broken contract and is warned about,
except where it is too wide for the field it was taken from: then it was never looked up.
-/

namespace HsaModule.Coded

variable (α : Type) [Coded α]

def decode (n : Nat) : Logged ContractViolation α :=
  match ofCode? α n with
  | some a => pure a
  | none => .refuse (.unknownCode (family α) n) (.unknownCode (family α) n)

/-- The member stored in a 32-bit value, which may be wider than the enumeration's numbers. -/
def decodeValue (value : UInt32) : Logged ContractViolation α :=
  if value.toNat < capacity α then decode α value.toNat
  else .fail (.unknownCode (family α) value.toNat)

/-- As `decodeValue`, where zero stands for no member at all. -/
def decodeValue? (value : UInt32) : Logged ContractViolation (Option α) :=
  if value = 0 then pure none else some <$> decodeValue α value

end HsaModule.Coded

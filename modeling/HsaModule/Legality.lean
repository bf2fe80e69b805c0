import HsaModule.Instruction

/-!
What a target allows. Only the base profile refuses anything: types and scopes of extensions that
are not enabled, 64-bit floats, signals of the other machine model, denormal numbers that are not
flushed, and most rounding modes.
-/

namespace HsaModule

def Property.judge (p : Property) (value : UInt32) : Option Reason → Logged Error Unit
  | some reason => .refuse (.rejectedProperty p value reason) (.invalid reason)
  | none => pure ()

def Rounding.objection? : Rounding → Option Reason
  | none | floatDefault => Option.none
  | integer .zero false false | integer .zero true false => Option.none
  | integer .zero false true | integer .zero true true => Option.none
  | mode => some (if mode.isInteger then .integerRounding else .floatRounding)

namespace Target

def typeObjection? (t : Target) (type : DataType) : Option Reason :=
  if type.needsImage && !t.hasImage then some .imageTypeNeedsExtension
  else if type.needsFullProfile then some .doubleNeedsFullProfile
  else if type == .signal64 && t.model != .large then some .signal64NeedsLargeModel
  else if type == .signal32 && t.model != .small then some .signal32NeedsSmallModel
  else none

def scopeObjection? (t : Target) (_ : MemoryScope) : Option Reason :=
  if t.hasImage then none else some .imageScopeNeedsExtension

/-- Checks a type, or a scope for the image segment. Other properties always pass. -/
def checkProperty (t : Target) (p : Property) (value : UInt32) : Logged Error Unit :=
  if t.profile = .full then pure ()
  else if p.isType then do
    let type ← (Coded.decodeValue? DataType value).mapError .contract
    p.judge value (type.bind t.typeObjection?)
  else if p = .imageSegmentMemoryScope then do
    let scope ← (Coded.decodeValue? MemoryScope value).mapError .contract
    p.judge value (scope.bind t.scopeObjection?)
  else pure ()

/-- Checks a rounding mode, or whether denormal numbers are flushed, on an instruction for which
the values in `legal` exist. An instruction with a single such value has no choice in flushing.
Other properties always pass. -/
def checkModifier (t : Target) (p : Property) (value : UInt32) (legal : List UInt32) :
    Logged Error Unit :=
  if t.profile = .full then pure ()
  else
    match p with
    | .ftz =>
        p.judge value (if value = 0 ∧ 1 < legal.length then some .flushRequired else none)
    | .round => do
        let mode ← (Coded.decodeValue Rounding value).mapError .contract
        p.judge value mode.objection?
    | _ => pure ()

def checkInstruction (t : Target) (i : Instruction) (p : Property) : Logged Error Unit :=
  if p = .imageSegmentMemoryScope ∨ p.isType then t.checkProperty p (i.valueOr p 0)
  else pure ()

end Target

end HsaModule

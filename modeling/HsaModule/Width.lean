import HsaModule.Coded

namespace HsaModule

inductive Width
  | none
  | pow2 (exponent : Fin 32)
  | waveSize
  | all
  deriving DecidableEq, Repr

namespace Width

def lanes? : Width → Option Nat
  | pow2 e => some (1 <<< e.val)
  | _ => Option.none

def label : Width → String
  | none => "None"
  | pow2 e => "W" ++ toString (1 <<< e.val)
  | waveSize => "WaveSize"
  | all => "All"

def modifier : Width → String
  | none => ""
  | pow2 e => "width(" ++ toString (1 <<< e.val) ++ ")"
  | waveSize => "width(WAVESIZE)"
  | all => "width(all)"

instance : Coded Width where
  family := "Width"
  capacity := UInt8.size
  members := none :: (List.finRange 32).map pow2 ++ [waveSize, all]
  code
    | none => 0
    | pow2 e => e.val + 1
    | waveSize => 33
    | all => 34
  label := label

instance : LawfulCoded Width where
  mem_members w := by
    simp only [Coded.members, List.mem_append, List.mem_cons, List.mem_map]
    rcases w with _ | e | _ | _
    · exact .inl (.inl rfl)
    · exact .inl (.inr ⟨e, List.mem_finRange e, rfl⟩)
    · exact .inr (.inl rfl)
    · exact .inr (.inr (.inl rfl))
  ascending := by decide +kernel
  code_lt := by decide +kernel

end Width

end HsaModule

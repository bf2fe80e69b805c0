import HsaModule.Register
import HsaModule.Proofs.Text

namespace HsaModule

namespace RegisterKind

def letter : RegisterKind → Char
  | control => 'c'
  | single => 's'
  | double => 'd'
  | quad => 'q'

theorem toList_sigil (k : RegisterKind) : k.sigil.toList = ['$', k.letter] := by
  cases k <;> rfl

theorem ofName?_eq_some_iff_letter {s : String} {k : RegisterKind} :
    ofName? s = some k ↔ ∃ rest, s.toList = '$' :: k.letter :: rest := by
  constructor
  · intro h
    rw [ofName?] at h
    split at h
    case h_5 => cases h
    all_goals
      rename_i rest hs
      obtain rfl := Option.some.inj h
      exact ⟨rest, hs⟩
  · rintro ⟨rest, hs⟩
    rw [ofName?, hs]
    cases k <;> rfl

theorem ofName?_eq_some_iff {s : String} {k : RegisterKind} :
    ofName? s = some k ↔ ∃ rest, s = k.sigil ++ rest := by
  rw [ofName?_eq_some_iff_letter]
  constructor
  · rintro ⟨rest, hs⟩
    refine ⟨String.ofList rest, ?_⟩
    rw [← String.toList_inj, String.toList_append, String.toList_ofList, toList_sigil, hs]
    rfl
  · rintro ⟨rest, rfl⟩
    refine ⟨rest.toList, ?_⟩
    rw [String.toList_append, toList_sigil]
    rfl

end RegisterKind

namespace Register

theorem ofName?_name (r : Register) : RegisterKind.ofName? r.name = some r.kind :=
  RegisterKind.ofName?_eq_some_iff.2 ⟨toString r.number.toNat, rfl⟩

theorem eq_of_name_eq {r r' : Register} (h : r.name = r'.name) : r = r' := by
  obtain ⟨kind, number⟩ := r
  obtain ⟨kind', number'⟩ := r'
  have hkind := ofName?_name ⟨kind, number⟩
  rw [h, ofName?_name] at hkind
  obtain rfl : kind' = kind := Option.some.inj hkind
  have hdigits : toString number.toNat = toString number'.toNat := (String.append_right_inj _).1 h
  rw [UInt16.toNat_inj.1 (toString_nat_inj hdigits)]

/-- What names say. A name is that of a register of some kind if it begins with the sigil of the
kind, which its bytes are enough to tell, and the name of a register says which one it is. -/
theorem toldByNames :
    (∀ (s : String) (k : RegisterKind),
      RegisterKind.ofName? s = some k ↔ ∃ rest, s = k.sigil ++ rest) ∧
    (∀ (s : String) (k : RegisterKind), RegisterKind.ofName? s = some k ↔
      ∃ rest, s.toByteArray = k.sigil.toByteArray ++ rest) ∧
    (∀ r : Register, RegisterKind.ofName? r.name = some r.kind) ∧
    ∀ r r' : Register, r.name = r'.name → r.kind = r'.kind ∧ r.number = r'.number := by
  refine ⟨?_, ?_, ?_, ?_⟩
  · intro s k
    exact RegisterKind.ofName?_eq_some_iff
  · intro s k
    rw [RegisterKind.ofName?_eq_some_iff, exists_eq_append_iff_toByteArray]
  · exact ofName?_name
  · intro r r' h
    obtain rfl := eq_of_name_eq h
    exact ⟨rfl, rfl⟩

example :
    RegisterKind.ofName? "$dé" = some .double ∧ RegisterKind.ofName? "$" = none ∧
      RegisterKind.ofName? "$é" = none ∧ RegisterKind.ofName? "" = none := by
  decide

end Register

end HsaModule

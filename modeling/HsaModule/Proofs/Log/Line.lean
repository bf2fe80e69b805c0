import HsaModule.Logged
import HsaModule.Proofs.Text
import Mathlib.Data.List.Nodup

namespace HsaModule

namespace Logged

variable {ε α : Type}

def log (x : Logged ε α) : List (Level × String) := x.notices.map fun n => (n.level, n.text)

def lines (x : Logged ε α) (level : Level) : List String :=
  (x.log.filter fun line => line.1 = level).map Prod.snd

theorem lines_of_log_nil {x : Logged ε α} (h : x.log = []) (level : Level) :
    x.lines level = [] := by
  rw [lines, h]
  rfl

theorem lines_refuse {n : Notice} {level : Level} (h : n.level = level) (e : ε) :
    (refuse n e : Logged ε α).lines level = [n.text] := by
  simp [lines, log, h]

end Logged

theorem Notice.toList_text_unknownCode (family : String) (value : Nat) :
    (unknownCode family value).text.toList =
      ("unknown " ++ family ++ " code").toList ++ ' ' :: (toString value).toList := by
  change ("unknown " ++ family ++ (" code" ++ " ") ++ toString value).toList = _
  simp only [String.toList_append, List.append_assoc]
  rfl

theorem Notice.text_unknownCode_inj {family family' : String} {value value' : Nat}
    (h : (unknownCode family value).text = (unknownCode family' value').text) :
    family = family' ∧ value = value' := by
  have hlists := congrArg String.toList h
  rw [toList_text_unknownCode, toList_text_unknownCode] at hlists
  obtain ⟨hfront, hvalue⟩ := append_cons_inj_of_last (space_notMem_toString value)
    (space_notMem_toString value') hlists
  have hfamily := String.toList_inj.1 hfront
  rw [String.append_left_inj, String.append_right_inj] at hfamily
  exact ⟨hfamily, toString_nat_inj (String.toList_inj.1 hvalue)⟩

namespace Reason

def members : List Reason :=
  [imageTypeNeedsExtension, doubleNeedsFullProfile, signal64NeedsLargeModel,
    signal32NeedsSmallModel, imageScopeNeedsExtension, flushRequired, floatRounding,
    integerRounding, operandCount, waveSizeOperand, operandType, operandNotImmediate,
    operandNotDimension, operandZero]

theorem mem_members (r : Reason) : r ∈ members := by
  cases r <;> decide

theorem nodup_texts : (members.map text).Nodup := by
  decide +kernel

theorem text_inj {r r' : Reason} (h : r.text = r'.text) : r = r' :=
  List.inj_on_of_nodup_map nodup_texts r.mem_members r'.mem_members h

theorem colon_notMem_text (r : Reason) : ':' ∉ r.text.toList := by
  cases r with
  | integerRounding =>
      change ':' ∉ (String.ofList _ ++ String.ofList _).toList
      rw [String.toList_append, String.toList_ofList, String.toList_ofList]
      decide
  | _ =>
      change ':' ∉ (String.ofList _).toList
      rw [String.toList_ofList]
      decide

theorem toList_append_text (front : String) (r : Reason) :
    (front ++ "rejected: " ++ r.text).toList =
      (front ++ "rejected").toList ++ ':' :: ' ' :: r.text.toList := by
  change (front ++ ("rejected" ++ ": ") ++ r.text).toList = _
  simp only [String.toList_append, List.append_assoc]
  rfl

theorem eq_of_append_text_eq {front front' : String} {r r' : Reason}
    (h : front ++ "rejected: " ++ r.text = front' ++ "rejected: " ++ r'.text) : r = r' := by
  have hlists := congrArg String.toList h
  rw [toList_append_text, toList_append_text] at hlists
  have hcolon (r : Reason) : ':' ∉ ' ' :: r.text.toList := by
    rw [List.mem_cons, not_or]
    exact ⟨by decide, r.colon_notMem_text⟩
  obtain ⟨-, htext⟩ := append_cons_inj_of_last (hcolon r) (hcolon r') hlists
  exact text_inj (String.toList_inj.1 (List.cons.inj htext).2)

end Reason

end HsaModule

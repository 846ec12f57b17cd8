import Mathlib.Data.List.Basic
import SteelInspection.Foundations.Text

/-! # The order of decimal texts

Numbers that are written with the same number of digits compare as texts the way they compare as
numbers.  `digits width value` is the text of that many digits, with zeros in front.
-/

namespace Foundations.Text

/-- The last `width` digits of a number. -/
def digits : Nat → Nat → List Char
  | 0, _ => []
  | width + 1, value => digits width (value / 10) ++ [(value % 10).digitChar]

@[simp] theorem length_digits (width value : Nat) : (digits width value).length = width := by
  induction width generalizing value with
  | zero => rfl
  | succ width ih => simp [digits, ih]

/-- The first difference decides, whatever comes after texts of one length. -/
theorem append_lt_append {first second : List Char} (rest others : List Char)
    (same : first.length = second.length) (less : first < second) :
    first ++ rest < second ++ others := by
  induction first generalizing second with
  | nil => grind
  | cons head tail ih =>
    cases second with
    | nil => cases same
    | cons other second =>
      rw [List.cons_append, List.cons_append, List.cons_lt_cons_iff]
      rcases List.cons_lt_cons_iff.mp less with front | ⟨equal, back⟩
      · exact .inl front
      · exact .inr ⟨equal, ih (Nat.succ.inj same) back⟩

theorem digitChar_lt {first second : Nat} (less : first < second) (bound : second < 10) :
    first.digitChar < second.digitChar := by
  have values : first.digitChar.toNat < second.digitChar.toNat := by
    rw [Nat.toNat_digitChar_of_lt_ten bound, Nat.toNat_digitChar_of_lt_ten (Nat.lt_trans less bound)]
    omega
  exact values

theorem digits_lt {width first second : Nat} (less : first < second) (bound : second < 10 ^ width) :
    digits width first < digits width second := by
  induction width generalizing first second with
  | zero => omega
  | succ width ih =>
    have upper : second / 10 < 10 ^ width := by
      rw [Nat.div_lt_iff_lt_mul (by decide), ← Nat.pow_succ]
      exact bound
    rw [digits, digits]
    by_cases front : first / 10 < second / 10
    · exact append_lt_append _ _ (by simp) (ih front upper)
    -- only the last digit differs
    have equal : first / 10 = second / 10 := by omega
    rw [equal]
    refine List.append_left_lt (List.cons_lt_cons_iff.mpr (.inl ?_))
    exact digitChar_lt (by omega) (Nat.mod_lt _ (by decide))

theorem replicate_toDigits (width value : Nat) (bound : value < 10 ^ width) (positive : 0 < width) :
    List.replicate (width - (Nat.toDigits 10 value).length) '0' ++ Nat.toDigits 10 value =
      digits width value := by
  induction width generalizing value with
  | zero => omega
  | succ width ih =>
    by_cases small : value < 10
    · rw [Nat.toDigits_of_lt_base small, digits, Nat.mod_eq_of_lt small, Nat.div_eq_of_lt small]
      congr 1
      have zeros : ∀ width, digits width 0 = List.replicate width '0' := by
        intro width
        induction width with
        | zero => rfl
        | succ width ih =>
          rw [digits, Nat.zero_div, ih, List.replicate_succ']
          rfl
      rw [zeros]
      rfl
    · have upper : value / 10 < 10 ^ width := by
        rw [Nat.div_lt_iff_lt_mul (by decide), ← Nat.pow_succ]
        exact bound
      have wide : 0 < width := by grind
      rw [Nat.toDigits_of_base_le (by decide) (by omega), digits,
        ← ih (value / 10) upper wide, List.length_append, List.length_singleton,
        Nat.add_sub_add_right, List.append_assoc]

theorem toDigits_eq_digits {width value : Nat} (lower : 10 ^ width ≤ value)
    (upper : value < 10 ^ (width + 1)) : Nat.toDigits 10 value = digits (width + 1) value := by
  have padded := replicate_toDigits (width + 1) value upper (Nat.succ_pos width)
  have long : width < (Nat.toDigits 10 value).length := by
    rcases Nat.eq_zero_or_pos width with rfl | positive
    · exact Nat.length_toDigits_pos
    · exact Nat.lt_of_not_le fun short =>
        Nat.not_lt.mpr lower ((Nat.length_toDigits_le_iff (by decide) positive).mp short)
  rwa [Nat.sub_eq_zero_of_le long] at padded

theorem toList_padDecimal {width value : Nat} (bound : value < 10 ^ width) (positive : 0 < width) :
    (padDecimal width value).toList = digits width value := by
  have text : (toString value).toList = Nat.toDigits 10 value := Nat.toList_repr
  rw [padDecimal, String.toList_append, String.toList_ofList, text, ← String.length_toList, text]
  exact replicate_toDigits width value bound positive

theorem toList_toString {width value : Nat} (lower : 10 ^ width ≤ value)
    (upper : value < 10 ^ (width + 1)) : (toString value).toList = digits (width + 1) value :=
  Nat.toList_repr.trans (toDigits_eq_digits lower upper)

end Foundations.Text

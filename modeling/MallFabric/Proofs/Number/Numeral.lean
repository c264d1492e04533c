import MallFabric.Number.Numeral
import Mathlib.Tactic.Common

/-!
# Numerals in decimal digits

The digits of a number write the number, and they begin with a zero only if they are a
zero alone.  So every numeral that is made of a number is one that a number may be written
with, and an integer is read back from it.
-/

namespace MallFabric

namespace Digit

theorem ofChar?_toChar : (digit : Digit) -> ofChar? digit.toChar = some digit := by
  decide

/-- A character shows a digit exactly if the digit is written with it. -/
theorem ofChar?_eq_some_iff
    {char : Char}
    {digit : Digit} :
    ofChar? char = some digit ↔ char = digit.toChar := by
  constructor
  · intro shown
    unfold ofChar? at shown
    split at shown
    · next bounds =>
        cases shown
        have low : 48 ≤ char.toNat := bounds.1
        have high : char.toNat ≤ 57 := bounds.2
        have value : (Fin.ofNat 10 (char.toNat - 48)).val = char.toNat - 48 := by
          rw [Fin.val_ofNat]
          omega
        rw [toChar, value, Nat.add_sub_cancel' low, Char.ofNat_toNat]
    · cases shown
  · rintro rfl
    exact ofChar?_toChar digit

/-- Characters show digits exactly if the digits are written with them. -/
theorem mapM_ofChar?_eq_some_iff
    {chars : List Char}
    {digits : List Digit} :
    chars.mapM ofChar? = some digits ↔ chars = digits.map toChar := by
  induction chars generalizing digits with
  | nil => cases digits <;> simp
  | cons char rest inductionHypothesis =>
      cases digits with
      | nil => simp [List.mapM_cons, Option.bind_eq_some_iff]
      | cons digit digits =>
          simp [List.mapM_cons, Option.bind_eq_some_iff, ofChar?_eq_some_iff, inductionHypothesis]

theorem toChar_ne_zero : (digit : Digit) -> digit ≠ 0 -> digit.toChar ≠ '0' := by
  decide

theorem toChar_ne_sign : (digit : Digit) -> digit.toChar ≠ '-' ∧ digit.toChar ≠ '+' := by
  decide

theorem ofChar?_digitChar : (digit : Digit) -> ofChar? (Nat.digitChar digit.val) = some digit := by
  decide

/-- The digits of a number are those of its tenth, and the last one. -/
theorem ofNat_eq (number : Nat) :
    ofNat number =
      (if number < 10 then [] else ofNat (number / 10)) ++ [Fin.ofNat 10 number] := by
  have last := ofChar?_digitChar (Fin.ofNat 10 number)
  rw [Fin.val_ofNat] at last
  rw [ofNat, Nat.toDigits_eq_if (by decide)]
  split
  · next small =>
      rw [Nat.mod_eq_of_lt small] at last
      rw [List.filterMap_cons, last, List.filterMap_nil, List.nil_append]
  · rw [List.filterMap_append, List.filterMap_cons, last, List.filterMap_nil]
    rfl

theorem number_append_singleton (digits : List Digit) (last : Digit) :
    number (digits ++ [last]) = number digits * 10 + last.val := by
  simp only [number, numberAfter, List.foldl_append, List.foldl_cons, List.foldl_nil]

/-- The digits of a number write it. -/
theorem number_ofNat (value : Nat) : number (ofNat value) = value := by
  induction value using Nat.strongRecOn with
  | ind value inductionHypothesis =>
      rw [ofNat_eq, number_append_singleton, Fin.val_ofNat]
      split
      · next small =>
          rw [Nat.mod_eq_of_lt small]
          exact Nat.zero_add value
      · rw [inductionHypothesis (value / 10) (by omega)]
        omega

/-- Digits that the whole part of a number may have: some, of which the first is a zero
only if it is alone. -/
inductive Leads : List Digit -> Prop where
  | intro {first rest}
      (alone : first = 0 -> rest = []) :
      Leads (first :: rest)

theorem Leads.ne_nil
    {digits : List Digit}
    (leads : Leads digits) :
    digits ≠ [] := by
  rintro rfl
  cases leads

/-- The digits of a positive number begin with another one than zero. -/
theorem exists_ofNat_of_pos
    {value : Nat}
    (positive : 0 < value) :
    ∃ first rest, ofNat value = first :: rest ∧ first ≠ 0 := by
  induction value using Nat.strongRecOn with
  | ind value inductionHypothesis =>
      rw [ofNat_eq]
      split
      · next small =>
          refine ⟨_, [], rfl, fun zero => ?_⟩
          have same := congrArg Fin.val zero
          rw [Fin.val_ofNat, Nat.mod_eq_of_lt small] at same
          exact Nat.ne_of_gt positive same
      · obtain ⟨first, rest, digits, other⟩ :=
          inductionHypothesis (value / 10) (by omega) (by omega)
        exact ⟨first, rest ++ [Fin.ofNat 10 value], by rw [digits]; rfl, other⟩

theorem leads_ofNat (value : Nat) : Leads (ofNat value) := by
  rcases Nat.eq_zero_or_pos value with rfl | positive
  · rw [ofNat_eq]
    exact .intro fun _ => rfl
  · obtain ⟨first, rest, digits, other⟩ := exists_ofNat_of_pos positive
    rw [digits]
    exact .intro fun zero => absurd zero other

end Digit

namespace Numeral

/-- A numeral that a number may be written with. -/
structure Proper (numeral : Numeral) : Prop where
  whole : Digit.Leads numeral.whole
  exponent : ∀ exponent ∈ numeral.exponent, exponent.digits ≠ []

theorem proper_ofInt (number : Int) : (ofInt number).Proper :=
  ⟨Digit.leads_ofNat _, nofun⟩

/-- An integer is read back from its numeral. -/
theorem toInt?_ofInt (number : Int) : (ofInt number).toInt? = some number := by
  have digits := Digit.number_ofNat number.natAbs
  have plain : ¬ ((ofInt number).fraction ≠ [] ∨ (ofInt number).exponent.isSome) := by
    simp [ofInt]
  rw [toInt?, if_neg plain]
  simp only [ofInt, digits, decide_eq_true_eq]
  split
  · split
    · omega
    · exact congrArg some (by omega)
  · exact congrArg some (by omega)

end Numeral

/-! ## Shortest digits -/

theorem div_le_roundHalfEven (numerator denominator : Nat) :
    numerator / denominator ≤ roundHalfEven numerator denominator := by
  unfold roundHalfEven
  simp only
  split
  · exact Nat.le_refl _
  · split
    · exact Nat.le_succ _
    · exact Nat.le_add_right _ _

/-- Zero is written as a whole number. -/
def Decimal.Plain (decimal : Decimal) : Prop := decimal.coefficient = 0 -> decimal.exponent = 0

theorem Decimal.Plain.trim
    {decimal : Decimal}
    (plain : decimal.Plain)
    (fuel : Nat) :
    (decimal.trim fuel).Plain := by
  induction fuel generalizing decimal with
  | zero => exact plain
  | succ fuel inductionHypothesis =>
      unfold Decimal.trim
      split
      · next ends =>
          refine inductionHypothesis fun zero => ?_
          dsimp only at zero
          omega
      · exact plain

namespace BinaryFormat

/-- What rounds to a magnitude that is not zero is not zero. -/
theorem coefficient_ne_zero_of_encodeRatio
    {format : BinaryFormat}
    {magnitude : Nat}
    (nonzero : magnitude ≠ 0)
    {decimal : Decimal}
    (readsBack : (format.encodeRatio decimal.ratio.1 decimal.ratio.2 == magnitude) = true) :
    decimal.coefficient ≠ 0 := by
  intro zero
  have none : decimal.ratio.1 = 0 := by
    unfold Decimal.ratio
    split
    · simp [zero]
    · exact zero
  rw [encodeRatio, if_pos none] at readsBack
  exact nonzero (eq_of_beq readsBack).symm

theorem coefficient_neighbour_le_nearest (numerator denominator : Nat) (exponent : Int) :
    (neighbours numerator denominator exponent).1.coefficient ≤
      (nearest numerator denominator exponent).coefficient := by
  unfold neighbours nearest
  simp only
  split
  · exact div_le_roundHalfEven _ _
  · exact div_le_roundHalfEven _ _

theorem plain_shortestAmong
    {format : BinaryFormat}
    {magnitude numerator denominator : Nat}
    (nonzero : magnitude ≠ 0)
    (counts : List Nat) :
    (format.shortestAmong magnitude numerator denominator counts).Plain := by
  induction counts with
  | nil => exact fun _ => rfl
  | cons count counts inductionHypothesis =>
      unfold shortestAmong
      simp only
      split
      · next below above =>
          have given := coefficient_ne_zero_of_encodeRatio nonzero below
          have order := coefficient_neighbour_le_nearest numerator denominator
            (decimalLogarithm numerator denominator + 1 - count)
          exact fun zero => absurd zero (by omega)
      · next below above =>
          exact fun zero => absurd zero (coefficient_ne_zero_of_encodeRatio nonzero below)
      · next below above =>
          exact fun zero => absurd zero (coefficient_ne_zero_of_encodeRatio nonzero above)
      · exact inductionHypothesis

theorem plain_shortest (format : BinaryFormat) (magnitude : Nat) :
    (format.shortest magnitude).Plain := by
  unfold shortest
  split
  · exact fun _ => rfl
  · next nonzero => exact (plain_shortestAmong nonzero _).trim _

end BinaryFormat

namespace Numeral

/-- A point within digits, or zeros before it, make a numeral. -/
theorem proper_withPoint
    {digits : List Digit}
    (leads : Digit.Leads digits)
    (negative : Bool)
    {count : Int}
    (alone : digits.head? = some 0 -> count ≤ 1) :
    (withPoint negative digits count).Proper := by
  refine ⟨?_, nofun⟩
  unfold withPoint
  simp only
  rcases (by omega : count ≤ 0 ∨ 0 < count) with before | within
  · obtain ⟨zeros, more⟩ := Nat.exists_eq_succ_of_ne_zero (n := (1 - count).toNat) (by omega)
    have single : max 1 count.toNat = 1 := by omega
    rw [more, single]
    exact .intro fun _ => rfl
  · cases digits with
    | nil => cases leads
    | cons first rest =>
        have none : (1 - count).toNat = 0 := by omega
        obtain ⟨places, more⟩ := Nat.exists_eq_succ_of_ne_zero (n := count.toNat) (by omega)
        have whole : max 1 count.toNat = places + 1 := by omega
        rw [none, whole]
        refine .intro ?_
        rintro rfl
        have last : places = 0 := by
          have bound := alone rfl
          omega
        rw [last]
        rfl

/-- The numeral of a single is one that a number may be written with. -/
theorem proper_ofSingle (number : Single) : (ofSingle number).Proper := by
  have plain : number.shortest.Plain := BinaryFormat.plain_shortest _ _
  have leads := Digit.leads_ofNat number.shortest.coefficient
  unfold ofSingle
  simp only
  split
  · refine proper_withPoint leads _ fun zero => ?_
    rcases Nat.eq_zero_or_pos number.shortest.coefficient with nothing | positive
    · rw [plain nothing, nothing]
      decide
    · obtain ⟨first, rest, digits, other⟩ := Digit.exists_ofNat_of_pos positive
      rw [digits] at zero
      exact absurd (Option.some.inj zero) other
  · refine ⟨?_, ?_⟩
    · cases digits : Digit.ofNat number.shortest.coefficient with
      | nil => exact absurd digits leads.ne_nil
      | cons first rest => exact .intro fun _ => rfl
    · rintro exponent ⟨⟩
      exact (Digit.leads_ofNat _).ne_nil

end Numeral

end MallFabric

import Mathlib.Data.List.Induction
import ValidatedStore.Decimal

/-!
# Decimal digits

The digits of a whole number spell it, start with a zero only for zero itself, and grow by zeros at
the end when the number is multiplied by ten. Other digits without a leading zero are none but those
of the number that they spell. The significant digits of a decimal are therefore the digits of a
number again, followed by a power of ten.
-/

namespace ValidatedStore

namespace Decimal

theorem ofDigits_eq_ofDigitChars (ds : List Char) : ofDigits ds = Nat.ofDigitChars 10 ds 0 :=
  Nat.ofDigitChars_eq_foldl.symm

/-- The digits of a number spell it. -/
theorem ofDigits_digits (n : Nat) : ofDigits (digits n) = n := by
  rw [ofDigits_eq_ofDigitChars, digits, Nat.ofDigitChars_ten_toDigits]

theorem ofDigits_append (first second : List Char) :
    ofDigits (first ++ second) = ofDigits first * 10 ^ second.length + ofDigits second := by
  rw [ofDigits_eq_ofDigitChars, ofDigits_eq_ofDigitChars, ofDigits_eq_ofDigitChars,
    Nat.ofDigitChars_append, Nat.ofDigitChars_eq_ofDigitChars_zero, Nat.mul_comm]

theorem ofDigits_replicate_zero (k : Nat) : ofDigits (List.replicate k '0') = 0 := by
  rw [ofDigits_eq_ofDigitChars, Nat.ofDigitChars_replicate_zero, Nat.mul_zero]

theorem isDigit_of_mem_digits {n : Nat} {c : Char} (h : c ∈ digits n) : c.isDigit = true :=
  Nat.isDigit_of_mem_toDigits (by decide) (by decide) h

theorem digits_ne_nil (n : Nat) : digits n ≠ [] := Nat.toDigits_ne_nil

theorem digits_of_lt {n : Nat} (h : n < 10) : digits n = [Nat.digitChar n] :=
  Nat.toDigits_of_lt_base h

/-- The digits of a number from ten on end in its remainder by ten. -/
theorem digits_of_ge {n : Nat} (h : 10 ≤ n) :
    digits n = digits (n / 10) ++ [Nat.digitChar (n % 10)] :=
  Nat.toDigits_of_base_le (by decide) h

/-- A number below a power of ten has no more digits than the power says. -/
theorem length_digits_le {n k : Nat} (hk : 0 < k) (h : n < 10 ^ k) : (digits n).length ≤ k :=
  (Nat.length_toDigits_le_iff (by decide) hk).mpr h

theorem lt_length_digits {n k : Nat} (hk : 0 < k) (h : 10 ^ k ≤ n) : k < (digits n).length := by
  refine Nat.lt_of_not_le fun hle => ?_
  have hlt := (Nat.length_toDigits_le_iff (by decide) hk).mp hle
  omega

theorem digitChar_ne_zero {n : Nat} (hpos : 0 < n) (hlt : n < 10) : Nat.digitChar n ≠ '0' := by
  have hall : ∀ n < 10, 0 < n → Nat.digitChar n ≠ '0' := by decide
  exact hall n hlt hpos

/-- The digits of a positive number start with another digit than zero. -/
theorem exists_digits_eq_cons {n : Nat} (hpos : 0 < n) :
    ∃ c rest, digits n = c :: rest ∧ c ≠ '0' := by
  induction n using Nat.strongRecOn with
  | _ n ih =>
    by_cases hlt : n < 10
    · exact ⟨_, [], digits_of_lt hlt, digitChar_ne_zero hpos hlt⟩
    · have hge : 10 ≤ n := by omega
      have hquot : 0 < n / 10 := by omega
      obtain ⟨c, rest, hd, hc⟩ := ih (n / 10) (by omega) hquot
      refine ⟨c, rest ++ [Nat.digitChar (n % 10)], ?_, hc⟩
      rw [digits_of_ge hge, hd, List.cons_append]

/-- The last digit is the remainder by ten. -/
theorem exists_digits_eq_append (n : Nat) :
    ∃ front, digits n = front ++ [Nat.digitChar (n % 10)] := by
  by_cases hlt : n < 10
  · exact ⟨[], by rw [digits_of_lt hlt, Nat.mod_eq_of_lt hlt, List.nil_append]⟩
  · exact ⟨digits (n / 10), digits_of_ge (by omega)⟩

/-- A digit is the one that stands for its value. -/
theorem digitValue_of_isDigit {c : Char} (h : c.isDigit = true) :
    digitValue c < 10 ∧ Nat.digitChar (digitValue c) = c := by
  rw [Char.isDigit, Bool.and_eq_true, decide_eq_true_eq, decide_eq_true_eq] at h
  have hlow : 48 ≤ c.toNat := UInt32.le_iff_toNat_le.mp h.1
  have hhigh : c.toNat ≤ 57 := UInt32.le_iff_toNat_le.mp h.2
  have hvalue : digitValue c = c.toNat - 48 := rfl
  have hlt : digitValue c < 10 := by omega
  refine ⟨hlt, Char.toNat_inj.mp ?_⟩
  rw [Nat.toNat_digitChar_of_lt_ten hlt]
  omega

/-- Digits without a leading zero, or one digit alone, are those of the number that they spell. -/
theorem digits_ofDigits {ds : List Char} (hne : ds ≠ []) (hall : ∀ c ∈ ds, c.isDigit = true)
    (hlead : ds.length = 1 ∨ ds.head? ≠ some '0') : digits (ofDigits ds) = ds := by
  induction ds using List.reverseRecOn with
  | nil => exact absurd rfl hne
  | append_singleton front c ih =>
    obtain ⟨hlt, hchar⟩ := digitValue_of_isDigit (hall c (by simp))
    have hone : ofDigits [c] = digitValue c := by simp [ofDigits]
    rw [ofDigits_append, hone, List.length_singleton, Nat.pow_one]
    by_cases hfront : front = []
    · subst hfront
      have hnil : ofDigits [] = 0 := rfl
      rw [hnil, Nat.zero_mul, Nat.zero_add, digits_of_lt hlt, hchar, List.nil_append]
    · have hhead : front.head? ≠ some '0' := by
        obtain ⟨first, rest, rfl⟩ := List.exists_cons_of_ne_nil hfront
        rcases hlead with hlen | hhead
        · simp at hlen
        · exact hhead
      have hdigits := ih hfront (fun d hm => hall d (List.mem_append_left _ hm)) (.inr hhead)
      have hpos : 0 < ofDigits front := by
        refine Nat.pos_of_ne_zero fun hzero => hhead ?_
        rw [← hdigits, hzero]
        rfl
      have hquot : (ofDigits front * 10 + digitValue c) / 10 = ofDigits front := by omega
      have hrem : (ofDigits front * 10 + digitValue c) % 10 = digitValue c := by omega
      rw [digits_of_ge (by omega), hquot, hrem, hdigits, hchar]

/-- A power of ten appends zeros. -/
theorem digits_mul_pow {n : Nat} (hpos : 0 < n) (k : Nat) :
    digits (n * 10 ^ k) = digits n ++ List.replicate k '0' := by
  induction k with
  | zero => simp
  | succ k ih =>
    have hpow : 0 < 10 ^ k := Nat.pow_pos (by decide)
    have hmul : 0 < n * 10 ^ k := Nat.mul_pos hpos hpow
    have hsplit : n * 10 ^ (k + 1) = n * 10 ^ k * 10 := by rw [Nat.pow_succ, Nat.mul_assoc]
    have hge : 10 ≤ n * 10 ^ (k + 1) := by omega
    have hquot : n * 10 ^ (k + 1) / 10 = n * 10 ^ k := by omega
    have hrem : n * 10 ^ (k + 1) % 10 = 0 := by omega
    have hzero : Nat.digitChar 0 = '0' := rfl
    rw [digits_of_ge hge, hquot, hrem, ih, hzero, List.replicate_succ', List.append_assoc]

/-- A positive number is one that ten does not divide, times a power of ten. -/
theorem exists_eq_mul_pow {n : Nat} (hpos : 0 < n) : ∃ m k, m % 10 ≠ 0 ∧ n = m * 10 ^ k := by
  induction n using Nat.strongRecOn with
  | _ n ih =>
    by_cases hrem : n % 10 = 0
    · obtain ⟨m, k, hm, hn⟩ := ih (n / 10) (by omega) (by omega)
      have htimes : n = n / 10 * 10 := by omega
      exact ⟨m, k + 1, hm, by rw [htimes, hn, Nat.pow_succ, Nat.mul_assoc]⟩
    · exact ⟨n, 0, hrem, by rw [Nat.pow_zero, Nat.mul_one]⟩

/-- The significant digits of a decimal that is not zero are the digits of a number that makes up
its coefficient with a power of ten. -/
theorem exists_significant (d : Decimal) (hc : d.coefficient ≠ 0) :
    ∃ n k : Nat, 0 < n ∧ d.coefficient = n * 10 ^ k ∧
      d.significant = (digits n, d.exponent + k) := by
  obtain ⟨n, k, hrem, hcoefficient⟩ := exists_eq_mul_pow (Nat.pos_of_ne_zero hc)
  have hpos : 0 < n := by omega
  obtain ⟨front, hfront⟩ := exists_digits_eq_append n
  have hlast : Nat.digitChar (n % 10) ≠ '0' :=
    digitChar_ne_zero (by omega) (by omega)
  have hkept : ((digits d.coefficient).reverse.dropWhile (· == '0')).reverse = digits n := by
    rw [hcoefficient, digits_mul_pow hpos, List.reverse_append, List.reverse_replicate,
      List.dropWhile_append_of_pos, hfront]
    · simp [hlast]
    · simp
  refine ⟨n, k, hpos, hcoefficient, ?_⟩
  have hne : (digits n).isEmpty = false := by
    simp [digits_ne_nil]
  have hlen : (digits d.coefficient).length - (digits n).length = k := by
    rw [hcoefficient, digits_mul_pow hpos]
    simp
  rw [significant, hkept, hne, hlen]
  rfl

/-- Zero has one significant digit, whatever its power of ten. -/
theorem significant_zero (exponent : Int) : significant ⟨0, exponent⟩ = (['0'], 0) := by
  have hdigits : digits 0 = ['0'] := digits_of_lt (by decide)
  simp [significant, hdigits]

end Decimal

end ValidatedStore

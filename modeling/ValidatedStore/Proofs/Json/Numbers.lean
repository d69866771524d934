import Mathlib.Data.List.TakeDrop
import ValidatedStore.Json.Reader
import ValidatedStore.Proofs.Decimal.Reading

/-!
# Numbers are read as they are written

A number literal has a whole part, perhaps a fraction and perhaps an exponent, and it ends where
the text cannot continue it. Digits alone are read as the whole number that was written, and the
layouts of a double all spell its shortest decimal, which reads back.
-/

namespace ValidatedStore

namespace Json

variable {ds rest cs : List Char} {negative : Bool}

/-- A text that does not start with a digit. -/
def NoDigit (rest : List Char) : Prop := ∀ c, rest.head? = some c → c.isDigit = false

/-- A text that cannot continue a number. -/
structure Stops (rest : List Char) : Prop where
  /-- It starts with no digit. -/
  noDigit : NoDigit rest
  /-- It starts with no point. -/
  noPoint : rest.head? ≠ some '.'
  /-- It starts with no mark of an exponent. -/
  noExponent : rest.head? ≠ some 'e' ∧ rest.head? ≠ some 'E'

theorem spanDigits_append (hd : ∀ c ∈ ds, c.isDigit = true) (hr : NoDigit rest) :
    spanDigits (ds ++ rest) = (ds, rest) := by
  have hdrop : rest.dropWhile Char.isDigit = rest := by
    cases rest with
    | nil => rfl
    | cons c rest => rw [List.dropWhile_cons_of_neg (by simp [hr c rfl])]
  have htake : rest.takeWhile Char.isDigit = [] := by
    cases rest with
    | nil => rfl
    | cons c rest => rw [List.takeWhile_cons_of_neg (by simp [hr c rfl])]
  rw [spanDigits, List.span_eq_takeWhile_dropWhile, List.takeWhile_append_of_pos hd,
    List.dropWhile_append_of_pos hd, htake, hdrop, List.append_nil]

/-- Digits that start with another one than zero are a whole part. -/
theorem readWhole_append {c : Char} (hc : c ≠ '0') (hd : ∀ d ∈ c :: ds, d.isDigit = true)
    (hr : NoDigit rest) : readWhole (c :: ds ++ rest) = some (c :: ds, rest) := by
  have hspan := spanDigits_append hd hr
  unfold readWhole
  split
  next heq => exact absurd (List.cons.inj heq).1 hc
  next => rw [hspan]

theorem readFraction_of_noPoint (hr : rest.head? ≠ some '.') :
    readFraction rest = some (none, rest) := by
  unfold readFraction
  split
  next => exact absurd rfl hr
  next => rfl

theorem readFraction_append (hne : ds ≠ []) (hd : ∀ c ∈ ds, c.isDigit = true)
    (hr : NoDigit rest) : readFraction ('.' :: ds ++ rest) = some (some ds, rest) := by
  rw [List.cons_append, readFraction, spanDigits_append hd hr]
  cases ds with
  | nil => exact absurd rfl hne
  | cons c ds => rfl

theorem readExponent_of_stops (hr : Stops rest) : readExponent rest = some (none, rest) := by
  cases rest with
  | nil => rfl
  | cons c rest =>
    have hc : ¬ (c = 'e' ∨ c = 'E') := by
      rintro (rfl | rfl)
      · exact hr.noExponent.1 rfl
      · exact hr.noExponent.2 rfl
    rw [readExponent, if_neg hc]

/-- The sign of an exponent that JSON text shows, followed by the digits of the exponent. -/
theorem readExponent_append (power : Int) (hr : NoDigit rest) :
    readExponent ('e' :: ((if power < 0 then ['-'] else ['+']) ++
      (Decimal.digits power.natAbs ++ rest))) = some (some power, rest) := by
  have hspan : spanDigits (Decimal.digits power.natAbs ++ rest) =
      (Decimal.digits power.natAbs, rest) :=
    spanDigits_append (fun _ hm => Decimal.isDigit_of_mem_digits hm) hr
  have hvalue := Decimal.ofDigits_digits power.natAbs
  have hne := Decimal.digits_ne_nil power.natAbs
  by_cases hneg : power < 0
  · rw [readExponent, if_pos (.inl rfl), if_pos hneg, List.singleton_append, readExponentSign]
    dsimp only
    rw [hspan]
    split
    next heq => exact absurd (Prod.mk.inj heq).1 hne
    next heq =>
      obtain ⟨rfl, rfl⟩ := Prod.mk.inj heq
      rw [hvalue, if_pos rfl]
      congr
      omega
  · rw [readExponent, if_pos (.inl rfl), if_neg hneg, List.singleton_append, readExponentSign]
    dsimp only
    rw [hspan]
    split
    next heq => exact absurd (Prod.mk.inj heq).1 hne
    next heq =>
      obtain ⟨rfl, rfl⟩ := Prod.mk.inj heq
      rw [hvalue]
      simp only [Bool.false_eq_true, if_false]
      congr
      omega

/-- A literal with a fraction or an exponent is read as the double nearest to it. -/
theorem ofLiteral?_double {whole : List Char} {fraction : Option (List Char)}
    {exponent : Option Int} {x : Binary64} (hmarked : fraction ≠ none ∨ exponent ≠ none)
    (h : Decimal.toExtended negative ⟨Decimal.ofDigits (whole ++ fraction.getD []),
      exponent.getD 0 - (fraction.getD []).length⟩ = .finite x) :
    Number.ofLiteral? negative whole fraction exponent = some (.double x) := by
  unfold Number.ofLiteral?
  dsimp only
  rw [h]
  split
  next => simp at hmarked
  next => rfl

/-- A literal is read part by part. -/
theorem readUnsigned_of_parts {whole afterWhole afterFraction : List Char}
    {fraction : Option (List Char)} {exponent : Option Int} {n : Number}
    (hw : readWhole cs = some (whole, afterWhole))
    (hf : readFraction afterWhole = some (fraction, afterFraction))
    (he : readExponent afterFraction = some (exponent, rest))
    (hn : Number.ofLiteral? negative whole fraction exponent = some n) :
    readUnsigned negative cs = some (n, rest) := by
  simp only [readUnsigned, hw, hf, he, hn, Option.bind_eq_bind, Option.bind_some]
  rfl

section Doubles

variable {n : Nat} {last : Int} {x : Binary64}

/-- A point and a single zero. -/
theorem readFraction_zero (hr : NoDigit rest) :
    readFraction ('.' :: ['0'] ++ rest) = some (some ['0'], rest) := by
  refine readFraction_append (List.cons_ne_nil _ _) (fun d hm => ?_) hr
  obtain rfl := List.mem_singleton.mp hm
  rfl

theorem noDigit_point (cs : List Char) : NoDigit ('.' :: cs) := by
  intro c h
  obtain rfl := Option.some.inj h
  rfl

theorem noDigit_exponent (cs : List Char) : NoDigit ('e' :: cs) := by
  intro c h
  obtain rfl := Option.some.inj h
  rfl

/-- A magnitude below one is a zero, a point, and digits behind zeros. -/
theorem readUnsigned_below_one (hread : Decimal.toExtended negative ⟨n, last⟩ = .finite x)
    (hpower : last + (Decimal.digits n).length ≤ 0) (hr : Stops rest) :
    readUnsigned negative ('0' :: '.' ::
      List.replicate (-(last + (Decimal.digits n).length)).toNat '0' ++
        Decimal.digits n ++ rest) = some (.double x, rest) := by
  let zeros := List.replicate (-(last + (Decimal.digits n).length)).toNat '0'
  have hdigits : ∀ c ∈ zeros ++ Decimal.digits n, c.isDigit = true := by
    intro c hm
    rcases List.mem_append.mp hm with hm | hm
    · rw [List.eq_of_mem_replicate hm]
      rfl
    · exact Decimal.isDigit_of_mem_digits hm
  have hne : zeros ++ Decimal.digits n ≠ [] :=
    List.append_ne_nil_of_right_ne_nil _ (Decimal.digits_ne_nil n)
  have hfraction := readFraction_append hne hdigits hr.noDigit
  have hvalue : Decimal.ofDigits (['0'] ++ (zeros ++ Decimal.digits n)) = n := by
    rw [Decimal.ofDigits_append, Decimal.ofDigits_append, Decimal.ofDigits_replicate_zero,
      Decimal.ofDigits_digits]
    simp [Decimal.ofDigits, Decimal.digitValue]
  have hlength : (0 : Int) - (zeros ++ Decimal.digits n).length = last := by
    simp only [zeros, List.length_append, List.length_replicate]
    omega
  have hliteral : Number.ofLiteral? negative ['0'] (some (zeros ++ Decimal.digits n)) none =
      some (.double x) := by
    refine ofLiteral?_double (.inl (Option.some_ne_none _)) ?_
    simp only [Option.getD_some, Option.getD_none, hvalue, hlength, hread]
  have htext : '0' :: '.' :: List.replicate (-(last + (Decimal.digits n).length)).toNat '0' ++
      Decimal.digits n ++ rest = '0' :: ('.' :: (zeros ++ Decimal.digits n) ++ rest) := by
    simp [zeros]
  rw [htext]
  exact readUnsigned_of_parts rfl hfraction (readExponent_of_stops hr) hliteral

/-- Digits with a point among them. -/
theorem readUnsigned_point {whole : Nat} (hpos : 0 < n)
    (hread : Decimal.toExtended negative ⟨n, last⟩ = .finite x) (hwhole : 0 < whole)
    (hpower : last + (Decimal.digits n).length = whole) (hlast : last < 0) (hr : Stops rest) :
    readUnsigned negative ((Decimal.digits n).take whole ++ '.' :: (Decimal.digits n).drop whole ++
      rest) = some (.double x, rest) := by
  obtain ⟨c, more, hdigits, hc⟩ := Decimal.exists_digits_eq_cons hpos
  have hall : ∀ d ∈ Decimal.digits n, d.isDigit = true := fun _ hm =>
    Decimal.isDigit_of_mem_digits hm
  have hdrop : (Decimal.digits n).drop whole ≠ [] := by
    rw [Ne, List.drop_eq_nil_iff]
    omega
  have hfraction := readFraction_append hdrop (fun d hm => hall d (List.mem_of_mem_drop hm))
    hr.noDigit
  have htake : (Decimal.digits n).take whole = c :: more.take (whole - 1) := by
    rw [hdigits, List.take_cons hwhole]
  have hw : readWhole ((Decimal.digits n).take whole ++
      ('.' :: (Decimal.digits n).drop whole ++ rest)) =
        some ((Decimal.digits n).take whole, '.' :: (Decimal.digits n).drop whole ++ rest) := by
    rw [htake]
    refine readWhole_append hc (fun d hm => ?_) (noDigit_point _)
    rw [← htake] at hm
    exact hall d (List.mem_of_mem_take hm)
  have hvalue : Decimal.ofDigits ((Decimal.digits n).take whole ++
      (Decimal.digits n).drop whole) = n := by
    rw [List.take_append_drop, Decimal.ofDigits_digits]
  have hlength : (0 : Int) - ((Decimal.digits n).drop whole).length = last := by
    rw [List.length_drop]
    omega
  have hliteral : Number.ofLiteral? negative ((Decimal.digits n).take whole)
      (some ((Decimal.digits n).drop whole)) none = some (.double x) := by
    refine ofLiteral?_double (.inl (Option.some_ne_none _)) ?_
    simp only [Option.getD_some, Option.getD_none, hvalue, hlength, hread]
  rw [List.append_assoc]
  exact readUnsigned_of_parts hw hfraction (readExponent_of_stops hr) hliteral

/-- Digits, zeros, and a point with one zero. -/
theorem readUnsigned_whole {zeros : Nat} (hpos : 0 < n)
    (hread : Decimal.toExtended negative ⟨n, last⟩ = .finite x) (hzeros : last = zeros)
    (hr : Stops rest) :
    readUnsigned negative (Decimal.digits n ++ List.replicate zeros '0' ++ ['.', '0'] ++ rest) =
      some (.double x, rest) := by
  have hdigits := Decimal.digits_mul_pow hpos zeros
  have hpositive : 0 < n * 10 ^ zeros := Nat.mul_pos hpos (Nat.pow_pos (by decide))
  obtain ⟨c, more, hcons, hc⟩ := Decimal.exists_digits_eq_cons hpositive
  have hw : readWhole (Decimal.digits (n * 10 ^ zeros) ++ ('.' :: ['0'] ++ rest)) =
      some (Decimal.digits (n * 10 ^ zeros), '.' :: ['0'] ++ rest) := by
    rw [hcons]
    refine readWhole_append hc (fun d hm => ?_) (noDigit_point _)
    rw [← hcons] at hm
    exact Decimal.isDigit_of_mem_digits hm
  have hfraction : readFraction ('.' :: ['0'] ++ rest) = some (some ['0'], rest) :=
    readFraction_zero hr.noDigit
  have hvalue : Decimal.ofDigits (Decimal.digits (n * 10 ^ zeros) ++ ['0']) =
      n * 10 ^ (zeros + 1) := by
    rw [Decimal.ofDigits_append, Decimal.ofDigits_digits, Nat.pow_succ, Nat.mul_assoc]
    rfl
  have hliteral : Number.ofLiteral? negative (Decimal.digits (n * 10 ^ zeros)) (some ['0']) none =
      some (.double x) := by
    refine ofLiteral?_double (.inl (Option.some_ne_none _)) ?_
    have hexponent : (0 : Int) - (['0'] : List Char).length + (zeros + 1 : Nat) = last := by
      simp only [List.length_singleton]
      omega
    simp only [Option.getD_some, Option.getD_none]
    rw [hvalue, Decimal.toExtended_mul_pow, hexponent, hread]
  rw [← hdigits, List.append_assoc]
  exact readUnsigned_of_parts hw hfraction (readExponent_of_stops hr) hliteral

/-- Digits with an exponent, and a point behind the first of several. -/
theorem readUnsigned_scientific {power : Int} (hpos : 0 < n)
    (hread : Decimal.toExtended negative ⟨n, last⟩ = .finite x)
    (hpower : last + (Decimal.digits n).length = power + 1) (hr : Stops rest) :
    readUnsigned negative (Layout.json.scientific (Decimal.digits n) power ++ rest) =
      some (.double x, rest) := by
  obtain ⟨c, more, hdigits, hc⟩ := Decimal.exists_digits_eq_cons hpos
  have hall : ∀ d ∈ c :: more, d.isDigit = true := fun _ hm =>
    Decimal.isDigit_of_mem_digits (hdigits ▸ hm)
  have hspelled : Decimal.ofDigits (c :: more) = n := by rw [← hdigits, Decimal.ofDigits_digits]
  have hexponent := readExponent_append power hr.noDigit
  have hshows : Layout.json.showsPlus = true := rfl
  rw [hdigits, List.length_cons] at hpower
  unfold Layout.scientific
  rw [hdigits, hshows]
  cases more with
  | nil =>
    have hw := @readWhole_append [] ('e' :: ((if power < 0 then ['-'] else ['+']) ++
      (Decimal.digits power.natAbs ++ rest))) c hc hall (noDigit_exponent _)
    have hliteral : Number.ofLiteral? negative [c] none (some power) = some (.double x) := by
      refine ofLiteral?_double (.inr (Option.some_ne_none _)) ?_
      have hsame : power - (([] : List Char).length : Int) = last := by
        simp only [List.length_nil] at hpower ⊢
        omega
      simp only [Option.getD_some, Option.getD_none, List.append_nil, hspelled, hsame, hread]
    have hf := @readFraction_of_noPoint ('e' :: ((if power < 0 then ['-'] else ['+']) ++
      (Decimal.digits power.natAbs ++ rest))) (by simp)
    have h := readUnsigned_of_parts hw hf hexponent hliteral
    simpa only [if_true, List.cons_append, List.nil_append, List.append_assoc] using h
  | cons second more =>
    have hw := @readWhole_append [] ('.' :: (second :: more) ++ ('e' ::
      ((if power < 0 then ['-'] else ['+']) ++ (Decimal.digits power.natAbs ++ rest)))) c hc
      (fun d hm => hall d (by simp_all)) (noDigit_point _)
    have hf := readFraction_append (List.cons_ne_nil second more)
      (fun d hm => hall d (List.mem_cons_of_mem _ hm)) (noDigit_exponent
        ((if power < 0 then ['-'] else ['+']) ++ (Decimal.digits power.natAbs ++ rest)))
    have hliteral : Number.ofLiteral? negative [c] (some (second :: more)) (some power) =
        some (.double x) := by
      refine ofLiteral?_double (.inl (Option.some_ne_none _)) ?_
      have hsame : power - ((second :: more).length : Int) = last := by omega
      simp only [Option.getD_some, List.singleton_append, hspelled, hsame, hread]
    have h := readUnsigned_of_parts hw hf hexponent hliteral
    simpa only [if_true, List.cons_append, List.nil_append, List.append_assoc] using h

/-- Digits in positional form, wherever the point stands. -/
theorem readUnsigned_positional {power : Int} (hpos : 0 < n)
    (hread : Decimal.toExtended negative ⟨n, last⟩ = .finite x)
    (hpower : last + (Decimal.digits n).length = power + 1) (hr : Stops rest) :
    readUnsigned negative (Layout.json.positional (Decimal.digits n) power ++ rest) =
      some (.double x, rest) := by
  unfold Layout.positional
  split
  next hneg =>
    have hzeros : (-power - 1).toNat = (-(last + (Decimal.digits n).length)).toNat := by omega
    rw [hzeros]
    exact readUnsigned_below_one hread (by omega) hr
  next hneg =>
    dsimp only
    split
    next hlt => exact readUnsigned_point hpos hread (by omega) (by omega) (by omega) hr
    next hge =>
      have hshows : Layout.json.showsPoint = true := rfl
      rw [hshows, if_pos rfl]
      exact readUnsigned_whole hpos hread (by omega) hr

/-- The text of zero. -/
theorem readUnsigned_zero (hr : Stops rest) :
    readUnsigned negative (['0', '.', '0'] ++ rest) =
      some (.double (Binary64.zero negative), rest) := by
  have hfraction : readFraction ('.' :: ['0'] ++ rest) = some (some ['0'], rest) :=
    readFraction_zero hr.noDigit
  have hliteral : Number.ofLiteral? negative ['0'] (some ['0']) none =
      some (.double (Binary64.zero negative)) :=
    ofLiteral?_double (.inl (Option.some_ne_none _)) rfl
  exact readUnsigned_of_parts rfl hfraction (readExponent_of_stops hr) hliteral

/-- The JSON text of a decimal is read as the double that the decimal is read as. -/
theorem readUnsigned_magnitudeText {d : Decimal} (hread : d.toExtended negative = .finite x)
    (hr : Stops rest) :
    readUnsigned negative (Layout.json.magnitudeText d ++ rest) = some (.double x, rest) := by
  by_cases hc : d.coefficient = 0
  · have htext : Layout.json.magnitudeText d = ['0', '.', '0'] := by
      obtain ⟨coefficient, exponent⟩ := d
      obtain rfl : coefficient = 0 := hc
      rw [Layout.magnitudeText, Decimal.significant_zero]
      rfl
    rw [Decimal.toExtended, if_pos (.inl hc)] at hread
    obtain rfl := Binary64.Extended.finite.inj hread
    rw [htext]
    exact readUnsigned_zero hr
  · obtain ⟨n, k, hpos, hcoefficient, hsignificant⟩ := d.exists_significant hc
    have hsame : Decimal.toExtended negative ⟨n, d.exponent + k⟩ = .finite x := by
      rw [← Decimal.toExtended_mul_pow, ← hcoefficient]
      exact hread
    have hlength : 0 < (Decimal.digits n).length :=
      List.length_pos_iff.mpr (Decimal.digits_ne_nil n)
    rw [Layout.magnitudeText, hsignificant]
    dsimp only
    split
    next => exact readUnsigned_positional hpos hsame (by omega) hr
    next => exact readUnsigned_scientific hpos hsame (by omega) hr

end Doubles

/-- A whole number is read as its digits. -/
theorem readUnsigned_digits {n : Nat} {m : Number} (hr : Stops rest)
    (hn : Number.ofLiteral? negative (Decimal.digits n) none none = some m) :
    readUnsigned negative (Decimal.digits n ++ rest) = some (m, rest) := by
  have hf := readFraction_of_noPoint hr.noPoint
  have hw : readWhole (Decimal.digits n ++ rest) = some (Decimal.digits n, rest) := by
    rcases Nat.eq_zero_or_pos n with rfl | hpos
    · rfl
    · obtain ⟨c, more, hdigits, hc⟩ := Decimal.exists_digits_eq_cons hpos
      rw [hdigits]
      refine readWhole_append hc (fun d hm => ?_) hr.noDigit
      rw [← hdigits] at hm
      exact Decimal.isDigit_of_mem_digits hm
  exact readUnsigned_of_parts hw hf (readExponent_of_stops hr) hn

/-- What is read without a sign has none. -/
theorem readNumber_of_readUnsigned {result : Number × List Char}
    (h : readUnsigned false cs = some result) : readNumber cs = some result := by
  unfold readNumber
  split
  next tail =>
    have hnone : readUnsigned false ('-' :: tail) = none := rfl
    rw [hnone] at h
    cases h
  next => exact h

/-- The text of a number is read as the number. -/
theorem readNumber_text (n : Number) (hr : Stops rest) :
    readNumber (n.text ++ rest) = some (n, rest) := by
  cases n with
  | integer value hrange =>
    rw [Number.text]
    split
    next hneg =>
      have hne : value.natAbs ≠ 0 := by omega
      have habs : -(value.natAbs : Int) = value := by omega
      refine readUnsigned_digits hr ?_
      simp only [Number.ofLiteral?, Decimal.ofDigits_digits, if_true, if_neg hne, Number.ofInt?,
        habs, dif_pos hrange]
      rfl
    next hneg =>
      have habs : (value.natAbs : Int) = value := by omega
      refine readNumber_of_readUnsigned (readUnsigned_digits hr ?_)
      simp only [Number.ofLiteral?, Decimal.ofDigits_digits, Bool.false_eq_true, if_false,
        Number.ofInt?, habs, dif_pos hrange]
      rfl
  | double x =>
    have hread := readUnsigned_magnitudeText (Binary64.toExtended_shortest .toEven x) hr
    rw [Number.text, Layout.text]
    cases hsign : x.negative with
    | true =>
      rw [hsign] at hread
      exact hread
    | false =>
      rw [hsign] at hread
      exact readNumber_of_readUnsigned hread

end Json

end ValidatedStore

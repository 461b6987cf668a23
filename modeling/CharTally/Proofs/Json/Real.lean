import CharTally.Proofs.Binary64.Decimal
import CharTally.Proofs.Json.RoundTrip
import Mathlib.Data.List.DropRight

/-!
# Every number is read as a number

That the text of a number is read as some number is a question about its form, and
holds of every number: the shortest decimal of a number other than zero has a digit
other than zero (`stripped_decimal`), so its text begins with one, and then each of
the four layouts is an integer part with a fraction or an exponent behind it
(`readNumber_of_parts`). Each of them is read as the decimal that is laid out
(`readNumber_layout`), and so a number of the format is read as this very number
(`readsBack_of_canonical`).
-/

namespace CharTally

namespace Binary64

/-- The digits of a positive number without the zeros at their end still begin with a digit other
than zero. -/
theorem stripped_decimal {n : Nat} (positive : 0 < n) :
    ∃ c more zeros, ((Numeral.decimal n).reverse.dropWhile (· = scalar '0')).reverse = c :: more ∧
      Numeral.decimal n = c :: more ++ List.replicate zeros (scalar '0') ∧ c ≠ '0' := by
  obtain ⟨d, rest, nonzero, _, shape⟩ := Numeral.decimal_of_pos positive
  have notZero : CodePoint.scalar d.digitChar ≠ '0' := by
    rw [Ne, CodePoint.scalar.injEq, Nat.digitChar_eq_zero]
    omega
  have whole : (Numeral.decimal n).rdropWhile (· = scalar '0') ++
      (Numeral.decimal n).rtakeWhile (· = scalar '0') = Numeral.decimal n :=
    List.rdropWhile_append_rtakeWhile
  have zeros : ∀ c ∈ (Numeral.decimal n).rtakeWhile (· = scalar '0'), c = '0' := fun c member =>
    of_decide_eq_true (List.mem_rtakeWhile_imp (p := fun c : CodePoint => decide (c = '0')) member)
  rw [List.eq_replicate_of_mem zeros] at whole
  change ∃ c more zeros, (Numeral.decimal n).rdropWhile (· = scalar '0') = c :: more ∧ _
  cases kept : (Numeral.decimal n).rdropWhile (· = scalar '0') with
  | nil =>
    have zero := List.rdropWhile_eq_nil_iff.mp kept d.digitChar (shape ▸ List.mem_cons_self)
    exact absurd (of_decide_eq_true zero) notZero
  | cons c more =>
    rw [kept] at whole
    have same : c = d.digitChar := (List.cons.inj (whole.trans shape)).1
    exact ⟨c, more, _, rfl, whole.symm, same ▸ notZero⟩

/-- What the zeros at the end of a numeral are behind denotes the number without them. -/
theorem exists_magnitude {n zeros : Nat} {t : Text} (some_ : t ≠ [])
    (shape : Numeral.decimal n = t ++ List.replicate zeros (scalar '0')) :
    ∃ magnitude, Numeral.ofDigits? 10 t = some magnitude ∧ magnitude * 10 ^ zeros = n := by
  have areDigits : ∀ c ∈ t, ∃ d < 10, c = d.digitChar := by
    intro c member
    have here : c ∈ Numeral.decimal n := by
      rw [shape]
      exact List.mem_append_left _ member
    exact Numeral.exists_digitChar_of_mem_numeral (by decide) here
  obtain ⟨digits, read, _⟩ :=
    Numeral.exists_grouped areDigits false fun none_ => absurd none_ some_
  have denotes : Numeral.ofDigits? 10 t = some (Numeral.value 10 digits) := by
    rw [Numeral.ofDigits?, read]
    simp [some_]
  have all := Numeral.ofDigits?_append_zeros (by omega) denotes zeros
  rw [← shape, Numeral.decimal, Numeral.ofDigits?_numeral (by omega) (by omega)] at all
  exact ⟨_, denotes, (Option.some.inj all).symm⟩

end Binary64

namespace Json

variable {t behind : Text}

/-- A text is read to its end as a number. -/
def ReadsReal (t : Text) (number : Binary64) : Prop :=
  ∃ offset, readNumber ⟨0, t⟩ = .ok (.real number, ⟨offset, []⟩)

/-! ## The parts of a number -/

/-- An integer part begins with a digit other than zero or is a zero, and ends in front of what is
no digit. -/
theorem integerDigits_of_digits {c : CodePoint} {more : Text} (notZero : c ≠ '0')
    (digits : ∀ d ∈ c :: more, d.isDigit = true) (ends : ∀ d ∈ behind.head?, d.isDigit = false) :
    integerDigits (c :: more ++ behind) = c :: more := by
  rw [List.cons_append, integerDigits, ← List.cons_append]
  · exact Text.takeWhile_append_of_only digits ends
  · exact fun _ same => notZero (List.cons.inj same).1

/-- An integer part, a fraction and an exponent, of which one of the last two is there, are read to
their end as a number. -/
theorem readNumber_of_parts (negative : Bool) (whole point fraction tail : Text)
    {exponent : Option (Nat × Int)} (parts : unsigned t = (negative, whole ++ (point ++ tail)))
    (isWhole : integerDigits (whole ++ (point ++ tail)) = whole) (some_ : whole ≠ [])
    (isFraction : fractionDigits (point ++ tail) = fraction)
    (pointWidth : point.length = if fraction.isEmpty then 0 else fraction.length + 1)
    (isExponent : exponentOf? tail = exponent) (tailWidth : tail.length = (exponent.getD (0, 0)).1)
    (notInteger : ¬ (fraction.isEmpty = true ∧ exponent = none)) :
    ReadsReal t (Binary64.ofDecimal negative (magnitudeOf (whole ++ fraction))
      ((exponent.getD (0, 0)).2 - fraction.length)) := by
  have size := length_unsigned t
  have whole_ : whole.isEmpty = false := by simp [some_]
  rw [parts] at size
  dsimp only at size
  have onlyTail : (point ++ tail).drop (if fraction.isEmpty then 0 else fraction.length + 1) =
      tail := by
    rw [← pointWidth, List.drop_left]
  have reach : (Cursor.mk 0 t).advance ((if negative then 1 else 0) + whole.length +
      (if fraction.isEmpty then 0 else fraction.length + 1) + (exponent.getD (0, 0)).1) =
      ⟨0 + t.length, []⟩ := by
    have width : (if negative then 1 else 0) + whole.length +
        (if fraction.isEmpty then 0 else fraction.length + 1) + (exponent.getD (0, 0)).1 =
        t.length := by
      rw [← pointWidth, ← tailWidth, size, List.length_append, List.length_append]
      omega
    rw [width, Cursor.advance, List.drop_length]
  unfold ReadsReal readNumber
  dsimp only
  rw [parts]
  dsimp only
  rw [isWhole, whole_, List.drop_left, isFraction, onlyTail, isExponent,
    if_neg Bool.false_ne_true, if_neg notInteger, reach]
  exact ⟨_, rfl⟩

/-- An integer part with a fraction behind it is read to its end as a number. -/
theorem readNumber_of_fraction (negative : Bool) (whole fraction : Text)
    (parts : unsigned t = (negative, whole ++ scalar '.' :: fraction))
    (isWhole : integerDigits (whole ++ scalar '.' :: fraction) = whole) (some_ : whole ≠ [])
    (digits : ∀ c ∈ fraction, c.isDigit = true) (fraction_ : fraction ≠ []) :
    ReadsReal t
      (Binary64.ofDecimal negative (magnitudeOf (whole ++ fraction)) (0 - fraction.length)) := by
  have filled : fraction.isEmpty = false := by simp [fraction_]
  have isFraction : fractionDigits ('.' :: fraction) = fraction :=
    List.takeWhile_eq_self_iff.mpr digits
  have plain : scalar '.' :: fraction = scalar '.' :: fraction ++ [] := (List.append_nil _).symm
  rw [plain] at parts isWhole isFraction
  have isExponent : exponentOf? [] = none := rfl
  have read : ReadsReal t _ := readNumber_of_parts negative whole _ _ _ parts isWhole some_
    isFraction (by simp [filled]) isExponent rfl (by simp [filled])
  exact read

/-! ## The layouts -/

theorem isDigit_of_mem_replicate {c : CodePoint} {count : Nat}
    (member : c ∈ List.replicate count (scalar '0')) :
    c.isDigit = true := by
  rw [List.eq_of_mem_replicate member]
  rfl

/-- An exponent of a sign and digits. -/
theorem exponentOf?_layout (power : Int) :
    exponentOf? ((if power < 0 then ("e-" : Text) else "e+") ++
        Numeral.padded 10 2 power.natAbs) =
      some ((((if power < 0 then ("e-" : Text) else "e+") ++
        Numeral.padded 10 2 power.natAbs).length), power) := by
  have digits : ∀ c ∈ Numeral.padded 10 2 power.natAbs, c.isDigit = true := by
    intro c member
    obtain ⟨d, small, rfl⟩ := Numeral.exists_digitChar_of_mem_padded (by omega) member
    exact (by decide : ∀ d < 10, CodePoint.isDigit d.digitChar = true) d small
  have read := Numeral.ofDigits?_padded (by omega : 1 < 10) (by omega) 2 power.natAbs
  have all := List.takeWhile_eq_self_iff.mpr digits
  by_cases sign : power < 0
  · have value : -(power.natAbs : Int) = power := by omega
    rw [if_pos sign]
    change exponentOf? (scalar 'e' :: scalar '-' :: Numeral.padded 10 2 power.natAbs) = _
    rw [exponentOf?, if_pos (Or.inl rfl)]
    simp only [Numeral.sign, all, read, if_true, value]
    simp
    omega
  · have value : (power.natAbs : Int) = power := by omega
    rw [if_neg sign]
    change exponentOf? (scalar 'e' :: scalar '+' :: Numeral.padded 10 2 power.natAbs) = _
    rw [exponentOf?, if_pos (Or.inl rfl)]
    simp only [Numeral.sign, all, read, Bool.false_eq_true, if_false, value]
    simp
    omega

/-- However digits are laid out, a digit comes first. -/
theorem exists_digit_layout {c : CodePoint} (more : Text) (digit : c.isDigit = true) (point : Int) :
    ∃ d rest, Binary64.layout (c :: more) point = d :: rest ∧ d.isDigit = true := by
  unfold Binary64.layout
  by_cases near : -4 < point ∧ point ≤ 16
  · rw [if_pos near]
    by_cases small : point ≤ 0
    · rw [if_pos small]
      exact ⟨'0', _, rfl, rfl⟩
    · rw [if_neg small]
      by_cases round : (c :: more).length ≤ point.toNat
      · rw [if_pos round]
        exact ⟨c, _, rfl, digit⟩
      · obtain ⟨before, same⟩ : ∃ before, point.toNat = before + 1 := ⟨point.toNat - 1, by omega⟩
        rw [if_neg round, same, List.take_succ_cons]
        exact ⟨c, _, rfl, digit⟩
  · rw [if_neg near]
    exact ⟨c, _, rfl, digit⟩

section Layout

variable (negative : Bool) {c : CodePoint} {more : Text} {magnitude : Nat} {point : Int}

theorem isDigit_head?_dot (behind : Text) :
    ∀ d ∈ (scalar '.' :: behind).head?, d.isDigit = false := by
  intro d isDot
  cases isDot
  rfl

/-- Zeros between the point and the digits. -/
theorem readNumber_of_leading (digits : ∀ d ∈ c :: more, d.isDigit = true)
    (denotes : Numeral.ofDigits? 10 (c :: more) = some magnitude) (zeros : Nat)
    (parts : unsigned t = (negative, "0." ++ List.replicate zeros (scalar '0') ++ (c :: more))) :
    ReadsReal t (Binary64.ofDecimal negative magnitude (-zeros - (c :: more).length)) := by
  have fraction : ∀ d ∈ List.replicate zeros (scalar '0') ++ (c :: more), d.isDigit = true := by
    intro d member
    rcases List.mem_append.mp member with zero | digit
    · exact isDigit_of_mem_replicate zero
    · exact digits d digit
  have read : ReadsReal t _ := readNumber_of_fraction negative [scalar '0']
    (List.replicate zeros (scalar '0') ++ (c :: more)) parts rfl (List.cons_ne_nil _ _) fraction
    (by simp)
  have value :
      magnitudeOf ([scalar '0'] ++ (List.replicate zeros (scalar '0') ++ (c :: more))) =
        magnitude := by
    change magnitudeOf (List.replicate (zeros + 1) (scalar '0') ++ (c :: more)) = magnitude
    rw [magnitudeOf, Numeral.ofDigits?_zeros (by omega) _ (List.cons_ne_nil _ _), denotes]
    rfl
  have power : (0 - ((List.replicate zeros (scalar '0') ++ (c :: more)).length : Nat) : Int) =
      -zeros - (c :: more).length := by
    rw [List.length_append, List.length_replicate]
    omega
  rwa [value, power] at read

/-- Zeros between the digits and the point. -/
theorem readNumber_of_trailing (notZero : c ≠ '0') (digits : ∀ d ∈ c :: more, d.isDigit = true)
    (denotes : Numeral.ofDigits? 10 (c :: more) = some magnitude) (zeros : Nat)
    (parts : unsigned t = (negative, (c :: more) ++ List.replicate zeros (scalar '0') ++ ".0")) :
    ReadsReal t (Binary64.ofDecimal negative magnitude zeros) := by
  have filled : ∀ d ∈ c :: (more ++ List.replicate zeros (scalar '0')), d.isDigit = true := by
    rw [← List.cons_append]
    intro d member
    rcases List.mem_append.mp member with digit | zero
    · exact digits d digit
    · exact isDigit_of_mem_replicate zero
  have parts_ : unsigned t =
      (negative,
        c :: (more ++ List.replicate zeros (scalar '0')) ++ scalar '.' :: [scalar '0']) := by
    rw [parts, List.cons_append]
    rfl
  have read : ReadsReal t _ := readNumber_of_fraction negative
    (c :: (more ++ List.replicate zeros (scalar '0'))) [scalar '0'] parts_
    (integerDigits_of_digits notZero filled (isDigit_head?_dot _)) (List.cons_ne_nil _ _)
    (List.forall_mem_singleton.mpr rfl) (List.cons_ne_nil _ _)
  have value : magnitudeOf (c :: (more ++ List.replicate zeros (scalar '0')) ++ [scalar '0']) =
      magnitude * 10 ^ (zeros + 1) := by
    rw [← List.cons_append, List.append_assoc, ← List.replicate_succ', magnitudeOf,
      Numeral.ofDigits?_append_zeros (by omega) denotes]
    rfl
  have power : (0 - ([scalar '0'].length : Nat) : Int) + (zeros + 1 : Nat) = zeros := by
    rw [List.length_singleton]
    omega
  rwa [value, Binary64.ofDecimal_mul_pow, power] at read

/-- The point between the digits. -/
theorem readNumber_of_inside (notZero : c ≠ '0') (digits : ∀ d ∈ c :: more, d.isDigit = true)
    (denotes : Numeral.ofDigits? 10 (c :: more) = some magnitude) (positive : 0 < point)
    (within : ¬ (c :: more).length ≤ point.toNat)
    (parts : unsigned t =
      (negative, (c :: more).take point.toNat ++ "." ++ (c :: more).drop point.toNat)) :
    ReadsReal t (Binary64.ofDecimal negative magnitude (point - (c :: more).length)) := by
  have cut : (c :: more).take point.toNat = c :: more.take (point.toNat - 1) := by
    obtain ⟨before, same⟩ : ∃ before, point.toNat = before + 1 := ⟨point.toNat - 1, by omega⟩
    rw [same, List.take_succ_cons, Nat.add_sub_cancel]
  have rest : (c :: more).drop point.toNat ≠ [] := by
    rw [Ne, List.drop_eq_nil_iff]
    exact within
  have front : ∀ d ∈ c :: more.take (point.toNat - 1), d.isDigit = true := by
    intro d member
    rw [← cut] at member
    exact digits d (List.mem_of_mem_take member)
  have parts_ : unsigned t =
      (negative,
        c :: more.take (point.toNat - 1) ++ scalar '.' :: (c :: more).drop point.toNat) := by
    rw [parts, cut, List.append_assoc]
    rfl
  have read : ReadsReal t _ := readNumber_of_fraction negative
    (c :: more.take (point.toNat - 1)) ((c :: more).drop point.toNat) parts_
    (integerDigits_of_digits notZero front (isDigit_head?_dot _)) (List.cons_ne_nil _ _)
    (fun d member => digits d (List.mem_of_mem_drop member)) rest
  have power : (0 - (((c :: more).drop point.toNat).length : Nat) : Int) =
      point - (c :: more).length := by
    rw [List.length_drop]
    omega
  rw [← cut, List.take_append_drop, magnitudeOf, denotes, power] at read
  exact read

/-- One digit, the others behind the point, and an exponent. -/
theorem readNumber_of_exponent (notZero : c ≠ '0') (digits : ∀ d ∈ c :: more, d.isDigit = true)
    (denotes : Numeral.ofDigits? 10 (c :: more) = some magnitude) {exponent : Int} {letters : Text}
    (isExponent : exponentOf? (scalar 'e' :: letters) =
      some ((scalar 'e' :: letters).length, exponent))
    (parts : unsigned t =
      (negative, [c] ++ (if (c :: more).length ≤ 1 then [] else scalar '.' :: more) ++
        scalar 'e' :: letters)) :
    ReadsReal t (Binary64.ofDecimal negative magnitude (exponent - more.length)) := by
  have head : ∀ d ∈ [c], d.isDigit = true :=
    fun d member => digits d (List.mem_cons.mpr (Or.inl (List.mem_singleton.mp member)))
  have value : magnitudeOf ([c] ++ more) = magnitude := by
    change magnitudeOf (c :: more) = magnitude
    rw [magnitudeOf, denotes]
    rfl
  rw [← value]
  cases more with
  | nil =>
    have isWhole : integerDigits ([c] ++ ([] ++ scalar 'e' :: letters)) = [c] := by
      refine integerDigits_of_digits notZero head ?_
      rintro _ ⟨⟩
      rfl
    have read : ReadsReal t _ := readNumber_of_parts negative [c] [] [] _ parts isWhole
      (List.cons_ne_nil _ _) rfl rfl isExponent rfl (by simp)
    exact read
  | cons d others =>
    have after : ∀ e ∈ d :: others, e.isDigit = true :=
      fun e member => digits e (List.mem_cons_of_mem c member)
    have parts_ : unsigned t =
        (negative, [c] ++ (scalar '.' :: d :: others ++ scalar 'e' :: letters)) := by
      rw [parts]
      simp
    have isFraction :
        fractionDigits (scalar '.' :: d :: others ++ scalar 'e' :: letters) = d :: others := by
      change ((d :: others) ++ scalar 'e' :: letters).takeWhile CodePoint.isDigit = d :: others
      rw [List.takeWhile_append_of_pos after, List.takeWhile_cons_of_neg (by decide),
        List.append_nil]
    have read : ReadsReal t _ := readNumber_of_parts negative [c] (scalar '.' :: d :: others)
      (d :: others) _ parts_ (integerDigits_of_digits notZero head (isDigit_head?_dot _))
      (List.cons_ne_nil _ _) isFraction rfl isExponent rfl (by simp)
    exact read

/-- A decimal that begins with a digit other than zero is read as this decimal, however it is laid
out. -/
theorem readNumber_layout (notZero : c ≠ '0') (digits : ∀ d ∈ c :: more, d.isDigit = true)
    (denotes : Numeral.ofDigits? 10 (c :: more) = some magnitude) (point : Int)
    (parts : unsigned t = (negative, Binary64.layout (c :: more) point)) :
    ReadsReal t (Binary64.ofDecimal negative magnitude (point - (c :: more).length)) := by
  unfold Binary64.layout at parts
  by_cases near : -4 < point ∧ point ≤ 16
  · rw [if_pos near] at parts
    by_cases small : point ≤ 0
    · rw [if_pos small] at parts
      have zeros : -((-point).toNat : Int) = point := by omega
      have read := readNumber_of_leading negative digits denotes _ parts
      rwa [zeros] at read
    · rw [if_neg small] at parts
      by_cases round : (c :: more).length ≤ point.toNat
      · rw [if_pos round] at parts
        have zeros : ((point.toNat - (c :: more).length : Nat) : Int) =
            point - (c :: more).length := by omega
        have read := readNumber_of_trailing negative notZero digits denotes _ parts
        rwa [zeros] at read
      · rw [if_neg round] at parts
        exact readNumber_of_inside negative notZero digits denotes (not_le.mp small) round parts
  · rw [if_neg near] at parts
    have isExponent := exponentOf?_layout (point - 1)
    generalize tail_eq : (if point - 1 < 0 then ("e-" : Text) else "e+") ++
      Numeral.padded 10 2 (point - 1).natAbs = tail at isExponent
    have begins : ∃ letters, tail = scalar 'e' :: letters := by
      rw [← tail_eq]
      by_cases sign : point - 1 < 0
      · rw [if_pos sign]
        exact ⟨_, rfl⟩
      · rw [if_neg sign]
        exact ⟨_, rfl⟩
    obtain ⟨letters, rfl⟩ := begins
    dsimp only at parts
    rw [List.append_assoc, tail_eq] at parts
    have power : point - 1 - (more.length : Int) = point - (c :: more).length := by
      rw [List.length_cons]
      omega
    have read := readNumber_of_exponent negative notZero digits denotes isExponent parts
    rwa [power] at read

end Layout

/-! ## All numbers -/

/-- The text of a finite number is read as the decimal that is shortest, or as a zero. -/
theorem readNumber_finiteText (negative : Bool) (mantissa : Nat) (exponent : Int) :
    ReadsReal (Binary64.finiteText negative mantissa exponent)
      (if mantissa = 0 then .finite negative 0 0
        else Binary64.ofDecimal negative (Binary64.shortest mantissa exponent).1
          (Binary64.shortest mantissa exponent).2) := by
  unfold Binary64.finiteText
  by_cases zero : mantissa = 0
  · rw [if_pos zero, if_pos zero]
    cases negative <;> exact ⟨_, rfl⟩
  · rw [if_neg zero, if_neg zero]
    have positive := Binary64.shortest_pos zero exponent
    generalize Binary64.shortest mantissa exponent = decimal at positive ⊢
    obtain ⟨number, power⟩ := decimal
    dsimp only at positive ⊢
    obtain ⟨c, more, zeros, stripped, shape, notZero⟩ := Binary64.stripped_decimal positive
    obtain ⟨magnitude, denotes, same⟩ := Binary64.exists_magnitude (List.cons_ne_nil c more) shape
    have digits : ∀ d ∈ c :: more, d.isDigit = true := by
      intro d member
      refine Numeral.isDigit_of_mem_decimal (n := number) ?_
      rw [shape]
      exact List.mem_append_left _ member
    have point : ((Numeral.decimal number).length + power - (c :: more).length : Int) =
        power + zeros := by
      rw [shape, List.length_append, List.length_replicate]
      omega
    rw [stripped, ← same, Binary64.ofDecimal_mul_pow, ← point, same]
    refine readNumber_layout negative notZero digits denotes _ ?_
    cases negative with
    | true => rfl
    | false =>
      obtain ⟨d, rest, shape, digit⟩ := exists_digit_layout more (digits c List.mem_cons_self)
        ((Numeral.decimal number).length + power)
      rw [if_neg Bool.false_ne_true, shape, unsigned]
      rintro _ ⟨⟩
      cases digit

/-- The text of a finite number is read in front of anything that ends a value. -/
theorem reads_finite {negative : Bool} {mantissa : Nat} {exponent : Int} {found : Binary64}
    (ran : ReadsReal (Binary64.finiteText negative mantissa exponent) found) (depth : Nat) :
    Begins (renderReal (.finite negative mantissa exponent)) ∧
      Reads (readValue depth) (renderReal (.finite negative mantissa exponent)) (.real found) := by
  have marks := Binary64.only_finiteText negative mantissa exponent
  have text : renderReal (.finite negative mantissa exponent) =
      Binary64.finiteText negative mantissa exponent := rfl
  rw [text]
  generalize Binary64.finiteText negative mantissa exponent = t at marks ran ⊢
  obtain ⟨offset, ran⟩ := ran
  have read : readScalar ⟨0, t⟩ = .ok (.real found, ⟨offset, []⟩) := by
    unfold readScalar
    dsimp only
    rw [words_find?_of_marks marks]
    exact ran
  cases t with
  | nil => cases read
  | cons c more =>
    exact ⟨begins_of_marks marks (List.cons_ne_nil c more),
      reads_scalar (plain_of_isMark (marks c List.mem_cons_self)) read depth⟩

theorem readsBack_infinite (negative : Bool) : ReadsBack (.infinite negative) := by
  cases negative <;> rfl

theorem readsBack_nan : ReadsBack .nan := rfl

/-- **Every number is read as a number**, in front of anything that ends a value. -/
theorem reads_real (number : Binary64) (depth : Nat) :
    ∃ found, Begins (renderReal number) ∧
      Reads (readValue depth) (renderReal number) (.real found) := by
  cases number with
  | infinite negative =>
    have begins : Begins (renderReal (.infinite negative)) := by
      cases negative <;> exact ⟨_, _, rfl, by decide, by decide⟩
    exact ⟨.infinite negative, begins, reads_renderReal (readsBack_infinite negative) depth⟩
  | nan =>
    exact ⟨.nan, ⟨_, _, rfl, by decide, by decide⟩, reads_renderReal readsBack_nan depth⟩
  | finite negative mantissa exponent =>
    exact ⟨_, reads_finite (readNumber_finiteText negative mantissa exponent) depth⟩

/-- **A number of the format is read as this very number.** -/
theorem readsBack_of_canonical {number : Binary64} (canonical : number.IsCanonical) :
    ReadsBack number := by
  cases number with
  | infinite negative => exact readsBack_infinite negative
  | nan => exact readsBack_nan
  | finite negative mantissa exponent =>
    have ran := readNumber_finiteText negative mantissa exponent
    have same : (if mantissa = 0 then .finite negative 0 0
        else Binary64.ofDecimal negative (Binary64.shortest mantissa exponent).1
          (Binary64.shortest mantissa exponent).2) = .finite negative mantissa exponent := by
      rcases canonical with ⟨rfl, rfl⟩ | held
      · rw [if_pos rfl]
      · rw [if_neg held.positive.ne', Binary64.ofDecimal_shortest held]
    rw [same] at ran
    obtain ⟨begins, reads⟩ := reads_finite ran maxDepth
    have text : render (.real (.finite negative mantissa exponent)) =
        renderReal (.finite negative mantissa exponent) := by rw [render]
    rw [ReadsBack, ← text]
    rw [← text] at begins reads
    exact read_of_reads begins reads

end Json

end CharTally

import AgentFlow.Proofs.Number.Rounding

/-!
# Reading decimal texts

A text that is read as a binary number has, behind its sign, a decimal number or one of the words
for what is not finite. Of the decimal numbers those that are too great are read as infinite ones:
they begin in the middle between the greatest value of the format and the next power of two.
-/

namespace AgentFlow.Number

/-- Whether a text begins with a minus, and what follows the sign if there is one. -/
def afterSign (cs : List Char) : Bool × List Char :=
  match cs with
  | '-' :: r => (true, r)
  | '+' :: r => (false, r)
  | r => (false, r)

/-- A text is a word for what is no number, or for none that is finite, in letters of any case. -/
def WritesWord (cs : List Char) : Prop :=
  String.ofList (cs.map Char.toLower) ∈ ["inf", "infinity", "nan"]

instance (cs : List Char) : Decidable (WritesWord cs) := inferInstanceAs (Decidable (_ ∈ _))

/-- A digit is no letter, so that it stays as it is where letters are made small. -/
theorem toLower_of_isDigit {c : Char} (h : c.isDigit = true) : c.toLower = c := by
  simp only [Char.isDigit, Bool.and_eq_true, decide_eq_true_eq] at h
  have hcapital : ¬(c.val ≥ 'A'.val ∧ c.val ≤ 'Z'.val) := fun hletter =>
    absurd (UInt32.le_trans hletter.1 h.2) (by decide)
  exact dif_neg hcapital

/-- A decimal number does not begin with a letter. -/
theorem readDecimal?_cons_eq_none {c : Char} (hdigit : c.isDigit = false) (hpoint : c ≠ '.')
    (cs : List Char) : readDecimal? (c :: cs) = none := by
  have hwhole : (c :: cs).takeWhile Char.isDigit = [] := by simp [hdigit]
  have hrest : (c :: cs).dropWhile Char.isDigit = c :: cs := by simp [hdigit]
  simp only [readDecimal?, hwhole, hrest]
  split
  next heq => exact absurd (List.cons.inj heq).1 hpoint
  next => rfl

/-- A word begins with a letter. -/
theorem WritesWord.exists_eq_cons {cs : List Char} (h : WritesWord cs) :
    ∃ c rest, cs = c :: rest ∧ (c.toLower = 'i' ∨ c.toLower = 'n') := by
  have hword : ∃ d rest, cs.map Char.toLower = d :: rest ∧ (d = 'i' ∨ d = 'n') := by
    have hlist (w : String) (hw : String.ofList (cs.map Char.toLower) = w) :
        cs.map Char.toLower = w.toList := by rw [← hw, String.toList_ofList]
    simp only [WritesWord, List.mem_cons, List.not_mem_nil, or_false] at h
    rcases h with hw | hw | hw
    · exact ⟨'i', _, hlist _ hw, .inl rfl⟩
    · exact ⟨'i', _, hlist _ hw, .inl rfl⟩
    · exact ⟨'n', _, hlist _ hw, .inr rfl⟩
  obtain ⟨d, rest, hmap, hd⟩ := hword
  cases cs with
  | nil => cases hmap
  | cons c rest =>
    rw [List.map_cons, List.cons.injEq] at hmap
    exact ⟨c, rest, rfl, hmap.1 ▸ hd⟩

/-- A word is no decimal number. -/
theorem readDecimal?_of_writesWord {cs : List Char} (h : WritesWord cs) :
    readDecimal? cs = none := by
  obtain ⟨c, rest, rfl, hc⟩ := h.exists_eq_cons
  refine readDecimal?_cons_eq_none ?_ ?_ rest
  · by_contra hdigit
    rw [Bool.not_eq_false] at hdigit
    rw [toLower_of_isDigit hdigit] at hc
    rcases hc with rfl | rfl <;> exact absurd hdigit (by decide)
  · rintro rfl
    revert hc
    decide

namespace Binary

variable {f : BinaryFormat} {cs : List Char}

/-- A text is read by what stands behind its sign. -/
theorem read?_eq (cs : List Char) : (read? cs : Option (Binary f)) =
    let word := String.ofList ((afterSign cs).2.map Char.toLower)
    if word = "inf" ∨ word = "infinity" then some (.infinite (afterSign cs).1)
    else if word = "nan" then some .nan
    else (readDecimal? (afterSign cs).2).map fun (n, e) => ofDecimal (afterSign cs).1 n e := rfl

/-- A word is read as what is not finite. -/
theorem read?_of_writesWord (h : WritesWord (afterSign cs).2) :
    ∃ x : Binary f, read? cs = some x ∧ x.isFinite = false := by
  rw [read?_eq]
  simp only [WritesWord, List.mem_cons, List.not_mem_nil, or_false] at h
  generalize String.ofList ((afterSign cs).2.map Char.toLower) = word at h ⊢
  rcases h with rfl | rfl | rfl
  · exact ⟨.infinite _, rfl, rfl⟩
  · exact ⟨.infinite _, rfl, rfl⟩
  · exact ⟨.nan, rfl, rfl⟩

/-- Any other text is read as the decimal number that it writes. -/
theorem read?_of_not_writesWord (h : ¬WritesWord (afterSign cs).2) :
    (read? cs : Option (Binary f)) =
      (readDecimal? (afterSign cs).2).map fun (n, e) => ofDecimal (afterSign cs).1 n e := by
  simp only [WritesWord, List.mem_cons, List.not_mem_nil, or_false, not_or] at h
  rw [read?_eq]
  simp only [h, or_self, if_false]

/-- What is read from a text is a value of the format. -/
theorem fits_of_read? (hprecision : 0 < f.precision) (hrange : f.minExponent ≤ f.maxExponent)
    {x : Binary f} (h : read? cs = some x) : x.Fits := by
  by_cases hword : WritesWord (afterSign cs).2
  · obtain ⟨y, hy, hinfinite⟩ := read?_of_writesWord (f := f) hword
    cases h.symm.trans hy
    cases x with
    | finite negative x => cases hinfinite
    | infinite _ | nan => trivial
  · rw [read?_of_not_writesWord hword] at h
    obtain ⟨⟨n, e⟩, -, rfl⟩ := Option.map_eq_some_iff.mp h
    exact fits_ofDecimal hprecision hrange _ n e

end Binary

/-! ### The limit of 32 bits -/

/-- The middle between the greatest number of 32 bits and the next power of two. -/
def singleLimit : Rat := 2 ^ 128 - 2 ^ 103

/-- The limit is positive, and small against the powers of ten that are not looked at. -/
theorem singleLimit_bounds : 0 < singleLimit ∧ (10 : Rat) ^ (-400 : Int) ≤ singleLimit ∧
    singleLimit ≤ 10 ^ (400 : Int) := by
  have hone : (1 : Rat) ≤ singleLimit := by norm_num [singleLimit]
  refine ⟨zero_lt_one.trans_le hone, (zpow_le_one_of_nonpos₀ ?_ (by decide)).trans hone, ?_⟩
  · norm_num
  · calc singleLimit ≤ 10 ^ (100 : Int) := by norm_num [singleLimit]
      _ ≤ 10 ^ (400 : Int) := zpow_le_zpow_right₀ (by norm_num) (by decide)

/-- A fraction is read as a finite number of 32 bits exactly if it is less than the limit. -/
theorem isFinite_ofFraction_iff (negative : Bool) (num : Nat) {den : Nat} (hden : den ≠ 0) :
    (Binary.ofFraction negative num den : Single).isFinite = true ↔
      (num : Rat) / den < singleLimit := by
  have hfinite : (Binary.ofFraction negative num den : Single).isFinite = true ↔
      BinaryFormat.single.nearest num den ≠ none := by
    rw [Binary.ofFraction]
    split
    next x hx => exact iff_of_true rfl (by rw [hx]; exact Option.some_ne_none x)
    next hnone => exact iff_of_false Bool.false_ne_true (not_not_intro hnone)
  rw [hfinite]
  by_cases hnum : num = 0
  · rw [hnum, Nat.cast_zero, zero_div]
    exact iff_of_true (Option.some_ne_none _) singleLimit_bounds.1
  · have hoverflow :=
      BinaryFormat.nearest_eq_none_iff (f := .single) hnum hden (by decide) (by decide)
    have hlimit : ((2 ^ (BinaryFormat.single.precision + 1) - 1 : Nat) : Rat) *
        2 ^ (BinaryFormat.single.maxExponent - 1) = singleLimit := by
      norm_num [BinaryFormat.single, singleLimit]
    rw [ne_eq, hoverflow, hlimit, not_le]

/-- A number of so many digits lies between two powers of ten. -/
theorem digits_spec {n : Nat} (hn : n ≠ 0) :
    (10 : Rat) ^ (((Nat.toDigits 10 n).length : Int) - 1) ≤ n ∧
      (n : Rat) < 10 ^ ((Nat.toDigits 10 n).length : Int) := by
  have hten : 1 < 10 := by decide
  have hpos : 0 < (Nat.toDigits 10 n).length := Nat.length_toDigits_pos
  have hlt := (Nat.length_toDigits_le_iff hten hpos).mp le_rfl
  refine ⟨?_, by exact_mod_cast hlt⟩
  obtain ⟨k, hk⟩ := Nat.exists_eq_add_one.mpr hpos
  have hle : 10 ^ k ≤ n := by
    by_contra hless
    by_cases hzero : k = 0
    · rw [hzero] at hless
      omega
    · have hshort := (Nat.length_toDigits_le_iff hten (Nat.pos_of_ne_zero hzero)).mpr
        (not_le.mp hless)
      omega
  rw [hk, Nat.cast_succ, add_sub_cancel_right]
  exact_mod_cast hle

/-- **Decimal numbers.** A decimal number is read as a finite one of 32 bits exactly if it is less
than the limit of these. -/
theorem isFinite_ofDecimal_iff (negative : Bool) (significand : Nat) (exponent : Int) :
    (Binary.ofDecimal negative significand exponent : Single).isFinite = true ↔
      (significand : Rat) * 10 ^ exponent < singleLimit := by
  obtain ⟨hpos, hlow, hhigh⟩ := singleLimit_bounds
  have hten : (10 : Rat) ≠ 0 := by norm_num
  have hone : (1 : Rat) ≤ 10 := by norm_num
  have hscale : (0 : Rat) < 10 ^ exponent := zpow_pos (by norm_num) _
  simp only [Binary.ofDecimal]
  by_cases hzero : significand = 0
  · rw [if_pos (.inl hzero), isFinite_ofFraction_iff negative 0 one_ne_zero, hzero]
    simp
  obtain ⟨hleast, hmost⟩ := digits_spec hzero
  generalize ((Nat.toDigits 10 significand).length : Int) = count at hleast hmost ⊢
  split
  next htiny =>
    have hsmall : exponent + count < -400 := htiny.resolve_left hzero
    refine iff_of_true rfl ?_
    calc (significand : Rat) * 10 ^ exponent < 10 ^ count * 10 ^ exponent := by gcongr
      _ = 10 ^ (count + exponent) := (zpow_add₀ hten _ _).symm
      _ ≤ 10 ^ (-400 : Int) := zpow_le_zpow_right₀ hone (by omega)
      _ ≤ singleLimit := hlow
  next hnotTiny =>
    split
    next hhuge =>
      refine iff_of_false Bool.false_ne_true (not_lt.mpr ?_)
      calc singleLimit ≤ 10 ^ (400 : Int) := hhigh
        _ ≤ 10 ^ (count - 1 + exponent) := zpow_le_zpow_right₀ hone (by omega)
        _ = 10 ^ (count - 1) * 10 ^ exponent := zpow_add₀ hten _ _
        _ ≤ significand * 10 ^ exponent := by gcongr
    next hnotHuge =>
      have hfraction : ((significand * Nat.pow 10 exponent.toNat : Nat) : Rat) /
          (Nat.pow 10 (-exponent).toNat : Nat) = significand * 10 ^ exponent := by
        have hden : ((10 : Rat) ^ (-exponent).toNat) ≠ 0 := pow_ne_zero _ hten
        rw [Nat.pow_eq, Nat.pow_eq, Nat.cast_mul, Nat.cast_pow, Nat.cast_pow, Nat.cast_ofNat,
          div_eq_iff hden, mul_assoc, zpow_mul_pow_toNat hten]
      have hpower : Nat.pow 10 (-exponent).toNat ≠ 0 := (Nat.pow_pos (by decide)).ne'
      rw [isFinite_ofFraction_iff negative _ hpower, hfraction]

/-- A text writes a number: behind its sign stands a decimal number below the limit of 32 bits. -/
def WritesNumber (cs : List Char) : Prop :=
  ∃ n e, readDecimal? (afterSign cs).2 = some (n, e) ∧ (n : Rat) * 10 ^ e < singleLimit

/-- A text writes what is no finite number: behind its sign stands a word for it, or a decimal
number that is not below the limit of 32 bits. -/
def WritesNoNumber (cs : List Char) : Prop :=
  WritesWord (afterSign cs).2 ∨
    ∃ n e, readDecimal? (afterSign cs).2 = some (n, e) ∧ singleLimit ≤ (n : Rat) * 10 ^ e

/-- **Texts of 32 bits.** A text is read as a number of 32 bits if it writes one, as what is not
finite if it writes that, and not at all if it writes neither. -/
theorem read?_single_iff {cs : List Char} :
    ((∃ x : Single, Binary.read? cs = some x ∧ x.isFinite = true) ↔ WritesNumber cs) ∧
      ((∃ x : Single, Binary.read? cs = some x ∧ x.isFinite = false) ↔ WritesNoNumber cs) := by
  by_cases hword : WritesWord (afterSign cs).2
  · obtain ⟨y, hy, hinfinite⟩ := Binary.read?_of_writesWord (f := .single) hword
    refine ⟨iff_of_false ?_ ?_, iff_of_true ⟨y, hy, hinfinite⟩ (.inl hword)⟩
    · rintro ⟨x, hx, hfinite⟩
      cases hx.symm.trans hy
      rw [hinfinite] at hfinite
      cases hfinite
    · rintro ⟨n, e, hdecimal, -⟩
      rw [readDecimal?_of_writesWord hword] at hdecimal
      cases hdecimal
  · rw [Binary.read?_of_not_writesWord hword]
    simp only [Option.map_eq_some_iff, Prod.exists, WritesNumber, WritesNoNumber, hword, false_or]
    constructor
    · constructor
      · rintro ⟨_, ⟨n, e, hdecimal, rfl⟩, hfinite⟩
        exact ⟨n, e, hdecimal, (isFinite_ofDecimal_iff _ n e).mp hfinite⟩
      · rintro ⟨n, e, hdecimal, hlt⟩
        exact ⟨_, ⟨n, e, hdecimal, rfl⟩, (isFinite_ofDecimal_iff _ n e).mpr hlt⟩
    · constructor
      · rintro ⟨_, ⟨n, e, hdecimal, rfl⟩, hinfinite⟩
        refine ⟨n, e, hdecimal, not_lt.mp fun hlt => ?_⟩
        rw [(isFinite_ofDecimal_iff _ n e).mpr hlt] at hinfinite
        cases hinfinite
      · rintro ⟨n, e, hdecimal, hle⟩
        refine ⟨_, ⟨n, e, hdecimal, rfl⟩, Bool.eq_false_iff.mpr fun hfinite => ?_⟩
        exact not_lt.mpr hle ((isFinite_ofDecimal_iff _ n e).mp hfinite)

end AgentFlow.Number

import MountCensus.Text.Integer

/-!
Decimal text is read as the number it was written for (`integer?_decimal`), as long as it has no
more digits than may be read.
-/

set_option autoImplicit false

namespace MountCensus.Text

theorem decimalDigit?_of_isDigit {c : Char} (h : c.isDigit = true) :
    decimalDigit? c = some (c.toNat - 48) :=
  if_pos h

theorem ne_of_isDigit {c d : Char} (h : c.isDigit = true) (hd : d.isDigit = false) : c ≠ d := by
  rintro rfl
  rw [h] at hd
  exact absurd hd (by simp)

/-- Digits without an underscore between them are the digits of a number one by one. -/
theorem ungroup_digits {text : List Char} (hne : text ≠ [])
    (hdigits : ∀ c ∈ text, c.isDigit = true) :
    ungroup decimalDigit? text = some (text.map fun c ↦ c.toNat - 48) := by
  induction text with
  | nil => exact absurd rfl hne
  | cons c text ih =>
    obtain ⟨hc, hmore⟩ := List.forall_mem_cons.mp hdigits
    cases text with
    | nil => simp [ungroup, decimalDigit?_of_isDigit hc]
    | cons d text =>
      have hd : d.isDigit = true := hmore d (by simp)
      have hunderscore : d ≠ '_' := ne_of_isDigit hd (by decide)
      rw [ungroup.eq_4 _ c d text (fun h ↦ hunderscore h), ih (by simp) hmore,
        decimalDigit?_of_isDigit hc]
      rfl

theorem ofDigits_toDigits (n : Nat) :
    ofDigits 10 ((Nat.toDigits 10 n).map fun c ↦ c.toNat - 48) = n := by
  have hvalue : ofDigits 10 ((Nat.toDigits 10 n).map fun c ↦ c.toNat - 48) =
      Nat.ofDigitChars 10 (Nat.toDigits 10 n) 0 := by
    rw [ofDigits, List.foldl_map, Nat.ofDigitChars_eq_foldl]
    simp only [Nat.mul_comm]
    rfl
  rw [hvalue, Nat.ofDigitChars_ten_toDigits]

theorem exists_digitChar {base : Nat} (hbase : 1 < base) (n : Nat) :
    ∀ c ∈ Nat.toDigits base n, ∃ d < base, c = d.digitChar := by
  induction n using Nat.strongRecOn with
  | ind n ih =>
    intro c hc
    by_cases hsmall : n < base
    · rw [Nat.toDigits_of_lt_base hsmall, List.mem_singleton] at hc
      exact ⟨n, hsmall, hc⟩
    · rw [Nat.toDigits_of_base_le hbase (by omega), List.mem_append, List.mem_singleton] at hc
      obtain hc | hc := hc
      · exact ih (n / base) (Nat.div_lt_self (by omega) hbase) c hc
      · exact ⟨n % base, Nat.mod_lt n (by omega), hc⟩

theorem isDigit_of_mem_decimal {n : Nat} {c : Char} (h : c ∈ Nat.toDigits 10 n) :
    c.isDigit = true :=
  Nat.isDigit_of_mem_toDigits (by decide) (by decide) h

theorem natural?_decimal {n : Nat} (hlimit : (Nat.toDigits 10 n).length ≤ digitLimit) :
    natural? (Nat.toDigits 10 n) = some n := by
  rw [natural?, ungroup_digits Nat.toDigits_ne_nil fun c ↦ isDigit_of_mem_decimal]
  simp [hlimit, ofDigits_toDigits]

theorem toNat_of_isDigit {c : Char} (h : c.isDigit = true) : 48 ≤ c.toNat ∧ c.toNat ≤ 57 :=
  Char.isDigit_iff_toNat.mp h

theorem isNumberPadding_of_isDigit {c : Char} (h : c.isDigit = true) :
    isNumberPadding c = false := by
  have hspace : c ≠ ' ' := ne_of_isDigit h (by decide)
  have hcode : ¬ c.toNat ≤ 13 := by
    have := (toNat_of_isDigit h).1
    omega
  simp [isNumberPadding, hspace, hcode]

theorem dropWhile_padding_digits {text : List Char} (hdigits : ∀ c ∈ text, c.isDigit = true) :
    text.dropWhile isNumberPadding = text := by
  cases text with
  | nil => rfl
  | cons c text => simp [isNumberPadding_of_isDigit (hdigits c (by simp))]

theorem trimPadding_digits {text : List Char} (hdigits : ∀ c ∈ text, c.isDigit = true) :
    trimPadding text = text := by
  have hreverse : ∀ c ∈ text.reverse, c.isDigit = true :=
    fun c hc ↦ hdigits c (List.mem_reverse.mp hc)
  rw [trimPadding, dropWhile_padding_digits hdigits, dropWhile_padding_digits hreverse,
    List.reverse_reverse]

theorem signed?_digits {text : List Char} (hdigits : ∀ c ∈ text, c.isDigit = true) :
    signed? text = (natural? text).map Int.ofNat := by
  cases text with
  | nil => rfl
  | cons c text =>
    have hminus : c ≠ '-' := ne_of_isDigit (hdigits c (by simp)) (by decide)
    have hplus : c ≠ '+' := ne_of_isDigit (hdigits c (by simp)) (by decide)
    rw [signed?.eq_3]
    · exact fun _ h ↦ hminus (List.cons.inj h).1
    · exact fun _ h ↦ hplus (List.cons.inj h).1

/-- The decimal text of a number is read as that number. -/
theorem integer?_decimal {n : Nat} (hlimit : (Nat.toDigits 10 n).length ≤ digitLimit) :
    integer? (toString n) = some (n : Int) := by
  have htext : (toString n).toList = Nat.toDigits 10 n := by
    rw [Nat.toString_eq_repr, Nat.toList_repr]
  have hdigits : ∀ c ∈ Nat.toDigits 10 n, c.isDigit = true := fun c ↦ isDigit_of_mem_decimal
  have hlatin : latinForm (Nat.toDigits 10 n) = some (Nat.toDigits 10 n) := by
    refine if_pos (List.all_eq_true.mpr fun c hc ↦ decide_eq_true ?_)
    have := (toNat_of_isDigit (hdigits c hc)).2
    omega
  rw [integer?, htext, hlatin]
  simp [trimPadding_digits hdigits, signed?_digits hdigits, natural?_decimal hlimit]

end MountCensus.Text

import Mathlib.Data.List.Basic
import ModuleClosure.Version

/-!
# Numerals

A component of a version is read exactly if it is a numeral: decimal digits without leading zeros,
for a number below 2^64. The last component may carry a tag besides, which needs a `+`.
-/
namespace ModuleClosure.Version

/-- Decimal digits without leading zeros, and their value below 2^64. -/
structure Numeral (text : List Char) (n : Nat) : Prop where
  ne_nil : text ≠ []
  digits : ∀ c ∈ text, c.isDigit = true
  no_leading_zero : text.head? = some '0' → text = ['0']
  value_eq : Nat.ofDigitChars 10 text 0 = n
  small : n < Nat.pow 2 64

variable {place : Place} {c : Char} {s rest tag : List Char} {v n : Nat} {started : Bool}

instance : Decidable (Numeral s n) :=
  decidable_of_iff (s ≠ [] ∧ s.all Char.isDigit = true ∧ (s.head? = some '0' → s = ['0']) ∧
      Nat.ofDigitChars 10 s 0 = n ∧ n < Nat.pow 2 64)
    ⟨fun ⟨h1, h2, h3, h4, h5⟩ => ⟨h1, List.all_eq_true.mp h2, h3, h4, h5⟩,
      fun h => ⟨h.ne_nil, List.all_eq_true.mpr h.digits, h.no_leading_zero, h.value_eq, h.small⟩⟩

/-- The digit zero is the numeral of zero. -/
@[simp] theorem numeral_zero_iff : Numeral ['0'] n ↔ n = 0 := by
  constructor
  · intro h
    exact h.value_eq.symm
  · rintro rfl
    decide

section Digits

theorem isDigit_iff : c.isDigit = true ↔ '0'.toNat ≤ c.toNat ∧ c.toNat ≤ '9'.toNat := by
  simp [Char.isDigit, UInt32.le_iff_toNat_le]

theorem digitValue_lt (h : c.isDigit = true) : digitValue c < 10 := by
  have : c.toNat ≤ 57 := (isDigit_iff.mp h).2
  have : '0'.toNat = 48 := rfl
  unfold digitValue
  omega

theorem digitValue_eq_zero_iff (h : c.isDigit = true) : digitValue c = 0 ↔ c = '0' := by
  have hle := (isDigit_iff.mp h).1
  rw [digitValue, Nat.sub_eq_zero_iff_le]
  constructor
  · intro hge
    exact Char.toNat_inj.mp (Nat.le_antisymm hge hle)
  · rintro rfl
    exact Nat.le_refl _

/-- More digits make no smaller number. -/
theorem le_ofDigitChars : v ≤ Nat.ofDigitChars 10 s v := by
  rw [Nat.ofDigitChars_eq_ofDigitChars_zero]
  exact Nat.le_add_right_of_le (Nat.le_mul_of_pos_left v (Nat.pow_pos (by decide)))

end Digits

section Reading

/-- A text that has been read to its end consists of digits; none of them comes behind a zero. -/
theorem numberFrom_eq_ok_nil_iff (hv : v < Nat.pow 2 64) :
    numberFrom place v true s = .ok (n, []) ↔ (∀ c ∈ s, c.isDigit = true) ∧ (v = 0 → s = []) ∧
      Nat.ofDigitChars 10 s v = n ∧ n < Nat.pow 2 64 := by
  induction s generalizing v with
  | nil =>
    simp only [numberFrom, Nat.ofDigitChars_nil]
    grind
  | cons c r ih =>
    have hstep : Nat.ofDigitChars 10 (c :: r) v =
        Nat.ofDigitChars 10 r (v * 10 + digitValue c) := by
      rw [Nat.ofDigitChars_cons, Nat.mul_comm, digitValue]
    rw [numberFrom, hstep]
    by_cases hc : c.isDigit = true
    · rw [if_pos hc]
      by_cases hzero : v = 0
      · simp [hzero]
      · rw [if_neg (by simp [hzero])]
        by_cases hsmall : v * 10 + digitValue c < Nat.pow 2 64
        · have hpos : v * 10 + digitValue c ≠ 0 := by omega
          rw [if_pos hsmall, ih hsmall, List.forall_mem_cons]
          simp only [hc, hzero, hpos, false_implies, true_and]
        · -- The number only grows from here.
          rw [if_neg hsmall]
          refine iff_of_false nofun ?_
          rintro ⟨-, -, rfl, h⟩
          exact hsmall (Nat.lt_of_le_of_lt le_ofDigitChars h)
    · rw [if_neg hc]
      simp [hc]

/-- Reading a number from its first digit to the end of the text. -/
theorem numberFrom_first_iff (hc : c.isDigit = true) :
    numberFrom place 0 false (c :: s) = .ok (n, []) ↔ Numeral (c :: s) n := by
  have hsmall : digitValue c < Nat.pow 2 64 := Nat.lt_trans (digitValue_lt hc) (by decide)
  have hfirst : numberFrom place 0 false (c :: s) = numberFrom place (digitValue c) true s := by
    simp [numberFrom, hc, hsmall]
  have hvalue : Nat.ofDigitChars 10 (c :: s) 0 = Nat.ofDigitChars 10 s (digitValue c) := by
    rw [Nat.ofDigitChars_cons, Nat.mul_zero, Nat.zero_add, digitValue]
  rw [hfirst, numberFrom_eq_ok_nil_iff hsmall, digitValue_eq_zero_iff hc, ← hvalue]
  constructor
  · rintro ⟨hdigits, hzero, hn, hlt⟩
    refine ⟨List.cons_ne_nil c s, List.forall_mem_cons.mpr ⟨hc, hdigits⟩, fun hhead => ?_, hn, hlt⟩
    obtain rfl := Option.some.inj hhead
    rw [hzero rfl]
  · intro h
    refine ⟨(List.forall_mem_cons.mp h.digits).2, ?_, h.value_eq, h.small⟩
    rintro rfl
    exact (List.cons.inj (h.no_leading_zero rfl)).2

theorem Numeral.exists_cons (h : Numeral s n) : ∃ c r, s = c :: r ∧ c.isDigit = true := by
  obtain ⟨c, r, rfl⟩ := List.exists_cons_of_ne_nil h.ne_nil
  exact ⟨c, r, rfl, h.digits c List.mem_cons_self⟩

/-- A component before a dot is a numeral. -/
theorem wholeComponent_eq_ok_iff : wholeComponent place s = .ok n ↔ Numeral s n := by
  constructor
  · intro h
    cases s with
    | nil => cases h
    | cons c r =>
      rw [wholeComponent] at h
      split_ifs at h with hc
      split at h
      · cases h
      · rename_i hread
        cases h
        exact (numberFrom_first_iff hc).mp hread
      · cases h
  · intro h
    obtain ⟨c, r, rfl, hc⟩ := h.exists_cons
    have hread : numberFrom place 0 false (c :: r) = .ok (n, []) := (numberFrom_first_iff hc).mpr h
    rw [wholeComponent, if_pos hc, hread]

theorem numberFrom_suffix (h : numberFrom place v started s = .ok (n, rest)) : rest <:+ s := by
  induction s generalizing v started with
  | nil =>
    cases h
    exact List.suffix_rfl
  | cons c r ih =>
    rw [numberFrom] at h
    split_ifs at h
    · exact (ih h).trans (List.suffix_cons c r)
    · cases h
      exact List.suffix_rfl

/-- Without a `+` nothing may follow the last number. -/
theorem tagOf_eq_ok_iff (h : '+' ∉ s) : tagOf s = .ok tag ↔ s = [] ∧ tag = [] := by
  cases s with
  | nil => simp [tagOf, eq_comm]
  | cons c r =>
    have hc : c ≠ '+' := fun hc => h (hc ▸ List.mem_cons_self)
    simp [tagOf, hc]

theorem Numeral.not_mem_plus (h : Numeral s n) : '+' ∉ s := by
  intro hplus
  have hdigit := h.digits '+' hplus
  exact absurd hdigit (by decide)

/-- Without a `+`, the last component is a numeral as well. -/
theorem lastComponent_eq_ok_iff (h : '+' ∉ s) :
    lastComponent s = .ok (n, tag) ↔ Numeral s n ∧ tag = [] := by
  constructor
  · intro hlast
    cases s with
    | nil => cases hlast
    | cons c r =>
      rw [lastComponent] at hlast
      split_ifs at hlast with hc
      split at hlast
      · cases hlast
      · rename_i m rest hread
        cases htag : tagOf rest with
        | error fault => simp [htag, Except.map] at hlast
        | ok t =>
          obtain ⟨rfl, rfl⟩ : m = n ∧ t = tag := by simpa [htag, Except.map] using hlast
          have hplus : '+' ∉ rest := fun hmem => h ((numberFrom_suffix hread).subset hmem)
          obtain ⟨rfl, rfl⟩ := (tagOf_eq_ok_iff hplus).mp htag
          exact ⟨(numberFrom_first_iff hc).mp hread, rfl⟩
  · rintro ⟨hs, rfl⟩
    obtain ⟨c, r, rfl, hc⟩ := hs.exists_cons
    rw [lastComponent, if_pos hc, (numberFrom_first_iff hc).mpr hs]
    rfl

end Reading

end ModuleClosure.Version

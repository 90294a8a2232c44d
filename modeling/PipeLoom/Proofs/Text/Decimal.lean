import PipeLoom.Text.Digit

/-!
# Decimal numerals

A number prints as one numeral without leading zeros, which spells it (`decimalValue_toDigits`), and
every numeral without leading zeros is that of its value (`toDigits_decimalValue`).
-/

namespace PipeLoom.Text

theorem decimalValue_toDigits (n : Nat) : decimalValue (Nat.toDigits 10 n) = n :=
  Nat.ofDigitChars_toDigits (by decide) (by decide)

theorem digit_lt {c : Char} (h : c.isDigit = true) : c.toNat - '0'.toNat < 10 := by
  have hrange := Char.isDigit_iff_toNat.1 h
  have hzero : '0'.toNat = 48 := rfl
  have hnine : '9'.toNat = 57 := rfl
  omega

theorem digitChar_digit {c : Char} (h : c.isDigit = true) :
    Nat.digitChar (c.toNat - '0'.toNat) = c := by
  have hrange := Char.isDigit_iff_toNat.1 h
  have hzero : '0'.toNat = 48 := rfl
  apply Char.toNat_inj.1
  rw [Nat.toNat_digitChar_of_lt_ten (digit_lt h)]
  omega

/-- Digits after the numeral of a positive number are those of a greater number. -/
theorem toDigits_append {s : List Char} (hs : ∀ c ∈ s, c.isDigit = true) {n : Nat} (hn : 0 < n) :
    Nat.toDigits 10 n ++ s =
      Nat.toDigits 10 (s.foldl (fun n c => 10 * n + (c.toNat - '0'.toNat)) n) := by
  induction s generalizing n with
  | nil => exact List.append_nil _
  | cons c s ih =>
    have hc := hs c List.mem_cons_self
    have hlast := Nat.toDigits_append_toDigits (b := 10) (by decide) hn (digit_lt hc)
    rw [Nat.toDigits_of_lt_base (digit_lt hc), digitChar_digit hc] at hlast
    rw [List.foldl_cons, List.append_cons, hlast]
    exact ih (fun d hd => hs d (List.mem_cons_of_mem _ hd)) (by omega)

theorem toDigits_decimalValue {s : List Char} (hs : ∀ c ∈ s, c.isDigit = true) (hne : s ≠ [])
    (hzero : s.head? = some '0' → s = ['0']) : Nat.toDigits 10 (decimalValue s) = s := by
  cases s with
  | nil => exact absurd rfl hne
  | cons c s =>
    by_cases h0 : c = '0'
    · rw [hzero (congrArg some h0)]
      rfl
    · have hc := hs c List.mem_cons_self
      have hpos : 0 < c.toNat - '0'.toNat := by
        have hrange := Char.isDigit_iff_toNat.1 hc
        have hne : c.toNat ≠ '0'.toNat := fun h => h0 (Char.toNat_inj.1 h)
        omega
      have happend := toDigits_append (fun d hd => hs d (List.mem_cons_of_mem _ hd)) hpos
      rw [Nat.toDigits_of_lt_base (digit_lt hc), digitChar_digit hc] at happend
      rw [decimalValue, List.foldl_cons, Nat.mul_zero, Nat.zero_add]
      exact happend.symm

/-- The numeral of a positive number starts with another digit than zero. -/
theorem head?_toDigits {n : Nat} (h : 0 < n) : (Nat.toDigits 10 n).head? ≠ some '0' := by
  induction n using Nat.strongRecOn with
  | ind n ih =>
    by_cases hn : n < 10
    · rw [Nat.toDigits_of_lt_base hn, List.head?_cons]
      intro hzero
      have hchar := congrArg Char.toNat (Option.some.inj hzero)
      rw [Nat.toNat_digitChar_of_lt_ten hn] at hchar
      have : '0'.toNat = 48 := rfl
      omega
    · have hhead := ih (n / 10) (by omega) (by omega)
      obtain ⟨c, s, hs⟩ := List.exists_cons_of_ne_nil (Nat.toDigits_ne_nil (n := n / 10) (b := 10))
      rw [Nat.toDigits_of_base_le (by decide) (by omega), hs]
      rwa [hs] at hhead

end PipeLoom.Text

import Mathlib.Data.List.Basic

/-! # Numerals

A numeral is a row of digits, the most significant first, in a radix of 16 at most. From
ten on the digits are letters of either case. A number that is printed in decimal is
read back as it was.
-/

namespace Numeral

/-- What a digit is worth, in every radix that has it. -/
def digit (c : Char) : Option Nat :=
  if '0' ≤ c ∧ c ≤ '9' then some (c.toNat - 48)
  else if 'a' ≤ c ∧ c ≤ 'f' then some (c.toNat - 87)
  else if 'A' ≤ c ∧ c ≤ 'F' then some (c.toNat - 55)
  else none

/-- Read digits onto the value of those already read. -/
def digitsFrom (radix : Nat) : Nat → List Char → Option Nat
  | value, [] => some value
  | value, c :: rest =>
      match digit c with
      | none => none
      | some d => if d < radix then digitsFrom radix (value * radix + d) rest else none

def digits (radix : Nat) : List Char → Option Nat
  | [] => none
  | cs => digitsFrom radix 0 cs

/-! ## Decimal -/

theorem toNat_of_isDigit {c : Char} (isDigit : c.isDigit = true) : 48 ≤ c.toNat ∧ c.toNat ≤ 57 := by
  simp only [Char.isDigit, Bool.and_eq_true, decide_eq_true_eq] at isDigit
  exact isDigit

theorem digit_of_isDigit {c : Char} (isDigit : c.isDigit = true) : digit c = some (c.toNat - 48) := by
  have between : '0' ≤ c ∧ c ≤ '9' := toNat_of_isDigit isDigit
  simp only [digit, between, and_self, if_true]

theorem digitsFrom_of_isDigit {cs : List Char} (all : ∀ c ∈ cs, c.isDigit = true) (value : Nat) :
    digitsFrom 10 value cs = some (Nat.ofDigitChars 10 cs value) := by
  induction cs generalizing value with
  | nil => simp [digitsFrom]
  | cons c rest ih =>
      have here : c.isDigit = true := all c List.mem_cons_self
      have small : c.toNat - 48 < 10 := by
        have between := toNat_of_isDigit here
        omega
      have later := ih (fun d member => all d (List.mem_cons_of_mem c member))
      simp only [digitsFrom, digit_of_isDigit here, small, if_true, later, Nat.ofDigitChars_cons]
      rw [Nat.mul_comm]
      rfl

theorem isDigit_of_mem {n : Nat} {c : Char} (member : c ∈ Nat.toDigits 10 n) : c.isDigit = true :=
  Nat.isDigit_of_mem_toDigits (by decide) (by decide) member

theorem digits_toDigits (n : Nat) : digits 10 (Nat.toDigits 10 n) = some n := by
  have read := digitsFrom_of_isDigit (fun _ => isDigit_of_mem (n := n)) 0
  rw [Nat.ofDigitChars_ten_toDigits] at read
  unfold digits
  split
  · rename_i none
    exact absurd none Nat.toDigits_ne_nil
  · exact read

end Numeral

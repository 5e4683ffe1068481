import Edutopik.Dart.Core

/-! # What `int.parse` makes of a printed `int`

Printing writes the digits of a number, most significant first, after a minus sign
where it is negative. Reading them back gives the number again exactly if it is one
an `int` can hold.
-/

namespace Dart

open Numeral

/-- The values of a native `int`, of 64 bits. -/
def IsInt (n : Int) : Prop := -9223372036854775808 ≤ n ∧ n ≤ 9223372036854775807

instance (n : Int) : Decidable (IsInt n) := by unfold IsInt; infer_instance

theorem signed_eq_some_iff {negative : Bool} {magnitude : Nat} {n : Int} :
    signed negative magnitude = some n ↔
      IsInt n ∧ n = if negative then -(magnitude : Int) else magnitude := by
  unfold signed IsInt
  dsimp only
  generalize (if negative then -(magnitude : Int) else magnitude) = value
  constructor
  · intro read
    obtain ⟨fits, same⟩ := Option.ite_none_right_eq_some.mp read
    cases same
    exact ⟨fits, rfl⟩
  · intro valued
    obtain ⟨fits, rfl⟩ := valued
    exact if_pos fits

/-! ## Digits -/

theorem not_isWhitespace_of_isDigit {c : Char} (isDigit : c.isDigit = true) :
    isWhitespace c = false := by
  have between := toNat_of_isDigit isDigit
  simp only [isWhitespace, Bool.or_eq_false_iff, Bool.and_eq_false_iff, decide_eq_false_iff_not,
    beq_eq_false_iff_ne]
  omega

/-- No printed number looks like a hexadecimal literal. -/
theorem parseUnsigned_toDigits (negative : Bool) (n : Nat) :
    parseUnsigned negative (Nat.toDigits 10 n) = signed negative n := by
  have decimal : ∀ c ∈ Nat.toDigits 10 n, c.isDigit = true := fun _ => isDigit_of_mem
  unfold parseUnsigned
  split
  · rename_i shape
    exact absurd (decimal 'x' (by simp [shape])) (by decide)
  · rename_i shape
    exact absurd (decimal 'X' (by simp [shape])) (by decide)
  · rw [digits_toDigits, Option.bind_some]

/-! ## Whole numbers -/

theorem trim_of_not_isWhitespace {cs : List Char} (none : ∀ c ∈ cs, isWhitespace c = false) :
    trim cs = cs := by
  have kept : ∀ ds : List Char, (∀ c ∈ ds, isWhitespace c = false) →
      ds.dropWhile isWhitespace = ds := by
    intro ds free
    cases ds with
    | nil => rfl
    | cons c rest => simp [free c List.mem_cons_self]
  have back : cs.reverse.dropWhile isWhitespace = cs.reverse := by
    apply kept
    intro c member
    exact none c (List.mem_reverse.mp member)
  rw [trim, kept cs none, back, List.reverse_reverse]

theorem parseInt_repr_nat (n : Nat) : parseInt n.repr = signed false n := by
  have decimal : ∀ c ∈ Nat.toDigits 10 n, c.isDigit = true := fun _ => isDigit_of_mem
  have trimmed : trim (Nat.toDigits 10 n) = Nat.toDigits 10 n :=
    trim_of_not_isWhitespace fun c member => not_isWhitespace_of_isDigit (decimal c member)
  rw [parseInt, Nat.toList_repr, trimmed]
  split
  · rename_i shape
    exact absurd (decimal '-' (by simp [shape])) (by decide)
  · rename_i shape
    exact absurd (decimal '+' (by simp [shape])) (by decide)
  · exact parseUnsigned_toDigits false n

theorem parseInt_minus_repr_nat (n : Nat) : parseInt ("-" ++ n.repr) = signed true n := by
  have printed : ("-" ++ n.repr).toList = '-' :: Nat.toDigits 10 n := by
    rw [String.toList_append, Nat.toList_repr]
    rfl
  have trimmed : trim ('-' :: Nat.toDigits 10 n) = '-' :: Nat.toDigits 10 n := by
    apply trim_of_not_isWhitespace
    intro c member
    rcases List.mem_cons.mp member with rfl | later
    · decide
    · exact not_isWhitespace_of_isDigit (isDigit_of_mem later)
  rw [parseInt, printed, trimmed]
  exact parseUnsigned_toDigits true n

/-- A printed number is read back exactly if an `int` can hold it. -/
theorem parseInt_toString_iff (n : Int) : parseInt (toString n) = some n ↔ IsInt n := by
  have printed : toString n = n.repr := rfl
  rw [printed, Int.repr_eq_if]
  split
  · rename_i nonneg
    have magnitude : (n.toNat : Int) = n := Int.toNat_of_nonneg nonneg
    rw [parseInt_repr_nat, signed_eq_some_iff, magnitude]
    simp
  · rename_i negative
    have magnitude : ((-n).toNat : Int) = -n := Int.toNat_of_nonneg (by omega)
    rw [parseInt_minus_repr_nat, signed_eq_some_iff, magnitude]
    simp

example : parseInt (toString (-1234567890 : Int)) = some (-1234567890) := by decide

end Dart

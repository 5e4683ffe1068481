import Mathlib.Data.List.Basic

/-! # Cursors over a finite sequence

A cursor is a place in a sequence of `n` elements that moves by one and stops at
both ends. It cannot be out of range, and it exists only over a nonempty sequence.
-/

structure Cursor (n : Nat) where
  place : Nat
  inRange : place < n
  deriving DecidableEq

namespace Cursor

variable {n : Nat} (c : Cursor n)

@[ext] theorem ext {c d : Cursor n} (same : c.place = d.place) : c = d := by
  cases c
  cases d
  cases same
  rfl

def HasNext : Prop := c.place + 1 < n

def HasPrevious : Prop := 0 < c.place

instance : Decidable c.HasNext := inferInstanceAs (Decidable (c.place + 1 < n))

instance : Decidable c.HasPrevious := inferInstanceAs (Decidable (0 < c.place))

def next : Cursor n := if h : c.place + 1 < n then ⟨c.place + 1, h⟩ else c

def previous : Cursor n :=
  ⟨c.place - 1, Nat.lt_of_le_of_lt (Nat.sub_le c.place 1) c.inRange⟩

variable {c}

theorem next_place (more : c.HasNext) : c.next.place = c.place + 1 := by
  simp only [next, dif_pos (show c.place + 1 < n from more)]

theorem next_stays (last : ¬ c.HasNext) : c.next = c := by
  simp only [next, dif_neg (show ¬ c.place + 1 < n from last)]

@[simp] theorem previous_place : c.previous.place = c.place - 1 := rfl

theorem previous_stays (first : ¬ c.HasPrevious) : c.previous = c := by
  have zero : c.place = 0 := Nat.eq_zero_of_not_pos first
  exact Cursor.ext (by simp [zero])

end Cursor

import Mathlib.Computability.Language

/-! # Regular expressions with character classes

An expression over any alphabet whose letters are classes, given as predicates. Its
meaning is a language; `accepts` decides it by taking derivatives.

`Within` bounds the letters a match can contain without looking at any word.
-/

inductive Regex (α : Type*) where
  | never
  | empty
  /-- One letter of the class. -/
  | one (letters : α → Bool)
  | either (r s : Regex α)
  | seq (r s : Regex α)
  | many (r : Regex α)

namespace Regex

variable {α : Type*}

open scoped Computability

/-- The words an expression matches as a whole. -/
def language : Regex α → Language α
  | never => 0
  | empty => 1
  | one c => {w | ∃ a, c a = true ∧ w = [a]}
  | either r s => r.language + s.language
  | seq r s => r.language * s.language
  | many r => KStar.kstar r.language

/-! ## Shorthands -/

def char [DecidableEq α] (a : α) : Regex α := one fun b => b == a

/-- `r+` -/
def oneOrMore (r : Regex α) : Regex α := seq r (many r)

/-- `r{n,}` -/
def atLeast (r : Regex α) : Nat → Regex α
  | 0 => many r
  | n + 1 => seq r (atLeast r n)

/-- `r{0,n}` -/
def atMost (r : Regex α) : Nat → Regex α
  | 0 => empty
  | n + 1 => either empty (seq r (atMost r n))

/-! ## Deciding a match -/

/-- Whether the empty word matches. -/
def nullable : Regex α → Bool
  | never => false
  | empty => true
  | one _ => false
  | either r s => r.nullable || s.nullable
  | seq r s => r.nullable && s.nullable
  | many _ => true

/-- What is left to match after the letter `a`. -/
def deriv (a : α) : Regex α → Regex α
  | never => never
  | empty => never
  | one c => if c a then empty else never
  | either r s => either (r.deriv a) (s.deriv a)
  | seq r s => if r.nullable then either (seq (r.deriv a) s) (s.deriv a) else seq (r.deriv a) s
  | many r => seq (r.deriv a) (many r)

def accepts (r : Regex α) : List α → Bool
  | [] => r.nullable
  | a :: rest => (r.deriv a).accepts rest

theorem nullable_iff (r : Regex α) : r.nullable = true ↔ [] ∈ r.language := by
  induction r with
  | never => simp [nullable, language]
  | empty => simp [nullable, language]
  | one c =>
      simp only [nullable, language, Bool.false_eq_true, false_iff]
      intro matched
      obtain ⟨a, _, absurd⟩ := matched
      exact List.cons_ne_nil _ _ absurd.symm
  | either r s ihr ihs => simp only [nullable, Bool.or_eq_true, language, Language.mem_add, ihr, ihs]
  | seq r s ihr ihs => simp [nullable, language, Language.mem_mul, ihr, ihs]
  | many r _ => exact iff_of_true rfl (Language.nil_mem_kstar _)

/-- A word of a product starts in its first factor, unless that factor is empty. -/
theorem cons_mem_mul {l m : Language α} {a : α} {w : List α} :
    a :: w ∈ l * m ↔ (∃ u v, a :: u ∈ l ∧ v ∈ m ∧ u ++ v = w) ∨ ([] ∈ l ∧ a :: w ∈ m) := by
  rw [Language.mem_mul]
  constructor
  · intro cut
    obtain ⟨front, inFirst, back, inSecond, whole⟩ := cut
    cases front with
    | nil => exact .inr ⟨inFirst, by simpa [← whole] using inSecond⟩
    | cons b u =>
        obtain ⟨rfl, rest⟩ := List.cons_eq_cons.mp whole
        exact .inl ⟨u, back, inFirst, inSecond, rest⟩
  · intro either
    cases either with
    | inl first =>
        obtain ⟨u, v, inFirst, inSecond, rfl⟩ := first
        exact ⟨a :: u, inFirst, v, inSecond, rfl⟩
    | inr second => exact ⟨[], second.1, a :: w, second.2, rfl⟩

/-- A nonempty word of an iteration starts with a nonempty round. -/
theorem cons_mem_kstar {l : Language α} {a : α} {w : List α} :
    a :: w ∈ KStar.kstar l ↔ ∃ u v, a :: u ∈ l ∧ v ∈ KStar.kstar l ∧ u ++ v = w := by
  constructor
  · intro member
    obtain ⟨rounds, whole, each⟩ := Language.mem_kstar_iff_exists_nonempty.mp member
    cases rounds with
    | nil => simp at whole
    | cons first rest =>
        obtain ⟨inside, nonempty⟩ := each first List.mem_cons_self
        cases first with
        | nil => exact absurd rfl nonempty
        | cons b u =>
            simp only [List.flatten_cons, List.cons_append, List.cons.injEq] at whole
            obtain ⟨rfl, rfl⟩ := whole
            have later : rest.flatten ∈ KStar.kstar l :=
              Language.join_mem_kstar fun y member => (each y (List.mem_cons_of_mem _ member)).1
            exact ⟨u, rest.flatten, inside, later, rfl⟩
  · intro rounds
    obtain ⟨u, v, inside, later, rfl⟩ := rounds
    obtain ⟨rounds, rfl, each⟩ := Language.mem_kstar.mp later
    have all : ∀ y ∈ (a :: u) :: rounds, y ∈ l := List.forall_mem_cons.mpr ⟨inside, each⟩
    exact Language.join_mem_kstar all

theorem mem_deriv (r : Regex α) (a : α) (w : List α) :
    w ∈ (r.deriv a).language ↔ a :: w ∈ r.language := by
  induction r generalizing w with
  | never => simp [deriv, language]
  | empty => simp [deriv, language]
  | one c =>
      have single : a :: w ∈ (one c).language ↔ c a = true ∧ w = [] := by
        constructor
        · intro matched
          obtain ⟨b, inClass, same⟩ := matched
          obtain ⟨rfl, rfl⟩ := List.cons_eq_cons.mp same
          exact ⟨inClass, rfl⟩
        · intro letter
          obtain ⟨inClass, rfl⟩ := letter
          exact ⟨a, inClass, rfl⟩
      rw [single, deriv]
      by_cases inClass : c a = true
      · simp [inClass, language]
      · simp [inClass, language]
  | either r s ihr ihs => simp only [deriv, language, Language.mem_add, ihr, ihs]
  | seq r s ihr ihs =>
      have front : w ∈ (seq (r.deriv a) s).language ↔
          ∃ u v, a :: u ∈ r.language ∧ v ∈ s.language ∧ u ++ v = w := by
        simp only [language, Language.mem_mul, ihr]
        constructor
        · intro cut
          obtain ⟨u, inFirst, v, inSecond, whole⟩ := cut
          exact ⟨u, v, inFirst, inSecond, whole⟩
        · intro cut
          obtain ⟨u, v, inFirst, inSecond, whole⟩ := cut
          exact ⟨u, inFirst, v, inSecond, whole⟩
      have whole : a :: w ∈ (seq r s).language ↔ _ := cons_mem_mul
      rw [whole, ← nullable_iff, ← ihs, ← front, deriv]
      by_cases skip : r.nullable = true
      · simp only [skip, if_true, true_and, language, Language.mem_add]
      · simp only [skip, if_false, false_and, or_false, Bool.false_eq_true]
  | many r ih =>
      have whole : a :: w ∈ (many r).language ↔ _ := cons_mem_kstar
      rw [whole, deriv]
      simp only [language, Language.mem_mul, ih]
      constructor
      · intro round
        obtain ⟨u, inside, v, later, whole⟩ := round
        exact ⟨u, v, inside, later, whole⟩
      · intro round
        obtain ⟨u, v, inside, later, whole⟩ := round
        exact ⟨u, inside, v, later, whole⟩

theorem accepts_iff (r : Regex α) (w : List α) : r.accepts w = true ↔ w ∈ r.language := by
  induction w generalizing r with
  | nil => exact nullable_iff r
  | cons a rest ih => rw [accepts, ih, mem_deriv]

/-! ## The letters of a match -/

/-- Every class of the expression lies within `p`. -/
def Within (p : α → Prop) : Regex α → Prop
  | never => True
  | empty => True
  | one c => ∀ a, c a = true → p a
  | either r s => r.Within p ∧ s.Within p
  | seq r s => r.Within p ∧ s.Within p
  | many r => r.Within p

theorem within_atMost {p : α → Prop} {r : Regex α} (within : r.Within p) (n : Nat) :
    (r.atMost n).Within p := by
  induction n with
  | zero => trivial
  | succ n ih => exact ⟨trivial, within, ih⟩

theorem within_atLeast {p : α → Prop} {r : Regex α} (within : r.Within p) (n : Nat) :
    (r.atLeast n).Within p := by
  induction n with
  | zero => exact within
  | succ n ih => exact ⟨within, ih⟩

theorem forall_mem_of_within {p : α → Prop} {r : Regex α} (within : r.Within p) {w : List α}
    (member : w ∈ r.language) : ∀ a ∈ w, p a := by
  induction r generalizing w with
  | never => exact absurd member (Language.notMem_zero w)
  | empty =>
      rw [(Language.mem_one w).mp member]
      simp
  | one c =>
      obtain ⟨b, inClass, rfl⟩ := member
      simpa using within b inClass
  | either r s ihr ihs =>
      rcases (Language.mem_add _ _ w).mp member with first | second
      · exact ihr within.1 first
      · exact ihs within.2 second
  | seq r s ihr ihs =>
      obtain ⟨u, first, v, second, rfl⟩ := Language.mem_mul.mp member
      exact List.forall_mem_append.mpr ⟨ihr within.1 first, ihs within.2 second⟩
  | many r ih =>
      obtain ⟨rounds, rfl, each⟩ := Language.mem_kstar.mp member
      intro a inside
      obtain ⟨round, inRounds, inRound⟩ := List.mem_flatten.mp inside
      exact ih within (each round inRounds) a inRound

end Regex

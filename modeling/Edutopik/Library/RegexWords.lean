import Edutopik.Library.Regex

/-! # The words of the usual expressions

What the common shapes of an expression match, said without the expression: runs of one
class, with a least or a greatest length, and lists of words that a letter separates or
ends. Words that do not contain that letter can be read back.
-/

namespace Regex

variable {α : Type*}

theorem mem_seq {r s : Regex α} {w : List α} :
    w ∈ (seq r s).language ↔ ∃ u ∈ r.language, ∃ v ∈ s.language, u ++ v = w :=
  Language.mem_mul

theorem mem_either {r s : Regex α} {w : List α} :
    w ∈ (either r s).language ↔ w ∈ r.language ∨ w ∈ s.language :=
  Language.mem_add _ _ w

theorem mem_one {letters : α → Bool} {w : List α} :
    w ∈ (one letters).language ↔ ∃ a, letters a = true ∧ w = [a] :=
  Iff.rfl

theorem mem_char [DecidableEq α] {a : α} {w : List α} : w ∈ (char a).language ↔ w = [a] := by
  rw [char, mem_one]
  constructor
  · intro single
    obtain ⟨b, same, rfl⟩ := single
    rw [eq_of_beq same]
  · intro whole
    exact ⟨a, beq_self_eq_true a, whole⟩

/-- A letter comes first. -/
theorem mem_char_seq [DecidableEq α] {a : α} {s : Regex α} {w : List α} :
    w ∈ (seq (char a) s).language ↔ ∃ v ∈ s.language, a :: v = w := by
  simp only [mem_seq, mem_char]
  constructor
  · intro cut
    obtain ⟨_, rfl, v, inside, rfl⟩ := cut
    exact ⟨v, inside, rfl⟩
  · intro cut
    obtain ⟨v, inside, rfl⟩ := cut
    exact ⟨[a], rfl, v, inside, rfl⟩

/-! ## Iterations -/

/-- An iteration is over, or goes on after a round. -/
theorem mem_many {r : Regex α} {w : List α} :
    w ∈ (many r).language ↔ ∃ rounds : List (List α), rounds.flatten = w ∧ ∀ u ∈ rounds, u ∈ r.language := by
  rw [language, Language.mem_kstar]
  constructor
  · intro cut
    obtain ⟨rounds, rfl, each⟩ := cut
    exact ⟨rounds, rfl, each⟩
  · intro cut
    obtain ⟨rounds, rfl, each⟩ := cut
    exact ⟨rounds, rfl, each⟩

theorem mem_oneOrMore {r : Regex α} {w : List α} :
    w ∈ (oneOrMore r).language ↔
      ∃ rounds : List (List α), rounds ≠ [] ∧ rounds.flatten = w ∧ ∀ u ∈ rounds, u ∈ r.language := by
  simp only [oneOrMore, mem_seq, mem_many]
  constructor
  · intro cut
    obtain ⟨u, first, _, ⟨rounds, rfl, each⟩, rfl⟩ := cut
    exact ⟨u :: rounds, List.cons_ne_nil _ _, rfl, List.forall_mem_cons.mpr ⟨first, each⟩⟩
  · intro cut
    obtain ⟨rounds, nonempty, rfl, each⟩ := cut
    cases rounds with
    | nil => exact absurd rfl nonempty
    | cons u rest =>
        obtain ⟨first, later⟩ := List.forall_mem_cons.mp each
        exact ⟨u, first, rest.flatten, ⟨rest, rfl, later⟩, rfl⟩

/-- A run of one class. -/
theorem mem_many_one {letters : α → Bool} {w : List α} :
    w ∈ (many (one letters)).language ↔ ∀ a ∈ w, letters a = true := by
  rw [mem_many]
  constructor
  · intro cut
    obtain ⟨rounds, rfl, each⟩ := cut
    intro a inside
    obtain ⟨u, inRounds, inRound⟩ := List.mem_flatten.mp inside
    obtain ⟨b, letter, rfl⟩ := each u inRounds
    rw [List.mem_singleton.mp inRound]
    exact letter
  · intro within
    refine ⟨w.map ([·]), by simp [← List.flatMap_def], ?_⟩
    intro u member
    obtain ⟨a, inside, rfl⟩ := List.mem_map.mp member
    exact ⟨a, within a inside, rfl⟩

theorem mem_atLeast_one {letters : α → Bool} {n : Nat} {w : List α} :
    w ∈ (atLeast (one letters) n).language ↔ n ≤ w.length ∧ ∀ a ∈ w, letters a = true := by
  induction n generalizing w with
  | zero => simp [atLeast, mem_many_one]
  | succ n ih =>
      simp only [atLeast, mem_seq, mem_one, ih]
      constructor
      · intro cut
        obtain ⟨_, ⟨a, letter, rfl⟩, v, ⟨long, within⟩, rfl⟩ := cut
        exact ⟨by simp; omega, List.forall_mem_cons.mpr ⟨letter, within⟩⟩
      · intro run
        obtain ⟨long, within⟩ := run
        cases w with
        | nil => simp at long
        | cons a rest =>
            obtain ⟨letter, later⟩ := List.forall_mem_cons.mp within
            exact ⟨[a], ⟨a, letter, rfl⟩, rest, ⟨by simpa using long, later⟩, rfl⟩

theorem mem_oneOrMore_one {letters : α → Bool} {w : List α} :
    w ∈ (oneOrMore (one letters)).language ↔ w ≠ [] ∧ ∀ a ∈ w, letters a = true := by
  have least : w ∈ (oneOrMore (one letters)).language ↔ w ∈ (atLeast (one letters) 1).language := Iff.rfl
  rw [least, mem_atLeast_one, Nat.one_le_iff_ne_zero, ne_eq, List.length_eq_zero_iff]

theorem mem_atMost_one {letters : α → Bool} {n : Nat} {w : List α} :
    w ∈ (atMost (one letters) n).language ↔ w.length ≤ n ∧ ∀ a ∈ w, letters a = true := by
  induction n generalizing w with
  | zero =>
      have only : w ∈ (atMost (one letters) 0).language ↔ w = [] := Language.mem_one w
      rw [only, Nat.le_zero, List.length_eq_zero_iff]
      constructor
      · rintro rfl
        exact ⟨rfl, by simp⟩
      · exact And.left
  | succ n ih =>
      have nothing : w ∈ (empty : Regex α).language ↔ w = [] := Language.mem_one w
      simp only [atMost, mem_either, nothing, mem_seq, mem_one, ih]
      constructor
      · intro cut
        rcases cut with rfl | ⟨_, ⟨a, letter, rfl⟩, v, ⟨short, within⟩, rfl⟩
        · simp
        · exact ⟨by simp; omega, List.forall_mem_cons.mpr ⟨letter, within⟩⟩
      · intro run
        obtain ⟨short, within⟩ := run
        cases w with
        | nil => exact .inl rfl
        | cons a rest =>
            obtain ⟨letter, later⟩ := List.forall_mem_cons.mp within
            exact .inr ⟨[a], ⟨a, letter, rfl⟩, rest, ⟨by simpa using short, later⟩, rfl⟩

/-! ## Lists of words -/

/-- Where each is the image of something, the list is. -/
theorem exists_map_eq {β γ : Type*} {f : β → γ} {p : β → Prop} {us : List γ}
    (each : ∀ u ∈ us, ∃ v, p v ∧ f v = u) : ∃ vs : List β, (∀ v ∈ vs, p v) ∧ vs.map f = us := by
  induction us with
  | nil => exact ⟨[], by simp, rfl⟩
  | cons u rest ih =>
      obtain ⟨⟨v, here, rfl⟩, later⟩ := List.forall_mem_cons.mp each
      obtain ⟨vs, all, rfl⟩ := ih later
      exact ⟨v :: vs, List.forall_mem_cons.mpr ⟨here, all⟩, rfl⟩

theorem intercalate_cons (mark : α) (first : List α) (rest : List (List α)) :
    [mark].intercalate (first :: rest) = first ++ rest.flatMap (mark :: ·) := by
  induction rest generalizing first with
  | nil => simp
  | cons second more ih =>
      rw [List.intercalate_cons_cons, ih]
      simp

theorem mem_intercalate {mark a : α} {us : List (List α)} (inside : a ∈ [mark].intercalate us) :
    a = mark ∨ ∃ u ∈ us, a ∈ u := by
  cases us with
  | nil => cases inside
  | cons first rest =>
      rw [intercalate_cons] at inside
      rcases List.mem_append.mp inside with front | later
      · exact .inr ⟨first, List.mem_cons_self, front⟩
      · obtain ⟨u, member, there⟩ := List.mem_flatMap.mp later
        exact (List.mem_cons.mp there).imp id (fun own => ⟨u, List.mem_cons_of_mem _ member, own⟩)

/-- Words that a letter ends, and a last one, are words it separates. -/
theorem flatMap_append_eq_intercalate (mark : α) (us : List (List α)) (last : List α) :
    us.flatMap (· ++ [mark]) ++ last = [mark].intercalate (us ++ [last]) := by
  induction us with
  | nil => simp
  | cons u rest ih =>
      rw [List.flatMap_cons, List.append_assoc, ih, List.cons_append,
        List.intercalate_cons_of_ne_nil (by simp)]

/-- The last of a letter's places cuts a word in one way. -/
theorem append_cons_inj {mark : α} {front front' back back' : List α} (free : mark ∉ back)
    (free' : mark ∉ back') (same : front ++ mark :: back = front' ++ mark :: back') :
    front = front' ∧ back = back' := by
  rcases List.append_eq_append_iff.mp same with ⟨more, rfl, rest⟩ | ⟨more, rfl, rest⟩
  · cases more with
    | nil => exact ⟨(List.append_nil front).symm, (List.cons.inj rest).2⟩
    | cons a later =>
        rw [(List.cons.inj rest).2] at free
        exact absurd (List.mem_append_right _ List.mem_cons_self) free
  · cases more with
    | nil => exact ⟨List.append_nil front', (List.cons.inj rest).2.symm⟩
    | cons a later =>
        rw [(List.cons.inj rest).2] at free'
        exact absurd (List.mem_append_right _ List.mem_cons_self) free'

variable [DecidableEq α] {r : Regex α} {mark : α} {w : List α}

/-- Words with a letter between them. -/
theorem mem_separated : w ∈ (seq r (many (seq (char mark) r))).language ↔
    ∃ first rest, first ∈ r.language ∧ (∀ u ∈ rest, u ∈ r.language) ∧
      [mark].intercalate (first :: rest) = w := by
  simp only [mem_seq, mem_many, mem_char, intercalate_cons]
  constructor
  · intro cut
    obtain ⟨first, inside, _, ⟨rounds, rfl, each⟩, rfl⟩ := cut
    have marked : ∀ u ∈ rounds, ∃ v, v ∈ r.language ∧ mark :: v = u := by
      intro u member
      obtain ⟨_, rfl, v, here, rfl⟩ := each u member
      exact ⟨v, here, rfl⟩
    obtain ⟨rest, all, rfl⟩ := exists_map_eq marked
    exact ⟨first, rest, inside, all, by rw [List.flatMap_def]⟩
  · intro cut
    obtain ⟨first, rest, inside, all, rfl⟩ := cut
    refine ⟨first, inside, _, ⟨rest.map (mark :: ·), List.flatMap_def.symm, ?_⟩, rfl⟩
    intro u member
    obtain ⟨v, here, rfl⟩ := List.mem_map.mp member
    exact ⟨[mark], rfl, v, all v here, rfl⟩

/-- Words that a letter ends, one at least. -/
theorem mem_terminated : w ∈ (oneOrMore (seq r (char mark))).language ↔
    ∃ us : List (List α), us ≠ [] ∧ (∀ u ∈ us, u ∈ r.language) ∧ us.flatMap (· ++ [mark]) = w := by
  simp only [mem_oneOrMore, mem_seq, mem_char]
  constructor
  · intro cut
    obtain ⟨rounds, nonempty, rfl, each⟩ := cut
    have marked : ∀ u ∈ rounds, ∃ v, v ∈ r.language ∧ v ++ [mark] = u := by
      intro u member
      obtain ⟨v, here, _, rfl, rfl⟩ := each u member
      exact ⟨v, here, rfl⟩
    obtain ⟨us, all, rfl⟩ := exists_map_eq marked
    exact ⟨us, by simpa using nonempty, all, List.flatMap_def⟩
  · intro cut
    obtain ⟨us, nonempty, all, rfl⟩ := cut
    refine ⟨us.map (· ++ [mark]), by simpa using nonempty, List.flatMap_def.symm, ?_⟩
    intro u member
    obtain ⟨v, here, rfl⟩ := List.mem_map.mp member
    exact ⟨v, all v here, [mark], rfl, rfl⟩

/-- What a letter separates is read back, if none of it holds the letter. -/
theorem intercalate_inj {us vs : List (List α)} (nonempty : us ≠ []) (nonempty' : vs ≠ [])
    (free : ∀ u ∈ us, mark ∉ u) (free' : ∀ v ∈ vs, mark ∉ v)
    (same : [mark].intercalate us = [mark].intercalate vs) : us = vs := by
  rw [← List.splitOn_intercalate mark free nonempty, same, List.splitOn_intercalate mark free' nonempty']

end Regex

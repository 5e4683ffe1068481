import Mathlib.Data.List.Basic

/-! # Runs of reactive machines

A machine takes any input in any state; the inputs a state cannot react to are
steps that change nothing. A run therefore exists for every input list, and a
property of all runs is a property of all input lists.

Three rules carry the results about runs. `good_iff_guarded` turns a one-step
statement into the exact condition under which every step of a run is good.
`goodThroughout_iff_guarded` does the same where a bad step shows only later,
when what an earlier step left pending is completed, and `unspoiled_iff` where a
step spoils something that only some later steps use.
-/

namespace Machine

variable {σ ι ω : Type*}

/-- The next state, and what the step lets out. -/
abbrev Step (σ ι ω : Type*) := σ → ι → σ × List ω

/-- One step of a run, with the state it was taken in. -/
structure Fired (σ ι ω : Type*) where
  before : σ
  input : ι
  effects : List ω
  after : σ

def fire (step : Step σ ι ω) (s : σ) (i : ι) : Fired σ ι ω :=
  { before := s
    input := i
    effects := (step s i).2
    after := (step s i).1 }

def run (step : Step σ ι ω) : σ → List ι → List (Fired σ ι ω)
  | _, [] => []
  | s, i :: rest => fire step s i :: run step (step s i).1 rest

/-- The state a run ends in. -/
def final (step : Step σ ι ω) : σ → List ι → σ
  | s, [] => s
  | s, i :: rest => final step (step s i).1 rest

/-- Everything a run lets out, in order. -/
def output (step : Step σ ι ω) (s : σ) (is : List ι) : List ω :=
  (run step s is).flatMap Fired.effects

section Runs

variable (step : Step σ ι ω)

@[simp] theorem fire_before (s : σ) (i : ι) : (fire step s i).before = s := rfl

@[simp] theorem fire_input (s : σ) (i : ι) : (fire step s i).input = i := rfl

@[simp] theorem fire_effects (s : σ) (i : ι) : (fire step s i).effects = (step s i).2 := rfl

@[simp] theorem fire_after (s : σ) (i : ι) : (fire step s i).after = (step s i).1 := rfl

@[simp] theorem run_nil (s : σ) : run step s [] = [] := rfl

@[simp] theorem run_cons (s : σ) (i : ι) (rest : List ι) :
    run step s (i :: rest) = fire step s i :: run step (step s i).1 rest := rfl

@[simp] theorem final_nil (s : σ) : final step s [] = s := rfl

@[simp] theorem final_cons (s : σ) (i : ι) (rest : List ι) :
    final step s (i :: rest) = final step (step s i).1 rest := rfl

theorem run_append (s : σ) (first second : List ι) :
    run step s (first ++ second) = run step s first ++ run step (final step s first) second := by
  induction first generalizing s with
  | nil => rfl
  | cons i rest ih => simp only [List.cons_append, run_cons, final_cons, ih]

theorem final_append (s : σ) (first second : List ι) :
    final step s (first ++ second) = final step (final step s first) second := by
  induction first generalizing s with
  | nil => rfl
  | cons i rest ih => simp only [List.cons_append, final_cons, ih]

@[simp] theorem output_nil (s : σ) : output step s [] = [] := rfl

@[simp] theorem output_cons (s : σ) (i : ι) (rest : List ι) :
    output step s (i :: rest) = (step s i).2 ++ output step (step s i).1 rest := rfl

/-- A member of a run is a step of the machine. -/
theorem eq_fire_of_mem {s : σ} {is : List ι} {f : Fired σ ι ω} (member : f ∈ run step s is) :
    f = fire step f.before f.input := by
  induction is generalizing s with
  | nil => simp at member
  | cons i rest ih =>
      rcases List.mem_cons.mp member with rfl | later
      · rfl
      · exact ih later

theorem input_mem_of_mem {s : σ} {is : List ι} {f : Fired σ ι ω} (member : f ∈ run step s is) :
    f.input ∈ is := by
  induction is generalizing s with
  | nil => simp at member
  | cons i rest ih =>
      rcases List.mem_cons.mp member with rfl | later
      · exact List.mem_cons_self
      · exact List.mem_cons_of_mem i (ih later)

/-- A run cut at one of its steps: the inputs before it, its own, and those the
    rest of the run is made of. -/
theorem exists_cut {s : σ} {is : List ι} {f : Fired σ ι ω} {pre post : List (Fired σ ι ω)}
    (shape : run step s is = pre ++ f :: post) :
    ∃ front back, is = front ++ f.input :: back ∧ pre = run step s front ∧
      f = fire step (final step s front) f.input ∧ post = run step f.after back := by
  induction pre generalizing s is with
  | nil =>
      cases is with
      | nil => simp at shape
      | cons i rest =>
          simp only [run_cons, List.nil_append, List.cons.injEq] at shape
          obtain ⟨rfl, rfl⟩ := shape
          exact ⟨[], rest, rfl, rfl, rfl, rfl⟩
  | cons g pre ih =>
      cases is with
      | nil => simp at shape
      | cons i rest =>
          simp only [run_cons, List.cons_append, List.cons.injEq] at shape
          obtain ⟨rfl, shape⟩ := shape
          obtain ⟨front, back, rfl, rfl, fired, tail⟩ := ih shape
          exact ⟨i :: front, back, rfl, rfl, fired, tail⟩

/-- A run of at least one step ends where its last step does. -/
theorem exists_last (s : σ) {is : List ι} (nonempty : is ≠ []) :
    ∃ f ∈ run step s is, f.after = final step s is := by
  induction is generalizing s with
  | nil => contradiction
  | cons i rest ih =>
      cases rest with
      | nil => exact ⟨fire step s i, List.mem_cons_self, rfl⟩
      | cons j rest =>
          obtain ⟨f, member, last⟩ := ih (step s i).1 (by simp)
          exact ⟨f, List.mem_cons_of_mem _ member, last⟩

/-- What holds at the end of a run and not at its start came about in one of its steps. -/
theorem exists_gain {p : σ → Prop} {s : σ} {is : List ι} (ends : p (final step s is)) (starts : ¬ p s) :
    ∃ f ∈ run step s is, ¬ p f.before ∧ p f.after := by
  induction is generalizing s with
  | nil => exact absurd ends starts
  | cons i rest ih =>
      by_cases already : p (step s i).1
      · exact ⟨fire step s i, List.mem_cons_self, starts, already⟩
      · obtain ⟨f, member, gained⟩ := ih ends already
        exact ⟨f, List.mem_cons_of_mem _ member, gained⟩

end Runs

section Invariants

variable {step : Step σ ι ω} {Inv : σ → Prop} {Guard : σ → ι → Prop}
  {Good : Fired σ ι ω → Prop}

/-- What every guarded step keeps holds around every step of a guarded run. -/
theorem invariant_of_guarded (keeps : ∀ s i, Inv s → Guard s i → Inv (step s i).1)
    {s : σ} (start : Inv s) {is : List ι}
    (guarded : ∀ f ∈ run step s is, Guard f.before f.input) :
    ∀ f ∈ run step s is, Inv f.before ∧ Inv f.after := by
  induction is generalizing s with
  | nil => simp
  | cons i rest ih =>
      simp only [run_cons, List.forall_mem_cons] at guarded ⊢
      have next : Inv (step s i).1 := keeps s i start guarded.1
      exact ⟨⟨start, next⟩, ih next guarded.2⟩

theorem final_of_guarded (keeps : ∀ s i, Inv s → Guard s i → Inv (step s i).1)
    {s : σ} (start : Inv s) {is : List ι}
    (guarded : ∀ f ∈ run step s is, Guard f.before f.input) : Inv (final step s is) := by
  induction is generalizing s with
  | nil => exact start
  | cons i rest ih =>
      simp only [run_cons, List.forall_mem_cons] at guarded
      exact ih (keeps s i start guarded.1) guarded.2

/-- What every step keeps holds around every step of every run. -/
theorem invariant_of_kept (keeps : ∀ s i, Inv s → Inv (step s i).1)
    {s : σ} (start : Inv s) (is : List ι) :
    ∀ f ∈ run step s is, Inv f.before ∧ Inv f.after :=
  invariant_of_guarded (fun s i inv (_ : True) => keeps s i inv) start (fun _ _ => trivial)

theorem final_of_kept (keeps : ∀ s i, Inv s → Inv (step s i).1) {s : σ} (start : Inv s)
    (is : List ι) : Inv (final step s is) :=
  final_of_guarded (fun s i inv (_ : True) => keeps s i inv) start (fun _ (_ : _ ∈ run step s is) => trivial)

/-- Where each counted step of a guarded run takes one from a quantity and every
    other step leaves it, what is left at the end and the count make up the start. -/
theorem countP_add_final {counted : Fired σ ι ω → Bool} {left : σ → Nat}
    (keeps : ∀ s i, Inv s → Guard s i → Inv (step s i).1)
    (takes : ∀ s i, Inv s → Guard s i →
      (if counted (fire step s i) then 1 else 0) + left (step s i).1 = left s)
    {s : σ} (start : Inv s) {is : List ι}
    (guarded : ∀ f ∈ run step s is, Guard f.before f.input) :
    (run step s is).countP counted + left (final step s is) = left s := by
  induction is generalizing s with
  | nil => simp
  | cons i rest ih =>
      simp only [run_cons, List.forall_mem_cons] at guarded
      have here := takes s i start guarded.1
      have later := ih (keeps s i start guarded.1) guarded.2
      simp only [run_cons, List.countP_cons, final_cons]
      omega

/-- A guard that separates the good steps from the bad ones while the invariant
    holds is the exact condition for a run of good steps. -/
theorem good_iff_guarded (keeps : ∀ s i, Inv s → Guard s i → Inv (step s i).1)
    (good : ∀ s i, Inv s → Guard s i → Good (fire step s i))
    (bad : ∀ s i, Inv s → ¬ Guard s i → ¬ Good (fire step s i))
    {s : σ} (start : Inv s) (is : List ι) :
    (∀ f ∈ run step s is, Good f) ↔ ∀ f ∈ run step s is, Guard f.before f.input := by
  induction is generalizing s with
  | nil => simp
  | cons i rest ih =>
      simp only [run_cons, List.forall_mem_cons, fire_before, fire_input]
      by_cases guarded : Guard s i
      · simp only [good s i start guarded, guarded, true_and]
        exact ih (keeps s i start guarded)
      · simp only [bad s i start guarded, guarded, false_and]

end Invariants

section Spoiling

variable {step : Step σ ι ω} {Inv Ok : σ → Prop} {Sound Spoils Uses : σ → ι → Prop}

/-- Once it is spoiled, nothing may use it any more. -/
theorem unused_iff (keeps : ∀ s i, Inv s → Sound s i → Inv (step s i).1)
    (stays : ∀ s i, Inv s → ¬ Ok s → Sound s i → ¬ Uses s i → ¬ Ok (step s i).1)
    {s : σ} (start : Inv s) (spoiled : ¬ Ok s) (is : List ι) :
    (∀ f ∈ run step s is, Sound f.before f.input ∧ (Uses f.before f.input → Ok f.before)) ↔
      (∀ f ∈ run step s is, Sound f.before f.input) ∧
        ∀ f ∈ run step s is, ¬ Uses f.before f.input := by
  induction is generalizing s with
  | nil => simp
  | cons i rest ih =>
      simp only [run_cons, List.forall_mem_cons, fire_before, fire_input]
      by_cases sound : Sound s i
      · by_cases used : Uses s i
        · simp [used, spoiled]
        · have later := ih (keeps s i start sound) (stays s i start spoiled sound used)
          simp only [sound, used, later, false_implies, true_and, not_false_eq_true]
      · simp [sound]

/-- Where a step leaves the state fit for use unless it spoils it, every use in a run
    is of a fit state exactly if none comes after a step that spoils it. -/
theorem unspoiled_iff (keeps : ∀ s i, Inv s → Sound s i → Inv (step s i).1)
    (spoils : ∀ s i, Inv s → Ok s → Sound s i → (Ok (step s i).1 ↔ ¬ Spoils s i))
    (stays : ∀ s i, Inv s → ¬ Ok s → Sound s i → ¬ Uses s i → ¬ Ok (step s i).1)
    {s : σ} (start : Inv s) (fit : Ok s) (is : List ι) :
    (∀ f ∈ run step s is, Sound f.before f.input ∧ (Uses f.before f.input → Ok f.before)) ↔
      (∀ f ∈ run step s is, Sound f.before f.input) ∧
        (run step s is).Pairwise fun f g => Spoils f.before f.input → ¬ Uses g.before g.input := by
  induction is generalizing s with
  | nil => simp
  | cons i rest ih =>
      simp only [run_cons, List.forall_mem_cons, List.pairwise_cons, fire_before, fire_input]
      by_cases sound : Sound s i
      · have next := keeps s i start sound
        by_cases spoilt : Spoils s i
        · have unfit : ¬ Ok (step s i).1 := fun still => (spoils s i start fit sound).mp still spoilt
          rw [unused_iff keeps stays next unfit rest]
          constructor
          · intro both
            obtain ⟨-, later, unused⟩ := both
            refine ⟨⟨sound, later⟩, fun g member _ => unused g member, ?_⟩
            exact List.pairwise_of_forall_mem_list fun f _ g member _ => unused g member
          · intro both
            obtain ⟨⟨-, later⟩, unused, -⟩ := both
            exact ⟨⟨sound, fun _ => fit⟩, later, fun g member => unused g member spoilt⟩
        · have later := ih next ((spoils s i start fit sound).mpr spoilt)
          simp only [sound, fit, spoilt, later, implies_true, false_implies, true_and]
      · simp [sound]

end Spoiling

section Completions

variable (step : Step σ ι ω) (Completes : List ι → Prop) (Good : Fired σ ι ω → Prop)

/-- Every step is good in every run that takes some of the inputs and is then
    completed. -/
def GoodThroughout (s : σ) (is : List ι) : Prop :=
  ∀ front, front <+: is → ∀ tail, Completes tail → ∀ f ∈ run step s (front ++ tail), Good f

variable {step Completes Good} {Inv : σ → Prop} {Guard : σ → ι → Prop}

theorem GoodThroughout.tail {s : σ} {i : ι} {rest : List ι}
    (all : GoodThroughout step Completes Good s (i :: rest)) :
    GoodThroughout step Completes Good (step s i).1 rest := by
  intro front isPrefix tail completes f member
  have longer : i :: front <+: i :: rest := List.cons_prefix_cons.mpr ⟨rfl, isPrefix⟩
  exact all (i :: front) longer tail completes f (List.mem_cons_of_mem _ member)

/-- Completing a part of a guarded run keeps it guarded. -/
theorem guarded_append (keeps : ∀ s i, Inv s → Guard s i → Inv (step s i).1)
    (completion : ∀ s tail, Inv s → Completes tail → ∀ f ∈ run step s tail, Guard f.before f.input)
    {s : σ} (start : Inv s) {is front tail : List ι} (isPrefix : front <+: is)
    (guarded : ∀ f ∈ run step s is, Guard f.before f.input) (completes : Completes tail) :
    ∀ f ∈ run step s (front ++ tail), Guard f.before f.input := by
  obtain ⟨back, rfl⟩ := isPrefix
  have frontGuarded : ∀ f ∈ run step s front, Guard f.before f.input := by
    intro f member
    exact guarded f (by rw [run_append]; exact List.mem_append_left _ member)
  have middle : Inv (final step s front) := final_of_guarded keeps start frontGuarded
  intro f member
  rw [run_append] at member
  exact (List.mem_append.mp member).elim (frontGuarded f) (completion _ tail middle completes f)

/-- As `good_iff_guarded`, for a guard whose violation may show only when the run is
    completed after it. -/
theorem goodThroughout_iff_guarded (keeps : ∀ s i, Inv s → Guard s i → Inv (step s i).1)
    (good : ∀ s i, Inv s → Guard s i → Good (fire step s i))
    (completion : ∀ s tail, Inv s → Completes tail → ∀ f ∈ run step s tail, Guard f.before f.input)
    (bad : ∀ s i, Inv s → ¬ Guard s i → ∃ tail,
      Completes tail ∧ ∃ f ∈ run step s (i :: tail), ¬ Good f)
    {s : σ} (start : Inv s) (is : List ι) :
    GoodThroughout step Completes Good s is ↔ ∀ f ∈ run step s is, Guard f.before f.input := by
  constructor
  · intro all
    induction is generalizing s with
    | nil => simp
    | cons i rest ih =>
        have guarded : Guard s i := by
          by_contra violated
          obtain ⟨tail, completes, f, member, notGood⟩ := bad s i start violated
          exact notGood (all [i] (by simp) tail completes f member)
        simp only [run_cons, List.forall_mem_cons, fire_before, fire_input]
        exact ⟨guarded, ih (keeps s i start guarded) all.tail⟩
  · intro guarded front isPrefix tail completes f member
    have allGuarded := guarded_append keeps completion start isPrefix guarded completes
    have inv : Inv f.before := (invariant_of_guarded keeps start allGuarded f member).1
    rw [eq_fire_of_mem step member]
    exact good f.before f.input inv (allGuarded f member)

end Completions

end Machine

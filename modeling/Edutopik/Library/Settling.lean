import Edutopik.Library.Colony
import Edutopik.Library.EventLoop
import Edutopik.Library.History

/-! # Machines that come to rest

Some inputs of a machine begin something, and others are what it waits for. What is
begun leaves a certain number of answers due; each answer taken uses one of them up, and
may leave fewer behind than there were. A machine that keeps these accounts begins
nothing by itself: it takes no more answers than were due for what it was given.
-/

namespace Machine

variable {σ ι ω : Type*} {step : Step σ ι ω} {awaits : σ → ι → Bool} {due : σ → Nat}
  {weight : ω → Nat} {cost : ι → Nat}

/-- An answer that is awaited lowers what is due, and an input raises it by its cost at
    most. What is let out may have answers due elsewhere. -/
def Settles (step : Step σ ι ω) (awaits : σ → ι → Bool) (due : σ → Nat) (weight : ω → Nat)
    (cost : ι → Nat) : Prop :=
  ∀ s i, (awaits s i).toNat + due (step s i).1 + ((step s i).2.map weight).sum ≤ due s + cost i

/-- The answers taken in a run and those due at its end are paid for. -/
theorem Settles.run (settles : Settles step awaits due weight cost) (s : σ) (is : List ι) :
    (run step s is).countP (fun f => awaits f.before f.input) + due (final step s is) ≤
      due s + (is.map cost).sum := by
  induction is generalizing s with
  | nil => simp
  | cons i rest ih =>
      have here := settles s i
      have later := ih (step s i).1
      rw [run_cons, List.countP_cons, final_cons, List.map_cons, List.sum_cons]
      cases taken : awaits s i with
      | false =>
          simp only [taken, Bool.toNat_false] at here
          simp only [fire_before, fire_input, taken, Bool.false_eq_true, if_false]
          omega
      | true =>
          simp only [taken, Bool.toNat_true] at here
          simp only [fire_before, fire_input, taken, if_true]
          omega

end Machine

open Machine

namespace EventLoop

variable {σ τ ε ρ ω : Type*} {loop : Loop σ τ ε ρ ω} {rank : τ → Nat} {weight : ω → Nat}
  {price : ε → Nat}

/-- What the pending tasks have due. -/
def World.due (rank : τ → Nat) (w : World σ τ) : Nat := (w.tasks.map rank).sum

def World.awaits (w : World σ τ) : Input ε ρ → Bool
  | .event _ => false
  | .resume k _ => (w.tasks[k]?).isSome

/-- What a turn leaves due, here or elsewhere. -/
def Turn.due (rank : τ → Nat) (weight : ω → Nat) (turn : Turn σ τ ω) : Nat :=
  (turn.tasks.map rank).sum + (turn.effects.map weight).sum

@[simp] theorem Turn.due_weightless (turn : Turn σ τ ω) :
    turn.due rank (fun _ => 0) = (turn.tasks.map rank).sum := by
  simp [Turn.due]

def Input.cost (price : ε → Nat) : Input ε ρ → Nat
  | .event e => price e
  | .resume _ _ => 0

theorem sum_replaceAt {k : Nat} {tasks : List τ} {t : τ} (located : tasks[k]? = some t)
    (rank : τ → Nat) (new : List τ) :
    ((replaceAt k new tasks).map rank).sum + rank t = (tasks.map rank).sum + (new.map rank).sum := by
  obtain ⟨front, back, rfl, -, replaced⟩ := exists_split located
  simp only [replaced, List.map_append, List.map_cons, List.sum_append, List.sum_cons]
  omega

/-- It is enough to look at one turn of each handler and of each pending task. -/
theorem Loop.settles (react : ∀ s e, (loop.react s e).due rank weight ≤ price e)
    (resume : ∀ s t r, (loop.resume s t r).due rank weight < rank t) :
    Settles loop.step World.awaits (World.due rank) weight (Input.cost price) := by
  intro w i
  rcases step_cases w i with ⟨e, rfl⟩ | ⟨k, r, rfl, missing⟩ | ⟨k, r, t, rfl, located⟩
  · have turn := react w.shared e
    simp only [Turn.due] at turn
    simp only [step_event, World.awaits, World.due, Input.cost, Bool.toNat_false, List.map_append,
      List.sum_append]
    omega
  · simp [step_idle loop missing, World.awaits, missing, Input.cost]
  · have turn := resume w.shared t r
    have sum := sum_replaceAt located rank (loop.resume w.shared t r).tasks
    simp only [Turn.due] at turn
    simp only [step_resume loop located, World.awaits, located, Option.isSome_some, Bool.toNat_true,
      World.due, Input.cost]
    omega

end EventLoop

namespace Colony

variable {γ σ ι ω : Type*} {c : Colony γ σ ι ω} {waits : σ → ι → Bool} {rank : σ → Nat}
  {price : ι → Nat}

def State.due (rank : σ → Nat) (s : State γ σ) : Nat := (s.members.map rank).sum

def State.awaits (waits : σ → ι → Bool) (s : State γ σ) (input : Nat × ι) : Bool :=
  (s.members[input.1]?).any (waits · input.2)

theorem sum_set {members : List σ} {k : Nat} {m : σ} (located : members[k]? = some m)
    (rank : σ → Nat) (moved : σ) :
    ((members.set k moved).map rank).sum + rank m = (members.map rank).sum + rank moved := by
  induction members generalizing k with
  | nil => simp at located
  | cons first rest ih =>
      cases k with
      | zero =>
          cases located
          simp only [List.set_cons_zero, List.map_cons, List.sum_cons]
          omega
      | succ k =>
          have later := ih located
          simp only [List.set_cons_succ, List.map_cons, List.sum_cons]
          omega

/-- What a member starts is due from then on. -/
theorem settles (member : ∀ k g m i, (waits m i).toNat + rank (c.member k g m i).1.2 +
      (((c.member k g m i).2.flatMap c.starts).map fun begun => rank begun.1).sum ≤ rank m + price i) :
    Settles c.step (State.awaits waits) (State.due rank) (fun _ => 0) (fun i => price i.2) := by
  intro s input
  obtain ⟨k, i⟩ := input
  cases located : s.members[k]? with
  | none => simp [step_absent located, State.awaits, located]
  | some m =>
      have here := member k s.shared m i
      have sum := sum_set located rank (c.member k s.shared m i).1.2
      simp only [members_of_step located, State.awaits, located, Option.any_some, State.due, begun,
        List.map_append, List.sum_append, List.map_map, Function.comp_def]
      have nothing : ∀ out : List (Nat × ω), (out.map fun _ => 0).sum = 0 := by simp
      rw [nothing]
      omega

end Colony

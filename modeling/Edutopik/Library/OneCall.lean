import Edutopik.Library.EventLoop

/-! # One call among many

A call is what becomes of one task: it is resumed, leaves a task for its next await,
and so on until it leaves none. Between two of its steps the others move it about in
the list of pending tasks, but none of them resumes it. `call_rule` therefore proves
a property of the steps of one call by induction on the call, for every interleaving
with the rest.
-/

namespace EventLoop

open Machine

variable {σ τ ε ρ ω : Type*}

/-- The steps of a run that belong to the call pending at `k`. -/
def Loop.call (loop : Loop σ τ ε ρ ω) :
    World σ τ → Nat → List (Input ε ρ) → List (Fired (World σ τ) (Input ε ρ) ω)
  | _, _, [] => []
  | w, k, .event e :: rest => loop.call (loop.step w (.event e)).1 k rest
  | w, k, .resume j r :: rest =>
      match w.tasks[j]? with
      | none => loop.call w k rest
      | some t =>
          let next := (loop.step w (.resume j r)).1
          let left := (loop.resume w.shared t r).tasks
          if j = k then
            fire loop.step w (.resume j r) :: (if left.isEmpty then [] else loop.call next k rest)
          else if j < k then loop.call next (k + left.length - 1) rest
          else loop.call next k rest

/-- They are steps of the run, in its order. -/
theorem call_sublist (loop : Loop σ τ ε ρ ω) (w : World σ τ) (k : Nat) (is : List (Input ε ρ)) :
    (loop.call w k is).Sublist (run loop.step w is) := by
  induction is generalizing w k with
  | nil => exact List.Sublist.refl _
  | cons i rest ih =>
      cases i with
      | event e => exact (ih _ k).cons _
      | resume j r =>
          unfold Loop.call
          cases located : w.tasks[j]? with
          | none =>
              rw [run_cons, step_idle loop located]
              exact (ih w k).cons _
          | some t =>
              dsimp only
              split
              · apply List.Sublist.cons_cons
                split
                · exact List.nil_sublist _
                · exact ih _ k
              · split
                · exact (ih _ _).cons _
                · exact (ih _ k).cons _

/-! ## Where a task goes when another one is replaced -/

theorem replaceAt_before {j k : Nat} {successors tasks : List τ} {t : τ}
    (located : tasks[k]? = some t) (before : j < k) :
    (replaceAt j successors tasks)[k + successors.length - 1]? = some t := by
  have inside : k < tasks.length := (List.getElem?_eq_some_iff.mp located).1
  have front : (tasks.take j ++ successors).length = j + successors.length := by
    rw [List.length_append, List.length_take]
    omega
  have place : k + successors.length - 1 - (j + successors.length) = k - (j + 1) := by omega
  rw [replaceAt, List.getElem?_append_right (by omega), front, place, List.getElem?_drop]
  rw [Nat.add_sub_cancel' before]
  exact located

theorem replaceAt_after {j k : Nat} {successors tasks : List τ} {t : τ}
    (located : tasks[k]? = some t) (after : k < j) : (replaceAt j successors tasks)[k]? = some t := by
  have inside : k < tasks.length := (List.getElem?_eq_some_iff.mp located).1
  have front : k < (tasks.take j).length := by
    rw [List.length_take]
    omega
  rw [replaceAt, List.append_assoc, List.getElem?_append_left front, List.getElem?_take_of_lt after]
  exact located

theorem countP_replaceAt {k : Nat} {tasks : List τ} {t : τ} (located : tasks[k]? = some t)
    (p : τ → Bool) (successors : List τ) :
    (replaceAt k successors tasks).countP p + (p t).toNat = tasks.countP p + successors.countP p := by
  obtain ⟨front, back, rfl, -, replaced⟩ := exists_split located
  rw [replaced]
  simp only [List.countP_append, List.countP_cons]
  cases p t <;> simp <;> omega

/-! ## The rule -/

section Rule

variable {loop : Loop σ τ ε ρ ω} {Inv : World σ τ → Prop}
  {Calls : τ → List (Fired (World σ τ) (Input ε ρ) ω) → Prop}

/-- What holds of a call that is not resumed, of one that ends where it is resumed,
    and of one resumed and going on whenever it holds of how it goes on, holds of every
    call. -/
theorem call_rule (keeps : ∀ w i, Inv w → Inv (loop.step w i).1)
    (waits : ∀ t, Calls t [])
    (ends : ∀ w k t r, Inv w → w.tasks[k]? = some t → (loop.resume w.shared t r).tasks = [] →
      Calls t [fire loop.step w (.resume k r)])
    (goes : ∀ w k t r next more steps, Inv w → w.tasks[k]? = some t →
      (loop.resume w.shared t r).tasks = next :: more → Calls next steps →
        Calls t (fire loop.step w (.resume k r) :: steps))
    {w : World σ τ} {k : Nat} {t : τ} (inv : Inv w) (pending : w.tasks[k]? = some t)
    (is : List (Input ε ρ)) : Calls t (loop.call w k is) := by
  induction is generalizing w k t with
  | nil => exact waits t
  | cons i rest ih =>
      have kept := keeps w i inv
      cases i with
      | event e =>
          apply ih kept
          rw [step_event]
          exact (List.getElem?_append_left (List.getElem?_eq_some_iff.mp pending).1).trans pending
      | resume j r =>
          unfold Loop.call
          cases located : w.tasks[j]? with
          | none => exact ih inv pending
          | some other =>
              have stepped := step_resume loop located r
              dsimp only
              split
              · rename_i same
                subst same
                cases pending.symm.trans located
                cases left : (loop.resume w.shared t r).tasks with
                | nil => exact ends w j t r inv pending left
                | cons next more =>
                    apply goes w j t r next more _ inv pending left
                    apply ih kept
                    rw [stepped, left]
                    exact replaceAt_head pending
              · rename_i apart
                split
                · rename_i before
                  apply ih kept
                  rw [stepped]
                  exact replaceAt_before pending before
                · rename_i after
                  apply ih kept
                  rw [stepped]
                  exact replaceAt_after pending (by omega)

end Rule

/-! ## What a call lets out -/

/-- A turn ends the call with what may be let out from the task on, or goes on to a task
    and lets out what may precede anything of that. -/
inductive Utters (Word : τ → List ω → Prop) (t : τ) : Turn σ τ ω → Prop where
  | ends {s effects} : Word t effects → Utters Word t { shared := s, effects := effects }
  | goes {s next effects} : (∀ later, Word next later → Word t (effects ++ later)) →
      Utters Word t { shared := s, tasks := [next], effects := effects }

/-- What may be let out from a task on: nothing yet, or what its turn does. -/
structure Loop.Speaks (loop : Loop σ τ ε ρ ω) (Word : τ → List ω → Prop) : Prop where
  silent : ∀ t, Word t []
  turns : ∀ s t r, Utters Word t (loop.resume s t r)

theorem Loop.Speaks.ends {loop : Loop σ τ ε ρ ω} {Word : τ → List ω → Prop} (speaks : loop.Speaks Word)
    {s : σ} {t : τ} {r : ρ} (last : (loop.resume s t r).tasks = []) :
    Word t (loop.resume s t r).effects := by
  have turn := speaks.turns s t r
  generalize loop.resume s t r = after at turn last
  cases turn with
  | ends word => exact word
  | goes => cases last

theorem Loop.Speaks.goes {loop : Loop σ τ ε ρ ω} {Word : τ → List ω → Prop} (speaks : loop.Speaks Word)
    {s : σ} {t next : τ} {r : ρ} {more : List τ} {later : List ω}
    (left : (loop.resume s t r).tasks = next :: more) (word : Word next later) :
    Word t ((loop.resume s t r).effects ++ later) := by
  have turn := speaks.turns s t r
  generalize loop.resume s t r = after at turn left
  cases turn with
  | ends => cases left
  | goes may =>
      cases left
      exact may later word

/-- Whatever the rest of the run does, a call lets out such a word. -/
theorem Loop.Speaks.call {loop : Loop σ τ ε ρ ω} {Word : τ → List ω → Prop} (speaks : loop.Speaks Word)
    {w : World σ τ} {k : Nat} {t : τ} (pending : w.tasks[k]? = some t) (is : List (Input ε ρ)) :
    Word t ((loop.call w k is).flatMap Fired.effects) := by
  have ends : ∀ (w : World σ τ) k t r, True → w.tasks[k]? = some t →
      (loop.resume w.shared t r).tasks = [] →
        Word t ([fire loop.step w (.resume k r)].flatMap Fired.effects) := by
    intro w k t r _ located last
    simpa [step_resume loop located] using speaks.ends last
  have goes : ∀ (w : World σ τ) k t r next more (steps : List (Fired (World σ τ) (Input ε ρ) ω)),
      True → w.tasks[k]? = some t → (loop.resume w.shared t r).tasks = next :: more →
        Word next (steps.flatMap Fired.effects) →
          Word t ((fire loop.step w (.resume k r) :: steps).flatMap Fired.effects) := by
    intro w k t r next more steps _ located left later
    simpa [step_resume loop located] using speaks.goes left later
  exact call_rule (fun _ _ _ => trivial) speaks.silent ends goes trivial pending is

end EventLoop

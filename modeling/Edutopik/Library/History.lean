import Mathlib.Algebra.BigOperators.Group.List.Basic
import Mathlib.Algebra.GroupWithZero.Nat
import Edutopik.Library.Machine

/-! # What a run has behind it

An invariant may speak of the steps taken so far as well as of the state they led
to: that a request was posted, that an answer came in. Such facts are never lost,
since a history only grows.

The second rule counts. Where every step lets out what it takes in or what the state
held, and nothing gets lost, so does every run.
-/

namespace Machine

variable {σ ι ω : Type*} {step : Step σ ι ω}

/-- One of the steps taken so far was such a step. -/
def Past (p : Fired σ ι ω → Prop) (past : List (Fired σ ι ω)) : Prop := ∃ f ∈ past, p f

namespace Past

variable {p : Fired σ ι ω → Prop} {past : List (Fired σ ι ω)}

theorem more (before : Past p past) (f : Fired σ ι ω) : Past p (past ++ [f]) := by
  obtain ⟨g, member, such⟩ := before
  exact ⟨g, List.mem_append_left _ member, such⟩

theorem now {f : Fired σ ι ω} (such : p f) : Past p (past ++ [f]) :=
  ⟨f, List.mem_append_right _ List.mem_cons_self, such⟩

end Past

section Histories

variable {Inv : List (Fired σ ι ω) → σ → Prop} {Guard : σ → ι → Prop}

theorem history_of_guarded_from (keeps : ∀ past s i, Inv past s → Guard s i →
      Inv (past ++ [fire step s i]) (step s i).1)
    {past : List (Fired σ ι ω)} {s : σ} (start : Inv past s) {is : List ι}
    (guarded : ∀ f ∈ run step s is, Guard f.before f.input) :
    Inv (past ++ run step s is) (final step s is) := by
  induction is generalizing past s with
  | nil => simpa using start
  | cons i rest ih =>
      simp only [run_cons, List.forall_mem_cons] at guarded
      have next := ih (keeps past s i start guarded.1) guarded.2
      simpa using next

/-- What every guarded step keeps, with itself added to the steps behind it, holds of
    every guarded run and the state it ends in. -/
theorem history_of_guarded (keeps : ∀ past s i, Inv past s → Guard s i →
      Inv (past ++ [fire step s i]) (step s i).1)
    {s : σ} (start : Inv [] s) {is : List ι} (guarded : ∀ f ∈ run step s is, Guard f.before f.input) :
    Inv (run step s is) (final step s is) := by
  have whole := history_of_guarded_from keeps start guarded
  simpa using whole

/-- What every step keeps needs no guard. -/
theorem history_of_kept (keeps : ∀ past s i, Inv past s →
      Inv (past ++ [fire step s i]) (step s i).1)
    {s : σ} (start : Inv [] s) (is : List ι) : Inv (run step s is) (final step s is) :=
  history_of_guarded (fun past s i inv (_ : True) => keeps past s i inv) start (fun _ _ => trivial)

end Histories

section Accounts

/-- Where every step is balanced, what a run lets out and what it still holds are what
    it held and took in. -/
theorem spent_eq_received {spends receives : Fired σ ι ω → Nat} {holds : σ → Nat}
    (balanced : ∀ s i, spends (fire step s i) + holds (step s i).1 =
      holds s + receives (fire step s i)) (s : σ) (is : List ι) :
    ((run step s is).map spends).sum + holds (final step s is) =
      holds s + ((run step s is).map receives).sum := by
  induction is generalizing s with
  | nil => simp
  | cons i rest ih =>
      have here := balanced s i
      have later := ih (step s i).1
      simp only [run_cons, List.map_cons, List.sum_cons, final_cons]
      omega

theorem sum_toNat_eq_countP (p : Fired σ ι ω → Bool) (fs : List (Fired σ ι ω)) :
    (fs.map fun f => (p f).toNat).sum = fs.countP p := by
  induction fs with
  | nil => rfl
  | cons f rest ih =>
      rw [List.map_cons, List.sum_cons, List.countP_cons, ih]
      cases p f <;> simp [Nat.add_comm]

end Accounts

end Machine

import Edutopik.Library.Machine

/-! # Cooperative event loops

Handlers share one state and run to their next `await` without interruption.
What is left of a handler at an `await` is a pending task; the loop resumes any
pending task, in any order and after any delay, with the result it waited for.

An invariant of such a loop has two parts: what holds of the shared state, and
what each pending task may rely on when it is resumed. The second part has to
survive everything the other handlers do in the meantime.
-/

namespace EventLoop

variable {σ τ ε ρ ω : Type*}

/-- One uninterrupted stretch of a handler: the state it leaves, the tasks it
    leaves pending, and what it lets out. -/
structure Turn (σ τ ω : Type*) where
  shared : σ
  tasks : List τ := []
  effects : List ω := []

structure Loop (σ τ ε ρ ω : Type*) where
  /-- A handler called by an event. -/
  react : σ → ε → Turn σ τ ω
  /-- A pending task given the result it awaits. -/
  resume : σ → τ → ρ → Turn σ τ ω

structure World (σ τ : Type*) where
  shared : σ
  tasks : List τ

inductive Input (ε ρ : Type*) where
  | event (e : ε)
  | resume (k : Nat) (r : ρ)

/-- Put the successors of the task at `k` in its place. -/
def replaceAt (k : Nat) (successors tasks : List τ) : List τ :=
  tasks.take k ++ successors ++ tasks.drop (k + 1)

def Loop.step (loop : Loop σ τ ε ρ ω) : Machine.Step (World σ τ) (Input ε ρ) ω
  | w, .event e =>
      let turn := loop.react w.shared e
      (⟨turn.shared, w.tasks ++ turn.tasks⟩, turn.effects)
  | w, .resume k r =>
      match w.tasks[k]? with
      | none => (w, [])
      | some t =>
          let turn := loop.resume w.shared t r
          (⟨turn.shared, replaceAt k turn.tasks w.tasks⟩, turn.effects)

theorem mem_replaceAt {k : Nat} {successors tasks : List τ} {t : τ}
    (member : t ∈ replaceAt k successors tasks) : t ∈ successors ∨ t ∈ tasks := by
  simp only [replaceAt, List.mem_append] at member
  rcases member with (front | new) | back
  · exact .inr (List.mem_of_mem_take front)
  · exact .inl new
  · exact .inr (List.mem_of_mem_drop back)

/-- What holds of the pending tasks and of those in place of one of them. -/
theorem forall_mem_replaceAt {P : τ → Prop} {tasks successors : List τ} (held : ∀ t ∈ tasks, P t)
    (own : ∀ t ∈ successors, P t) (k : Nat) : ∀ t ∈ replaceAt k successors tasks, P t := by
  intro t member
  exact (mem_replaceAt member).elim (own t) (held t)

theorem forall_mem_started {P : τ → Prop} {tasks : List τ} {new : τ} (held : ∀ t ∈ tasks, P t)
    (own : P new) : ∀ t ∈ tasks ++ [new], P t :=
  List.forall_mem_append.mpr ⟨held, List.forall_mem_singleton.mpr own⟩

theorem subset_replaceAt (k : Nat) (successors tasks : List τ) :
    successors ⊆ replaceAt k successors tasks := by
  intro t member
  exact List.mem_append_left _ (List.mem_append_right _ member)

/-- The task at `k` split off its list, with the list its successors leave. -/
theorem exists_split {k : Nat} {tasks : List τ} {t : τ} (located : tasks[k]? = some t) :
    ∃ front back, tasks = front ++ t :: back ∧ front.length = k ∧
      ∀ successors, replaceAt k successors tasks = front ++ successors ++ back := by
  obtain ⟨inside, same⟩ := List.getElem?_eq_some_iff.mp located
  refine ⟨tasks.take k, tasks.drop (k + 1), ?_, ?_, fun _ => rfl⟩
  · rw [← same, List.getElem_cons_drop, List.take_append_drop]
  · simp only [List.length_take]
    omega

/-- The first of the tasks left takes the place of the one resumed. -/
theorem replaceAt_head {k : Nat} {tasks more : List τ} {t next : τ}
    (located : tasks[k]? = some t) : (replaceAt k (next :: more) tasks)[k]? = some next := by
  obtain ⟨front, back, rfl, rfl, replaced⟩ := exists_split located
  simp [replaced]

section Steps

variable (loop : Loop σ τ ε ρ ω)

theorem step_event (w : World σ τ) (e : ε) :
    loop.step w (.event e) = (⟨(loop.react w.shared e).shared,
      w.tasks ++ (loop.react w.shared e).tasks⟩, (loop.react w.shared e).effects) := rfl

theorem step_idle {w : World σ τ} {k : Nat} (missing : w.tasks[k]? = none) (r : ρ) :
    loop.step w (.resume k r) = (w, []) := by
  simp only [Loop.step, missing]

theorem step_resume {w : World σ τ} {k : Nat} {t : τ} (located : w.tasks[k]? = some t) (r : ρ) :
    loop.step w (.resume k r) = (⟨(loop.resume w.shared t r).shared,
      replaceAt k (loop.resume w.shared t r).tasks w.tasks⟩, (loop.resume w.shared t r).effects) := by
  simp only [Loop.step, located]

theorem shared_of_resume {w : World σ τ} {k : Nat} {t : τ} (located : w.tasks[k]? = some t) (r : ρ) :
    (loop.step w (.resume k r)).1.shared = (loop.resume w.shared t r).shared := by
  rw [step_resume loop located]

theorem effects_of_resume {w : World σ τ} {k : Nat} {t : τ} (located : w.tasks[k]? = some t) (r : ρ) :
    (loop.step w (.resume k r)).2 = (loop.resume w.shared t r).effects := by
  rw [step_resume loop located]

/-- A task that is resumed passes its place on to the first task it leaves. -/
theorem place_of_resume {w : World σ τ} {k : Nat} {t next : τ} {more : List τ} {r : ρ}
    (located : w.tasks[k]? = some t) (left : (loop.resume w.shared t r).tasks = next :: more) :
    (loop.step w (.resume k r)).1.tasks[k]? = some next := by
  rw [step_resume loop located, left]
  exact replaceAt_head located

/-- A lone task leaves its successors. -/
@[simp] theorem step_lone (s : σ) (t : τ) (r : ρ) :
    loop.step ⟨s, [t]⟩ (.resume 0 r) = (⟨(loop.resume s t r).shared, (loop.resume s t r).tasks⟩,
      (loop.resume s t r).effects) := by
  simp [Loop.step, replaceAt]

@[simp] theorem step_none (s : σ) (k : Nat) (r : ρ) :
    loop.step ⟨s, []⟩ (.resume k r) = (⟨s, []⟩, []) := rfl

/-- The task started last leaves its successors at the end. -/
theorem step_newest (s : σ) (tasks : List τ) (t : τ) (r : ρ) :
    loop.step ⟨s, tasks ++ [t]⟩ (.resume tasks.length r) = (⟨(loop.resume s t r).shared,
      tasks ++ (loop.resume s t r).tasks⟩, (loop.resume s t r).effects) := by
  simp [Loop.step, replaceAt]

theorem step_beyond (s : σ) (tasks : List τ) (r : ρ) :
    loop.step ⟨s, tasks⟩ (.resume tasks.length r) = (⟨s, tasks⟩, []) :=
  step_idle loop (by simp) r

/-- Every step is a handler's turn, a task's turn, or nothing at all. -/
theorem step_cases (w : World σ τ) (i : Input ε ρ) :
    (∃ e, i = .event e) ∨ (∃ k r, i = .resume k r ∧ w.tasks[k]? = none) ∨
      ∃ k r t, i = .resume k r ∧ w.tasks[k]? = some t := by
  cases i with
  | event e => exact .inl ⟨e, rfl⟩
  | resume k r =>
      cases located : w.tasks[k]? with
      | none => exact .inr (.inl ⟨k, r, rfl, located⟩)
      | some t => exact .inr (.inr ⟨k, r, t, rfl, located⟩)

/-- Where every pending task gives up on a result, giving it to all of them in turn
    leaves the shared state alone and nothing pending. -/
theorem final_givingUp {r : ρ} (givesUp : ∀ s t, (loop.resume s t r).shared = s ∧
    (loop.resume s t r).tasks = []) (w : World σ τ) :
    Machine.final loop.step w (List.replicate w.tasks.length (.resume 0 r)) = ⟨w.shared, []⟩ := by
  obtain ⟨s, tasks⟩ := w
  induction tasks with
  | nil => rfl
  | cons t rest ih =>
      have taken : (loop.step ⟨s, t :: rest⟩ (.resume 0 r)).1 = ⟨s, rest⟩ := by
        rw [step_resume loop (t := t) rfl]
        simp [replaceAt, givesUp]
      rw [List.length_cons, List.replicate_succ, Machine.final_cons, taken]
      exact ih

end Steps

section Invariants

/-- The shared state is sound, and so is what every pending task relies on. -/
structure World.Holds (Shared : σ → Prop) (Pending : σ → τ → Prop) (w : World σ τ) : Prop where
  shared : Shared w.shared
  pending : ∀ t ∈ w.tasks, Pending w.shared t

/-- A turn taken in `w` leaves a sound state, sound new tasks, and takes nothing
    away that the tasks already pending rely on. -/
structure Turn.Sound (Shared : σ → Prop) (Pending : σ → τ → Prop) (w : World σ τ)
    (turn : Turn σ τ ω) : Prop where
  shared : Shared turn.shared
  spawned : ∀ t ∈ turn.tasks, Pending turn.shared t
  others : ∀ t ∈ w.tasks, Pending turn.shared t

variable {loop : Loop σ τ ε ρ ω} {Shared : σ → Prop} {Pending : σ → τ → Prop} {w : World σ τ}

theorem holds_event {e : ε} (sound : (loop.react w.shared e).Sound Shared Pending w) :
    (loop.step w (.event e)).1.Holds Shared Pending where
  shared := sound.shared
  pending := by
    intro t member
    exact (List.mem_append.mp member).elim (sound.others t) (sound.spawned t)

theorem holds_resume {k : Nat} {t : τ} {r : ρ} (located : w.tasks[k]? = some t)
    (sound : (loop.resume w.shared t r).Sound Shared Pending w) :
    (loop.step w (.resume k r)).1.Holds Shared Pending := by
  rw [step_resume loop located]
  refine ⟨sound.shared, ?_⟩
  intro t' member
  exact (mem_replaceAt member).elim (sound.spawned t') (sound.others t')

/-- The invariant rule: it is enough to look at one turn of each handler and of
    each pending task. -/
theorem holds_step
    (react : ∀ (w : World σ τ) e, w.Holds Shared Pending →
      (loop.react w.shared e).Sound Shared Pending w)
    (resume : ∀ (w : World σ τ) (k : Nat) t r, w.Holds Shared Pending → w.tasks[k]? = some t →
      (loop.resume w.shared t r).Sound Shared Pending w)
    (w : World σ τ) (i : Input ε ρ) (holds : w.Holds Shared Pending) :
    (loop.step w i).1.Holds Shared Pending := by
  rcases step_cases w i with ⟨e, rfl⟩ | ⟨k, r, rfl, missing⟩ | ⟨k, r, t, rfl, located⟩
  · exact holds_event (react w e holds)
  · rw [step_idle loop missing]
    exact holds
  · exact holds_resume located (resume w k t r holds located)

end Invariants

end EventLoop

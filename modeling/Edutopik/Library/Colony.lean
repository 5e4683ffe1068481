import Edutopik.Library.History

/-! # Machines that start one another

A colony is a list of machines that step one at a time, in any order, and share one
value that each of them may read and change. What a machine lets out may start
further machines, which join at the end of the list and keep their place from then on.
A machine may let something out as it joins, before its first step.

What one member is does not depend on the others but through the shared value. So an
invariant is shown member by member (`Upholds.run`), and where the others leave alone
what a member looks at, it is where a machine on its own would be
(`follows_of_guarded`).
-/

open Machine

structure Colony (γ σ ι ω : Type*) where
  /-- How the member at a place steps. -/
  member : Nat → γ → σ → ι → (γ × σ) × List ω
  /-- The machines that something let out starts, each with what it lets out as it joins. -/
  starts : ω → List (σ × List ω)
  /-- What is shared once a machine has joined at a place. -/
  joins : Nat → σ → γ → γ

namespace Colony

variable {γ σ ι ω : Type*}

structure State (γ σ : Type*) where
  shared : γ
  members : List σ

variable (c : Colony γ σ ι ω)

/-- With a machine at the next place. -/
def add (s : State γ σ) (m : σ) : State γ σ :=
  ⟨c.joins s.members.length m s.shared, s.members ++ [m]⟩

def join : State γ σ → List (σ × List ω) → State γ σ × List (Nat × ω)
  | s, [] => (s, [])
  | s, (m, out) :: rest =>
      let next := join (c.add s m) rest
      (next.1, out.map (Prod.mk s.members.length) ++ next.2)

/-- Where the member at `k` has taken its input, before anything joins. -/
def moved (k : Nat) (s : State γ σ) (m : σ) (i : ι) : State γ σ :=
  ⟨(c.member k s.shared m i).1.1, s.members.set k (c.member k s.shared m i).1.2⟩

/-- What the member at `k` starts with its input. -/
def begun (k : Nat) (s : State γ σ) (m : σ) (i : ι) : List (σ × List ω) :=
  (c.member k s.shared m i).2.flatMap c.starts

/-- One member takes its input; what it starts joins at the end. -/
def step : Step (State γ σ) (Nat × ι) (Nat × ω)
  | s, (k, i) =>
      match s.members[k]? with
      | none => (s, [])
      | some m =>
          let joined := c.join (c.moved k s m i) (c.begun k s m i)
          (joined.1, (c.member k s.shared m i).2.map (Prod.mk k) ++ joined.2)

/-- The inputs of a run that go to the member at `k`. -/
def inputsOf (k : Nat) (is : List (Nat × ι)) : List ι :=
  (is.filter fun i => i.1 == k).map Prod.snd

variable {c}

@[simp] theorem inputsOf_nil (k : Nat) : inputsOf k ([] : List (Nat × ι)) = [] := rfl

theorem inputsOf_cons_same (k : Nat) (i : ι) (rest : List (Nat × ι)) :
    inputsOf k ((k, i) :: rest) = i :: inputsOf k rest := by
  simp [inputsOf]

theorem inputsOf_cons_other {j k : Nat} (other : j ≠ k) (i : ι) (rest : List (Nat × ι)) :
    inputsOf k ((j, i) :: rest) = inputsOf k rest := by
  simp [inputsOf, other]

theorem inputsOf_append (k : Nat) (first second : List (Nat × ι)) :
    inputsOf k (first ++ second) = inputsOf k first ++ inputsOf k second := by
  simp [inputsOf]

theorem inputsOf_tagged_same (k : Nat) (is : List ι) : inputsOf k (is.map (Prod.mk k)) = is := by
  induction is with
  | nil => rfl
  | cons i rest ih => rw [List.map_cons, inputsOf_cons_same, ih]

theorem inputsOf_tagged_other {j k : Nat} (other : j ≠ k) (is : List ι) :
    inputsOf k (is.map (Prod.mk j)) = [] := by
  induction is with
  | nil => rfl
  | cons i rest ih => rw [List.map_cons, inputsOf_cons_other other, ih]

/-! ## One step -/

@[simp] theorem join_members (s : State γ σ) (new : List (σ × List ω)) :
    (c.join s new).1.members = s.members ++ new.map Prod.fst := by
  induction new generalizing s with
  | nil => simp [join]
  | cons begun rest ih => simp [join, add, ih]

/-- What is let out in joining is let out by one of those that join, at the place it gets. -/
theorem mem_join {s : State γ σ} {new : List (σ × List ω)} {k : Nat} {e : ω}
    (out : (k, e) ∈ (c.join s new).2) :
    s.members.length ≤ k ∧
      ∃ begun ∈ new, e ∈ begun.2 ∧ (c.join s new).1.members[k]? = some begun.1 := by
  induction new generalizing s with
  | nil => cases out
  | cons begun rest ih =>
      rcases List.mem_append.mp out with here | later
      · obtain ⟨e', own, same⟩ := List.mem_map.mp here
        cases same
        exact ⟨Nat.le_refl _, begun, List.mem_cons_self, own, by simp⟩
      · obtain ⟨beyond, begun', member, own, there⟩ := ih later
        refine ⟨?_, begun', List.mem_cons_of_mem _ member, own, there⟩
        simp only [add, List.length_append, List.length_singleton] at beyond
        omega

theorem step_absent {s : State γ σ} {k : Nat} (absent : s.members[k]? = none) (i : ι) :
    c.step s (k, i) = (s, []) := by
  simp only [step, absent]

theorem step_member {s : State γ σ} {k : Nat} {m : σ} (located : s.members[k]? = some m) (i : ι) :
    c.step s (k, i) = ((c.join (c.moved k s m i) (c.begun k s m i)).1,
      (c.member k s.shared m i).2.map (Prod.mk k) ++
        (c.join (c.moved k s m i) (c.begun k s m i)).2) := by
  simp only [step, located]

@[simp] theorem moved_length (k : Nat) (s : State γ σ) (m : σ) (i : ι) :
    (c.moved k s m i).members.length = s.members.length := List.length_set

theorem members_of_step {s : State γ σ} {k : Nat} {m : σ} (located : s.members[k]? = some m)
    (i : ι) : (c.step s (k, i)).1.members =
      s.members.set k (c.member k s.shared m i).1.2 ++ (c.begun k s m i).map Prod.fst := by
  rw [step_member located, join_members]
  rfl

/-- The member that takes the input is moved by it. -/
theorem step_get_same {s : State γ σ} {k : Nat} {m : σ} (located : s.members[k]? = some m) (i : ι) :
    (c.step s (k, i)).1.members[k]? = some (c.member k s.shared m i).1.2 := by
  obtain ⟨inside, -⟩ := List.getElem?_eq_some_iff.mp located
  rw [members_of_step located, List.getElem?_append_left (by simpa using inside)]
  simp [inside]

/-- Every other member stays as it is. -/
theorem step_get_other {s : State γ σ} {j k : Nat} {m : σ} (located : s.members[k]? = some m)
    (other : j ≠ k) (i : ι) : (c.step s (j, i)).1.members[k]? = some m := by
  obtain ⟨inside, -⟩ := List.getElem?_eq_some_iff.mp located
  cases there : s.members[j]? with
  | none =>
      rw [step_absent there]
      exact located
  | some t =>
      rw [members_of_step there, List.getElem?_append_left (by simpa using inside),
        List.getElem?_set_ne other]
      exact located

/-- A step that starts nothing changes what is shared as its member does. -/
theorem step_shared {s : State γ σ} {k : Nat} {m : σ} {i : ι} (located : s.members[k]? = some m)
    (none : (c.member k s.shared m i).2.flatMap c.starts = []) :
    (c.step s (k, i)).1.shared = (c.member k s.shared m i).1.1 := by
  rw [step_member located, begun, none]
  rfl

/-- A member after a step was there before it, is the one that stepped, or has been started. -/
theorem get_of_step {s : State γ σ} {j k : Nat} {i : ι} {m : σ}
    (located : (c.step s (j, i)).1.members[k]? = some m) :
    j ≠ k ∧ s.members[k]? = some m ∨ ∃ t, s.members[j]? = some t ∧
      (j = k ∧ m = (c.member j s.shared t i).1.2 ∨
        s.members.length ≤ k ∧ ∃ e ∈ (c.member j s.shared t i).2, ∃ out, (m, out) ∈ c.starts e) := by
  cases there : s.members[j]? with
  | none =>
      rw [step_absent there] at located
      refine .inl ⟨?_, located⟩
      rintro rfl
      simp [there] at located
  | some t =>
      rw [members_of_step there] at located
      by_cases inside : k < s.members.length
      · rw [List.getElem?_append_left (by simpa using inside)] at located
        by_cases same : j = k
        · subst same
          rw [List.getElem?_set_self inside] at located
          exact .inr ⟨t, rfl, .inl ⟨rfl, (Option.some.inj located).symm⟩⟩
        · rw [List.getElem?_set_ne same] at located
          exact .inl ⟨same, located⟩
      · rw [List.getElem?_append_right (by simpa using inside)] at located
        obtain ⟨⟨m', out⟩, started, rfl⟩ := List.mem_map.mp (List.mem_of_getElem? located)
        obtain ⟨e, letOut, starts⟩ := List.mem_flatMap.mp started
        exact .inr ⟨t, rfl, .inr ⟨by omega, e, letOut, out, starts⟩⟩

/-! ## What is let out -/

/-- At a place, something is let out by the member there, or by the one that joins there. -/
inductive LetsOut (c : Colony γ σ ι ω) (s : State γ σ) (k : Nat) (e : ω) : Nat × ι → Prop where
  | own {m i} : s.members[k]? = some m → e ∈ (c.member k s.shared m i).2 → LetsOut c s k e (k, i)
  | joins {j t i e' m out} : s.members[j]? = some t → e' ∈ (c.member j s.shared t i).2 →
      (m, out) ∈ c.starts e' → e ∈ out → s.members.length ≤ k →
        (c.step s (j, i)).1.members[k]? = some m → LetsOut c s k e (j, i)

theorem letsOut_of_step {s : State γ σ} {input : Nat × ι} {k : Nat} {e : ω}
    (out : (k, e) ∈ (c.step s input).2) : c.LetsOut s k e input := by
  obtain ⟨j, i⟩ := input
  cases there : s.members[j]? with
  | none =>
      rw [step_absent there] at out
      cases out
  | some t =>
      have step := step_member (c := c) there i
      rw [step] at out
      rcases List.mem_append.mp out with here | joining
      · obtain ⟨e', own, same⟩ := List.mem_map.mp here
        cases same
        exact .own there own
      · obtain ⟨beyond, ⟨m, out⟩, started, own, member⟩ := mem_join joining
        obtain ⟨e', letOut, starts⟩ := List.mem_flatMap.mp started
        rw [moved_length] at beyond
        refine .joins there letOut starts own beyond ?_
        rw [step]
        exact member

/-- Nothing is let out at a place but by those that join there. -/
theorem inputsOf_join {s : State γ σ} {new : List (σ × List ω)} {k : Nat}
    (inside : k < s.members.length) : inputsOf k (c.join s new).2 = [] := by
  simp only [inputsOf, List.map_eq_nil_iff, List.filter_eq_nil_iff, beq_iff_eq]
  rintro ⟨j, e⟩ out rfl
  have beyond := (mem_join out).1
  omega

theorem outputOf_step_same {s : State γ σ} {k : Nat} {m : σ} (located : s.members[k]? = some m)
    (i : ι) : inputsOf k (c.step s (k, i)).2 = (c.member k s.shared m i).2 := by
  obtain ⟨inside, -⟩ := List.getElem?_eq_some_iff.mp located
  rw [step_member located, inputsOf_append, inputsOf_tagged_same, inputsOf_join (by simpa using inside),
    List.append_nil]

theorem outputOf_step_other {s : State γ σ} {j k : Nat} (inside : k < s.members.length)
    (other : j ≠ k) (i : ι) : inputsOf k (c.step s (j, i)).2 = [] := by
  cases there : s.members[j]? with
  | none => rw [step_absent there, inputsOf_nil]
  | some t =>
      rw [step_member there, inputsOf_append, inputsOf_tagged_other other,
        inputsOf_join (by simpa using inside), List.append_nil]

/-! ## Invariants -/

/-- What is shared is sound, and so is every member. -/
structure State.Sound (Shared : γ → Prop) (Inv : σ → Prop) (s : State γ σ) : Prop where
  shared : Shared s.shared
  members : ∀ m ∈ s.members, Inv m

/-- What a guarded step of a sound member among sound others comes to: all stays sound,
    what is started is sound too, and nothing bad is let out. -/
structure Upholds (c : Colony γ σ ι ω) (Shared : γ → Prop) (Inv : σ → Prop) (Guard : ι → Prop)
    (Good : ω → Prop) : Prop where
  turn : ∀ k g m i, Shared g → Inv m → Guard i → Shared (c.member k g m i).1.1 ∧
    Inv (c.member k g m i).1.2 ∧ ∀ e ∈ (c.member k g m i).2, Good e
  starts : ∀ e, Good e → ∀ m out, (m, out) ∈ c.starts e → Inv m ∧ ∀ e' ∈ out, Good e'
  joins : ∀ k m g, Inv m → Shared g → Shared (c.joins k m g)

namespace Upholds

variable {Shared : γ → Prop} {Inv : σ → Prop} {Guard : ι → Prop} {Good : ω → Prop}

theorem join (upholds : c.Upholds Shared Inv Guard Good) {s : State γ σ}
    (sound : s.Sound Shared Inv) {new : List (σ × List ω)} (begun : ∀ m out, (m, out) ∈ new → Inv m) :
    (c.join s new).1.Sound Shared Inv := by
  induction new generalizing s with
  | nil => exact sound
  | cons first rest ih =>
      obtain ⟨m, out⟩ := first
      have joined : Inv m := begun m out List.mem_cons_self
      apply ih _ (fun t out member => begun t out (List.mem_cons_of_mem _ member))
      refine ⟨upholds.joins _ m _ joined sound.shared, ?_⟩
      intro t member
      rcases List.mem_append.mp member with old | new
      · exact sound.members t old
      · rw [List.mem_singleton.mp new]
        exact joined

/-- One guarded step keeps all sound and lets out nothing bad. -/
theorem step (upholds : c.Upholds Shared Inv Guard Good) {s : State γ σ}
    (sound : s.Sound Shared Inv) {k : Nat} {i : ι} (guarded : Guard i) :
    (c.step s (k, i)).1.Sound Shared Inv ∧ ∀ e ∈ (c.step s (k, i)).2, Good e.2 := by
  cases located : s.members[k]? with
  | none =>
      rw [step_absent located]
      exact ⟨sound, by simp⟩
  | some m =>
      have own := sound.members m (List.mem_of_getElem? located)
      obtain ⟨shared, moved, good⟩ := upholds.turn k s.shared m i sound.shared own guarded
      have started : ∀ t out, (t, out) ∈ c.begun k s m i → Inv t ∧ ∀ e ∈ out, Good e := by
        intro t out begun
        obtain ⟨e, letOut, starts⟩ := List.mem_flatMap.mp begun
        exact upholds.starts e (good e letOut) t out starts
      rw [step_member located]
      constructor
      · apply upholds.join
        · refine ⟨shared, ?_⟩
          intro t member
          rcases List.mem_or_eq_of_mem_set member with old | rfl
          · exact sound.members t old
          · exact moved
        · exact fun t out begun => (started t out begun).1
      · rintro ⟨j, e⟩ out
        rcases List.mem_append.mp out with here | joining
        · obtain ⟨e', out', same⟩ := List.mem_map.mp here
          cases same
          exact good e out'
        · obtain ⟨-, ⟨t, out'⟩, begun, member, -⟩ := mem_join joining
          exact (started t out' begun).2 e member

/-- A guarded run keeps all sound and lets out nothing bad. -/
theorem run (upholds : c.Upholds Shared Inv Guard Good) {s : State γ σ}
    (sound : s.Sound Shared Inv) {is : List (Nat × ι)} (guarded : ∀ i ∈ is, Guard i.2) :
    (final c.step s is).Sound Shared Inv ∧ ∀ e ∈ output c.step s is, Good e.2 := by
  induction is generalizing s with
  | nil => exact ⟨sound, by simp⟩
  | cons input rest ih =>
      obtain ⟨k, i⟩ := input
      obtain ⟨next, now⟩ := upholds.step (k := k) sound (guarded (k, i) List.mem_cons_self)
      obtain ⟨last, later⟩ := ih next (fun j after => guarded j (List.mem_cons_of_mem _ after))
      refine ⟨last, ?_⟩
      intro e out
      rw [output_cons] at out
      exact (List.mem_append.mp out).elim (now e) (later e)

end Upholds

/-! ## A member as if alone -/

section Alone

variable {τ : Type*} {alone : Step τ ι ω} {k : Nat} {Follows : State γ σ → τ → Prop}
  {Guard : State γ σ → Nat × ι → Prop}

/-- Where a member's own guarded steps are those of a machine on its own, and the guarded
    steps of the others do not tell the two apart nor let anything out in its place, a
    guarded run takes the member where its own inputs take that machine, and it lets out
    the same. -/
theorem follows_of_guarded
    (own : ∀ s i t, Follows s t → Guard s (k, i) → Follows (c.step s (k, i)).1 (alone t i).1 ∧
      inputsOf k (c.step s (k, i)).2 = (alone t i).2)
    (others : ∀ s j i t, j ≠ k → Follows s t → Guard s (j, i) →
      Follows (c.step s (j, i)).1 t ∧ inputsOf k (c.step s (j, i)).2 = [])
    {s : State γ σ} {t : τ} (start : Follows s t) {is : List (Nat × ι)}
    (guarded : ∀ f ∈ run c.step s is, Guard f.before f.input) :
    Follows (final c.step s is) (final alone t (inputsOf k is)) ∧
      inputsOf k (output c.step s is) = output alone t (inputsOf k is) := by
  induction is generalizing s t with
  | nil => exact ⟨start, rfl⟩
  | cons input rest ih =>
      obtain ⟨j, i⟩ := input
      simp only [run_cons, List.forall_mem_cons] at guarded
      obtain ⟨here, later⟩ := guarded
      by_cases same : j = k
      · subst same
        obtain ⟨moved, out⟩ := own s i t start here
        obtain ⟨follows, rest⟩ := ih moved later
        rw [inputsOf_cons_same, output_cons, inputsOf_append, out, rest]
        exact ⟨follows, rfl⟩
      · obtain ⟨kept, nothing⟩ := others s j i t same start here
        obtain ⟨follows, out⟩ := ih kept later
        rw [inputsOf_cons_other same, output_cons, inputsOf_append, nothing, out]
        exact ⟨follows, rfl⟩

end Alone

end Colony

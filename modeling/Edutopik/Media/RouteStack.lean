import Edutopik.Media.PlayerTurns

/-! # What a player knows of the route stack

A player looks at the top of the stack and for its own route; everything else on the
stack is the home page to it. Two stacks that differ only in how much of that lies at
the bottom are the same to it, and what it does to the stack is what it lets out.
-/

namespace Edutopik.Media

open Dart EventLoop

/-- The same routes above, and nothing but the home page below. -/
inductive SameAbove : List Route → List Route → Prop where
  | bottom (m n : Nat) : SameAbove (List.replicate m .home) (List.replicate n .home)
  | above (route : Route) {first second : List Route} :
      SameAbove first second → SameAbove (route :: first) (route :: second)

namespace SameAbove

variable {first second : List Route} {route : Route}

theorem tail (same : SameAbove first second) : SameAbove first.tail second.tail := by
  cases same with
  | bottom m n =>
      rw [List.tail_replicate, List.tail_replicate]
      exact .bottom _ _
  | above route same => exact same

theorem mem_iff (same : SameAbove first second) (notHome : route ≠ .home) :
    route ∈ first ↔ route ∈ second := by
  induction same with
  | bottom m n => simp [List.mem_replicate, notHome]
  | above other same ih => rw [List.mem_cons, List.mem_cons, ih]

theorem head?_iff (same : SameAbove first second) (notHome : route ≠ .home) :
    first.head? = some route ↔ second.head? = some route := by
  cases same with
  | bottom m n => simp [List.head?_replicate, notHome.symm]
  | above other same => rfl

theorem of_all_home (first : List Route) (all : ∀ r ∈ first, r = .home) (n : Nat) :
    SameAbove first (List.replicate n .home) := by
  rw [List.eq_replicate_of_mem all]
  exact .bottom _ _

/-- Where none of its routes is left, only the home page is below. -/
theorem all_home (same : SameAbove first second) (gone : ∀ r ∈ first, r = .home) :
    ∃ n, second = List.replicate n .home := by
  induction same with
  | bottom m n => exact ⟨n, rfl⟩
  | above route same ih =>
      obtain ⟨n, rfl⟩ := ih (fun r member => gone r (List.mem_cons_of_mem _ member))
      exact ⟨n + 1, by rw [gone route List.mem_cons_self, List.replicate_succ]⟩

end SameAbove

/-- What an effect does to the route stack. -/
def Effect.onStack (navigator : List Route) : Effect → List Route
  | .pop => navigator.tail
  | .showDialog text => .alert text :: navigator
  | _ => navigator

theorem SameAbove.onStack {first second : List Route} (same : SameAbove first second) (e : Effect) :
    SameAbove (e.onStack first) (e.onStack second) := by
  cases e with
  | pop => exact same.tail
  | showDialog text => exact same.above _
  | _ => exact same

theorem SameAbove.foldl {first second : List Route} (same : SameAbove first second)
    (effects : List Effect) :
    SameAbove (effects.foldl Effect.onStack first) (effects.foldl Effect.onStack second) := by
  induction effects generalizing first second with
  | nil => exact same
  | cons e rest ih => exact ih (same.onStack e)

/-- The back button of the system takes a route of the player from the top. -/
def goBack : List Route → List Route
  | .home :: below => .home :: below
  | routes => routes.tail

@[simp] theorem goBack_replicate (n : Nat) :
    goBack (List.replicate n .home) = List.replicate n .home := by
  cases n <;> rfl

theorem SameAbove.goBack {first second : List Route} (same : SameAbove first second) :
    SameAbove (goBack first) (goBack second) := by
  cases same with
  | bottom m n =>
      rw [goBack_replicate, goBack_replicate]
      exact .bottom m n
  | above route below =>
      cases route with
      | home => exact below.above .home
      | _ => exact below

/-! ## What a turn does to the stack is what it lets out -/

def Stacked (navigator : List Route) (turn : Turn State Task Effect) : Prop :=
  turn.shared.navigator = turn.effects.foldl Effect.onStack navigator

namespace State

theorem stacks_ite {s : State} {reached : Bool} {turn : Turn State Task Effect}
    (taken : Stacked s.navigator turn) :
    Stacked s.navigator (if reached then turn else s.idle) := by
  cases reached with
  | true => exact taken
  | false => exact rfl

theorem stacks_skipPressed (s : State) (count : Int) (skip : DataManager → DataManager × Skip) :
    Stacked s.navigator (s.skipPressed count skip) := by
  unfold skipPressed Stacked
  dsimp only
  split <;> rfl

theorem stacks_onVideoEnd (s : State) : Stacked s.navigator s.onVideoEnd := by
  unfold onVideoEnd Stacked
  dsimp only
  split <;> rfl

theorem stacks_resumePlaying (s : State) {navigator : List Route} {effects : List Effect}
    (before : s.navigator = effects.foldl Effect.onStack navigator) :
    Stacked navigator (s.resumePlaying effects) := by
  unfold resumePlaying Stacked
  cases s.mounted with
  | true => simp [before, Effect.onStack]
  | false => simp [before, Effect.onStack]

theorem stacks_react (s : State) (e : Event) : Stacked s.navigator (s.react e) := by
  cases e with
  | speedDown => exact stacks_ite rfl
  | speedUp => exact stacks_ite rfl
  | previous => exact stacks_ite (stacks_skipPressed _ _ _)
  | next => exact stacks_ite (stacks_skipPressed _ _ _)
  | back => exact stacks_ite rfl
  | videoEnd => exact stacks_ite (stacks_onVideoEnd s)
  | confirmAlert =>
      simp only [react]
      split <;> rfl
  | _ => exact rfl

theorem stacks_resume (s : State) (task : Task) (reply : Reply) :
    Stacked s.navigator (s.resume task reply) := by
  have turn := resumed s task reply
  generalize s.resume task reply = next at turn
  cases turn with
  | closes text => exact stacks_resumePlaying _ rfl
  | seeks minute => exact stacks_resumePlaying _ rfl
  | _ => exact rfl

end State

/-- After a step the stack is what the step's effects make of it. -/
theorem navigator_step (w : Player) (i : PlayerInput) :
    (mediaControl.step w i).1.shared.navigator =
      (mediaControl.step w i).2.foldl Effect.onStack w.shared.navigator := by
  rcases step_cases w i with ⟨e, rfl⟩ | ⟨k, r, rfl, missing⟩ | ⟨k, r, t, rfl, located⟩
  · exact w.shared.stacks_react e
  · rw [step_idle mediaControl missing]
    rfl
  · rw [step_resume mediaControl located]
    exact w.shared.stacks_resume t r

/-! ## Whose route a step takes away -/

/-- An answered check that closes the player, on a state that is still mounted. -/
def RefusedCheck (w : Player) : PlayerInput → Prop
  | .event _ => False
  | .resume k reply => w.shared.mounted = true ∧ ∃ uuid res,
      w.tasks[k]? = some (.awaitingLog uuid) ∧ reply.object = some res ∧
        State.checkLog uuid res ≠ .continues

def Effect.touches : Effect → Bool
  | .pop | .showDialog _ => true
  | _ => false

/-- What a step lets out that touches the stack. But for a refused check it pops a route of
    the player, or nothing. -/
inductive Touches (w : Player) (i : PlayerInput) : List Effect → Prop where
  | none : ¬ RefusedCheck w i → Touches w i []
  | own : ¬ RefusedCheck w i → (∃ route ≠ .home, w.shared.navigator.head? = some route) →
      Touches w i [.pop]
  | closes (text : String) : RefusedCheck w i → Touches w i [.pop, .showDialog text]

theorem touches_resumePlaying (s : State) (effects : List Effect) :
    (s.resumePlaying effects).effects.filter Effect.touches = effects.filter Effect.touches := by
  unfold State.resumePlaying
  cases s.mounted <;> simp [Effect.touches]

theorem touches_react (w : Player) (e : Event) :
    Touches w (.event e) ((w.shared.react e).effects.filter Effect.touches) := by
  have unrefused : ¬ RefusedCheck w (.event e) := id
  have silent : ∀ {turn : Turn State Task Effect}, (∀ x ∈ turn.effects, x.touches = false) →
      Touches w (.event e) (turn.effects.filter Effect.touches) := by
    intro turn none
    rw [List.filter_eq_nil_iff.mpr (fun x out => by simp [none x out])]
    exact .none unrefused
  cases e with
  | back =>
      simp only [State.react]
      cases onTop : w.shared.onTop with
      | true =>
          refine .own unrefused ⟨.player, by simp, ?_⟩
          simpa [State.onTop] using onTop
      | false => exact .none unrefused
  | confirmAlert =>
      simp only [State.react]
      split
      · rename_i text shown
        exact .own unrefused ⟨_, by simp, shown⟩
      · exact .none unrefused
  | _ =>
      apply silent
      intro x out
      cases eventLets out with
      | pop same => rcases same with same | same <;> cases same
      | _ => rfl

theorem touches_resume {w : Player} {k : Nat} {task : Task} (located : w.tasks[k]? = some task)
    (reply : Reply) :
    Touches w (.resume k reply) ((w.shared.resume task reply).effects.filter Effect.touches) := by
  have turn := resumed w.shared task reply
  generalize w.shared.resume task reply = next at turn
  have same : ∀ {uuid res}, w.tasks[k]? = some (.awaitingLog uuid) ∧ reply.object = some res ∧
      State.checkLog uuid res ≠ .continues → task = .awaitingLog uuid := by
    rintro uuid res ⟨there, -, -⟩
    exact Option.some.inj (located.symm.trans there)
  cases turn with
  | unread none =>
      refine .none ?_
      rintro ⟨-, uuid, res, -, some, -⟩
      rw [none] at some
      cases some
  | unmounted _ _ gone =>
      refine .none ?_
      rintro ⟨mounted, -⟩
      rw [gone] at mounted
      cases mounted
  | closes text answer refused mounted =>
      rw [touches_resumePlaying]
      exact .closes text ⟨mounted, _, _, located, answer, refused⟩
  | asks answer goesOn =>
      refine .none ?_
      rintro ⟨-, uuid, res, there, answer', refused⟩
      cases located.symm.trans there
      cases answer.symm.trans answer'
      exact refused goesOn
  | unreadable =>
      refine .none ?_
      rintro ⟨-, uuid, res, both⟩
      cases same both
  | seeks =>
      rw [touches_resumePlaying]
      refine .none ?_
      rintro ⟨-, uuid, res, both⟩
      cases same both

theorem touches_step (w : Player) (i : PlayerInput) :
    Touches w i ((mediaControl.step w i).2.filter Effect.touches) := by
  rcases step_cases w i with ⟨e, rfl⟩ | ⟨k, r, rfl, missing⟩ | ⟨k, r, t, rfl, located⟩
  · exact touches_react w e
  · rw [step_idle mediaControl missing]
    refine .none ?_
    rintro ⟨-, uuid, res, there, -⟩
    rw [missing] at there
    cases there
  · rw [step_resume mediaControl located]
    exact touches_resume located r

/-! ## Two stacks that are the same to a player -/

/-- The player with another route stack. -/
def State.routed (s : State) (navigator : List Route) : State := { s with navigator := navigator }

/-- The same turn, but for the stack. -/
structure AlikeTurn (first second : Turn State Task Effect) : Prop where
  shared : first.shared.routed [] = second.shared.routed []
  tasks : first.tasks = second.tasks
  effects : first.effects = second.effects

namespace AlikeTurn

variable {s : State} {navigator : List Route}

theorem ite {first second : Bool} {here there : Turn State Task Effect} (same : first = second)
    (taken : AlikeTurn here there) :
    AlikeTurn (if first then here else (s.routed navigator).idle)
      (if second then there else s.idle) := by
  subst same
  cases first with
  | true => exact taken
  | false => exact ⟨rfl, rfl, rfl⟩

theorem skipPressed (count : Int) (skip : DataManager → DataManager × Skip) :
    AlikeTurn ((s.routed navigator).skipPressed count skip) (s.skipPressed count skip) := by
  have same : (skip (s.routed navigator).takePosition.dataManager) =
      skip s.takePosition.dataManager := rfl
  unfold State.skipPressed
  dsimp only
  rw [same]
  split <;> exact ⟨rfl, rfl, rfl⟩

theorem onVideoEnd : AlikeTurn (s.routed navigator).onVideoEnd s.onVideoEnd := by
  have same : (s.routed navigator).dataManager = s.dataManager := rfl
  unfold State.onVideoEnd
  rw [same]
  dsimp only
  split <;> exact ⟨rfl, rfl, rfl⟩

theorem resumePlaying (effects : List Effect) :
    AlikeTurn ((s.routed navigator).resumePlaying effects) (s.resumePlaying effects) := by
  have same : (s.routed navigator).mounted = s.mounted := rfl
  unfold State.resumePlaying
  dsimp only
  rw [same]
  split <;> exact ⟨rfl, rfl, rfl⟩

theorem close (text : String) : AlikeTurn ((s.routed navigator).close text) (s.close text) := by
  unfold State.close
  apply ite rfl
  exact resumePlaying (s := s.routed (.alert text :: s.navigator.tail)) _

end AlikeTurn

theorem onTop_alike {s : State} {navigator : List Route} (same : SameAbove navigator s.navigator) :
    (s.routed navigator).onTop = s.onTop := by
  have notHome : Route.player ≠ .home := by simp
  have head := same.head?_iff notHome
  rw [Bool.eq_iff_iff]
  simpa [State.onTop, State.routed] using head

theorem react_alike {s : State} {navigator : List Route} (same : SameAbove navigator s.navigator)
    (e : Event) : AlikeTurn ((s.routed navigator).react e) (s.react e) := by
  cases e with
  | speedDown => exact .ite (onTop_alike same) ⟨rfl, rfl, rfl⟩
  | speedUp => exact .ite (onTop_alike same) ⟨rfl, rfl, rfl⟩
  | previous => exact .ite (onTop_alike same) (.skipPressed _ _)
  | next => exact .ite (onTop_alike same) (.skipPressed _ _)
  | back => exact .ite (onTop_alike same) ⟨rfl, rfl, rfl⟩
  | videoEnd => exact .ite rfl .onVideoEnd
  | confirmAlert =>
      simp only [State.react]
      split
      · rename_i text shown
        rw [(same.head?_iff (by simp)).mp shown]
        exact ⟨rfl, rfl, rfl⟩
      · rename_i none
        split
        · rename_i text shown
          exact absurd ((same.head?_iff (by simp)).mpr shown) (none text)
        · exact ⟨rfl, rfl, rfl⟩
  | disposed =>
      have there : navigator.contains .player = s.navigator.contains .player := by
        rw [Bool.eq_iff_iff]
        have notHome : Route.player ≠ .home := by simp
        simpa using same.mem_iff notHome
      refine ⟨?_, rfl, rfl⟩
      simp only [State.react, State.routed, there]
  | _ => exact ⟨rfl, rfl, rfl⟩

theorem resume_alike (s : State) (navigator : List Route) (task : Task) (reply : Reply) :
    AlikeTurn ((s.routed navigator).resume task reply) (s.resume task reply) := by
  unfold State.resume
  cases reply.object with
  | none => exact ⟨rfl, rfl, rfl⟩
  | some res =>
      cases task with
      | awaitingLog uuid =>
          simp only [State.logAnswered]
          cases State.checkLog uuid res with
          | continues => exact ⟨rfl, rfl, rfl⟩
          | _ => exact .close _
      | awaitingTime lmNum =>
          have same : (s.routed navigator).playTime = s.playTime := rfl
          simp only [State.timeAnswered, same]
          cases s.playTime.assign res with
          | none => exact ⟨rfl, rfl, rfl⟩
          | some written => exact .resumePlaying (s := { s with playTime := written }) _

/-- Players that are alike but for what lies at the bottom of their stacks. -/
structure AlikePlayer (first second : Player) : Prop where
  shared : first.shared.routed [] = second.shared.routed []
  tasks : first.tasks = second.tasks
  navigator : SameAbove first.shared.navigator second.shared.navigator

theorem AlikePlayer.of_turn {w v : Player} {i : PlayerInput} (alike : AlikePlayer w v)
    {first second : Turn State Task Effect} {tasks tasks' : List Task}
    (step : mediaControl.step w i = (⟨first.shared, tasks⟩, first.effects))
    (step' : mediaControl.step v i = (⟨second.shared, tasks'⟩, second.effects))
    (turns : AlikeTurn first second) (same : tasks = tasks') :
    AlikePlayer (mediaControl.step w i).1 (mediaControl.step v i).1 ∧
      (mediaControl.step w i).2 = (mediaControl.step v i).2 := by
  have effects : (mediaControl.step w i).2 = (mediaControl.step v i).2 := by
    rw [step, step']
    exact turns.effects
  refine ⟨⟨?_, ?_, ?_⟩, effects⟩
  · rw [step, step']
    exact turns.shared
  · rw [step, step']
    exact same
  · rw [navigator_step, navigator_step, effects]
    exact alike.navigator.foldl _

/-- Alike players take the same step, and are alike after it. -/
theorem alike_step {w v : Player} (alike : AlikePlayer w v) (i : PlayerInput) :
    AlikePlayer (mediaControl.step w i).1 (mediaControl.step v i).1 ∧
      (mediaControl.step w i).2 = (mediaControl.step v i).2 := by
  have shape : w.shared = v.shared.routed w.shared.navigator := by
    have same := congrArg (State.routed · w.shared.navigator) alike.shared
    exact same
  rcases step_cases w i with ⟨e, rfl⟩ | ⟨k, r, rfl, missing⟩ | ⟨k, r, t, rfl, located⟩
  · have turns : AlikeTurn (w.shared.react e) (v.shared.react e) := by
      rw [shape]
      exact react_alike alike.navigator e
    apply alike.of_turn (step_event mediaControl w e) (step_event mediaControl v e) turns
    rw [alike.tasks]
    exact congrArg _ turns.tasks
  · have missing' : v.tasks[k]? = none := by
      rw [← alike.tasks]
      exact missing
    rw [step_idle mediaControl missing, step_idle mediaControl missing']
    exact ⟨alike, rfl⟩
  · have located' : v.tasks[k]? = some t := by
      rw [← alike.tasks]
      exact located
    have turns : AlikeTurn (w.shared.resume t r) (v.shared.resume t r) := by
      rw [shape]
      exact resume_alike v.shared _ t r
    apply alike.of_turn (step_resume mediaControl located r) (step_resume mediaControl located' r) turns
    have same : (w.shared.resume t r).tasks = (v.shared.resume t r).tasks := turns.tasks
    rw [alike.tasks]
    exact congrArg (replaceAt k · v.tasks) same

end Edutopik.Media

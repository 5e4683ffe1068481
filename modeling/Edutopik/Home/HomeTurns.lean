import Edutopik.Home.HomeScreen

/-! # What one turn of the home page can do

A message asks for a list at once or shows the question first, the question is
answered, and a list that arrives opens a player or is of no use.
-/

namespace Edutopik.Home

open Dart EventLoop Media

abbrev HomeFired := Machine.Fired HomeWorld HomeInput Effect

/-- The page with another route stack. -/
def HomeScreen.routed (home : HomeScreen) (navigator : List Route) : HomeScreen :=
  { home with navigator := navigator }

inductive HomeTurn (w : HomeWorld) : HomeInput → HomeWorld × List Effect → Prop where
  | idle {i} : (∀ text, i = .event (.message text) → onMessageReceived w.shared.uuid text = none) →
      (∀ preUrl listUrl playTime rest,
        w.shared.navigator = .confirm preUrl listUrl playTime :: rest →
          i ≠ .event .declines ∧ i ≠ .event .confirms) →
        (∀ k reply, i = .resume k reply → w.tasks[k]? = none) → HomeTurn w i (w, [])
  | asks {text preUrl listUrl playTime} :
      onMessageReceived w.shared.uuid text = some (.startPlayer preUrl listUrl playTime) →
        HomeTurn w (.event (.message text))
          (⟨w.shared, w.tasks ++ [.awaitingList preUrl playTime]⟩,
            [.get (listRequest listUrl playTime)])
  | questions {text preUrl listUrl playTime} :
      onMessageReceived w.shared.uuid text = some (.asyncConfirmDialog preUrl listUrl playTime) →
        HomeTurn w (.event (.message text))
          (⟨w.shared.routed (.confirm preUrl listUrl playTime :: w.shared.navigator), w.tasks⟩,
            [.showDialog])
  | declines {preUrl listUrl playTime rest} :
      w.shared.navigator = .confirm preUrl listUrl playTime :: rest →
        HomeTurn w (.event .declines) (⟨w.shared.routed rest, w.tasks⟩, [.pop])
  | confirms {preUrl listUrl playTime rest} :
      w.shared.navigator = .confirm preUrl listUrl playTime :: rest →
        HomeTurn w (.event .confirms)
          (⟨w.shared.routed rest, w.tasks ++ [.awaitingList preUrl playTime]⟩,
            [.pop, .get (listRequest listUrl playTime)])
  | leaves {urls titles playTime rest} :
      w.shared.navigator = .player urls titles playTime :: rest →
        HomeTurn w (.event .playerLeaves) (⟨w.shared.routed rest, w.tasks⟩, [])
  | drops {k reply preUrl playTime} : w.tasks[k]? = some (.awaitingList preUrl playTime) →
      reply.object.bind (makeUrlList preUrl) = none →
        HomeTurn w (.resume k reply) (⟨w.shared, replaceAt k [] w.tasks⟩, [])
  | pushes {k reply res preUrl urls titles playTime} :
      w.tasks[k]? = some (.awaitingList preUrl playTime) → reply.object = some res →
        makeUrlList preUrl res = some (urls, titles) →
          HomeTurn w (.resume k reply)
            (⟨w.shared.routed (.player urls titles playTime :: w.shared.navigator),
              replaceAt k [] w.tasks⟩, [.push urls titles playTime])

namespace HomeTurn

variable {w : HomeWorld}

theorem message (text : String) :
    HomeTurn w (.event (.message text)) (homeScreen.step w (.event (.message text))) := by
  rw [step_event]
  simp only [homeScreen, HomeScreen.react]
  split
  · rename_i raises
    simp only [HomeScreen.idle, List.append_nil]
    apply HomeTurn.idle
    · intro text' same
      cases same
      exact raises
    · exact fun _ _ _ _ _ => ⟨nofun, nofun⟩
    · exact fun _ _ => nofun
  · rename_i reached accepted
    cases reached with
    | startPlayer preUrl listUrl playTime => exact .asks accepted
    | asyncConfirmDialog preUrl listUrl playTime =>
        simp only [HomeScreen.reach, HomeScreen.asyncConfirmDialog, List.append_nil]
        exact .questions accepted

theorem declined : HomeTurn w (.event .declines) (homeScreen.step w (.event .declines)) := by
  rw [step_event]
  simp only [homeScreen, HomeScreen.react]
  split
  · rename_i top
    simp only [List.append_nil]
    exact .declines top
  · rename_i other
    simp only [HomeScreen.idle, List.append_nil]
    apply HomeTurn.idle
    · exact fun _ => nofun
    · exact fun preUrl listUrl playTime rest top => absurd top (other preUrl listUrl playTime rest)
    · exact fun _ _ => nofun

theorem confirmed : HomeTurn w (.event .confirms) (homeScreen.step w (.event .confirms)) := by
  rw [step_event]
  simp only [homeScreen, HomeScreen.react]
  split
  · rename_i top
    exact .confirms top
  · rename_i other
    simp only [HomeScreen.idle, List.append_nil]
    apply HomeTurn.idle
    · exact fun _ => nofun
    · exact fun preUrl listUrl playTime rest top => absurd top (other preUrl listUrl playTime rest)
    · exact fun _ _ => nofun

theorem playerLeft : HomeTurn w (.event .playerLeaves) (homeScreen.step w (.event .playerLeaves)) := by
  rw [step_event]
  simp only [homeScreen, HomeScreen.react]
  split
  · rename_i top
    simp only [List.append_nil]
    exact .leaves top
  · simp only [HomeScreen.idle, List.append_nil]
    apply HomeTurn.idle
    · exact fun _ => nofun
    · exact fun _ _ _ _ _ => ⟨nofun, nofun⟩
    · exact fun _ _ => nofun

theorem resumed (k : Nat) (reply : Reply) :
    HomeTurn w (.resume k reply) (homeScreen.step w (.resume k reply)) := by
  cases located : w.tasks[k]? with
  | none =>
      rw [step_idle homeScreen located]
      apply HomeTurn.idle
      · exact fun _ => nofun
      · exact fun _ _ _ _ _ => ⟨nofun, nofun⟩
      · intro k' reply' same
        cases same
        exact located
  | some task =>
      obtain ⟨preUrl, playTime⟩ := task
      rw [step_resume homeScreen located]
      simp only [homeScreen, HomeScreen.resume]
      cases answer : reply.object with
      | none => exact .drops located (by rw [answer, Option.bind_none])
      | some res =>
          simp only [HomeScreen.listAnswered]
          cases made : makeUrlList preUrl res with
          | none => exact .drops located (by rw [answer, Option.bind_some, made])
          | some lists => exact .pushes located answer made

end HomeTurn

/-- Every step is the turn of a handler or of a pending `startPlayer`. -/
theorem homeTurn (w : HomeWorld) (i : HomeInput) : HomeTurn w i (homeScreen.step w i) := by
  cases i with
  | event e =>
      cases e with
      | message text => exact .message text
      | declines => exact .declined
      | confirms => exact .confirmed
      | playerLeaves => exact .playerLeft
  | resume k reply => exact .resumed k reply

/-! ## What a page holds

A page holds the questions it shows and the lists it waits for. What they have in
common comes with the message, or from the question that was agreed to.
-/

/-- Every question is a `Q`, and every list waited for is an `L`. -/
structure HomeScreen.Holds (Q : String → String → PlayTime → Prop) (L : String → PlayTime → Prop)
    (w : HomeWorld) : Prop where
  questions : ∀ preUrl listUrl playTime,
    Route.confirm preUrl listUrl playTime ∈ w.shared.navigator → Q preUrl listUrl playTime
  lists : ∀ preUrl playTime, Task.awaitingList preUrl playTime ∈ w.tasks → L preUrl playTime

/-- What comes in with this step is a `Q` or an `L`, and a `Q` agreed to is an `L`. -/
structure HomeScreen.Brings (Q : String → String → PlayTime → Prop) (L : String → PlayTime → Prop)
    (w : HomeWorld) (i : HomeInput) (effects : List Effect) : Prop where
  told : ∀ text preUrl listUrl playTime, i = .event (.message text) →
    onMessageReceived w.shared.uuid text = some (.startPlayer preUrl listUrl playTime) →
      Effect.get (listRequest listUrl playTime) ∈ effects → L preUrl playTime
  asked : ∀ text preUrl listUrl playTime, i = .event (.message text) →
    onMessageReceived w.shared.uuid text = some (.asyncConfirmDialog preUrl listUrl playTime) →
      Q preUrl listUrl playTime
  agreed : ∀ preUrl listUrl playTime, i = .event .confirms →
    w.shared.navigator.head? = some (.confirm preUrl listUrl playTime) → Q preUrl listUrl playTime →
      Effect.get (listRequest listUrl playTime) ∈ effects → L preUrl playTime

namespace HomeScreen.Holds

variable {Q : String → String → PlayTime → Prop} {L : String → PlayTime → Prop} {w : HomeWorld}

theorem mono {Q' : String → String → PlayTime → Prop} {L' : String → PlayTime → Prop}
    (holds : HomeScreen.Holds Q L w)
    (question : ∀ preUrl listUrl playTime, Q preUrl listUrl playTime → Q' preUrl listUrl playTime)
    (list : ∀ preUrl playTime, L preUrl playTime → L' preUrl playTime) : HomeScreen.Holds Q' L' w where
  questions := fun preUrl listUrl playTime shown =>
    question preUrl listUrl playTime (holds.questions preUrl listUrl playTime shown)
  lists := fun preUrl playTime pending => list preUrl playTime (holds.lists preUrl playTime pending)

/-- What leaves needs nothing, nor do the routes of players. -/
theorem fewer (holds : HomeScreen.Holds Q L w) {navigator : List Route} {tasks : List Task}
    (shown : ∀ preUrl listUrl playTime, Route.confirm preUrl listUrl playTime ∈ navigator →
      Route.confirm preUrl listUrl playTime ∈ w.shared.navigator)
    (pending : tasks ⊆ w.tasks) :
    HomeScreen.Holds Q L ⟨w.shared.routed navigator, tasks⟩ where
  questions := fun preUrl listUrl playTime member =>
    holds.questions preUrl listUrl playTime (shown preUrl listUrl playTime member)
  lists := fun preUrl playTime member => holds.lists preUrl playTime (pending member)

theorem waits (holds : HomeScreen.Holds Q L w) {preUrl : String} {playTime : PlayTime}
    (list : L preUrl playTime) :
    HomeScreen.Holds Q L ⟨w.shared, w.tasks ++ [.awaitingList preUrl playTime]⟩ where
  questions := holds.questions
  lists := by
    intro preUrl' playTime' pending
    rcases List.mem_append.mp pending with old | new
    · exact holds.lists preUrl' playTime' old
    · cases List.mem_singleton.mp new
      exact list

theorem asks (holds : HomeScreen.Holds Q L w) {preUrl listUrl : String} {playTime : PlayTime}
    (question : Q preUrl listUrl playTime) :
    HomeScreen.Holds Q L
      ⟨w.shared.routed (.confirm preUrl listUrl playTime :: w.shared.navigator), w.tasks⟩ where
  questions := by
    intro preUrl' listUrl' playTime' shown
    rcases List.mem_cons.mp shown with new | old
    · cases new
      exact question
    · exact holds.questions preUrl' listUrl' playTime' old
  lists := holds.lists

end HomeScreen.Holds

theorem mem_of_replaceAt_nil (k : Nat) (tasks : List Task) : replaceAt k [] tasks ⊆ tasks := by
  intro t member
  exact (mem_replaceAt member).resolve_left (by simp)

theorem holds_step {Q : String → String → PlayTime → Prop} {L : String → PlayTime → Prop}
    {w : HomeWorld} {i : HomeInput} (holds : HomeScreen.Holds Q L w)
    (brings : HomeScreen.Brings Q L w i (homeScreen.step w i).2) :
    HomeScreen.Holds Q L (homeScreen.step w i).1 := by
  have turn := homeTurn w i
  generalize homeScreen.step w i = next at turn brings
  cases turn with
  | idle => exact holds
  | asks accepted => exact holds.waits (brings.told _ _ _ _ rfl accepted List.mem_cons_self)
  | questions accepted => exact holds.asks (brings.asked _ _ _ _ rfl accepted)
  | declines top =>
      apply holds.fewer _ (List.Subset.refl _)
      intro preUrl listUrl playTime shown
      rw [top]
      exact List.mem_cons_of_mem _ shown
  | @confirms preUrl listUrl playTime rest top =>
      have question : Q preUrl listUrl playTime := by
        apply holds.questions
        rw [top]
        exact List.mem_cons_self
      have left : HomeScreen.Holds Q L ⟨w.shared.routed rest, w.tasks⟩ := by
        apply holds.fewer _ (List.Subset.refl _)
        intro preUrl listUrl playTime shown
        rw [top]
        exact List.mem_cons_of_mem _ shown
      apply left.waits
      apply brings.agreed _ _ _ rfl _ question
      · exact List.mem_cons_of_mem _ List.mem_cons_self
      · rw [top]
        rfl
  | leaves top =>
      apply holds.fewer _ (List.Subset.refl _)
      intro preUrl listUrl playTime shown
      rw [top]
      exact List.mem_cons_of_mem _ shown
  | drops located => exact holds.fewer (fun _ _ _ shown => shown) (mem_of_replaceAt_nil _ _)
  | pushes located answer made =>
      apply holds.fewer _ (mem_of_replaceAt_nil _ _)
      intro preUrl listUrl playTime shown
      exact (List.mem_cons.mp shown).resolve_left nofun

/-- A page stays the page of its device and email. -/
theorem home_keeps (w : HomeWorld) (i : HomeInput) :
    (homeScreen.step w i).1.shared.uuid = w.shared.uuid ∧
      (homeScreen.step w i).1.shared.email = w.shared.email := by
  have turn := homeTurn w i
  generalize homeScreen.step w i = next at turn
  cases turn <;> exact ⟨rfl, rfl⟩

end Edutopik.Home

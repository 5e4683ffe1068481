import Edutopik.Media.LectureCount

/-! # Resume points and the lecture on screen

Every tap on a skip button starts an `initPlayer`, whose two replies may be any
time away. A lookup belongs to the lecture that is counted when it is sent, and its
reply seeks whatever video is current when it arrives. The two are the same lecture
for every order and delay of the replies exactly if no skip is pressed while a
lookup is in flight, and none at the end of the list.

Videos that run to their end are left out here: the inputs of this file are all the
others.
-/

namespace Edutopik.Media

open Dart EventLoop Machine

/-- An input of a player on which no video runs to its end. -/
abbrev SkipInput := {i : PlayerInput // i ≠ .event .videoEnd}

def skipStep : Machine.Step Player SkipInput Effect := fun w i => mediaControl.step w i

/-- A reply to a pending call. -/
def Answers (i : SkipInput) : Prop := ∃ k reply, i.val = .resume k reply

def lectureOnScreen (w : Player) : Int := w.shared.flickManager.current.index + 1

/-- A seek made after the reply to a lookup is made on the lecture looked up. -/
def SeeksOwn (f : Fired Player SkipInput Effect) : Prop :=
  ∀ k reply lmNum position, f.input.val = .resume k reply →
    f.before.tasks[k]? = some (.awaitingTime lmNum) → .seekTo position ∈ f.effects →
      lmNum = lectureOnScreen f.before

/-- The step is the reply to a lookup of the lecture, and seeks to the minute in it. -/
def ResumesAt (lecture : Int) (f : Fired Player SkipInput Effect) : Prop :=
  ∃ k reply res minute, f.input.val = .resume k reply ∧
    f.before.tasks[k]? = some (.awaitingTime lecture) ∧ reply.object = some res ∧
      (res.get "current_time").toText.bind parseInt = some minute ∧
        .seekTo (Duration.ofHoursMinutes (minute.tdiv 60) (minute % 60)) ∈ f.effects

/-- What is asked of a run: seeks after lookups are on their own lecture, and while
    the player is open the seeks made since the last change of video, so also the
    last one, went to the resume point of the lecture on screen. -/
structure AppliesOwn (w : Player) (is : List SkipInput) : Prop where
  seeks : ∀ f ∈ run skipStep w is, SeeksOwn f
  last : ∀ pre f post, run skipStep w is = pre ++ f :: post →
    (∃ position, Effect.seekTo position ∈ f.effects) →
      (∀ g ∈ post, ∀ change, Effect.handleChangeVideo change ∉ g.effects) →
        (final skipStep w is).shared.onTop = true →
          ResumesAt (lectureOnScreen (final skipStep w is)) f

def NoLookup (w : Player) : Prop := ∀ lmNum, Task.awaitingTime lmNum ∉ w.tasks

/-- A skip that reaches the player has a lecture to go to and finds no lookup in
    flight. -/
def Undisturbed (w : Player) (i : SkipInput) : Prop :=
  match i.val with
  | .event .previous => w.shared.onTop → w.shared.dataManager.hasPreviousVideo ∧ NoLookup w
  | .event .next => w.shared.onTop → w.shared.dataManager.hasNextVideo ∧ NoLookup w
  | _ => True

/-! ## What holds whatever is pressed -/

/-- Without videos that end there are no timers, and the video on screen is the one
    selected. -/
structure OnScreen (w : Player) : Prop where
  located : w.shared.Located
  present : w.shared.Present
  timers : w.shared.flickManager.timers = []
  shown : w.shared.flickManager.current.index = w.shared.dataManager.currentPlaying

/-- A skip button shows the lecture it selects, and hands a video over to change it. -/
theorem shown_of_skips {w : Player} {count : Int} {neighbour : Bool} {turn : Turn State Task Effect}
    (skips : w.shared.Skips count neighbour turn) (here : OnScreen w) :
    turn.shared.flickManager.timers = [] ∧
      turn.shared.flickManager.current.index = turn.shared.dataManager.currentPlaying ∧
      ((∃ change, Effect.handleChangeVideo change ∈ turn.effects) ∨
        turn.shared.flickManager.current.index = w.shared.flickManager.current.index) := by
  cases skips with
  | moves _ _ moved =>
      obtain ⟨url, effects⟩ := moved.effects
      refine ⟨moved.timers.trans here.timers, moved.shown.trans moved.selected.symm, .inl ?_⟩
      rw [effects]
      exact ⟨_, List.mem_cons_of_mem _ List.mem_cons_self⟩
  | stays _ same =>
      rw [same]
      exact ⟨here.timers, here.shown, .inr rfl⟩

theorem PlayerTurn.shown {w : Player} {i : PlayerInput} {turn : Turn State Task Effect}
    (kind : PlayerTurn w i turn) (plain : i ≠ .event .videoEnd) (here : OnScreen w) :
    turn.shared.flickManager.timers = [] ∧
      turn.shared.flickManager.current.index = turn.shared.dataManager.currentPlaying ∧
      ((∃ change, Effect.handleChangeVideo change ∈ turn.effects) ∨
        turn.shared.flickManager.current.index = w.shared.flickManager.current.index) := by
  cases kind with
  | quiet _ quiet =>
      obtain ⟨timers, index⟩ := quiet.shown here.timers
      refine ⟨timers, ?_, .inr index⟩
      rw [index, quiet.dataManager]
      exact here.shown
  | previous _ => exact shown_of_skips (State.previousPressed_skips here.located) here
  | next _ => exact shown_of_skips (State.nextPressed_skips here.located) here
  | videoEnd _ => exact absurd rfl plain

theorem onScreen_step (w : Player) (i : SkipInput) (here : OnScreen w) :
    OnScreen (skipStep w i).1 := by
  obtain ⟨turn, tasks, taken, -, kind⟩ := exists_playerTurn w i
  obtain ⟨timers, shown, -⟩ := kind.shown i.property here
  refine ⟨located_step w i here.located, present_step w i here.present, ?_, ?_⟩
  · rw [skipStep, taken]
    exact timers
  · rw [skipStep, taken]
    exact shown

theorem initState_onScreen {urls titles : List String} {playTime : PlayTime} {w : Player}
    (opened : Player.initState urls titles playTime = some w) : OnScreen w := by
  obtain ⟨record, list, index, timers, -⟩ := initState_shared opened
  exact
    { located := (initState_counts opened).located
      present := fun _ => initState_route opened
      timers := timers
      shown := by rw [index, list] }

/-! ## What a seek is -/

theorem not_switch_of_resume (w : Player) (k : Nat) (reply : Reply) (change : ChangeVideo) :
    Effect.handleChangeVideo change ∉ (mediaControl.step w (.resume k reply)).2 := by
  intro switched
  rcases lets_cases switched with ⟨e, event, -⟩ | ⟨-, -, -, lets⟩
  · cases event
  · cases lets

theorem seek_of_resumePlaying {s : State} {effects : List Effect} {position : Duration}
    (silent : Effect.seekTo position ∉ effects)
    (sought : .seekTo position ∈ (s.resumePlaying effects).effects) :
    position = s.playTime.resumePosition := by
  simpa [State.mem_resumePlaying, silent] using sought

/-- A step that seeks closes the player or is the reply to a lookup, and seeks to the
    minute in it. -/
theorem seek_cases {w : Player} {i : PlayerInput} {position : Duration}
    (sought : .seekTo position ∈ (mediaControl.step w i).2) :
    (∃ text, (mediaControl.step w i).1.shared.navigator = .alert text :: w.shared.navigator.tail) ∨
      ∃ k reply lmNum res minute, i = .resume k reply ∧
        w.tasks[k]? = some (.awaitingTime lmNum) ∧ reply.object = some res ∧
          (res.get "current_time").toText.bind parseInt = some minute ∧
            position = Duration.ofHoursMinutes (minute.tdiv 60) (minute % 60) := by
  rcases step_cases w i with ⟨e, rfl⟩ | ⟨k, reply, rfl, missing⟩ | ⟨k, reply, t, rfl, located⟩
  · cases eventLets sought
  · simp [step_idle mediaControl missing] at sought
  · rw [step_resume mediaControl located] at sought ⊢
    have turn := resumed w.shared t reply
    simp only [mediaControl] at sought ⊢
    generalize w.shared.resume t reply = next at sought turn
    cases turn with
    | closes text =>
        left
        rw [State.resumePlaying_shared]
        exact ⟨text, rfl⟩
    | asks => simp at sought
    | seeks minute answer read =>
        have place := seek_of_resumePlaying (by simp) sought
        exact .inr ⟨k, reply, _, _, minute, rfl, located, answer, read, place⟩
    | _ => simp [State.idle] at sought

/-! ## Undisturbed runs -/

/-- Every lookup in flight is for the lecture selected, and so for the one on screen. -/
structure Attuned (w : Player) : Prop where
  onScreen : OnScreen w
  counts : w.shared.Counts
  lookups : ∀ lmNum, Task.awaitingTime lmNum ∈ w.tasks → lmNum = w.shared.selectedLecture

theorem OnScreen.lecture {w : Player} (here : OnScreen w) :
    lectureOnScreen w = w.shared.selectedLecture := by
  simp only [lectureOnScreen, State.selectedLecture, here.shown]

theorem Undisturbed.inStep {w : Player} {i : SkipInput} (guarded : Undisturbed w i) :
    InStep w i.val := by
  obtain ⟨i, plain⟩ := i
  cases i with
  | resume k reply => trivial
  | event e =>
      cases e with
      | previous => exact fun onTop => (guarded onTop).1
      | next => exact fun onTop => (guarded onTop).1
      | videoEnd => exact absurd rfl plain
      | _ => trivial

/-- A skip with no lookup in flight leaves none behind: it starts with a log check. -/
theorem noLookup_of_skips {w : Player} {count : Int} {neighbour : Bool}
    {turn : Turn State Task Effect} {tasks : List Task}
    (skips : w.shared.Skips count neighbour turn) (leaves : Leaves w turn tasks)
    (none : NoLookup w) (lmNum : Int) : Task.awaitingTime lmNum ∉ tasks := by
  have checks : turn.tasks = [.awaitingLog w.shared.playTime.uuid] := by
    cases skips with
    | moves _ _ moved => exact moved.tasks
    | stays _ same => rw [same]
  intro pending
  cases leaves.known _ pending with
  | inl new => simp [checks] at new
  | inr old => exact none lmNum old

theorem attuned_step (w : Player) (i : SkipInput) (attuned : Attuned w)
    (guarded : Undisturbed w i) : Attuned (skipStep w i).1 := by
  refine ⟨onScreen_step w i attuned.onScreen, counts_of_inStep w i attuned.counts guarded.inStep, ?_⟩
  obtain ⟨i, plain⟩ := i
  obtain ⟨turn, tasks, taken, leaves, kind⟩ := exists_playerTurn w i
  simp only [skipStep, taken]
  intro lmNum pending
  cases kind with
  | quiet _ quiet =>
      simp only [State.selectedLecture, quiet.dataManager]
      cases leaves.known _ pending with
      | inl new => exact (quiet.asked lmNum new).trans attuned.counts.lmNum
      | inr old => exact attuned.lookups lmNum old
  | previous onTop =>
      have skips := State.previousPressed_skips attuned.counts.located
      exact absurd pending (noLookup_of_skips skips leaves (guarded onTop).2 lmNum)
  | next onTop =>
      have skips := State.nextPressed_skips attuned.counts.located
      exact absurd pending (noLookup_of_skips skips leaves (guarded onTop).2 lmNum)
  | videoEnd _ => exact absurd rfl plain

theorem seeksOwn_of_attuned (w : Player) (i : SkipInput) (attuned : Attuned w) :
    SeeksOwn (fire skipStep w i) := by
  intro k reply lmNum position _ pending _
  calc lmNum = w.shared.selectedLecture := attuned.lookups lmNum (List.mem_of_getElem? pending)
    _ = lectureOnScreen w := attuned.onScreen.lecture.symm

theorem undisturbed_of_answers {w : Player} {tail : List SkipInput} (answers : ∀ i ∈ tail, Answers i) :
    ∀ f ∈ run skipStep w tail, Undisturbed f.before f.input := by
  intro f member
  obtain ⟨k, reply, same⟩ := answers f.input (input_mem_of_mem skipStep member)
  unfold Undisturbed
  rw [same]
  trivial

theorem initState_attuned {urls titles : List String} {playTime : PlayTime} {w : Player}
    (opened : Player.initState urls titles playTime = some w) : Attuned w where
  onScreen := initState_onScreen opened
  counts := initState_counts opened
  lookups := by
    obtain ⟨-, -, -, -, tasks⟩ := initState_shared opened
    simp [tasks]

/-! ## Disturbed steps -/

/-- A lookup's reply at the start of the lecture. -/
def fromTheStart : Reply := .answered 200 (some (.object [("current_time", .string "0")]))

/-- A log that names the device as the one that views. -/
def continuing (uuid : String) : Reply :=
  .answered 200 (some (.object [("CurrentState", .string "viewing"), ("UUID", .string uuid)]))

def reply (k : Nat) (r : Reply) : SkipInput := ⟨.resume k r, by simp⟩

theorem answers_reply (k : Nat) (r : Reply) : Answers (reply k r) := ⟨k, r, rfl⟩

/-- Answered with a minute, any lookup seeks. -/
theorem seeks_of_pending {w : Player} {k : Nat} {lmNum : Int}
    (pending : w.tasks[k]? = some (.awaitingTime lmNum)) :
    ∃ position, Effect.seekTo position ∈ (skipStep w (reply k fromTheStart)).2 := by
  refine ⟨Duration.zero, ?_⟩
  have minute : w.shared.playTime.assign [("current_time", .string "0")] =
      some { w.shared.playTime with currentTime := some 0, fin := .null } := rfl
  simp only [skipStep, reply, step_resume mediaControl pending]
  simp only [mediaControl, State.resume, fromTheStart, Reply.object_answered, State.timeAnswered,
    minute, State.mem_resumePlaying]
  exact .inr (.inl rfl)

/-- A lookup in flight for another lecture than the one on screen seeks there. -/
theorem not_seeksOwn_of_pending {w : Player} {k : Nat} {lmNum : Int}
    (pending : w.tasks[k]? = some (.awaitingTime lmNum)) (foreign : lmNum ≠ lectureOnScreen w) :
    ¬ SeeksOwn (fire skipStep w (reply k fromTheStart)) := by
  intro own
  obtain ⟨position, sought⟩ := seeks_of_pending pending
  exact foreign (own k fromTheStart lmNum position rfl pending sought)

/-- A log check answered for this device leaves a lookup in its place. -/
theorem continuing_step {w : Player} {k : Nat} {uuid : String}
    (pending : w.tasks[k]? = some (.awaitingLog uuid)) :
    (skipStep w (reply k (continuing uuid))).1 =
      ⟨w.shared, replaceAt k [.awaitingTime w.shared.playTime.lmNum] w.tasks⟩ := by
  have own : State.checkLog uuid [("CurrentState", .string "viewing"), ("UUID", .string uuid)] =
      .continues := by
    simp [State.checkLog, JsonObject.get_cons, Json.equals]
  simp only [skipStep, reply, step_resume mediaControl pending]
  simp only [mediaControl, State.resume, continuing, Reply.object_answered, State.logAnswered, own]

/-- The replies that bring a disturbance to light: at once where a lookup is in
    flight for another lecture, and after one more check where the count is off. -/
theorem exposes_pending {w : Player} {i : SkipInput} {k : Nat} {lmNum : Int}
    (pending : (skipStep w i).1.tasks[k]? = some (.awaitingTime lmNum))
    (foreign : lmNum ≠ lectureOnScreen (skipStep w i).1) :
    ∃ tail, (∀ j ∈ tail, Answers j) ∧ ∃ f ∈ run skipStep w (i :: tail), ¬ SeeksOwn f := by
  refine ⟨[reply k fromTheStart], by simpa using answers_reply k fromTheStart, _, ?_,
    not_seeksOwn_of_pending pending foreign⟩
  simp

theorem exposes_count {w : Player} {i : SkipInput} {k : Nat} {uuid : String}
    (pending : (skipStep w i).1.tasks[k]? = some (.awaitingLog uuid))
    (off : (skipStep w i).1.shared.playTime.lmNum ≠ lectureOnScreen (skipStep w i).1) :
    ∃ tail, (∀ j ∈ tail, Answers j) ∧ ∃ f ∈ run skipStep w (i :: tail), ¬ SeeksOwn f := by
  have asked := continuing_step pending
  have looking : (skipStep (skipStep w i).1 (reply k (continuing uuid))).1.tasks[k]? =
      some (.awaitingTime (skipStep w i).1.shared.playTime.lmNum) := by
    rw [asked]
    exact replaceAt_head pending
  have sameScreen : lectureOnScreen (skipStep (skipStep w i).1 (reply k (continuing uuid))).1 =
      lectureOnScreen (skipStep w i).1 := by
    rw [asked]
    rfl
  refine ⟨[reply k (continuing uuid), reply k fromTheStart], ?_, _, ?_,
    not_seeksOwn_of_pending looking (by rw [sameScreen]; exact off)⟩
  · simp [answers_reply]
  · simp

/-- A skip that moves while a lookup is in flight leaves it to the wrong lecture. -/
theorem exposes_moved {w : Player} {i : SkipInput} {e : Event} {count : Int} {place : Nat}
    {turn : Turn State Task Effect} (attuned : Attuned w) (pressed : i.val = .event e)
    (taken : w.shared.react e = turn) (moved : w.shared.Moved count place turn)
    (landing : w.shared.dataManager.currentPlaying + count = place) (counts : count ≠ 0)
    (inFlight : ¬ NoLookup w) :
    ∃ tail, (∀ j ∈ tail, Answers j) ∧ ∃ f ∈ run skipStep w (i :: tail), ¬ SeeksOwn f := by
  obtain ⟨lmNum, member⟩ : ∃ lmNum, Task.awaitingTime lmNum ∈ w.tasks := by
    simpa only [NoLookup, not_forall, not_not] using inFlight
  obtain ⟨k, located⟩ := List.getElem?_of_mem member
  obtain ⟨inside, -⟩ := List.getElem?_eq_some_iff.mp located
  have own : lmNum = w.shared.dataManager.currentPlaying + 1 := attuned.lookups lmNum member
  have after : (skipStep w i).1 = ⟨turn.shared, w.tasks ++ turn.tasks⟩ := by
    rw [skipStep, pressed, step_event]
    simp only [mediaControl, taken]
  have pending : (skipStep w i).1.tasks[k]? = some (.awaitingTime lmNum) := by
    rw [after, List.getElem?_append_left inside]
    exact located
  apply exposes_pending pending
  rw [after]
  simp only [lectureOnScreen, moved.shown]
  omega

/-- A skip that cannot move leaves the count off, and asks for the log. -/
theorem exposes_stayed {w : Player} {i : SkipInput} {e : Event} {count : Int}
    {effects : List Effect} (attuned : Attuned w) (pressed : i.val = .event e)
    (taken : w.shared.react e =
      { shared := w.shared.counted count
        tasks := [.awaitingLog w.shared.playTime.uuid]
        effects := effects }) (counts : count ≠ 0) :
    ∃ tail, (∀ j ∈ tail, Answers j) ∧ ∃ f ∈ run skipStep w (i :: tail), ¬ SeeksOwn f := by
  have agreed := attuned.counts.lmNum
  have screen : lectureOnScreen w = w.shared.selectedLecture := attuned.onScreen.lecture
  have after : (skipStep w i).1 =
      ⟨w.shared.counted count, w.tasks ++ [.awaitingLog w.shared.playTime.uuid]⟩ := by
    rw [skipStep, pressed, step_event]
    simp only [mediaControl, taken]
  have pending : (skipStep w i).1.tasks[w.tasks.length]? =
      some (.awaitingLog w.shared.playTime.uuid) := by
    rw [after, List.getElem?_append_right (Nat.le_refl _)]
    simp
  have newCount : (skipStep w i).1.shared.playTime.lmNum = w.shared.playTime.lmNum + count := by
    rw [after]
    rfl
  have sameScreen : lectureOnScreen (skipStep w i).1 = lectureOnScreen w := by
    rw [after]
    rfl
  exact exposes_count pending (by omega)

theorem exposes_skips {w : Player} {i : SkipInput} {e : Event} {count : Int} {neighbour : Bool}
    {turn : Turn State Task Effect} (attuned : Attuned w) (pressed : i.val = .event e)
    (taken : w.shared.react e = turn) (skips : w.shared.Skips count neighbour turn)
    (changes : count ≠ 0) (violated : ¬ (neighbour = true ∧ NoLookup w)) :
    ∃ tail, (∀ j ∈ tail, Answers j) ∧ ∃ f ∈ run skipStep w (i :: tail), ¬ SeeksOwn f := by
  cases skips with
  | moves there landing moved =>
      apply exposes_moved attuned pressed taken moved landing changes
      exact fun none => violated ⟨there, none⟩
  | stays _ same => exact exposes_stayed attuned pressed (taken.trans same) changes

theorem exposes_disturbed (w : Player) (i : SkipInput) (attuned : Attuned w)
    (disturbed : ¬ Undisturbed w i) :
    ∃ tail, (∀ j ∈ tail, Answers j) ∧ ∃ f ∈ run skipStep w (i :: tail), ¬ SeeksOwn f := by
  have located := attuned.counts.located
  unfold Undisturbed at disturbed
  split at disturbed
  · rename_i pressed
    obtain ⟨onTop, violated⟩ := Classical.not_imp.mp disturbed
    have reached : w.shared.react .previous = w.shared.previousPressed := if_pos onTop
    exact exposes_skips attuned pressed reached (State.previousPressed_skips located) (by decide)
      violated
  · rename_i pressed
    obtain ⟨onTop, violated⟩ := Classical.not_imp.mp disturbed
    have reached : w.shared.react .next = w.shared.nextPressed := if_pos onTop
    exact exposes_skips attuned pressed reached (State.nextPressed_skips located) (by decide)
      violated
  · exact absurd trivial disturbed

/-! ## The last seek -/

theorem onTop_of_final {w : Player} (present : w.shared.Present) (is : List SkipInput)
    (onTop : (final skipStep w is).shared.onTop = true) : w.shared.onTop = true := by
  induction is generalizing w with
  | nil => exact onTop
  | cons i rest ih =>
      have next := ih (present_step w i present) onTop
      exact present.onTop_of_routes (routes_step w i) next

/-- A step that hands no video over keeps the lecture on screen. -/
theorem lectureOnScreen_step {w : Player} {i : SkipInput} (here : OnScreen w)
    (stays : ∀ change, Effect.handleChangeVideo change ∉ (skipStep w i).2) :
    lectureOnScreen (skipStep w i).1 = lectureOnScreen w := by
  obtain ⟨turn, tasks, taken, -, kind⟩ := exists_playerTurn w i
  simp only [skipStep, taken] at stays ⊢
  rcases (kind.shown i.property here).2.2 with ⟨change, handed⟩ | same
  · exact absurd handed (stays change)
  · simp only [lectureOnScreen, same]

theorem lectureOnScreen_final {w : Player} (here : OnScreen w) (is : List SkipInput)
    (stays : ∀ g ∈ run skipStep w is, ∀ change, Effect.handleChangeVideo change ∉ g.effects) :
    lectureOnScreen (final skipStep w is) = lectureOnScreen w := by
  induction is generalizing w with
  | nil => rfl
  | cons i rest ih =>
      simp only [run_cons, List.forall_mem_cons] at stays
      exact (ih (onScreen_step w i here) stays.2).trans (lectureOnScreen_step here stays.1)

theorem resumesAt_of_last {w : Player} {is : List SkipInput}
    (attuned : ∀ f ∈ run skipStep w is, Attuned f.before)
    {pre post : List (Fired Player SkipInput Effect)} {f : Fired Player SkipInput Effect}
    (shape : run skipStep w is = pre ++ f :: post)
    (seeks : ∃ position, Effect.seekTo position ∈ f.effects)
    (stays : ∀ g ∈ post, ∀ change, Effect.handleChangeVideo change ∉ g.effects)
    (onTop : (final skipStep w is).shared.onTop = true) :
    ResumesAt (lectureOnScreen (final skipStep w is)) f := by
  have before : Attuned f.before := attuned f (by rw [shape]; simp)
  obtain ⟨position, sought⟩ := seeks
  obtain ⟨front, back, rfl, -, fired, rfl⟩ := exists_cut skipStep shape
  have after : f.after = (skipStep f.before f.input).1 := by rw [fired]; rfl
  have effects : f.effects = (skipStep f.before f.input).2 := by rw [fired]; rfl
  have ending : final skipStep w (front ++ f.input :: back) = final skipStep f.after back := by
    rw [final_append, final_cons, fired]
    rfl
  have onScreen : OnScreen f.after := by
    rw [after]
    exact onScreen_step _ _ before.onScreen
  have afterOnTop : f.after.shared.onTop = true :=
    onTop_of_final onScreen.present back (by rw [← ending]; exact onTop)
  have seek : .seekTo position ∈ (mediaControl.step f.before f.input.val).2 := by
    rw [effects] at sought
    exact sought
  rcases seek_cases seek with
    ⟨text, closed⟩ | ⟨k, reply, lmNum, res, minute, input, pending, answer, read, place⟩
  · have head : f.after.shared.navigator = .alert text :: f.before.shared.navigator.tail := by
      rw [after]
      exact closed
    simp [State.onTop, head] at afterOnTop
  · have sameScreen : lectureOnScreen f.after = lectureOnScreen f.before := by
      rw [after]
      apply lectureOnScreen_step before.onScreen
      intro change
      rw [skipStep, input]
      exact not_switch_of_resume f.before k reply change
    have own : lmNum = lectureOnScreen f.before :=
      (before.lookups lmNum (List.mem_of_getElem? pending)).trans before.onScreen.lecture.symm
    rw [ending, lectureOnScreen_final onScreen back stays, sameScreen, ← own]
    exact ⟨k, reply, res, minute, input, pending, answer, read, place ▸ sought⟩

/-- Whatever the inputs of a run and the order in which the replies still missing
    come in at its end, lookups seek their own lecture and the last seek on screen is
    at its own resume point, exactly if every skip that reaches the player has a
    lecture to go to and finds no lookup in flight. -/
theorem resumePoint_own_iff {urls titles : List String} {playTime : PlayTime} {w : Player}
    (opened : Player.initState urls titles playTime = some w) (is : List SkipInput) :
    (∀ front, front <+: is → ∀ tail, (∀ i ∈ tail, Answers i) → AppliesOwn w (front ++ tail)) ↔
      ∀ f ∈ run skipStep w is, Undisturbed f.before f.input := by
  have start : Attuned w := initState_attuned opened
  have exact : GoodThroughout skipStep (fun tail => ∀ i ∈ tail, Answers i) SeeksOwn w is ↔
      ∀ f ∈ run skipStep w is, Undisturbed f.before f.input :=
    goodThroughout_iff_guarded attuned_step (fun v i attuned _ => seeksOwn_of_attuned v i attuned)
      (fun _ _ _ => undisturbed_of_answers) exposes_disturbed start is
  rw [← exact]
  constructor
  · intro all front isPrefix tail answers
    exact (all front isPrefix tail answers).seeks
  · intro all front isPrefix tail answers
    refine ⟨all front isPrefix tail answers, ?_⟩
    have guarded := guarded_append attuned_step (fun _ _ _ => undisturbed_of_answers) start isPrefix
      (exact.mp all) answers
    have attuned := invariant_of_guarded attuned_step start guarded
    intro pre f post shape seeks stays onTop
    exact resumesAt_of_last (fun f member => (attuned f member).1) shape seeks stays onTop

/-- The first lecture's lookup is in flight when the button for the next one is
    pressed; its reply then moves the second lecture. -/
theorem staleReply_seeks :
    Player.initState ["v/1.mp4", "v/2.mp4"] ["1강", "2강"] sampleRecord = some samplePlayer ∧
      ∃ f ∈ run skipStep samplePlayer
          [reply 0 (continuing "device-a"), ⟨.event .next, by simp⟩, reply 0 fromTheStart],
        f.before.tasks[0]? = some (.awaitingTime 1) ∧ lectureOnScreen f.before = 2 ∧
          Effect.seekTo Duration.zero ∈ f.effects :=
  ⟨rfl, _, List.mem_cons_of_mem _ (List.mem_cons_of_mem _ List.mem_cons_self), by decide, by decide,
    by decide⟩

theorem resumePoint_own_iff_sample :
    (∀ front, front <+: [reply 0 (continuing "device-a"), reply 0 fromTheStart] →
      ∀ tail, (∀ i ∈ tail, Answers i) → AppliesOwn samplePlayer (front ++ tail)) ↔
        ∀ f ∈ run skipStep samplePlayer [reply 0 (continuing "device-a"), reply 0 fromTheStart],
          Undisturbed f.before f.input :=
  resumePoint_own_iff samplePlayer_opened _

end Edutopik.Media

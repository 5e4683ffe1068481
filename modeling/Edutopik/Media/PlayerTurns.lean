import Edutopik.Media.MediaControl

/-! # What one turn of the player can do

Only the skip buttons and the end of a video touch the lecture count or the
`DataManager`, and only they hand a video over. `Quiet` says this of every other
turn; the lemmas after it say what those three do, once per branch.
-/

namespace Edutopik.Media

open Dart EventLoop

/-- What a task can do when its answer comes, with what the answer has to say for it:
    raise, close the player, go on to the lookup, or seek. -/
inductive Resumed (s : State) (reply : Reply) : Task → Turn State Task Effect → Prop where
  | unread {task} : reply.object = none → Resumed s reply task s.idle
  | unmounted {uuid res} : reply.object = some res → State.checkLog uuid res ≠ .continues →
      s.mounted = false → Resumed s reply (.awaitingLog uuid) s.idle
  | closes {uuid res} (text : String) : reply.object = some res →
      State.checkLog uuid res ≠ .continues → s.mounted = true →
        Resumed s reply (.awaitingLog uuid)
          (State.resumePlaying { s with navigator := .alert text :: s.navigator.tail }
            [.pop, .showDialog text])
  | asks {uuid res} : reply.object = some res → State.checkLog uuid res = .continues →
      Resumed s reply (.awaitingLog uuid)
        { shared := s
          tasks := [.awaitingTime s.playTime.lmNum]
          effects := [.getPlayTime s.playTime.resumeQuery] }
  | unreadable {lmNum res} : reply.object = some res →
      (res.get "current_time").toText.bind parseInt = none →
        Resumed s reply (.awaitingTime lmNum) s.idle
  | seeks {lmNum res} (minute : Int) : reply.object = some res →
      (res.get "current_time").toText.bind parseInt = some minute →
        Resumed s reply (.awaitingTime lmNum)
          (State.resumePlaying { s with
            playTime := { s.playTime with currentTime := some minute, fin := res.get "fin" } } [])

theorem Resumed.of_close {s : State} {reply : Reply} {uuid : String} {res : JsonObject}
    (answer : reply.object = some res) (refused : State.checkLog uuid res ≠ .continues)
    (text : String) : Resumed s reply (.awaitingLog uuid) (s.close text) := by
  unfold State.close
  split
  · rename_i mounted
    exact .closes text answer refused mounted
  · rename_i unmounted
    exact .unmounted answer refused (by simpa using unmounted)

theorem resumed (s : State) (task : Task) (reply : Reply) :
    Resumed s reply task (s.resume task reply) := by
  unfold State.resume
  cases answer : reply.object with
  | none => exact .unread answer
  | some res =>
      cases task with
      | awaitingLog uuid =>
          simp only [State.logAnswered]
          cases checked : State.checkLog uuid res with
          | sessionExpired => exact .of_close answer (by simp [checked]) _
          | duplicateViewing => exact .of_close answer (by simp [checked]) _
          | continues => exact .asks answer checked
      | awaitingTime lmNum =>
          simp only [State.timeAnswered]
          cases read : (res.get "current_time").toText.bind parseInt with
          | none =>
              have unassigned : s.playTime.assign res = none := by simp only [PlayTime.assign, read]
              rw [unassigned]
              exact .unreadable answer read
          | some minute =>
              rw [PlayTime.assign_eq_some_iff.mpr ⟨minute, read, rfl⟩]
              exact .seeks minute answer read

/-- A turn that leaves the lecture alone: nothing it sends or asks names another
    one, and no video is handed over. -/
structure Quiet (s : State) (turn : Turn State Task Effect) : Prop where
  lmNum : turn.shared.playTime.lmNum = s.playTime.lmNum
  dataManager : turn.shared.dataManager = s.dataManager
  reports : ∀ r, Effect.sendPlayTime r ∈ turn.effects → r.lmNum = s.playTime.lmNum
  lookups : ∀ q, Effect.getPlayTime q ∈ turn.effects → q.lmNum = s.playTime.lmNum
  switches : ∀ change, Effect.handleChangeVideo change ∉ turn.effects
  asked : ∀ lmNum, Task.awaitingTime lmNum ∈ turn.tasks → lmNum = s.playTime.lmNum
  /-- Without a timer there is nothing that could change the video on screen. -/
  shown : s.flickManager.timers = [] → turn.shared.flickManager.timers = [] ∧
    turn.shared.flickManager.current.index = s.flickManager.current.index

namespace Quiet

variable {s : State}

theorem idle : Quiet s s.idle where
  lmNum := rfl
  dataManager := rfl
  reports := by simp [State.idle]
  lookups := by simp [State.idle]
  switches := by simp [State.idle]
  asked := by simp [State.idle]
  shown := fun none => ⟨none, rfl⟩

theorem backTapped : Quiet s s.backTapped where
  lmNum := rfl
  dataManager := rfl
  reports := by simp [State.backTapped, PlayTime.report, State.takePosition]
  lookups := by simp [State.backTapped]
  switches := by simp [State.backTapped]
  asked := by simp [State.backTapped]
  shown := fun none => ⟨none, rfl⟩

theorem setSpeed (speed : ℚ) : Quiet s (s.setSpeed speed) where
  lmNum := rfl
  dataManager := rfl
  reports := by simp [State.setSpeed]
  lookups := by simp [State.setSpeed]
  switches := by simp [State.setSpeed]
  asked := by simp [State.setSpeed]
  shown := fun none => ⟨none, rfl⟩

/-- A turn that only moves things outside the record and the lecture list. -/
theorem elsewhere {t : State} (sameRecord : t.playTime = s.playTime)
    (sameList : t.dataManager = s.dataManager)
    (sameVideo : s.flickManager.timers = [] → t.flickManager.timers = [] ∧
      t.flickManager.current.index = s.flickManager.current.index)
    {effects : List Effect} (silent : effects = [] ∨ effects = [.pop]) :
    Quiet s { shared := t, effects := effects } where
  lmNum := congrArg PlayTime.lmNum sameRecord
  dataManager := sameList
  reports := by rcases silent with rfl | rfl <;> simp
  lookups := by rcases silent with rfl | rfl <;> simp
  switches := by rcases silent with rfl | rfl <;> simp
  asked := by simp
  shown := sameVideo

theorem resumePlaying {t : State} (sameNumber : t.playTime.lmNum = s.playTime.lmNum)
    (sameList : t.dataManager = s.dataManager) (sameVideo : t.flickManager = s.flickManager)
    {effects : List Effect} (silent : effects = [] ∨ ∃ text, effects = [.pop, .showDialog text]) :
    Quiet s (t.resumePlaying effects) where
  lmNum := by
    rw [State.resumePlaying_shared]
    exact sameNumber
  dataManager := by
    rw [State.resumePlaying_shared]
    exact sameList
  reports := by rcases silent with rfl | ⟨text, rfl⟩ <;> simp [State.mem_resumePlaying]
  lookups := by rcases silent with rfl | ⟨text, rfl⟩ <;> simp [State.mem_resumePlaying]
  switches := by rcases silent with rfl | ⟨text, rfl⟩ <;> simp [State.mem_resumePlaying]
  asked := by simp
  shown := by
    intro none
    rw [State.resumePlaying_shared, sameVideo]
    exact ⟨none, rfl⟩

theorem of_resumed {reply : Reply} {task : Task} {turn : Turn State Task Effect}
    (resumed : Resumed s reply task turn) : Quiet s turn := by
  cases resumed with
  | closes text => exact resumePlaying (by rfl) (by rfl) (by rfl) (.inr ⟨text, rfl⟩)
  | asks =>
      exact
        { lmNum := rfl
          dataManager := rfl
          reports := by simp
          lookups := by simp [PlayTime.resumeQuery]
          switches := by simp
          asked := by simp
          shown := fun none => ⟨none, rfl⟩ }
  | seeks minute => exact resumePlaying (by rfl) (by rfl) (by rfl) (.inl rfl)
  | _ => exact idle

theorem resume (task : Task) (reply : Reply) : Quiet s (s.resume task reply) :=
  of_resumed (resumed s task reply)

theorem ite {reached : Bool} {turn : Turn State Task Effect} (quiet : Quiet s turn) :
    Quiet s (if reached then turn else s.idle) := by
  cases reached with
  | true => exact quiet
  | false => exact idle

theorem react (e : Event) (notPrevious : e ≠ .previous) (notNext : e ≠ .next)
    (notEnd : e ≠ .videoEnd) : Quiet s (s.react e) := by
  cases e with
  | speedDown => exact ite (setSpeed _)
  | speedUp => exact ite (setSpeed _)
  | previous => exact absurd rfl notPrevious
  | next => exact absurd rfl notNext
  | back => exact ite backTapped
  | videoEnd => exact absurd rfl notEnd
  | timerFires k =>
      apply elsewhere (by rfl) (by rfl) _ (.inl rfl)
      intro none
      simp [FlickManager.timerFires, none]
  | timerCancelled k =>
      apply elsewhere (by rfl) (by rfl) _ (.inl rfl)
      intro none
      simp [FlickManager.timerCancelled, none]
  | plays position => exact elsewhere (by rfl) (by rfl) (fun none => by exact ⟨none, rfl⟩) (.inl rfl)
  | confirmAlert =>
      simp only [State.react]
      split
      · exact elsewhere (by rfl) (by rfl) (fun none => by exact ⟨none, rfl⟩) (.inr rfl)
      · exact idle
  | disposed => exact elsewhere (by rfl) (by rfl) (fun none => by exact ⟨none, rfl⟩) (.inl rfl)

end Quiet

/-- The events that reach code which may move the lecture. -/
def MovesLecture (w : Player) : PlayerInput → Prop
  | .event .previous | .event .next => w.shared.onTop = true
  | .event .videoEnd => w.shared.mounted = true
  | _ => False

/-- What a step of the player can do: a quiet turn, or one of the three that move
    the lecture, each where its event can reach the player. -/
inductive PlayerTurn (w : Player) : PlayerInput → Turn State Task Effect → Prop where
  | quiet {i turn} : ¬ MovesLecture w i → Quiet w.shared turn → PlayerTurn w i turn
  | previous : w.shared.onTop = true → PlayerTurn w (.event .previous) w.shared.previousPressed
  | next : w.shared.onTop = true → PlayerTurn w (.event .next) w.shared.nextPressed
  | videoEnd : w.shared.mounted = true → PlayerTurn w (.event .videoEnd) w.shared.onVideoEnd

theorem PlayerTurn.ite {w : Player} {e : Event} {reached : Bool} {turn : Turn State Task Effect}
    (taken : reached = true → PlayerTurn w (.event e) turn)
    (missed : reached ≠ true → ¬ MovesLecture w (.event e)) :
    PlayerTurn w (.event e) (if reached then turn else w.shared.idle) := by
  cases reached with
  | true => exact taken rfl
  | false => exact .quiet (missed (by decide)) Quiet.idle

theorem playerTurn_react (w : Player) (e : Event) :
    PlayerTurn w (.event e) (w.shared.react e) := by
  cases e with
  | previous => exact .ite .previous (fun missed => missed)
  | next => exact .ite .next (fun missed => missed)
  | videoEnd => exact .ite .videoEnd (fun missed => missed)
  | _ =>
      apply PlayerTurn.quiet
      · exact id
      · apply Quiet.react <;> simp

/-- The tasks pending after a turn are those it started and some that were pending. -/
structure Leaves (w : Player) (turn : Turn State Task Effect) (tasks : List Task) : Prop where
  started : turn.tasks ⊆ tasks
  known : ∀ t ∈ tasks, t ∈ turn.tasks ∨ t ∈ w.tasks

namespace Leaves

theorem event (w : Player) (turn : Turn State Task Effect) : Leaves w turn (w.tasks ++ turn.tasks) where
  started := List.subset_append_right _ _
  known := fun _ member => (List.mem_append.mp member).symm

theorem resume (w : Player) (k : Nat) (turn : Turn State Task Effect) :
    Leaves w turn (replaceAt k turn.tasks w.tasks) where
  started := subset_replaceAt k _ _
  known := fun _ member => mem_replaceAt member

theorem idle (w : Player) : Leaves w w.shared.idle w.tasks where
  started := List.nil_subset _
  known := fun _ member => .inr member

end Leaves

/-- Every step is the turn of its handler or of its task. -/
theorem exists_playerTurn (w : Player) (i : PlayerInput) :
    ∃ turn tasks, mediaControl.step w i = (⟨turn.shared, tasks⟩, turn.effects) ∧
      Leaves w turn tasks ∧ PlayerTurn w i turn := by
  rcases step_cases w i with ⟨e, rfl⟩ | ⟨k, r, rfl, missing⟩ | ⟨k, r, t, rfl, located⟩
  · exact ⟨_, _, step_event mediaControl w e, .event w _, playerTurn_react w e⟩
  · exact ⟨w.shared.idle, w.tasks, step_idle mediaControl missing r, .idle w,
      .quiet (fun h => h) Quiet.idle⟩
  · exact ⟨_, _, step_resume mediaControl located r, .resume w k _,
      .quiet (fun h => h) (Quiet.resume t r)⟩

/-! ## The skips -/

/-- The index selected is one of the list. -/
def State.Located (s : State) : Prop := ∃ (n : Nat) (c : Cursor n), s.dataManager.At c

namespace State

variable {n : Nat} {s : State} {c : Cursor n}

/-- The report a skip button sends. -/
def skipReport (s : State) : Report := s.takePosition.playTime.report "N"

@[simp] theorem skipReport_lmNum (s : State) : s.skipReport.lmNum = s.playTime.lmNum := rfl

/-- The state after a skip button has counted but not moved. -/
def counted (s : State) (count : Int) : State :=
  { s.takePosition with playTime.lmNum := s.playTime.lmNum + count }

theorem skipPressed_stays {count : Int} {skip : DataManager → DataManager × Skip}
    (stays : skip s.dataManager = (s.dataManager, .stays)) :
    s.skipPressed count skip =
      { shared := s.counted count
        tasks := [.awaitingLog s.playTime.uuid]
        effects := [.sendPlayTime s.skipReport, .getLastLog s.playTime.logQuery] } := by
  have same : skip s.takePosition.dataManager = (s.dataManager, .stays) := stays
  simp only [skipPressed, same]
  rfl

theorem skipPressed_hands {count : Int} {skip : DataManager → DataManager × Skip}
    {moved : DataManager} {change : ChangeVideo}
    (hands : skip s.dataManager = (moved, .hands change)) :
    s.skipPressed count skip =
      { shared := { s.counted count with
          dataManager := moved
          flickManager := s.flickManager.handleChangeVideo change }
        tasks := [.awaitingLog s.playTime.uuid]
        effects := [.sendPlayTime s.skipReport, .handleChangeVideo change,
          .getLastLog s.playTime.logQuery] } := by
  have same : skip s.takePosition.dataManager = (moved, .hands change) := hands
  simp only [skipPressed, same]
  rfl

/-- What a skip button does when there is a lecture on its side: the lecture at
    `place` is selected and shown at once. -/
structure Moved (s : State) (count : Int) (place : Nat) (turn : Turn State Task Effect) : Prop where
  lmNum : turn.shared.playTime.lmNum = s.playTime.lmNum + count
  selected : turn.shared.dataManager.currentPlaying = place
  shown : turn.shared.flickManager.current.index = place
  timers : turn.shared.flickManager.timers = s.flickManager.timers
  mounted : turn.shared.mounted = s.mounted
  tasks : turn.tasks = [.awaitingLog s.playTime.uuid]
  effects : ∃ url, turn.effects = [.sendPlayTime s.skipReport,
    .handleChangeVideo ⟨url, place, none⟩, .getLastLog s.playTime.logQuery]

theorem previousPressed_moves (located : s.dataManager.At c) (more : c.HasPrevious) :
    s.Moved (-1) (c.place - 1) s.previousPressed := by
  obtain ⟨url, _, moves⟩ := DataManager.skipToPreviousVideo_moves located more
  have back : ((c.place - 1 : Nat) : Int) = (c.place : Int) - 1 := Int.natCast_sub more
  rw [previousPressed, skipPressed_hands moves]
  exact
    { lmNum := rfl
      selected := back.symm
      shown := back.symm
      timers := rfl
      mounted := rfl
      tasks := rfl
      effects := ⟨url, by rw [back]⟩ }

theorem nextPressed_moves (located : s.dataManager.At c) (more : c.HasNext) :
    s.Moved 1 (c.place + 1) s.nextPressed := by
  obtain ⟨url, _, moves⟩ := DataManager.skipToNextVideo_moves located more none
  rw [nextPressed, skipPressed_hands moves]
  exact
    { lmNum := rfl
      selected := (Int.natCast_succ c.place).symm
      shown := (Int.natCast_succ c.place).symm
      timers := rfl
      mounted := rfl
      tasks := rfl
      effects := ⟨url, by rw [Int.natCast_succ]⟩ }

theorem previousPressed_stays (located : s.dataManager.At c) (first : ¬ c.HasPrevious) :
    s.previousPressed =
      { shared := s.counted (-1)
        tasks := [.awaitingLog s.playTime.uuid]
        effects := [.sendPlayTime s.skipReport, .getLastLog s.playTime.logQuery] } :=
  skipPressed_stays (DataManager.skipToPreviousVideo_stays located first)

theorem nextPressed_stays (located : s.dataManager.At c) (last : ¬ c.HasNext) :
    s.nextPressed =
      { shared := s.counted 1
        tasks := [.awaitingLog s.playTime.uuid]
        effects := [.sendPlayTime s.skipReport, .getLastLog s.playTime.logQuery] } :=
  skipPressed_stays (DataManager.skipToNextVideo_stays located last none)

/-- What a skip button does: it goes to the lecture on its side, or finds none there
    and only counts. -/
inductive Skips (s : State) (count : Int) (neighbour : Bool) (turn : Turn State Task Effect) :
    Prop where
  | moves {place : Nat} : neighbour = true → s.dataManager.currentPlaying + count = place →
      s.Moved count place turn → Skips s count neighbour turn
  | stays : neighbour = false → turn =
      { shared := s.counted count
        tasks := [.awaitingLog s.playTime.uuid]
        effects := [.sendPlayTime s.skipReport, .getLastLog s.playTime.logQuery] } →
      Skips s count neighbour turn

theorem previousPressed_skips (located : s.Located) :
    s.Skips (-1) s.dataManager.hasPreviousVideo s.previousPressed := by
  obtain ⟨n, c, here⟩ := located
  have neighbour := here.hasPreviousVideo_iff
  by_cases more : c.HasPrevious
  · have positive : 0 < c.place := more
    have landing : s.dataManager.currentPlaying + -1 = (c.place - 1 : Nat) := by
      rw [here.place]
      omega
    exact .moves (neighbour.mpr more) landing (previousPressed_moves here more)
  · have none : s.dataManager.hasPreviousVideo = false :=
      Bool.eq_false_iff.mpr fun there => more (neighbour.mp there)
    exact .stays none (previousPressed_stays here more)

theorem nextPressed_skips (located : s.Located) :
    s.Skips 1 s.dataManager.hasNextVideo s.nextPressed := by
  obtain ⟨n, c, here⟩ := located
  have neighbour := here.hasNextVideo_iff
  by_cases more : c.HasNext
  · have landing : s.dataManager.currentPlaying + 1 = (c.place + 1 : Nat) := by
      rw [here.place, Int.natCast_succ]
    exact .moves (neighbour.mpr more) landing (nextPressed_moves here more)
  · have none : s.dataManager.hasNextVideo = false :=
      Bool.eq_false_iff.mpr fun there => more (neighbour.mp there)
    exact .stays none (nextPressed_stays here more)

/-! ## The end of a video -/

theorem onVideoEnd_stays (located : s.dataManager.At c) (last : ¬ c.HasNext) :
    s.onVideoEnd = s.idle := by
  simp only [onVideoEnd, DataManager.skipToNextVideo_stays located last]
  rfl

/-- With a next lecture the selection moves at once and the video after the delay;
    the lecture count stays and no task is started. -/
theorem onVideoEnd_moves (located : s.dataManager.At c) (more : c.HasNext) :
    ∃ url, s.onVideoEnd =
      { shared := { s with
          dataManager.currentPlaying := c.place + 1
          flickManager := s.flickManager.handleChangeVideo
            ⟨url, c.place + 1, some (Duration.ofSeconds 5)⟩ }
        effects := [.handleChangeVideo ⟨url, c.place + 1, some (Duration.ofSeconds 5)⟩] } := by
  obtain ⟨url, _, moves⟩ :=
    DataManager.skipToNextVideo_moves located more (some (Duration.ofSeconds 5))
  refine ⟨url, ?_⟩
  simp only [onVideoEnd, moves]

end State

/-! ## Where an effect comes from -/

theorem State.mem_ite {s : State} {reached : Bool} {turn : Turn State Task Effect} {x : Effect}
    (letOut : x ∈ (if reached then turn else s.idle).effects) : reached = true ∧ x ∈ turn.effects := by
  cases reached with
  | true => exact ⟨rfl, letOut⟩
  | false => simp [State.idle] at letOut

theorem State.mem_skipPressed {s : State} {count : Int} {skip : DataManager → DataManager × Skip}
    {x : Effect} (letOut : x ∈ (s.skipPressed count skip).effects) :
    x = .sendPlayTime s.skipReport ∨ (∃ change, x = .handleChangeVideo change) ∨
      x = .getLastLog s.playTime.logQuery := by
  unfold State.skipPressed at letOut
  dsimp only at letOut
  split at letOut
  · exact .inl (List.mem_singleton.mp letOut)
  · rcases List.mem_cons.mp letOut with reported | checked
    · exact .inl reported
    · exact .inr (.inr (List.mem_singleton.mp checked))
  · rename_i change _
    rcases List.mem_cons.mp letOut with reported | later
    · exact .inl reported
    · rcases List.mem_cons.mp later with switched | checked
      · exact .inr (.inl ⟨change, switched⟩)
      · exact .inr (.inr (List.mem_singleton.mp checked))

theorem State.mem_onVideoEnd {s : State} {x : Effect} (letOut : x ∈ s.onVideoEnd.effects) :
    ∃ change, x = .handleChangeVideo change := by
  unfold State.onVideoEnd at letOut
  dsimp only at letOut
  split at letOut
  · exact ⟨_, List.mem_singleton.mp letOut⟩
  · simp at letOut
  · simp at letOut

/-- What an event can let out. Only buttons report, and only where they can be pressed. -/
inductive EventLets (s : State) (e : Event) : Effect → Prop where
  | report (fin : String) : fin ∈ ["N", "Y"] → e = .previous ∨ e = .next ∨ e = .back →
      s.onTop = true → EventLets s e (.sendPlayTime (s.takePosition.playTime.report fin))
  | check : EventLets s e (.getLastLog s.playTime.logQuery)
  | switch (change : ChangeVideo) : EventLets s e (.handleChangeVideo change)
  | speed (speed : ℚ) : EventLets s e (.setPlaybackSpeed speed)
  | pop : e = .back ∨ e = .confirmAlert → EventLets s e .pop

theorem EventLets.of_skipPressed {s : State} {e : Event} {count : Int}
    {skip : DataManager → DataManager × Skip} {x : Effect}
    (button : e = .previous ∨ e = .next ∨ e = .back) (onTop : s.onTop = true)
    (letOut : x ∈ (s.skipPressed count skip).effects) : EventLets s e x := by
  rcases State.mem_skipPressed letOut with rfl | ⟨change, rfl⟩ | rfl
  · exact .report "N" (by decide) button onTop
  · exact .switch change
  · exact .check

theorem eventLets {s : State} {e : Event} {x : Effect} (letOut : x ∈ (s.react e).effects) :
    EventLets s e x := by
  cases e with
  | speedDown =>
      cases List.mem_singleton.mp (State.mem_ite letOut).2
      exact .speed _
  | speedUp =>
      cases List.mem_singleton.mp (State.mem_ite letOut).2
      exact .speed _
  | previous =>
      obtain ⟨onTop, letOut⟩ := State.mem_ite letOut
      exact .of_skipPressed (.inl rfl) onTop letOut
  | next =>
      obtain ⟨onTop, letOut⟩ := State.mem_ite letOut
      exact .of_skipPressed (.inr (.inl rfl)) onTop letOut
  | back =>
      obtain ⟨onTop, letOut⟩ := State.mem_ite letOut
      rcases List.mem_cons.mp letOut with rfl | popped
      · exact .report "Y" (by decide) (.inr (.inr rfl)) onTop
      · cases List.mem_singleton.mp popped
        exact .pop (.inl rfl)
  | videoEnd =>
      obtain ⟨change, rfl⟩ := State.mem_onVideoEnd (State.mem_ite letOut).2
      exact .switch change
  | confirmAlert =>
      simp only [State.react] at letOut
      split at letOut
      · cases List.mem_singleton.mp letOut
        exact .pop (.inr rfl)
      · simp [State.idle] at letOut
  | _ => simp [State.react] at letOut

/-- What a task can let out. -/
inductive TaskLets (s : State) : Effect → Prop where
  | lookup : TaskLets s (.getPlayTime s.playTime.resumeQuery)
  | pop : TaskLets s .pop
  | alert (text : String) : TaskLets s (.showDialog text)
  | seek (position : Duration) : TaskLets s (.seekTo position)
  | rebuild : TaskLets s .setState

theorem TaskLets.of_resumePlaying {s t : State} {effects : List Effect} {x : Effect}
    (silent : ∀ y ∈ effects, TaskLets s y) (letOut : x ∈ (t.resumePlaying effects).effects) :
    TaskLets s x := by
  rcases State.mem_resumePlaying.mp letOut with before | rfl | ⟨-, rfl⟩
  · exact silent x before
  · exact .seek _
  · exact .rebuild

theorem taskLets {s : State} {task : Task} {reply : Reply} {x : Effect}
    (letOut : x ∈ (s.resume task reply).effects) : TaskLets s x := by
  have turn := resumed s task reply
  generalize s.resume task reply = next at letOut turn
  cases turn with
  | closes text =>
      refine .of_resumePlaying ?_ letOut
      intro y removed
      rcases List.mem_cons.mp removed with rfl | shown
      · exact .pop
      · cases List.mem_singleton.mp shown
        exact .alert text
  | asks =>
      cases List.mem_singleton.mp letOut
      exact .lookup
  | seeks minute => exact .of_resumePlaying (by simp) letOut
  | _ => simp [State.idle] at letOut

/-- Whatever a step lets out, its event or its task does. -/
theorem lets_cases {w : Player} {i : PlayerInput} {x : Effect} (letOut : x ∈ (mediaControl.step w i).2) :
    (∃ e, i = .event e ∧ EventLets w.shared e x) ∨ ∃ k reply, i = .resume k reply ∧ TaskLets w.shared x := by
  rcases step_cases w i with ⟨e, rfl⟩ | ⟨k, reply, rfl, missing⟩ | ⟨k, reply, t, rfl, located⟩
  · exact .inl ⟨e, rfl, eventLets letOut⟩
  · simp [step_idle mediaControl missing] at letOut
  · rw [step_resume mediaControl located] at letOut
    exact .inr ⟨k, reply, rfl, taskLets letOut⟩

/-! ## The index stays one of the list -/

theorem Quiet.located {s : State} {turn : Turn State Task Effect} (quiet : Quiet s turn)
    (located : s.Located) : turn.shared.Located := by
  obtain ⟨n, c, here⟩ := located
  exact ⟨n, c, by rw [quiet.dataManager]; exact here⟩

/-- Whatever else a skip does, its list is the one the skip leaves. -/
theorem State.skipPressed_dataManager (s : State) (count : Int)
    (skip : DataManager → DataManager × Skip) :
    (s.skipPressed count skip).shared.dataManager = (skip s.dataManager).1 := by
  unfold State.skipPressed
  dsimp only
  split <;> rfl

theorem State.onVideoEnd_dataManager (s : State) :
    s.onVideoEnd.shared.dataManager =
      (s.dataManager.skipToNextVideo (some (Duration.ofSeconds 5))).1 := by
  unfold State.onVideoEnd
  dsimp only
  split <;> rfl

theorem PlayerTurn.located {w : Player} {i : PlayerInput} {turn : Turn State Task Effect}
    (kind : PlayerTurn w i turn) (located : w.shared.Located) : turn.shared.Located := by
  cases kind with
  | quiet _ quiet => exact quiet.located located
  | previous _ =>
      obtain ⟨n, c, here⟩ := located
      refine ⟨n, c.previous, ?_⟩
      rw [State.previousPressed, State.skipPressed_dataManager]
      exact DataManager.skipToPreviousVideo_at here
  | next _ =>
      obtain ⟨n, c, here⟩ := located
      refine ⟨n, c.next, ?_⟩
      rw [State.nextPressed, State.skipPressed_dataManager]
      exact DataManager.skipToNextVideo_at here none
  | videoEnd _ =>
      obtain ⟨n, c, here⟩ := located
      refine ⟨n, c.next, ?_⟩
      rw [State.onVideoEnd_dataManager]
      exact DataManager.skipToNextVideo_at here _

theorem located_step (w : Player) (i : PlayerInput) (located : w.shared.Located) :
    (mediaControl.step w i).1.shared.Located := by
  obtain ⟨turn, tasks, taken, -, kind⟩ := exists_playerTurn w i
  rw [taken]
  exact kind.located located

/-! ## The route of the player

It is there once, on top of the home page, until something pops it, and it does
not come back. -/

theorem State.skipPressed_place (s : State) (count : Int) (skip : DataManager → DataManager × Skip) :
    (s.skipPressed count skip).shared.navigator = s.navigator ∧
      (s.skipPressed count skip).shared.mounted = s.mounted := by
  unfold State.skipPressed
  dsimp only
  split <;> exact ⟨rfl, rfl⟩

theorem State.onVideoEnd_place (s : State) :
    s.onVideoEnd.shared.navigator = s.navigator ∧ s.onVideoEnd.shared.mounted = s.mounted := by
  unfold State.onVideoEnd
  dsimp only
  split <;> exact ⟨rfl, rfl⟩

/-- What a turn does to the route stack: nothing, a pop, or a pop and an alert. The
    state is disposed of only when the player's route is gone. -/
structure Routes (s t : State) : Prop where
  navigator : t.navigator = s.navigator ∨ t.navigator = s.navigator.tail ∨
    ∃ text, t.navigator = .alert text :: s.navigator.tail
  mounted : t.mounted = s.mounted ∨ Route.player ∉ t.navigator

namespace Routes

variable {s : State}

theorem same {t : State} (sameRoutes : t.navigator = s.navigator)
    (sameMounted : t.mounted = s.mounted) : Routes s t :=
  ⟨.inl sameRoutes, .inl sameMounted⟩

theorem popped {t : State} (fewer : t.navigator = s.navigator.tail)
    (sameMounted : t.mounted = s.mounted) : Routes s t :=
  ⟨.inr (.inl fewer), .inl sameMounted⟩

theorem skipPressed (count : Int) (skip : DataManager → DataManager × Skip) :
    Routes s (s.skipPressed count skip).shared :=
  same (State.skipPressed_place s count skip).1 (State.skipPressed_place s count skip).2

theorem onVideoEnd : Routes s s.onVideoEnd.shared :=
  same s.onVideoEnd_place.1 s.onVideoEnd_place.2

theorem ite {reached : Bool} {turn : Turn State Task Effect} (taken : Routes s turn.shared) :
    Routes s (if reached then turn else s.idle).shared := by
  cases reached with
  | true => exact taken
  | false => exact same rfl rfl

theorem react (e : Event) : Routes s (s.react e).shared := by
  cases e with
  | speedDown => exact ite (same rfl rfl)
  | speedUp => exact ite (same rfl rfl)
  | previous => exact ite (skipPressed _ _)
  | next => exact ite (skipPressed _ _)
  | back => exact ite (popped rfl rfl)
  | videoEnd => exact ite onVideoEnd
  | timerFires k => exact same rfl rfl
  | timerCancelled k => exact same rfl rfl
  | plays position => exact same rfl rfl
  | confirmAlert =>
      simp only [State.react]
      split
      · exact popped rfl rfl
      · exact same rfl rfl
  | disposed =>
      refine ⟨.inl rfl, ?_⟩
      by_cases there : Route.player ∈ s.navigator
      · exact .inl (by simp [State.react, there])
      · exact .inr there

theorem resume (task : Task) (reply : Reply) : Routes s (s.resume task reply).shared := by
  have turn := resumed s task reply
  generalize s.resume task reply = next at turn
  cases turn with
  | closes text =>
      rw [State.resumePlaying_shared]
      exact ⟨.inr (.inr ⟨text, rfl⟩), .inl rfl⟩
  | seeks minute =>
      rw [State.resumePlaying_shared]
      exact same rfl rfl
  | _ => exact same rfl rfl

end Routes

theorem routes_step (w : Player) (i : PlayerInput) :
    Routes w.shared (mediaControl.step w i).1.shared := by
  rcases step_cases w i with ⟨e, rfl⟩ | ⟨k, r, rfl, missing⟩ | ⟨k, r, t, rfl, located⟩
  · exact Routes.react e
  · rw [step_idle mediaControl missing]
    exact Routes.same rfl rfl
  · rw [step_resume mediaControl located]
    exact Routes.resume t r

def State.Present (s : State) : Prop :=
  Route.player ∈ s.navigator → s.navigator = [.player, .home] ∧ s.mounted = true

namespace State.Present

variable {s t : State}

theorem mem_of_onTop (onTop : s.onTop = true) : Route.player ∈ s.navigator := by
  have head : s.navigator.head? = some .player := by simpa [State.onTop] using onTop
  exact List.mem_of_mem_head? head

theorem mounted_of_onTop (present : s.Present) (onTop : s.onTop = true) : s.mounted = true :=
  (present (mem_of_onTop onTop)).2

theorem not_mem_tail (present : s.Present) : Route.player ∉ s.navigator.tail := by
  intro there
  have whole := (present (List.mem_of_mem_tail there)).1
  simp [whole] at there

/-- Where the player's route is there after a turn, the turn left the stack alone. -/
theorem navigator_eq (present : s.Present) (routes : Routes s t) (there : Route.player ∈ t.navigator) :
    t.navigator = s.navigator := by
  rcases routes.navigator with same | fewer | ⟨text, alert⟩
  · exact same
  · rw [fewer] at there
    exact absurd there present.not_mem_tail
  · rw [alert] at there
    exact absurd (by simpa using there) present.not_mem_tail

theorem of_routes (present : s.Present) (routes : Routes s t) : t.Present := by
  intro there
  have same := present.navigator_eq routes there
  have before := present (same ▸ there)
  rcases routes.mounted with sameMounted | gone
  · exact ⟨same.trans before.1, sameMounted.trans before.2⟩
  · exact absurd there gone

theorem onTop_of_routes (present : s.Present) (routes : Routes s t) (onTop : t.onTop = true) :
    s.onTop = true := by
  have same := present.navigator_eq routes (mem_of_onTop onTop)
  simpa [State.onTop, same] using onTop

end State.Present

theorem present_step (w : Player) (i : PlayerInput) (present : w.shared.Present) :
    (mediaControl.step w i).1.shared.Present :=
  present.of_routes (routes_step w i)

end Edutopik.Media

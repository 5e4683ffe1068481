import Edutopik.Media.PlayerTurns

/-! # The lecture count and the selected lecture

`PlayTime.lm_num` counts lectures for the server and `DataManager.currentPlaying`
counts them for the player. The buttons move the first unconditionally and the
second only where there is a neighbour; the end of a video moves the second
alone. The two agree along a run exactly as long as no button is pressed at its
end of the list and no video but the last one plays to its end.
-/

namespace Edutopik.Media

open Dart EventLoop Machine

/-- The lecture number the `DataManager` says is selected. -/
def State.selectedLecture (s : State) : Int := s.dataManager.currentPlaying + 1

structure State.Counts (s : State) : Prop where
  located : s.Located
  lmNum : s.playTime.lmNum = s.selectedLecture

/-- One step after which the counters agree, and which reports and looks up the
    selected lecture only. -/
structure NamesSelected (f : Fired Player PlayerInput Effect) : Prop where
  agrees : f.after.shared.playTime.lmNum = f.after.shared.selectedLecture
  reports : ∀ r, Effect.sendPlayTime r ∈ f.effects → r.lmNum = f.before.shared.selectedLecture
  lookups : ∀ q, Effect.getPlayTime q ∈ f.effects → q.lmNum = f.before.shared.selectedLecture

/-- A skip that reaches the player has a lecture to go to, and a video that ends is
    the last one. -/
def InStep (w : Player) : PlayerInput → Prop
  | .event .previous => w.shared.onTop → w.shared.dataManager.hasPreviousVideo
  | .event .next => w.shared.onTop → w.shared.dataManager.hasNextVideo
  | .event .videoEnd => w.shared.mounted → ¬ w.shared.dataManager.hasNextVideo
  | _ => True

/-! ## Opening the player -/

theorem initState_eq_some_iff {urls titles : List String} {playTime : PlayTime} :
    (Player.initState urls titles playTime).isSome ↔
      1 ≤ playTime.lmNum ∧ playTime.lmNum ≤ urls.length := by
  have bounds := index_isSome_iff urls (playTime.lmNum - 1)
  unfold Player.initState Player.firstBuild
  split
  · rename_i missing
    simp only [missing, Option.isSome_none, Bool.false_eq_true, false_iff] at bounds
    simp only [Option.map_none, Option.isSome_none, Bool.false_eq_true, false_iff]
    omega
  · rename_i url read
    simp only [read, Option.isSome_some, true_iff] at bounds
    simp only [Option.map_some, Option.isSome_some, true_iff]
    omega

/-- What the player is when it opens. -/
theorem initState_opens {urls titles : List String} {playTime : PlayTime} {w : Player}
    (opened : Player.initState urls titles playTime = some w) :
    ∃ url, w =
      { shared :=
          { playTime := playTime
            dataManager := ⟨urls, titles, playTime.lmNum - 1⟩
            flickManager := { current := { url := url, index := playTime.lmNum - 1 } }
            navigator := [.player, .home] }
        tasks := [.awaitingLog playTime.uuid] } := by
  unfold Player.initState Player.firstBuild at opened
  split at opened
  · cases opened
  · exact ⟨_, (Option.some.inj opened).symm⟩

theorem initState_shared {urls titles : List String} {playTime : PlayTime} {w : Player}
    (opened : Player.initState urls titles playTime = some w) :
    w.shared.playTime = playTime ∧ w.shared.dataManager = ⟨urls, titles, playTime.lmNum - 1⟩ ∧
      w.shared.flickManager.current.index = playTime.lmNum - 1 ∧
      w.shared.flickManager.timers = [] ∧ w.tasks = [.awaitingLog playTime.uuid] := by
  obtain ⟨url, rfl⟩ := initState_opens opened
  exact ⟨rfl, rfl, rfl, rfl, rfl⟩

theorem initState_route {urls titles : List String} {playTime : PlayTime} {w : Player}
    (opened : Player.initState urls titles playTime = some w) :
    w.shared.navigator = [.player, .home] ∧ w.shared.mounted = true := by
  obtain ⟨url, rfl⟩ := initState_opens opened
  exact ⟨rfl, rfl⟩

theorem initState_counts {urls titles : List String} {playTime : PlayTime} {w : Player}
    (opened : Player.initState urls titles playTime = some w) : w.shared.Counts := by
  obtain ⟨record, list, -⟩ := initState_shared opened
  have bounds := initState_eq_some_iff.mp (Option.isSome_of_eq_some opened)
  have place : ((playTime.lmNum - 1).toNat : Int) = playTime.lmNum - 1 := by omega
  constructor
  · refine ⟨urls.length, ⟨(playTime.lmNum - 1).toNat, by omega⟩, ?_⟩
    rw [list]
    exact ⟨rfl, place.symm⟩
  · rw [State.selectedLecture, record, list]
    exact (Int.sub_add_cancel playTime.lmNum 1).symm

/-! ## One step -/

/-- A quiet turn keeps the counters and names the selected lecture. -/
theorem Quiet.namesSelected {w : Player} {turn : Turn State Task Effect}
    (quiet : Quiet w.shared turn) (counts : w.shared.Counts) (i : PlayerInput) (tasks : List Task) :
    NamesSelected ⟨w, i, turn.effects, ⟨turn.shared, tasks⟩⟩ where
  agrees := by
    simp only [State.selectedLecture, quiet.lmNum, quiet.dataManager]
    exact counts.lmNum
  reports := fun r sent => (quiet.reports r sent).trans counts.lmNum
  lookups := fun q asked => (quiet.lookups q asked).trans counts.lmNum

/-- A skip with a neighbour keeps the counters and reports the lecture it leaves. -/
theorem State.Moved.namesSelected {w : Player} {count : Int} {place : Nat}
    {turn : Turn State Task Effect} (moved : w.shared.Moved count place turn)
    (counts : w.shared.Counts) (landing : w.shared.dataManager.currentPlaying + count = place)
    (i : PlayerInput) (tasks : List Task) :
    NamesSelected ⟨w, i, turn.effects, ⟨turn.shared, tasks⟩⟩ := by
  obtain ⟨url, effects⟩ := moved.effects
  have agreed := counts.lmNum
  constructor
  · simp only [State.selectedLecture, moved.lmNum, moved.selected] at agreed ⊢
    omega
  · intro r sent
    have same : r = w.shared.skipReport := by simpa [effects] using sent
    rw [same, State.skipReport_lmNum]
    exact agreed
  · intro q asked
    simp [effects] at asked

/-- A skip button pressed at its end of the list leaves the counters apart. -/
theorem counted_disagrees {s : State} {count : Int} (agreed : s.playTime.lmNum = s.selectedLecture)
    (counts : count ≠ 0) : (s.counted count).playTime.lmNum ≠ (s.counted count).selectedLecture := by
  have sameSelection : (s.counted count).selectedLecture = s.selectedLecture := rfl
  have newCount : (s.counted count).playTime.lmNum = s.playTime.lmNum + count := rfl
  omega

/-- What is true of a turn taken while the counters agree. -/
structure Faithful (w : Player) (i : PlayerInput) (turn : Turn State Task Effect) : Prop where
  inStep : InStep w i → ∀ tasks, NamesSelected ⟨w, i, turn.effects, ⟨turn.shared, tasks⟩⟩
  offStep : ¬ InStep w i → turn.shared.playTime.lmNum ≠ turn.shared.selectedLecture

/-- A button is faithful where it is in step exactly with a lecture on its side. -/
theorem faithful_of_skips {w : Player} {i : PlayerInput} {count : Int} {neighbour : Bool}
    {turn : Turn State Task Effect} (skips : w.shared.Skips count neighbour turn)
    (counts : w.shared.Counts) (inStep : InStep w i ↔ neighbour = true) (changes : count ≠ 0) :
    Faithful w i turn := by
  cases skips with
  | moves there landing moved =>
      constructor
      · intro _ tasks
        exact moved.namesSelected counts landing i tasks
      · intro offStep
        exact absurd (inStep.mpr there) offStep
  | stays none same =>
      subst same
      constructor
      · intro reached
        rw [inStep.mp reached] at none
        cases none
      · intro _
        exact counted_disagrees counts.lmNum changes

theorem onVideoEnd_faithful {w : Player} (counts : w.shared.Counts)
    (mounted : w.shared.mounted = true) : Faithful w (.event .videoEnd) w.shared.onVideoEnd := by
  obtain ⟨n, c, here⟩ := counts.located
  by_cases more : c.HasNext
  · obtain ⟨url, moves⟩ := State.onVideoEnd_moves here more
    rw [moves]
    constructor
    · intro inStep
      exact absurd (here.hasNextVideo_iff.mpr more) (inStep mounted)
    · intro _
      have agreed := counts.lmNum
      simp only [State.selectedLecture, here.place] at agreed ⊢
      omega
  · rw [State.onVideoEnd_stays here more]
    constructor
    · intro _ tasks
      exact Quiet.idle.namesSelected counts _ tasks
    · intro offStep
      exact absurd (fun _ hasNext => more (here.hasNextVideo_iff.mp hasNext)) offStep

theorem PlayerTurn.faithful {w : Player} {i : PlayerInput} {turn : Turn State Task Effect}
    (kind : PlayerTurn w i turn) (counts : w.shared.Counts) : Faithful w i turn := by
  cases kind with
  | quiet elsewhere quiet =>
      refine ⟨fun _ tasks => quiet.namesSelected counts i tasks, fun offStep => absurd ?_ offStep⟩
      unfold InStep
      split <;> first | exact fun reached => absurd reached elsewhere | trivial
  | previous onTop =>
      have inStep : InStep w (.event .previous) ↔ w.shared.dataManager.hasPreviousVideo = true :=
        ⟨fun reached => reached onTop, fun there _ => there⟩
      exact faithful_of_skips (State.previousPressed_skips counts.located) counts inStep (by decide)
  | next onTop =>
      have inStep : InStep w (.event .next) ↔ w.shared.dataManager.hasNextVideo = true :=
        ⟨fun reached => reached onTop, fun there _ => there⟩
      exact faithful_of_skips (State.nextPressed_skips counts.located) counts inStep (by decide)
  | videoEnd mounted => exact onVideoEnd_faithful counts mounted

/-! ## Runs -/

theorem counts_of_inStep (w : Player) (i : PlayerInput) (counts : w.shared.Counts)
    (inStep : InStep w i) : (mediaControl.step w i).1.shared.Counts := by
  refine ⟨located_step w i counts.located, ?_⟩
  obtain ⟨turn, tasks, taken, -, kind⟩ := exists_playerTurn w i
  have names := (kind.faithful counts).inStep inStep tasks
  rw [taken]
  exact names.agrees

theorem namesSelected_of_inStep (w : Player) (i : PlayerInput) (counts : w.shared.Counts)
    (inStep : InStep w i) : NamesSelected (fire mediaControl.step w i) := by
  obtain ⟨turn, tasks, taken, -, kind⟩ := exists_playerTurn w i
  have names := (kind.faithful counts).inStep inStep tasks
  simpa only [fire, taken] using names

theorem disagrees_of_offStep (w : Player) (i : PlayerInput) (counts : w.shared.Counts)
    (offStep : ¬ InStep w i) :
    (mediaControl.step w i).1.shared.playTime.lmNum ≠ (mediaControl.step w i).1.shared.selectedLecture := by
  obtain ⟨turn, tasks, taken, -, kind⟩ := exists_playerTurn w i
  rw [taken]
  exact (kind.faithful counts).offStep offStep

theorem not_namesSelected_of_offStep (w : Player) (i : PlayerInput) (counts : w.shared.Counts)
    (offStep : ¬ InStep w i) : ¬ NamesSelected (fire mediaControl.step w i) :=
  fun names => disagrees_of_offStep w i counts offStep names.agrees

/-- From any opening of the player, for any sequence of events and replies: the
    counters agree throughout, and every report and every lookup names the selected
    lecture, exactly if no skip is pressed at its end of the list and no video but
    the last one ends. -/
theorem lectureNumber_selected_iff {urls titles : List String} {playTime : PlayTime} {w : Player}
    (opened : Player.initState urls titles playTime = some w) (is : List PlayerInput) :
    (w.shared.playTime.lmNum = w.shared.selectedLecture ∧
        ∀ f ∈ run mediaControl.step w is, NamesSelected f) ↔
      ∀ f ∈ run mediaControl.step w is, InStep f.before f.input := by
  have counts : w.shared.Counts := initState_counts opened
  have exact := good_iff_guarded counts_of_inStep namesSelected_of_inStep
    not_namesSelected_of_offStep counts is
  exact ⟨fun both => exact.mp both.2, fun guarded => ⟨counts.lmNum, exact.mpr guarded⟩⟩

/-- The record of a message that opens the first lecture of a chapter. -/
def sampleRecord : PlayTime :=
  { getTimeUrl := "https://www.edutopik2.com/get_time.asp"
    sendUrl := "https://www.edutopik2.com/send_time.asp"
    uid := "kim@edutopik.com"
    ocode := "O1"
    scode := "S1"
    lmNum := 1
    lmTime := "40"
    uuid := "device-a"
    checkLogUrl := "https://www.edutopik2.com/last_log.asp" }

/-- A chapter of two lectures opened at the first. -/
def samplePlayer : Player :=
  { shared :=
      { playTime := sampleRecord
        dataManager := { urls := ["v/1.mp4", "v/2.mp4"], titles := ["1강", "2강"], currentPlaying := 0 }
        flickManager := { current := { url := "v/1.mp4", index := 0 } }
        navigator := [.player, .home] }
    tasks := [.awaitingLog "device-a"] }

theorem samplePlayer_opened :
    Player.initState ["v/1.mp4", "v/2.mp4"] ["1강", "2강"] sampleRecord = some samplePlayer := rfl

/-- The button for the previous lecture counts below the first one; after a video
    that ends, the button for the next lecture reports the lecture before. -/
theorem lectureNumber_drifts :
    Player.initState ["v/1.mp4", "v/2.mp4"] ["1강", "2강"] sampleRecord = some samplePlayer ∧
      (∃ f ∈ run mediaControl.step samplePlayer [.event .previous],
        f.after.shared.playTime.lmNum ≠ f.after.shared.selectedLecture) ∧
      ∃ f ∈ run mediaControl.step samplePlayer [.event .videoEnd, .event .next],
        ∃ r, Effect.sendPlayTime r ∈ f.effects ∧ r.lmNum ≠ f.before.shared.selectedLecture :=
  ⟨rfl, ⟨_, List.mem_cons_self, by decide⟩,
    ⟨_, List.mem_cons_of_mem _ List.mem_cons_self, _, List.mem_cons_self, by decide⟩⟩

theorem lectureNumber_selected_iff_sample :
    (samplePlayer.shared.playTime.lmNum = samplePlayer.shared.selectedLecture ∧
        ∀ f ∈ run mediaControl.step samplePlayer [.event .next, .event .previous], NamesSelected f) ↔
      ∀ f ∈ run mediaControl.step samplePlayer [.event .next, .event .previous],
        InStep f.before f.input :=
  lectureNumber_selected_iff samplePlayer_opened _

end Edutopik.Media

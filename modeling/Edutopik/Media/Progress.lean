import Edutopik.Media.ResumePoint

/-! # Reporting progress

Reporting the position, counting the lecture and switching the video are three
actions. The skip buttons do all of them, the back arrow does the first, and the
end of a video does the last alone. A report names the lecture that is counted and
carries the position of the video on screen. The two belong together along a run
exactly as long as no video but the last one ends, and nothing is reported once a
skip button was pressed at its end of the list.
-/

namespace Edutopik.Media

open Dart EventLoop Machine

/-- The whole minutes of the position of the video on screen. -/
def minuteOnScreen (w : Player) : Int := w.shared.flickManager.current.position.inMinutes

/-- Another lecture is selected, or the player is left by the back arrow. -/
def LectureLeft (f : Fired Player PlayerInput Effect) : Prop :=
  f.after.shared.selectedLecture ≠ f.before.shared.selectedLecture ∨
    f.input = .event .back ∧ f.before.shared.onTop = true

/-- One step that loses no progress. A report comes before whatever else the step
    does, so before the change of video or of the route. -/
structure Reported (f : Fired Player PlayerInput Effect) : Prop where
  departure : LectureLeft f → ∃ r rest, f.effects = .sendPlayTime r :: rest ∧
    (∀ another, Effect.sendPlayTime another ∉ rest) ∧
      r.lmNum = f.before.shared.selectedLecture ∧ r.currentTime = some (minuteOnScreen f.before)
  names : ∀ r, Effect.sendPlayTime r ∈ f.effects →
    r.lmNum = lectureOnScreen f.before ∧ r.currentTime = some (minuteOnScreen f.before)

/-- A video that ends is the last one. -/
def LastEnds (w : Player) : PlayerInput → Prop
  | .event .videoEnd => w.shared.mounted → ¬ w.shared.dataManager.hasNextVideo
  | _ => True

/-- A skip button that reaches the player with no lecture on its side. -/
def AtItsEnd (w : Player) : PlayerInput → Prop
  | .event .previous => w.shared.onTop ∧ ¬ w.shared.dataManager.hasPreviousVideo
  | .event .next => w.shared.onTop ∧ ¬ w.shared.dataManager.hasNextVideo
  | _ => False

/-- A skip button or the back arrow reaches the player. -/
def Reports (w : Player) : PlayerInput → Prop
  | .event .previous | .event .next | .event .back => w.shared.onTop = true
  | _ => False

/-! ## What is sent -/

theorem State.skipPressed_report (s : State) (count : Int) (skip : DataManager → DataManager × Skip) :
    ∃ rest, (s.skipPressed count skip).effects = .sendPlayTime s.skipReport :: rest ∧
      ∀ another, Effect.sendPlayTime another ∉ rest := by
  unfold State.skipPressed
  dsimp only
  split
  · exact ⟨_, rfl, by simp⟩
  · exact ⟨_, rfl, by simp [State.initPlayer]⟩
  · exact ⟨_, rfl, by simp [State.initPlayer]⟩

theorem exists_report {w : Player} {i : PlayerInput} (reports : Reports w i) :
    ∃ fin rest, (mediaControl.step w i).2 =
        .sendPlayTime (w.shared.takePosition.playTime.report fin) :: rest ∧
      ∀ another, Effect.sendPlayTime another ∉ rest := by
  cases i with
  | resume k reply => exact False.elim reports
  | event e =>
      rw [step_event]
      cases e with
      | previous =>
          have onTop : w.shared.onTop = true := reports
          simp only [mediaControl, State.react, onTop, if_true]
          exact ⟨"N", State.skipPressed_report w.shared _ _⟩
      | next =>
          have onTop : w.shared.onTop = true := reports
          simp only [mediaControl, State.react, onTop, if_true]
          exact ⟨"N", State.skipPressed_report w.shared _ _⟩
      | back =>
          have onTop : w.shared.onTop = true := reports
          simp only [mediaControl, State.react, onTop, if_true]
          exact ⟨"Y", _, rfl, by simp⟩
      | _ => exact False.elim reports

theorem not_report_of_silent {w : Player} {i : PlayerInput} (silent : ¬ Reports w i) (r : Report) :
    Effect.sendPlayTime r ∉ (mediaControl.step w i).2 := by
  intro sent
  rcases lets_cases sent with ⟨e, rfl, lets⟩ | ⟨-, -, -, lets⟩
  · cases lets with
    | report fin _ button onTop =>
        rcases button with rfl | rfl | rfl
        · exact silent onTop
        · exact silent onTop
        · exact silent onTop
  · cases lets

/-! ## The lecture that is counted -/

theorem inStep_iff {w : Player} {i : PlayerInput} : InStep w i ↔ LastEnds w i ∧ ¬ AtItsEnd w i := by
  cases i with
  | resume k reply => simp [InStep, LastEnds, AtItsEnd]
  | event e => cases e <;> simp [InStep, LastEnds, AtItsEnd]

/-- The end of the last video changes nothing. -/
theorem onVideoEnd_last {w : Player} (located : w.shared.Located)
    (sound : LastEnds w (.event .videoEnd)) (mounted : w.shared.mounted = true) :
    w.shared.onVideoEnd = w.shared.idle := by
  obtain ⟨n, c, here⟩ := located
  apply State.onVideoEnd_stays here
  intro more
  exact sound mounted (here.hasNextVideo_iff.mpr more)

/-- Whatever reports nothing leaves the count and the list alone, once only the last
    video ends. -/
theorem kept_of_silent {w : Player} {i : PlayerInput} (located : w.shared.Located)
    (sound : LastEnds w i) (silent : ¬ Reports w i) :
    (mediaControl.step w i).1.shared.playTime.lmNum = w.shared.playTime.lmNum ∧
      (mediaControl.step w i).1.shared.dataManager = w.shared.dataManager := by
  obtain ⟨turn, tasks, taken, -, kind⟩ := exists_playerTurn w i
  rw [taken]
  cases kind with
  | quiet _ quiet => exact ⟨quiet.lmNum, quiet.dataManager⟩
  | previous onTop => exact absurd onTop silent
  | next onTop => exact absurd onTop silent
  | videoEnd mounted =>
      rw [onVideoEnd_last located sound mounted]
      exact ⟨rfl, rfl⟩

/-- A video that ends and is not the last one moves the selection. -/
theorem selected_of_ends {w : Player} {i : PlayerInput} (located : w.shared.Located)
    (ends : ¬ LastEnds w i) :
    (mediaControl.step w i).1.shared.selectedLecture ≠ w.shared.selectedLecture := by
  cases i with
  | resume k reply => exact absurd trivial ends
  | event e =>
      cases e with
      | videoEnd =>
          obtain ⟨mounted, hasNext⟩ : w.shared.mounted = true ∧
              w.shared.dataManager.hasNextVideo = true := by simpa [LastEnds] using ends
          obtain ⟨n, c, here⟩ := located
          obtain ⟨url, moves⟩ := State.onVideoEnd_moves here (here.hasNextVideo_iff.mp hasNext)
          rw [step_event]
          simp only [mediaControl, State.react, mounted, if_true, moves, State.selectedLecture,
            here.place]
          omega
      | _ => exact absurd trivial ends

theorem onScreen_of_lastEnds (w : Player) (i : PlayerInput) (here : OnScreen w)
    (sound : LastEnds w i) : OnScreen (mediaControl.step w i).1 := by
  by_cases plain : i = .event .videoEnd
  · subst plain
    have same : (mediaControl.step w (.event .videoEnd)).1.shared = w.shared := by
      rw [step_event]
      simp only [mediaControl, State.react]
      split
      · rename_i mounted
        rw [onVideoEnd_last here.located sound mounted]
        rfl
      · rfl
    exact
      { located := by rw [same]; exact here.located
        present := by rw [same]; exact here.present
        timers := by rw [same]; exact here.timers
        shown := by rw [same]; exact here.shown }
  · exact onScreen_step w ⟨i, plain⟩ here

/-! ## One step -/

/-- A report is right exactly if the lecture counted is the one selected. -/
theorem reported_iff_of_reports {w : Player} {i : PlayerInput} (here : OnScreen w)
    (reports : Reports w i) :
    Reported (fire mediaControl.step w i) ↔ w.shared.playTime.lmNum = w.shared.selectedLecture := by
  obtain ⟨fin, rest, sent, others⟩ := exists_report reports
  have own : ∀ r, Effect.sendPlayTime r ∈ (mediaControl.step w i).2 →
      r = w.shared.takePosition.playTime.report fin := by
    intro r member
    rw [sent] at member
    exact (List.mem_cons.mp member).elim Effect.sendPlayTime.inj (fun later => absurd later (others r))
  constructor
  · intro reported
    have named := (reported.names _ (by rw [fire_effects, sent]; exact List.mem_cons_self)).1
    calc w.shared.playTime.lmNum = lectureOnScreen w := named
      _ = w.shared.selectedLecture := here.lecture
  · intro agreed
    constructor
    · intro _
      exact ⟨_, rest, sent, others, agreed, rfl⟩
    · intro r member
      rw [own r member]
      exact ⟨agreed.trans here.lecture.symm, rfl⟩

theorem reported_of_silent {w : Player} {i : PlayerInput} (here : OnScreen w) (sound : LastEnds w i)
    (silent : ¬ Reports w i) : Reported (fire mediaControl.step w i) where
  departure := by
    intro departs
    cases departs with
    | inl changed =>
        have list := (kept_of_silent here.located sound silent).2
        exact absurd (by simp only [fire_after, fire_before, State.selectedLecture, list]) changed
    | inr left =>
        obtain ⟨back, onTop⟩ := left
        have isBack : i = .event .back := back
        rw [isBack] at silent
        exact absurd onTop silent
  names := fun r member => absurd member (not_report_of_silent silent r)

/-- The end of a video moves the selection and reports nothing. -/
theorem not_reported_of_ends {w : Player} {i : PlayerInput} (here : OnScreen w)
    (ends : ¬ LastEnds w i) : ¬ Reported (fire mediaControl.step w i) := by
  intro reported
  have silent : ¬ Reports w i := by
    cases i with
    | resume k reply => exact id
    | event e =>
        cases e with
        | videoEnd => exact id
        | _ => exact absurd trivial ends
  obtain ⟨r, rest, sent, -⟩ := reported.departure (.inl (selected_of_ends here.located ends))
  refine not_report_of_silent silent r ?_
  rw [fire_effects] at sent
  rw [sent]
  exact List.mem_cons_self

/-- What a step has to meet to lose no progress. -/
def Counted (w : Player) (i : PlayerInput) : Prop :=
  LastEnds w i ∧ (Reports w i → w.shared.playTime.lmNum = w.shared.selectedLecture)

theorem reported_of_counted (w : Player) (i : PlayerInput) (here : OnScreen w)
    (counted : Counted w i) : Reported (fire mediaControl.step w i) := by
  obtain ⟨sound, agreed⟩ := counted
  by_cases reports : Reports w i
  · exact (reported_iff_of_reports here reports).mpr (agreed reports)
  · exact reported_of_silent here sound reports

theorem not_reported_of_uncounted (w : Player) (i : PlayerInput) (here : OnScreen w)
    (uncounted : ¬ Counted w i) : ¬ Reported (fire mediaControl.step w i) := by
  intro reported
  apply uncounted
  constructor
  · by_contra ends
    exact not_reported_of_ends here ends reported
  · intro reports
    exact (reported_iff_of_reports here reports).mp reported

/-! ## Runs -/

/-- A skip button at its end of the list is what sets the counters apart. -/
theorem agrees_iff_not_atItsEnd (w : Player) (i : PlayerInput) (here : OnScreen w)
    (agreed : w.shared.playTime.lmNum = w.shared.selectedLecture) (sound : LastEnds w i) :
    (mediaControl.step w i).1.shared.playTime.lmNum =
        (mediaControl.step w i).1.shared.selectedLecture ↔ ¬ AtItsEnd w i := by
  have counts : w.shared.Counts := ⟨here.located, agreed⟩
  constructor
  · intro agrees atItsEnd
    have offStep : ¬ InStep w i := fun inStep => (inStep_iff.mp inStep).2 atItsEnd
    exact disagrees_of_offStep w i counts offStep agrees
  · intro inside
    exact (counts_of_inStep w i counts (inStep_iff.mpr ⟨sound, inside⟩)).lmNum

/-- From any opening of the player, for any sequence of events and replies: every
    departure is reported once, before it takes place, for the lecture left and with
    the minute on screen, and no report names another lecture than the one on screen,
    exactly if no video but the last one ends, and after a skip button was pressed at
    its end of the list neither a skip button nor the back arrow reaches the player. -/
theorem progress_reported_iff {urls titles : List String} {playTime : PlayTime} {w : Player}
    (opened : Player.initState urls titles playTime = some w) (is : List PlayerInput) :
    (∀ f ∈ run mediaControl.step w is, Reported f) ↔
      (∀ f ∈ run mediaControl.step w is, LastEnds f.before f.input) ∧
        (run mediaControl.step w is).Pairwise fun f g =>
          AtItsEnd f.before f.input → ¬ Reports g.before g.input := by
  have here : OnScreen w := initState_onScreen opened
  have agreed : w.shared.playTime.lmNum = w.shared.selectedLecture := (initState_counts opened).lmNum
  have counted : (∀ f ∈ run mediaControl.step w is, Reported f) ↔
      ∀ f ∈ run mediaControl.step w is, Counted f.before f.input :=
    good_iff_guarded (fun v i onScreen counted => onScreen_of_lastEnds v i onScreen counted.1)
      reported_of_counted not_reported_of_uncounted here is
  have stays : ∀ v i, OnScreen v → v.shared.playTime.lmNum ≠ v.shared.selectedLecture →
      LastEnds v i → ¬ Reports v i →
        (mediaControl.step v i).1.shared.playTime.lmNum ≠
          (mediaControl.step v i).1.shared.selectedLecture := by
    intro v i onScreen apart sound silent
    obtain ⟨count, list⟩ := kept_of_silent onScreen.located sound silent
    simp only [State.selectedLecture, count, list]
    exact apart
  rw [counted]
  exact unspoiled_iff onScreen_of_lastEnds agrees_iff_not_atItsEnd stays here agreed is

/-- The first video of two runs to its end: the second is selected with no report.
    Gone back from the first lecture, the next skip reports a lecture 0. -/
theorem progress_lost :
    Player.initState ["v/1.mp4", "v/2.mp4"] ["1강", "2강"] sampleRecord = some samplePlayer ∧
      ¬ (∀ f ∈ run mediaControl.step samplePlayer [.event .videoEnd], Reported f) ∧
        ¬ ∀ f ∈ run mediaControl.step samplePlayer [.event .previous, .event .next], Reported f := by
  refine ⟨rfl, ?_, ?_⟩
  · intro all
    have ended := all _ List.mem_cons_self
    obtain ⟨r, rest, sent, -⟩ := ended.departure (.inl (by decide))
    cases sent
  · intro all
    have skipped := all _ (List.mem_cons_of_mem _ List.mem_cons_self)
    have named := (skipped.names _ List.mem_cons_self).1
    exact absurd named (by decide)

theorem progress_reported_iff_sample :
    (∀ f ∈ run mediaControl.step samplePlayer [.event .next, .event .back], Reported f) ↔
      (∀ f ∈ run mediaControl.step samplePlayer [.event .next, .event .back],
          LastEnds f.before f.input) ∧
        (run mediaControl.step samplePlayer [.event .next, .event .back]).Pairwise fun f g =>
          AtItsEnd f.before f.input → ¬ Reports g.before g.input :=
  progress_reported_iff samplePlayer_opened _

end Edutopik.Media

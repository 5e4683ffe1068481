import Mathlib.Tactic.NormNum
import Mathlib.Tactic.Ring
import Edutopik.Media.LectureCount

/-! # The speed shown and the speed played at

The speed buttons set the value on the screen and the controller together. A new
controller starts at speed one and leaves the value on the screen alone; the end of
an `initPlayer` sets the value back to one and leaves the controller alone. The two
agree whenever nothing is pending exactly if a speed button is pressed only while
nothing is pending and the video changes only at speed one.
-/

namespace Edutopik.Media

open Dart EventLoop Machine

/-- A multiple of a quarter from one half to two. -/
def IsSpeed (speed : ℚ) : Prop := ∃ quarters : ℕ, 2 ≤ quarters ∧ quarters ≤ 8 ∧ speed = quarters / 4

/-- The speed of the controller that plays. -/
def State.realSpeed (s : State) : ℚ := s.flickManager.current.playbackSpeed

/-- With no `initPlayer` pending the speed shown is the speed played at. -/
def ShowsSpeed (w : Player) : Prop := w.tasks = [] → w.shared.playBackSpeed = w.shared.realSpeed

/-- A speed button that reaches the player finds no `initPlayer` pending, and a skip
    or a timer that changes the video finds speed one on the screen. -/
def KeepsSpeed (w : Player) : PlayerInput → Prop
  | .event .speedDown | .event .speedUp => w.shared.onTop → w.tasks = []
  | .event .previous | .event .next => w.shared.onTop → w.shared.playBackSpeed = 1
  | .event (.timerFires k) =>
      (w.shared.flickManager.timers[k]?).isSome → w.shared.playBackSpeed = 1
  | _ => True

/-! ## The range of the buttons -/

theorem IsSpeed.one : IsSpeed 1 := ⟨4, by decide, by decide, by norm_num⟩

theorem IsSpeed.down {speed : ℚ} (isSpeed : IsSpeed speed) :
    IsSpeed (if speed ≤ 1 / 2 then 1 / 2 else speed - 1 / 4) := by
  obtain ⟨quarters, least, most, rfl⟩ := isSpeed
  split
  · exact ⟨2, by decide, by decide, by norm_num⟩
  · rename_i above
    have more : 2 < quarters := by
      by_contra fewer
      have two : quarters = 2 := by omega
      subst two
      norm_num at above
    refine ⟨quarters - 1, by omega, by omega, ?_⟩
    rw [Nat.cast_sub (by omega)]
    push_cast
    ring

theorem IsSpeed.up {speed : ℚ} (isSpeed : IsSpeed speed) :
    IsSpeed (if speed ≥ 2 then 2 else speed + 1 / 4) := by
  obtain ⟨quarters, least, most, rfl⟩ := isSpeed
  split
  · exact ⟨8, by decide, by decide, by norm_num⟩
  · rename_i below
    have fewer : quarters < 8 := by
      by_contra more
      have eight : quarters = 8 := by omega
      subst eight
      norm_num at below
    refine ⟨quarters + 1, by omega, by omega, ?_⟩
    push_cast
    ring

/-! ## What a turn does to the two speeds -/

/-- A turn that leaves both speeds alone. It may dispose of the state. -/
structure Untouched (s t : State) : Prop where
  shown : t.playBackSpeed = s.playBackSpeed
  real : t.realSpeed = s.realSpeed
  mounted : t.mounted = true → s.mounted = true

theorem Untouched.refl (s : State) : Untouched s s := ⟨rfl, rfl, id⟩

/-- A timer holds a controller that has not played yet. -/
def State.Fresh (s : State) : Prop := ∀ c ∈ s.flickManager.timers, c.playbackSpeed = 1

theorem handleChangeVideo_fresh {flick : FlickManager} (change : ChangeVideo)
    (fresh : ∀ c ∈ flick.timers, c.playbackSpeed = 1) :
    ∀ c ∈ (flick.handleChangeVideo change).timers, c.playbackSpeed = 1 := by
  unfold FlickManager.handleChangeVideo
  split
  · exact fresh
  · intro c member
    rcases List.mem_append.mp member with old | new
    · exact fresh c old
    · rw [List.mem_singleton.mp new]
      rfl

/-- A skip button leaves the speed shown, and plays at the old speed or at one. -/
theorem skipPressed_speeds (s : State) (count : Int) (skip : DataManager → DataManager × Skip) :
    (s.skipPressed count skip).shared.playBackSpeed = s.playBackSpeed ∧
      ((s.skipPressed count skip).shared.realSpeed = s.realSpeed ∨
        (s.skipPressed count skip).shared.realSpeed = 1) ∧
      (s.Fresh → (s.skipPressed count skip).shared.Fresh) := by
  unfold State.skipPressed
  dsimp only
  split
  · exact ⟨rfl, .inl rfl, id⟩
  · exact ⟨rfl, .inl rfl, id⟩
  · rename_i change _
    refine ⟨rfl, ?_, fun fresh => handleChangeVideo_fresh change fresh⟩
    simp only [State.initPlayer, State.realSpeed, FlickManager.handleChangeVideo]
    split
    · exact .inr rfl
    · exact .inl rfl

theorem onVideoEnd_speeds {s : State} (located : s.Located) :
    Untouched s s.onVideoEnd.shared ∧ s.onVideoEnd.tasks = [] ∧ (s.Fresh → s.onVideoEnd.shared.Fresh) := by
  obtain ⟨n, c, here⟩ := located
  by_cases more : c.HasNext
  · obtain ⟨url, moves⟩ := State.onVideoEnd_moves here more
    rw [moves]
    exact ⟨⟨rfl, rfl, id⟩, rfl, handleChangeVideo_fresh _⟩
  · rw [State.onVideoEnd_stays here more]
    exact ⟨.refl s, rfl, id⟩

/-- A continuation leaves the speed played at, and may set the speed shown back to one. -/
structure Resets (s t : State) : Prop where
  shown : t.playBackSpeed = s.playBackSpeed ∨ s.mounted = true ∧ t.playBackSpeed = 1
  real : t.realSpeed = s.realSpeed
  mounted : t.mounted = s.mounted
  timers : t.flickManager.timers = s.flickManager.timers

theorem Resets.refl (s : State) : Resets s s := ⟨.inl rfl, rfl, rfl, rfl⟩

theorem resumePlaying_resets {s t : State} (shown : t.playBackSpeed = s.playBackSpeed)
    (sameVideo : t.flickManager = s.flickManager) (mounted : t.mounted = s.mounted)
    (effects : List Effect) : Resets s (t.resumePlaying effects).shared := by
  rw [State.resumePlaying_shared]
  refine ⟨?_, ?_, mounted, ?_⟩
  · rw [mounted]
    cases isMounted : s.mounted with
    | true => exact .inr ⟨rfl, rfl⟩
    | false => exact .inl shown
  · simp only [State.realSpeed, FlickManager.seekTo, sameVideo]
  · simp only [FlickManager.seekTo, sameVideo]

theorem resume_resets (s : State) (task : Task) (reply : Reply) :
    Resets s (s.resume task reply).shared := by
  have turn := resumed s task reply
  generalize s.resume task reply = next at turn
  cases turn with
  | closes text => exact resumePlaying_resets (by rfl) (by rfl) (by rfl) _
  | seeks minute => exact resumePlaying_resets (by rfl) (by rfl) (by rfl) _
  | _ => exact .refl s

/-! ## What holds whatever is pressed -/

structure Steady (w : Player) : Prop where
  located : w.shared.Located
  present : w.shared.Present
  fresh : w.shared.Fresh
  range : IsSpeed w.shared.playBackSpeed

/-- A turn keeps timers fresh and the speed shown in range. -/
structure SteadyTurn (s t : State) : Prop where
  fresh : s.Fresh → t.Fresh
  range : IsSpeed s.playBackSpeed → IsSpeed t.playBackSpeed

theorem SteadyTurn.refl (s : State) : SteadyTurn s s := ⟨id, id⟩

theorem SteadyTurn.ite {s : State} {reached : Bool} {turn : Turn State Task Effect}
    (taken : SteadyTurn s turn.shared) :
    SteadyTurn s (if reached then turn else s.idle).shared := by
  cases reached with
  | true => exact taken
  | false => exact .refl s

theorem react_steady {s : State} (located : s.Located) (e : Event) :
    SteadyTurn s (s.react e).shared := by
  have skipped : ∀ count skip, SteadyTurn s (s.skipPressed count skip).shared := by
    intro count skip
    obtain ⟨shown, -, fresh⟩ := skipPressed_speeds s count skip
    exact ⟨fresh, fun range => by rw [shown]; exact range⟩
  have erased : ∀ {flick : FlickManager} (k : Nat), (∀ c ∈ flick.timers, c.playbackSpeed = 1) →
      ∀ c ∈ flick.timers.eraseIdx k, c.playbackSpeed = 1 :=
    fun k fresh c member => fresh c (List.mem_of_mem_eraseIdx member)
  cases e with
  | speedDown => exact .ite ⟨id, IsSpeed.down⟩
  | speedUp => exact .ite ⟨id, IsSpeed.up⟩
  | previous => exact .ite (skipped _ _)
  | next => exact .ite (skipped _ _)
  | back => exact .ite ⟨id, id⟩
  | videoEnd =>
      obtain ⟨same, -, fresh⟩ := onVideoEnd_speeds located
      exact .ite ⟨fresh, fun range => by rw [same.shown]; exact range⟩
  | timerFires k =>
      refine ⟨?_, id⟩
      intro fresh
      simp only [State.react, State.Fresh, FlickManager.timerFires]
      split
      · exact fresh
      · exact erased k fresh
  | timerCancelled k => exact ⟨erased k, id⟩
  | plays position => exact ⟨id, id⟩
  | confirmAlert =>
      simp only [State.react]
      split
      · exact ⟨id, id⟩
      · exact .refl s
  | disposed => exact ⟨id, id⟩

theorem resume_steady (s : State) (task : Task) (reply : Reply) :
    SteadyTurn s (s.resume task reply).shared := by
  have resets := resume_resets s task reply
  constructor
  · intro fresh
    rw [State.Fresh, resets.timers]
    exact fresh
  · intro range
    rcases resets.shown with same | ⟨-, one⟩
    · rw [same]
      exact range
    · rw [one]
      exact IsSpeed.one

theorem steady_step (w : Player) (i : PlayerInput) (steady : Steady w) :
    Steady (mediaControl.step w i).1 := by
  have turn : SteadyTurn w.shared (mediaControl.step w i).1.shared := by
    rcases step_cases w i with ⟨e, rfl⟩ | ⟨k, r, rfl, missing⟩ | ⟨k, r, t, rfl, located⟩
    · exact react_steady steady.located e
    · rw [step_idle mediaControl missing]
      exact .refl _
    · rw [step_resume mediaControl located]
      exact resume_steady w.shared t r
  exact
    { located := located_step w i steady.located
      present := present_step w i steady.present
      fresh := turn.fresh steady.fresh
      range := turn.range steady.range }

/-! ## One step -/

/-- The speeds agree, and every reset still to come finds them at one. -/
structure InTune (w : Player) : Prop where
  agrees : w.shared.playBackSpeed = w.shared.realSpeed
  pending : w.tasks ≠ [] → w.shared.mounted = true → w.shared.playBackSpeed = 1

theorem InTune.of_untouched {w : Player} (inTune : InTune w) {t : State} {tasks : List Task}
    (same : Untouched w.shared t) (fewer : tasks ≠ [] → w.tasks ≠ []) : InTune ⟨t, tasks⟩ := by
  constructor
  · calc t.playBackSpeed = w.shared.playBackSpeed := same.shown
      _ = w.shared.realSpeed := inTune.agrees
      _ = t.realSpeed := same.real.symm
  · intro some mounted
    exact same.shown.trans (inTune.pending (fewer some) (same.mounted mounted))

/-- A reset finds its value there already. -/
theorem InTune.resume {w : Player} (inTune : InTune w) {k : Nat} {t : Task}
    (located : w.tasks[k]? = some t) (reply : Reply) :
    InTune (mediaControl.step w (.resume k reply)).1 := by
  have some : w.tasks ≠ [] := List.ne_nil_of_mem (List.mem_of_getElem? located)
  have resets := resume_resets w.shared t reply
  have shown : (w.shared.resume t reply).shared.playBackSpeed = w.shared.playBackSpeed := by
    rcases resets.shown with same | ⟨mounted, one⟩
    · exact same
    · exact one.trans (inTune.pending some mounted).symm
  rw [step_resume mediaControl located]
  exact inTune.of_untouched ⟨shown, resets.real, fun mounted => resets.mounted ▸ mounted⟩ (fun _ => some)

/-- A speed button is in tune exactly with nothing pending: otherwise it leaves the
    value that the pending reset comes back to. -/
theorem inTune_setSpeed_iff {w : Player} (inTune : InTune w) (mounted : w.shared.mounted = true)
    (change : ℚ → ℚ) (moves : change 1 ≠ 1) :
    InTune ⟨(w.shared.setSpeed (change w.shared.playBackSpeed)).shared, w.tasks⟩ ↔ w.tasks = [] := by
  constructor
  · intro after
    by_contra some
    have one := inTune.pending some mounted
    have still : change w.shared.playBackSpeed = 1 := after.pending some mounted
    rw [one] at still
    exact moves still
  · intro none
    exact ⟨rfl, fun some => absurd none some⟩

/-- A skip is in tune exactly at speed one. -/
theorem inTune_skip_iff {w : Player} (inTune : InTune w) (mounted : w.shared.mounted = true)
    {count : Int} {skip : DataManager → DataManager × Skip} {neighbour : Bool}
    (skips : w.shared.Skips count neighbour (w.shared.skipPressed count skip)) :
    InTune ⟨(w.shared.skipPressed count skip).shared, w.tasks ++ (w.shared.skipPressed count skip).tasks⟩ ↔
      w.shared.playBackSpeed = 1 := by
  obtain ⟨shown, real, -⟩ := skipPressed_speeds w.shared count skip
  have started : w.tasks ++ (w.shared.skipPressed count skip).tasks ≠ [] := by
    cases skips with
    | moves _ _ moved => simp [moved.tasks]
    | stays _ same => simp [same]
  have stillMounted : (w.shared.skipPressed count skip).shared.mounted = true := by
    cases skips with
    | moves _ _ moved => exact moved.mounted.trans mounted
    | stays _ same => rw [same]; exact mounted
  constructor
  · intro after
    exact shown.symm.trans (after.pending started stillMounted)
  · intro one
    refine ⟨?_, fun _ _ => shown.trans one⟩
    have playing : w.shared.realSpeed = 1 := inTune.agrees.symm.trans one
    rw [shown, one]
    rcases real with same | fresh
    · exact (same.trans playing).symm
    · exact fresh.symm

/-- A handler behind a check of what it can reach. -/
theorem inTune_ite_iff {w : Player} (inTune : InTune w) {reached : Bool} {turn : Turn State Task Effect}
    {keeps : Prop} (taken : reached = true → (InTune ⟨turn.shared, w.tasks ++ turn.tasks⟩ ↔ keeps)) :
    InTune ⟨(if reached then turn else w.shared.idle).shared,
      w.tasks ++ (if reached then turn else w.shared.idle).tasks⟩ ↔ (reached = true → keeps) := by
  cases reached with
  | true => exact (taken rfl).trans ⟨fun keeps _ => keeps, fun keeps => keeps rfl⟩
  | false =>
      apply iff_of_true _ (by simp)
      exact inTune.of_untouched (.refl w.shared) (by simp [State.idle])

/-- A turn that touches neither speed and starts nothing. -/
structure Calm (s : State) (turn : Turn State Task Effect) : Prop where
  same : Untouched s turn.shared
  none : turn.tasks = []

theorem Calm.ite {s : State} {reached : Bool} {turn : Turn State Task Effect} (calm : Calm s turn) :
    Calm s (if reached then turn else s.idle) := by
  cases reached with
  | true => exact calm
  | false => exact ⟨.refl s, rfl⟩

theorem Calm.inTune {w : Player} {turn : Turn State Task Effect} (calm : Calm w.shared turn)
    (inTune : InTune w) : InTune ⟨turn.shared, w.tasks ++ turn.tasks⟩ :=
  inTune.of_untouched calm.same (by simp [calm.none])

/-- A fresh video is in tune exactly at speed one. -/
theorem inTune_timerFires_iff {w : Player} (steady : Steady w) (inTune : InTune w) (k : Nat) :
    InTune ⟨(w.shared.react (.timerFires k)).shared, w.tasks⟩ ↔ KeepsSpeed w (.event (.timerFires k)) := by
  cases held : w.shared.flickManager.timers[k]? with
  | none =>
      have same : Untouched w.shared (w.shared.react (.timerFires k)).shared := by
        simp only [State.react, FlickManager.timerFires, held]
        exact .refl w.shared
      exact iff_of_true (inTune.of_untouched same id) (by simp [KeepsSpeed, held])
  | some controller =>
      have playing : (w.shared.react (.timerFires k)).shared.realSpeed = 1 := by
        simp only [State.react, FlickManager.timerFires, held, State.realSpeed]
        exact steady.fresh controller (List.mem_of_getElem? held)
      have shown : (w.shared.react (.timerFires k)).shared.playBackSpeed = w.shared.playBackSpeed := rfl
      constructor
      · intro after _
        exact shown.symm.trans (after.agrees.trans playing)
      · intro keeps
        have one : w.shared.playBackSpeed = 1 := keeps (by simp [held])
        exact ⟨(shown.trans one).trans playing.symm, fun _ _ => shown.trans one⟩

theorem inTune_react_iff {w : Player} (steady : Steady w) (inTune : InTune w) (e : Event) :
    InTune ⟨(w.shared.react e).shared, w.tasks ++ (w.shared.react e).tasks⟩ ↔ KeepsSpeed w (.event e) := by
  have mounted := steady.present.mounted_of_onTop
  cases e with
  | speedDown =>
      apply inTune_ite_iff inTune
      intro onTop
      rw [show w.shared.speedDownTapped.tasks = [] from rfl, List.append_nil]
      exact inTune_setSpeed_iff inTune (mounted onTop)
        (fun speed => if speed ≤ 1 / 2 then 1 / 2 else speed - 1 / 4) (by norm_num)
  | speedUp =>
      apply inTune_ite_iff inTune
      intro onTop
      rw [show w.shared.speedUpTapped.tasks = [] from rfl, List.append_nil]
      exact inTune_setSpeed_iff inTune (mounted onTop)
        (fun speed => if speed ≥ 2 then 2 else speed + 1 / 4) (by norm_num)
  | previous =>
      apply inTune_ite_iff inTune
      intro onTop
      exact inTune_skip_iff inTune (mounted onTop) (State.previousPressed_skips steady.located)
  | next =>
      apply inTune_ite_iff inTune
      intro onTop
      exact inTune_skip_iff inTune (mounted onTop) (State.nextPressed_skips steady.located)
  | back =>
      have calm : Calm w.shared w.shared.backTapped := ⟨⟨rfl, rfl, id⟩, rfl⟩
      exact iff_of_true (calm.ite.inTune inTune) trivial
  | videoEnd =>
      obtain ⟨same, none, -⟩ := onVideoEnd_speeds steady.located
      have calm : Calm w.shared w.shared.onVideoEnd := ⟨same, none⟩
      exact iff_of_true (calm.ite.inTune inTune) trivial
  | timerFires k =>
      rw [show (w.shared.react (.timerFires k)).tasks = [] from rfl, List.append_nil]
      exact inTune_timerFires_iff steady inTune k
  | timerCancelled k =>
      have calm : Calm w.shared (w.shared.react (.timerCancelled k)) := ⟨⟨rfl, rfl, id⟩, rfl⟩
      exact iff_of_true (calm.inTune inTune) trivial
  | plays position =>
      have calm : Calm w.shared (w.shared.react (.plays position)) := ⟨⟨rfl, rfl, id⟩, rfl⟩
      exact iff_of_true (calm.inTune inTune) trivial
  | confirmAlert =>
      have calm : Calm w.shared (w.shared.react .confirmAlert) := by
        simp only [State.react]
        split
        · exact ⟨⟨rfl, rfl, id⟩, rfl⟩
        · exact ⟨.refl _, rfl⟩
      exact iff_of_true (calm.inTune inTune) trivial
  | disposed =>
      have calm : Calm w.shared (w.shared.react .disposed) := by
        refine ⟨⟨rfl, rfl, ?_⟩, rfl⟩
        intro still
        simp only [State.react, Bool.and_eq_true] at still
        exact still.1
      exact iff_of_true (calm.inTune inTune) trivial

/-- From a state in tune, a step stays in tune exactly if it is one of those allowed. -/
theorem inTune_step_iff (w : Player) (i : PlayerInput) (steady : Steady w) (inTune : InTune w) :
    InTune (mediaControl.step w i).1 ↔ KeepsSpeed w i := by
  rcases step_cases w i with ⟨e, rfl⟩ | ⟨k, r, rfl, missing⟩ | ⟨k, r, t, rfl, located⟩
  · exact inTune_react_iff steady inTune e
  · rw [step_idle mediaControl missing]
    exact iff_of_true inTune trivial
  · exact iff_of_true (inTune.resume located r) trivial

/-! ## Out of tune -/

def IsReply (i : PlayerInput) : Prop := ∃ k reply, i = .resume k reply

/-- A reply that closes a player whose session is over. -/
def expired : Reply := .answered 200 (some (.object [("CurrentState", .string "none")]))

/-- Every call gives up on a request that fails. -/
theorem failed_givesUp (s : State) (t : Task) :
    (mediaControl.resume s t .failed).shared = s ∧ (mediaControl.resume s t .failed).tasks = [] :=
  ⟨rfl, rfl⟩

/-- Speeds that differ still do when everything pending has given up. -/
theorem exists_apart_of_ne {w : Player} (apart : w.shared.playBackSpeed ≠ w.shared.realSpeed) :
    ∃ tail, (∀ i ∈ tail, IsReply i) ∧ ¬ ShowsSpeed (final mediaControl.step w tail) := by
  refine ⟨List.replicate w.tasks.length (.resume 0 .failed), ?_, ?_⟩
  · intro i member
    exact ⟨0, .failed, List.eq_of_mem_replicate member⟩
  · rw [final_givingUp mediaControl failed_givesUp w]
    intro shows
    exact apart (shows rfl)

/-- On a mounted state every pending call can come to its reset. -/
theorem exists_reset {s : State} (mounted : s.mounted = true) (t : Task) :
    ∃ reply, (s.resume t reply).shared.playBackSpeed = 1 := by
  cases t with
  | awaitingLog uuid =>
      refine ⟨expired, ?_⟩
      have refused : State.checkLog uuid [("CurrentState", .string "none")] = .sessionExpired := rfl
      simp only [State.resume, expired, Reply.object_answered, State.logAnswered, refused, State.close,
        mounted, if_true, State.resumePlaying_shared]
  | awaitingTime lmNum =>
      refine ⟨.answered 200 (some (.object [("current_time", .string "0")])), ?_⟩
      have minute : s.playTime.assign [("current_time", .string "0")] =
          some { s.playTime with currentTime := some 0, fin := .null } := rfl
      simp only [State.resume, Reply.object_answered, State.timeAnswered, minute,
        State.resumePlaying_shared, mounted, if_true]

/-- Out of tune, the replies still to come can leave nothing pending and the two
    speeds apart. -/
theorem exists_apart {w : Player} (outOfTune : ¬ InTune w) :
    ∃ tail, (∀ i ∈ tail, IsReply i) ∧ ¬ ShowsSpeed (final mediaControl.step w tail) := by
  by_cases agrees : w.shared.playBackSpeed = w.shared.realSpeed
  · have waiting : w.tasks ≠ [] ∧ w.shared.mounted = true ∧ w.shared.playBackSpeed ≠ 1 := by
      by_contra settled
      apply outOfTune
      refine ⟨agrees, ?_⟩
      intro some mounted
      by_contra notOne
      exact settled ⟨some, mounted, notOne⟩
    obtain ⟨some, mounted, notOne⟩ := waiting
    obtain ⟨t, rest, tasks⟩ := List.exists_cons_of_ne_nil some
    have located : w.tasks[0]? = Option.some t := by rw [tasks]; rfl
    obtain ⟨reply, one⟩ := exists_reset mounted t
    have taken := step_resume mediaControl located reply
    have real : (w.shared.resume t reply).shared.realSpeed = w.shared.realSpeed :=
      (resume_resets w.shared t reply).real
    have apart : (mediaControl.step w (.resume 0 reply)).1.shared.playBackSpeed ≠
        (mediaControl.step w (.resume 0 reply)).1.shared.realSpeed := by
      rw [taken]
      simp only [mediaControl, one, real, ← agrees]
      exact notOne.symm
    obtain ⟨tail, replies, shows⟩ := exists_apart_of_ne apart
    exact ⟨.resume 0 reply :: tail, List.forall_mem_cons.mpr ⟨⟨0, reply, rfl⟩, replies⟩, shows⟩
  · exact exists_apart_of_ne agrees

/-! ## Runs -/

theorem initState_inTune {urls titles : List String} {playTime : PlayTime} {w : Player}
    (opened : Player.initState urls titles playTime = some w) : Steady w ∧ InTune w := by
  have counts := initState_counts opened
  have route := initState_route opened
  obtain ⟨url, rfl⟩ := initState_opens opened
  exact ⟨⟨counts.located, fun _ => route, by simp [State.Fresh], IsSpeed.one⟩, rfl, fun _ _ => rfl⟩

/-- In every run of the player the speed shown is in range; and it is the speed
    played at whenever nothing is pending, also when the replies still missing come in
    after any part of the run, exactly if every speed button that reaches the player
    finds nothing pending and every change of video finds speed one. -/
theorem speed_shown_iff {urls titles : List String} {playTime : PlayTime} {w : Player}
    (opened : Player.initState urls titles playTime = some w) (is : List PlayerInput) :
    (∀ f ∈ run mediaControl.step w is,
        IsSpeed f.before.shared.playBackSpeed ∧ IsSpeed f.after.shared.playBackSpeed) ∧
      (GoodThroughout mediaControl.step (fun tail => ∀ i ∈ tail, IsReply i)
          (fun f => ShowsSpeed f.after) w is ↔
        ∀ f ∈ run mediaControl.step w is, KeepsSpeed f.before f.input) := by
  obtain ⟨steady, inTune⟩ := initState_inTune opened
  constructor
  · intro f member
    have around := invariant_of_kept steady_step steady is f member
    exact ⟨around.1.range, around.2.range⟩
  · have keeps : ∀ w i, Steady w ∧ InTune w → KeepsSpeed w i →
        Steady (mediaControl.step w i).1 ∧ InTune (mediaControl.step w i).1 :=
      fun w i sound kept =>
        ⟨steady_step w i sound.1, (inTune_step_iff w i sound.1 sound.2).mpr kept⟩
    have good : ∀ w i, Steady w ∧ InTune w → KeepsSpeed w i →
        ShowsSpeed (fire mediaControl.step w i).after :=
      fun w i sound kept _ => (keeps w i sound kept).2.agrees
    apply goodThroughout_iff_guarded keeps good _ _ ⟨steady, inTune⟩ is
    · intro w tail _ replies f member
      obtain ⟨k, reply, same⟩ := replies f.input (input_mem_of_mem mediaControl.step member)
      rw [same]
      trivial
    · intro w i sound violated
      have outOfTune : ¬ InTune (mediaControl.step w i).1 :=
        fun after => violated ((inTune_step_iff w i sound.1 sound.2).mp after)
      obtain ⟨tail, replies, apart⟩ := exists_apart outOfTune
      obtain ⟨f, member, last⟩ := exists_last mediaControl.step w (List.cons_ne_nil i tail)
      refine ⟨tail, replies, f, member, ?_⟩
      rw [last]
      exact apart

/-- A tap while the first call is pending: its reset then shows speed one over a
    video that plays at three quarters. -/
theorem tapWhilePending_apart :
    Player.initState ["v/1.mp4", "v/2.mp4"] ["1강", "2강"] sampleRecord = some samplePlayer ∧
      ∃ f ∈ run mediaControl.step samplePlayer [.event .speedDown,
          .resume 0 (.answered 200 (some (.object
            [("CurrentState", .string "viewing"), ("UUID", .string "device-a")]))),
          .resume 0 (.answered 200 (some (.object [("current_time", .string "0")])))],
        f.after.tasks = [] ∧ f.after.shared.playBackSpeed = 1 ∧ f.after.shared.realSpeed = 3 / 4 :=
  ⟨rfl, _, List.mem_cons_of_mem _ (List.mem_cons_of_mem _ List.mem_cons_self), by decide, rfl,
    by decide +kernel⟩

theorem speed_shown_iff_sample :
    (∀ f ∈ run mediaControl.step samplePlayer [.event .next],
        IsSpeed f.before.shared.playBackSpeed ∧ IsSpeed f.after.shared.playBackSpeed) ∧
      (GoodThroughout mediaControl.step (fun tail => ∀ i ∈ tail, IsReply i)
          (fun f => ShowsSpeed f.after) samplePlayer [.event .next] ↔
        ∀ f ∈ run mediaControl.step samplePlayer [.event .next], KeepsSpeed f.before f.input) :=
  speed_shown_iff samplePlayer_opened _

end Edutopik.Media

import Edutopik.Library.EventLoop
import Edutopik.Media.FlickManager
import Edutopik.Media.PlayTime

/-! # The player screen

The player is an event loop. Buttons and library callbacks are its events; every
`initPlayer` call is a task with two awaits, first the viewing-log check and then
the resume-point lookup, and any number of them may be pending at once. All of
them share one `PlayTime`, one `DataManager`, one `FlickManager` and the route
stack of the app.

An exception ends the handler it is raised in and keeps what was done before it.
-/

namespace Edutopik.Media

open Dart EventLoop

inductive Route where
  | home
  | player
  | alert (text : String)
  deriving DecidableEq, Repr

structure State where
  playTime : PlayTime
  dataManager : DataManager
  flickManager : FlickManager
  playBackSpeed : ℚ := 1
  /-- Whether `MediaControl`'s state is still in the tree. A popped screen stays
      mounted until its exit transition ends. -/
  mounted : Bool := true
  /-- The route stack, topmost first. -/
  navigator : List Route

/-- Where a pending `initPlayer` is suspended, with what it still needs of the
    arguments it was called with. -/
inductive Task where
  | awaitingLog (uuid : String)
  /-- `lmNum` is the lecture the lookup was asked for. -/
  | awaitingTime (lmNum : Int)
  deriving DecidableEq, Repr

inductive Event where
  | speedDown
  | speedUp
  | previous
  | next
  | back
  | videoEnd
  /-- A delayed change of video takes place. -/
  | timerFires (k : Nat)
  | timerCancelled (k : Nat)
  /-- The video plays on, or is dragged to a position. -/
  | plays (position : Duration)
  /-- The button of the alert shown over a closed player. -/
  | confirmAlert
  /-- The exit transition ends. -/
  | disposed

inductive Effect where
  | sendPlayTime (report : Report)
  | getLastLog (query : LogQuery)
  | getPlayTime (query : ResumeQuery)
  | handleChangeVideo (change : ChangeVideo)
  | seekTo (position : Duration)
  | setPlaybackSpeed (speed : ℚ)
  | pop
  | showDialog (text : String)
  | setState
  deriving DecidableEq

abbrev Player := World State Task

abbrev PlayerInput := Input Event Reply

namespace State

/-- Taps reach the player only while its route is the topmost one. -/
def onTop (s : State) : Bool := s.navigator.head? == some .player

def idle (s : State) : Turn State Task Effect := { shared := s }

/-- `current_time = videoPlayerValue.position.inMinutes`. -/
def takePosition (s : State) : State :=
  { s with playTime.currentTime := some s.flickManager.current.position.inMinutes }

/-- The part of an `initPlayer` call before its first await. -/
def initPlayer (s : State) : Turn State Task Effect :=
  { shared := s
    tasks := [.awaitingLog s.playTime.uuid]
    effects := [.getLastLog s.playTime.logQuery] }

/-- What a skip button does: report the position, count `lm_num` by `count`, skip,
    start an `initPlayer`. An exception of the skip keeps the report and the count. -/
def skipPressed (s : State) (count : Int) (skip : DataManager → DataManager × Skip) :
    Turn State Task Effect :=
  let taken := s.takePosition
  let report := taken.playTime.report "N"
  let counted := { taken with playTime.lmNum := taken.playTime.lmNum + count }
  let skipped := { counted with dataManager := (skip counted.dataManager).1 }
  match (skip counted.dataManager).2 with
  | .rangeError => { shared := skipped, effects := [.sendPlayTime report] }
  | .stays =>
      let started := skipped.initPlayer
      { started with effects := .sendPlayTime report :: started.effects }
  | .hands change =>
      let changed := { skipped with flickManager := skipped.flickManager.handleChangeVideo change }
      let started := changed.initPlayer
      { started with
        effects := .sendPlayTime report :: .handleChangeVideo change :: started.effects }

/-- The button for the previous lecture. -/
def previousPressed (s : State) : Turn State Task Effect :=
  s.skipPressed (-1) DataManager.skipToPreviousVideo

/-- The button for the next lecture. -/
def nextPressed (s : State) : Turn State Task Effect :=
  s.skipPressed 1 (DataManager.skipToNextVideo none)

/-- The back arrow. -/
def backTapped (s : State) : Turn State Task Effect :=
  let taken := s.takePosition
  { shared := { taken with navigator := taken.navigator.tail }
    effects := [.sendPlayTime (taken.playTime.report "Y"), .pop] }

/-- The callback given to the video library: skip with a delay, nothing else. -/
def onVideoEnd (s : State) : Turn State Task Effect :=
  let skip := s.dataManager.skipToNextVideo (some (Duration.ofSeconds 5))
  let skipped := { s with dataManager := skip.1 }
  match skip.2 with
  | .hands change =>
      { shared := { skipped with flickManager := skipped.flickManager.handleChangeVideo change }
        effects := [.handleChangeVideo change] }
  | .stays | .rangeError => { shared := skipped }

def setSpeed (s : State) (speed : ℚ) : Turn State Task Effect :=
  { shared := { s with
      playBackSpeed := speed
      flickManager := s.flickManager.setPlaybackSpeed speed }
    effects := [.setPlaybackSpeed speed] }

def speedDownTapped (s : State) : Turn State Task Effect :=
  s.setSpeed (if s.playBackSpeed ≤ 1 / 2 then 1 / 2 else s.playBackSpeed - 1 / 4)

def speedUpTapped (s : State) : Turn State Task Effect :=
  s.setSpeed (if s.playBackSpeed ≥ 2 then 2 else s.playBackSpeed + 1 / 4)

def react (s : State) : Event → Turn State Task Effect
  | .speedDown => if s.onTop then s.speedDownTapped else s.idle
  | .speedUp => if s.onTop then s.speedUpTapped else s.idle
  | .previous => if s.onTop then s.previousPressed else s.idle
  | .next => if s.onTop then s.nextPressed else s.idle
  | .back => if s.onTop then s.backTapped else s.idle
  | .videoEnd => if s.mounted then s.onVideoEnd else s.idle
  | .timerFires k => { shared := { s with flickManager := s.flickManager.timerFires k } }
  | .timerCancelled k => { shared := { s with flickManager := s.flickManager.timerCancelled k } }
  | .plays position => { shared := { s with flickManager := s.flickManager.seekTo position } }
  | .confirmAlert =>
      match s.navigator.head? with
      | some (.alert _) => { shared := { s with navigator := s.navigator.tail }, effects := [.pop] }
      | _ => s.idle
  | .disposed => { shared := { s with mounted := s.mounted && s.navigator.contains .player } }

/-! ## `initPlayer` after its awaits -/

/-- What follows `setPlayTime` in `initPlayer`. `setState` raises on a state that
    is no longer mounted; the seek comes before it. -/
def resumePlaying (s : State) (effects : List Effect) : Turn State Task Effect :=
  let position := s.playTime.resumePosition
  let sought := { s with flickManager := s.flickManager.seekTo position }
  if s.mounted then
    { shared := { sought with playBackSpeed := 1 }
      effects := effects ++ [.seekTo position, .setState] }
  else { shared := sought, effects := effects ++ [.seekTo position] }

theorem resumePlaying_shared (s : State) (effects : List Effect) :
    (s.resumePlaying effects).shared = { s with
      flickManager := s.flickManager.seekTo s.playTime.resumePosition
      playBackSpeed := if s.mounted then 1 else s.playBackSpeed } := by
  unfold resumePlaying
  cases s.mounted <;> rfl

@[simp] theorem resumePlaying_tasks (s : State) (effects : List Effect) :
    (s.resumePlaying effects).tasks = [] := by
  unfold resumePlaying
  cases s.mounted <;> rfl

theorem mem_resumePlaying {s : State} {effects : List Effect} {e : Effect} :
    e ∈ (s.resumePlaying effects).effects ↔
      e ∈ effects ∨ e = .seekTo s.playTime.resumePosition ∨ s.mounted = true ∧ e = .setState := by
  unfold resumePlaying
  cases s.mounted <;> simp

/-- What the viewing log says about this device. -/
inductive LogCheck where
  | sessionExpired
  | duplicateViewing
  | continues
  deriving DecidableEq, Repr

def checkLog (uuid : String) (res : JsonObject) : LogCheck :=
  if (res.get "CurrentState").equals "none" then .sessionExpired
  else if (res.get "UUID").equals uuid then .continues
  else .duplicateViewing

/-- A check that fails pops the topmost route, shows an alert and lets `initPlayer`
    go on with the record as it is. Looking up the navigator raises once the state
    is not mounted. -/
def close (s : State) (text : String) : Turn State Task Effect :=
  if s.mounted then
    { s with navigator := .alert text :: s.navigator.tail }.resumePlaying [.pop, .showDialog text]
  else s.idle

def logAnswered (s : State) (uuid : String) (res : JsonObject) : Turn State Task Effect :=
  match checkLog uuid res with
  | .sessionExpired => s.close "세션이 만료되었습니다."
  | .duplicateViewing => s.close "중복시청이 감지되었습니다."
  | .continues =>
      { shared := s
        tasks := [.awaitingTime s.playTime.lmNum]
        effects := [.getPlayTime s.playTime.resumeQuery] }

def timeAnswered (s : State) (res : JsonObject) : Turn State Task Effect :=
  match s.playTime.assign res with
  | none => s.idle
  | some written => { s with playTime := written }.resumePlaying []

def resume (s : State) (task : Task) (reply : Reply) : Turn State Task Effect :=
  match reply.object with
  | none => s.idle
  | some res =>
      match task with
      | .awaitingLog uuid => s.logAnswered uuid res
      | .awaitingTime _ => s.timeAnswered res

end State

def mediaControl : Loop State Task Event Reply Effect where
  react := State.react
  resume := State.resume

/-- Opening the player: `_PlayerState.initState` and, with the first build,
    `_MediaControlState.initState`, which begins an `initPlayer`. The url of a lecture
    number that is not in the list raises. -/
def Player.firstBuild (urls titles : List String) (playTime : PlayTime) :
    Option (Turn State Task Effect) :=
  match Dart.index urls (playTime.lmNum - 1) with
  | none => none
  | some url =>
      let dataManager : DataManager :=
        { urls := urls, titles := titles, currentPlaying := playTime.lmNum - 1 }
      let opened : State :=
        { playTime := playTime
          dataManager := dataManager
          flickManager := { current := { url := url, index := playTime.lmNum - 1 } }
          navigator := [.player, .home] }
      some opened.initPlayer

/-- The player as its first build leaves it. -/
def Player.initState (urls titles : List String) (playTime : PlayTime) : Option Player :=
  (Player.firstBuild urls titles playTime).map fun turn =>
    { shared := turn.shared, tasks := turn.tasks }

/-- What the first build lets out is the check of its `initPlayer`. -/
theorem Player.firstBuild_effects {urls titles : List String} {playTime : PlayTime}
    {turn : Turn State Task Effect} (built : Player.firstBuild urls titles playTime = some turn) :
    turn.effects = [.getLastLog turn.shared.playTime.logQuery] := by
  unfold Player.firstBuild at built
  split at built
  · cases built
  · cases built
    rfl

end Edutopik.Media

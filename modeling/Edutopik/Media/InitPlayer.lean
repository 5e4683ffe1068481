import Edutopik.Library.OneCall
import Edutopik.Media.PlayerTurns

/-! # What one `initPlayer` call lets out

Any number of calls may be pending and skips may come between the two awaits of each.
What a single one of them lets out is still one of a few words: it closes the player
and goes on to seek, or it looks its resume point up once and may seek then. No call
does both, and none seeks twice. A seek goes to the position of the record as the call
finds or reads it, and only a player that is still mounted is built again.
-/

namespace Edutopik.Media

open Dart EventLoop Machine

abbrev PlayerFired := Fired Player PlayerInput Effect

/-- The text of the alert that goes with a check. -/
def State.LogCheck.alert? : State.LogCheck → Option String
  | .sessionExpired => some "세션이 만료되었습니다."
  | .duplicateViewing => some "중복시청이 감지되었습니다."
  | .continues => none

/-- `setState` rebuilds what is mounted, and raises otherwise. -/
def State.rebuild (s : State) : List Effect := if s.mounted then [.setState] else []

theorem State.resumePlaying_effects (s : State) (effects : List Effect) :
    (s.resumePlaying effects).effects =
      effects ++ .seekTo s.playTime.resumePosition :: s.rebuild := by
  unfold resumePlaying rebuild
  cases s.mounted <;> rfl

/-- What a call does once its lookup was posted: nothing yet, nothing with a reply that
    has no minute, or a seek to the minute that it reads into the record. -/
inductive LooksUp : List PlayerFired → Prop where
  | waits : LooksUp []
  | quits {f k reply} : f.input = .resume k reply →
      (∀ res, reply.object = some res → f.before.shared.playTime.assign res = none) →
        f.effects = [] → LooksUp [f]
  | seeks {f k reply res} : f.input = .resume k reply → reply.object = some res →
      f.before.shared.playTime.assign res = some f.after.shared.playTime →
        f.effects = .seekTo f.after.shared.playTime.resumePosition :: f.before.shared.rebuild →
          LooksUp [f]

/-- What it does once its check for the device was posted. A check that is refused closes
    the player, if its state is mounted, and goes on to the position the record has. -/
inductive InitPlayerSteps (uuid : String) : List PlayerFired → Prop where
  | waits : InitPlayerSteps uuid []
  | quits {f k reply} : f.input = .resume k reply →
      (∀ res, reply.object = some res →
        State.checkLog uuid res ≠ .continues ∧ f.before.shared.mounted = false) →
          f.effects = [] → InitPlayerSteps uuid [f]
  | closes {f k reply res text} : f.input = .resume k reply → reply.object = some res →
      (State.checkLog uuid res).alert? = some text → f.before.shared.mounted = true →
        f.after.shared.playTime = f.before.shared.playTime →
          f.effects = [.pop, .showDialog text,
            .seekTo f.after.shared.playTime.resumePosition, .setState] → InitPlayerSteps uuid [f]
  | looksUp {f k reply res later} : f.input = .resume k reply → reply.object = some res →
      State.checkLog uuid res = .continues →
        f.effects = [.getPlayTime f.before.shared.playTime.resumeQuery] → LooksUp later →
          InitPlayerSteps uuid (f :: later)

/-- From each of its awaits on. -/
def CallSteps : Task → List PlayerFired → Prop
  | .awaitingLog uuid, steps => InitPlayerSteps uuid steps
  | .awaitingTime _, steps => LooksUp steps

/-! ## One step -/

/-- A check that is refused, with the player mounted or not. -/
theorem initPlayerSteps_of_refused {w : Player} {k : Nat} {uuid : String} {reply : Reply}
    {res : JsonObject} {text : String} (located : w.tasks[k]? = some (.awaitingLog uuid))
    (answer : reply.object = some res) (alert : (State.checkLog uuid res).alert? = some text)
    (closed : w.shared.resume (.awaitingLog uuid) reply = w.shared.close text) :
    InitPlayerSteps uuid [fire mediaControl.step w (.resume k reply)] := by
  have stepped := step_resume mediaControl located reply
  rw [show mediaControl.resume w.shared (.awaitingLog uuid) reply = w.shared.close text from closed]
    at stepped
  cases mounted : w.shared.mounted with
  | false =>
      have nothing : w.shared.close text = w.shared.idle := by simp [State.close, mounted]
      rw [nothing] at stepped
      refine .quits rfl ?_ (congrArg Prod.snd stepped)
      intro res' answer'
      cases answer.symm.trans answer'
      refine ⟨?_, mounted⟩
      intro continues
      simp [continues, State.LogCheck.alert?] at alert
  | true =>
      have closes : w.shared.close text =
          State.resumePlaying { w.shared with navigator := .alert text :: w.shared.navigator.tail }
            [.pop, .showDialog text] := by simp [State.close, mounted]
      have same : (fire mediaControl.step w (.resume k reply)).after.shared.playTime =
          w.shared.playTime := by
        rw [fire_after, stepped, closes, State.resumePlaying_shared]
      refine .closes rfl answer alert mounted same ?_
      rw [same, fire_effects, stepped, closes, State.resumePlaying_effects]
      simp [State.rebuild, mounted]

theorem looksUp_of_lookup {w : Player} {k : Nat} {lmNum : Int} {reply : Reply}
    (located : w.tasks[k]? = some (.awaitingTime lmNum)) :
    LooksUp [fire mediaControl.step w (.resume k reply)] := by
  have stepped := step_resume mediaControl located reply
  simp only [mediaControl, State.resume] at stepped
  cases answer : reply.object with
  | none =>
      simp only [answer] at stepped
      refine .quits rfl ?_ (congrArg Prod.snd stepped)
      intro res given
      rw [answer] at given
      cases given
  | some res =>
      simp only [answer, State.timeAnswered] at stepped
      cases assigned : w.shared.playTime.assign res with
      | none =>
          simp only [assigned] at stepped
          refine .quits rfl ?_ (congrArg Prod.snd stepped)
          intro res' given
          cases answer.symm.trans given
          exact assigned
      | some written =>
          simp only [assigned] at stepped
          have record : (fire mediaControl.step w (.resume k reply)).after.shared.playTime = written := by
            have after := congrArg (fun next => next.1.shared.playTime) stepped
            rw [State.resumePlaying_shared] at after
            exact after
          refine .seeks rfl answer (by rw [record]; exact assigned) ?_
          rw [record, fire_effects]
          exact (congrArg Prod.snd stepped).trans (State.resumePlaying_effects _ _)

/-- The step that ends a call at its check. -/
theorem initPlayerSteps_of_end {w : Player} {k : Nat} {uuid : String} {reply : Reply}
    (located : w.tasks[k]? = some (.awaitingLog uuid))
    (last : (w.shared.resume (.awaitingLog uuid) reply).tasks = []) :
    InitPlayerSteps uuid [fire mediaControl.step w (.resume k reply)] := by
  cases answer : reply.object with
  | none =>
      have nothing : w.shared.resume (.awaitingLog uuid) reply = w.shared.idle := by
        simp [State.resume, answer]
      have effects := effects_of_resume mediaControl located reply
      refine .quits rfl ?_ (effects.trans (congrArg Turn.effects nothing))
      intro res given
      rw [answer] at given
      cases given
  | some res =>
      have logged : w.shared.resume (.awaitingLog uuid) reply = w.shared.logAnswered uuid res := by
        simp [State.resume, answer]
      cases checked : State.checkLog uuid res with
      | sessionExpired =>
          apply initPlayerSteps_of_refused located answer (by rw [checked]; rfl)
          rw [logged, State.logAnswered, checked]
      | duplicateViewing =>
          apply initPlayerSteps_of_refused located answer (by rw [checked]; rfl)
          rw [logged, State.logAnswered, checked]
      | continues =>
          rw [logged, State.logAnswered, checked] at last
          cases last

/-- The step after which a call goes on is a check that lets it. -/
theorem initPlayerSteps_of_going {w : Player} {k : Nat} {uuid : String} {reply : Reply} {next : Task}
    {more : List Task} {later : List PlayerFired} (located : w.tasks[k]? = some (.awaitingLog uuid))
    (left : (w.shared.resume (.awaitingLog uuid) reply).tasks = next :: more)
    (rest : CallSteps next later) :
    InitPlayerSteps uuid (fire mediaControl.step w (.resume k reply) :: later) := by
  have turn := resumed w.shared (.awaitingLog uuid) reply
  have effects := effects_of_resume mediaControl located reply
  simp only [mediaControl] at effects
  generalize w.shared.resume (.awaitingLog uuid) reply = taken at turn left effects
  cases turn with
  | asks answer continues =>
      cases left
      exact .looksUp rfl answer continues effects rest
  | closes text => simp at left
  | _ => cases left

theorem not_tasks_of_lookup (s : State) (lmNum : Int) (reply : Reply) {next : Task} {more : List Task} :
    (s.resume (.awaitingTime lmNum) reply).tasks ≠ next :: more := by
  have turn := resumed s (.awaitingTime lmNum) reply
  generalize s.resume (.awaitingTime lmNum) reply = taken at turn
  cases turn with
  | seeks minute => simp
  | _ => simp [State.idle]

/-! ## The call -/

/-- Whatever taps, skips and other calls come in between, a pending `initPlayer` does
    this from its check on. -/
theorem initPlayer_outputs {w : Player} {k : Nat} {uuid : String}
    (pending : w.tasks[k]? = some (.awaitingLog uuid)) (is : List PlayerInput) :
    InitPlayerSteps uuid (mediaControl.call w k is) := by
  have waits : ∀ t, CallSteps t [] := by
    intro t
    cases t with
    | awaitingLog uuid => exact .waits
    | awaitingTime lmNum => exact .waits
  have ends : ∀ (w : Player) k t reply, True → w.tasks[k]? = some t →
      (mediaControl.resume w.shared t reply).tasks = [] →
        CallSteps t [fire mediaControl.step w (.resume k reply)] := by
    intro w k t reply _ located last
    cases t with
    | awaitingLog uuid => exact initPlayerSteps_of_end located last
    | awaitingTime lmNum => exact looksUp_of_lookup located
  have goes : ∀ (w : Player) k t reply next more (steps : List PlayerFired), True →
      w.tasks[k]? = some t → (mediaControl.resume w.shared t reply).tasks = next :: more →
        CallSteps next steps → CallSteps t (fire mediaControl.step w (.resume k reply) :: steps) := by
    intro w k t reply next more steps _ located left rest
    cases t with
    | awaitingLog uuid => exact initPlayerSteps_of_going located left rest
    | awaitingTime lmNum => exact absurd left (not_tasks_of_lookup w.shared lmNum reply)
  exact call_rule (fun _ _ _ => trivial) waits ends goes trivial pending is

/-- A player with the calls of its opening and of a skip pending. -/
def skippedOnce : Player :=
  let playTime : PlayTime :=
    { getTimeUrl := "get", sendUrl := "send", uid := "kim", ocode := "O1", scode := "S1",
      lmNum := 2, lmTime := "40", uuid := "device-a", checkLogUrl := "log" }
  { shared :=
      { playTime
        dataManager := { urls := ["v/1.mp4", "v/2.mp4"], titles := ["1강", "2강"], currentPlaying := 1 }
        flickManager := { current := { url := "v/2.mp4", index := 1 } }
        navigator := [.player, .home] }
    tasks := [.awaitingLog "device-a", .awaitingLog "device-a"] }

/-- Another device takes over before the skip's check is answered. -/
def takenOver : List PlayerInput :=
  [.resume 0 (.answered 200 (some (.object [("UUID", .string "device-a")]))),
    .resume 1 (.answered 200 (some (.object [("UUID", .string "device-b")]))), .event .disposed,
    .resume 0 (.answered 200 (some (.object [("current_time", .string "61")])))]

theorem initPlayer_outputs_sample :
    InitPlayerSteps "device-a" (mediaControl.call skippedOnce 0 takenOver) ∧
      InitPlayerSteps "device-a" (mediaControl.call skippedOnce 1 takenOver) ∧
        (mediaControl.call skippedOnce 0 takenOver).flatMap Fired.effects =
          [.getPlayTime skippedOnce.shared.playTime.resumeQuery, .seekTo (Duration.ofHoursMinutes 1 1)] :=
  ⟨initPlayer_outputs rfl takenOver, initPlayer_outputs rfl takenOver, rfl⟩

end Edutopik.Media

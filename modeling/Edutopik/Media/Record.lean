import Edutopik.Media.LectureCount

/-! # What the requests of a run are made from

The player is opened with one record and asks the server about nothing else: only the
lecture counted, the minute and the mark of completion change in it.
-/

namespace Edutopik.Media

open Dart EventLoop Machine

/-- The record held is this one, but for what it counts. -/
def HoldsRecord (p : PlayTime) (s : State) : Prop :=
  ∃ (lmNum : Int) (currentTime : Option Int) (fin : Json),
    s.playTime = { p with lmNum := lmNum, currentTime := currentTime, fin := fin }

/-- A request is made from the record, with whatever lecture and minute it holds by then. -/
def MadeFrom (p : PlayTime) : Effect → Prop
  | .sendPlayTime report => ∃ (lmNum minute : Int), ∃ fin ∈ ["N", "Y"],
      report = PlayTime.report { p with lmNum := lmNum, currentTime := some minute } fin
  | .getPlayTime query => ∃ lmNum : Int, query = PlayTime.resumeQuery { p with lmNum := lmNum }
  | .getLastLog query => query = p.logQuery
  | _ => True

namespace HoldsRecord

variable {p : PlayTime} {s : State}

theorem of_same {t : State} (same : t.playTime = s.playTime) : HoldsRecord s.playTime t :=
  ⟨s.playTime.lmNum, s.playTime.currentTime, s.playTime.fin, same⟩

theorem trans {t : State} (held : HoldsRecord p s) (kept : HoldsRecord s.playTime t) :
    HoldsRecord p t := by
  obtain ⟨lmNum, currentTime, fin, same⟩ := held
  obtain ⟨lmNum', currentTime', fin', same'⟩ := kept
  exact ⟨lmNum', currentTime', fin', by rw [same', same]⟩

/-- What is held after nothing but the counts has changed was held before. -/
theorem before {t : State} (held : HoldsRecord p t) (kept : HoldsRecord s.playTime t) :
    HoldsRecord p s := by
  obtain ⟨lmNum, currentTime, fin, same⟩ := held
  obtain ⟨lmNum', currentTime', fin', same'⟩ := kept
  refine ⟨s.playTime.lmNum, s.playTime.currentTime, s.playTime.fin, ?_⟩
  have fields := same'.symm.trans same
  generalize s.playTime = q at fields
  cases q
  simp only [PlayTime.mk.injEq] at fields
  simp [fields]

theorem skipPressed (count : Int) (skip : DataManager → DataManager × Skip) :
    HoldsRecord s.playTime (s.skipPressed count skip).shared := by
  refine ⟨s.playTime.lmNum + count, s.takePosition.playTime.currentTime, s.playTime.fin, ?_⟩
  unfold State.skipPressed
  dsimp only
  split <;> rfl

theorem onVideoEnd : HoldsRecord s.playTime s.onVideoEnd.shared := by
  apply of_same
  unfold State.onVideoEnd
  dsimp only
  split <;> rfl

theorem ite {reached : Bool} {turn : Turn State Task Effect} (held : HoldsRecord p turn.shared)
    (missed : HoldsRecord p s) : HoldsRecord p (if reached then turn else s.idle).shared := by
  cases reached with
  | true => exact held
  | false => exact missed

theorem react (e : Event) : HoldsRecord s.playTime (s.react e).shared := by
  have here : HoldsRecord s.playTime s := of_same rfl
  cases e with
  | speedDown => exact ite (of_same rfl) here
  | speedUp => exact ite (of_same rfl) here
  | previous => exact ite (skipPressed _ _) here
  | next => exact ite (skipPressed _ _) here
  | back =>
      refine ite ?_ here
      exact ⟨s.playTime.lmNum, s.takePosition.playTime.currentTime, s.playTime.fin, rfl⟩
  | videoEnd => exact ite onVideoEnd here
  | confirmAlert =>
      simp only [State.react]
      split
      · exact of_same rfl
      · exact here
  | _ => exact of_same rfl

theorem resume (task : Task) (reply : Reply) : HoldsRecord s.playTime (s.resume task reply).shared := by
  have turn := resumed s task reply
  generalize s.resume task reply = next at turn
  cases turn with
  | closes text =>
      rw [State.resumePlaying_shared]
      exact of_same rfl
  | seeks minute =>
      rw [State.resumePlaying_shared]
      exact ⟨s.playTime.lmNum, some minute, _, rfl⟩
  | _ => exact of_same rfl

end HoldsRecord

theorem holdsRecord_step {p : PlayTime} (w : Player) (i : PlayerInput) (held : HoldsRecord p w.shared) :
    HoldsRecord p (mediaControl.step w i).1.shared := by
  apply held.trans
  rcases step_cases w i with ⟨e, rfl⟩ | ⟨k, r, rfl, missing⟩ | ⟨k, r, t, rfl, located⟩
  · exact .react e
  · rw [step_idle mediaControl missing]
    exact .of_same rfl
  · rw [step_resume mediaControl located]
    exact .resume t r

theorem HoldsRecord.check {p : PlayTime} {s : State} (held : HoldsRecord p s) :
    MadeFrom p (.getLastLog s.playTime.logQuery) := by
  obtain ⟨lmNum, currentTime, fin, same⟩ := held
  simp only [MadeFrom, PlayTime.logQuery, same]

/-- What is asked in a step is asked from the record held. -/
theorem madeFrom_of_step {p : PlayTime} {w : Player} {i : PlayerInput} (held : HoldsRecord p w.shared)
    {x : Effect} (letOut : x ∈ (mediaControl.step w i).2) : MadeFrom p x := by
  have checks := held.check
  obtain ⟨lmNum, currentTime, fin, same⟩ := held
  rcases lets_cases letOut with ⟨e, -, lets⟩ | ⟨-, -, -, lets⟩
  · cases lets with
    | report mark marked _ _ =>
        refine ⟨lmNum, w.shared.flickManager.current.position.inMinutes, mark, marked, ?_⟩
        simp only [State.takePosition, PlayTime.report, same]
    | check => exact checks
    | _ => trivial
  · cases lets with
    | lookup =>
        refine ⟨lmNum, ?_⟩
        simp only [PlayTime.resumeQuery, same]
    | _ => trivial

/-- Every request of a run is made from the record the player was opened with. -/
theorem madeFrom_of_run {urls titles : List String} {p : PlayTime} {w : Player}
    (opened : Player.initState urls titles p = some w) (is : List PlayerInput) :
    ∀ f ∈ run mediaControl.step w is, ∀ x ∈ f.effects, MadeFrom p x := by
  have start : HoldsRecord p w.shared := by
    have record := (initState_shared opened).1
    exact ⟨p.lmNum, p.currentTime, p.fin, record⟩
  intro f member x letOut
  have held := (invariant_of_kept holdsRecord_step start is f member).1
  rw [eq_fire_of_mem mediaControl.step member] at letOut
  exact madeFrom_of_step held letOut

end Edutopik.Media

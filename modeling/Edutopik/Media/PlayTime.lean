import Edutopik.Dart.Core

/-! # The playback record and the three requests made from it

`PlayTime` is filled from the web page's message when the player is opened and
shared by everything on the player screen from then on. The requests keep the
arguments they were called with, since each is later compared with the lecture
it is about; the url each one is sent to is computed from them.
-/

namespace Edutopik.Media

open Dart

structure PlayTime where
  getTimeUrl : String
  sendUrl : String
  uid : String
  ocode : String
  scode : String
  /-- The lecture within its chapter, counted from one. -/
  lmNum : Int
  lmTime : String
  uuid : String
  /-- The minute to resume at; `null` until something is known. -/
  currentTime : Option Int := none
  fin : Json := .null
  checkLogUrl : String

/-- How string interpolation writes an `int?`. -/
def interpolate : Option Int → String
  | none => "null"
  | some n => toString n

/-- The arguments of one `sendPlayTime` call. -/
structure Report where
  url : String
  uid : String
  ocode : String
  scode : String
  lmNum : Int
  uuid : String
  currentTime : Option Int
  fin : String
  deriving DecidableEq, Repr

/-- The url `sendPlayTime` gets. -/
def Report.sendPlayTime : Report → String
  | ⟨url, uid, ocode, scode, lmNum, uuid, currentTime, fin⟩ =>
      let minutes := interpolate currentTime
      s!"{url}?uid={uid}&ocode={ocode}&scode={scode}&lm_num={lmNum}&uuid={uuid}&current_time={minutes}&fin={fin}"

/-- The arguments of one `getPlayTime` call. -/
structure ResumeQuery where
  timeUrl : String
  uid : String
  ocode : String
  scode : String
  lmNum : Int
  deriving DecidableEq, Repr

/-- The url `getPlayTime` gets. -/
def ResumeQuery.getPlayTime : ResumeQuery → String
  | ⟨timeUrl, uid, ocode, scode, lmNum⟩ =>
      s!"{timeUrl}?uid={uid}&ocode={ocode}&scode={scode}&lm_num={lmNum}"

/-- The arguments of one `getLastLog` call that go into its request. -/
structure LogQuery where
  checkUrl : String
  uid : String
  deriving DecidableEq, Repr

/-- The url `getLastLog` gets. -/
def LogQuery.getLastLog : LogQuery → String
  | ⟨checkUrl, uid⟩ => s!"{checkUrl}?uid={uid}"

namespace PlayTime

/-- The report a button sends. `fin` is `N` on a skip and `Y` when the player is left. -/
def report (playTime : PlayTime) (fin : String) : Report :=
  { url := playTime.sendUrl
    uid := playTime.uid
    ocode := playTime.ocode
    scode := playTime.scode
    lmNum := playTime.lmNum
    uuid := playTime.uuid
    currentTime := playTime.currentTime
    fin := fin }

def resumeQuery (playTime : PlayTime) : ResumeQuery :=
  { timeUrl := playTime.getTimeUrl
    uid := playTime.uid
    ocode := playTime.ocode
    scode := playTime.scode
    lmNum := playTime.lmNum }

def logQuery (playTime : PlayTime) : LogQuery :=
  { checkUrl := playTime.checkLogUrl
    uid := playTime.uid }

/-- `Duration(hours: time ~/ 60, minutes: time % 60)` for `time = current_time ?? 0`. -/
def resumePosition (playTime : PlayTime) : Duration :=
  let time := playTime.currentTime.getD 0
  Duration.ofHoursMinutes (time.tdiv 60) (time % 60)

end PlayTime

/-- The two assignments of `setPlayTime`. The second cannot raise once the first
    has been made, so a lookup writes both fields or neither. -/
def PlayTime.assign (playTime : PlayTime) (res : JsonObject) : Option PlayTime :=
  match ((res.get "current_time").toText).bind parseInt with
  | none => none
  | some minute => some { playTime with currentTime := some minute, fin := res.get "fin" }

/-- An assignment that goes through changes those two fields and no other. -/
theorem PlayTime.assign_eq_some_iff {playTime written : PlayTime} {res : JsonObject} :
    playTime.assign res = some written ↔
      ∃ minute, (res.get "current_time").toText.bind parseInt = some minute ∧
        written = { playTime with currentTime := some minute, fin := res.get "fin" } := by
  unfold PlayTime.assign
  cases read : (res.get "current_time").toText.bind parseInt with
  | none => simp
  | some minute => simp [eq_comm]

end Edutopik.Media

import Edutopik.Home.ChannelMessage
import Edutopik.Home.HomeTurns
import Edutopik.Home.LectureList
import Edutopik.Library.History

/-! # Every player is the answer to its message

A player is opened for a message that the page was sent, and that was agreed to where
the page had to ask. It carries the record of that message and the lectures listed in
the reply to the request for that record, whatever else was in flight.
-/

namespace Edutopik.Home

open Dart EventLoop Machine Media

/-! ## What stands behind a player -/

/-- A message of the site led here. -/
def Received (reached : Reached) : List HomeFired → Prop :=
  Past fun f => ∃ text, f.input = .event (.message text) ∧
    onMessageReceived f.before.shared.uuid text = some reached

/-- The question was on top and was answered with yes. -/
def SaidYes (preUrl listUrl : String) (playTime : PlayTime) : List HomeFired → Prop :=
  Past fun f => f.input = .event .confirms ∧
    f.before.shared.navigator.head? = some (.confirm preUrl listUrl playTime)

def Requested (listUrl : String) (playTime : PlayTime) : List HomeFired → Prop :=
  Past fun f => Effect.get (listRequest listUrl playTime) ∈ f.effects

/-- The page was told to start this player, at once or after it had asked. -/
def Told (preUrl listUrl : String) (playTime : PlayTime) (past : List HomeFired) : Prop :=
  Received (.startPlayer preUrl listUrl playTime) past ∨
    Received (.asyncConfirmDialog preUrl listUrl playTime) past ∧
      SaidYes preUrl listUrl playTime past

theorem Told.more {preUrl listUrl : String} {playTime : PlayTime} {past : List HomeFired}
    (told : Told preUrl listUrl playTime past) (f : HomeFired) :
    Told preUrl listUrl playTime (past ++ [f]) := by
  rcases told with directly | ⟨asked, agreed⟩
  · exact .inl (directly.more f)
  · exact .inr ⟨asked.more f, agreed.more f⟩

/-- A question of this device that was received. -/
def AskedAbout (uuid : String) (past : List HomeFired) (preUrl listUrl : String)
    (playTime : PlayTime) : Prop :=
  playTime.uuid = uuid ∧ Received (.asyncConfirmDialog preUrl listUrl playTime) past

/-- A list of this device that the page was told to ask for, and has. -/
def AskedFor (uuid : String) (past : List HomeFired) (preUrl : String) (playTime : PlayTime) : Prop :=
  playTime.uuid = uuid ∧ ∃ listUrl, Told preUrl listUrl playTime past ∧ Requested listUrl playTime past

/-- What the page holds has come about in the steps taken so far. -/
structure HomeScreen.Vouched (uuid : String) (past : List HomeFired) (w : HomeWorld) : Prop where
  device : w.shared.uuid = uuid
  holds : HomeScreen.Holds (AskedAbout uuid past) (AskedFor uuid past) w

theorem playTime_uuid {uuid text : String} {reached : Reached}
    (accepted : onMessageReceived uuid text = some reached) : reached.playTime.uuid = uuid := by
  obtain ⟨long, lmNum, rfl⟩ := reached_of_accepted accepted
  rw [reachedOf_playTime]
  rfl

theorem holds_more {uuid : String} {past : List HomeFired} {w : HomeWorld}
    (holds : HomeScreen.Holds (AskedAbout uuid past) (AskedFor uuid past) w) (f : HomeFired) :
    HomeScreen.Holds (AskedAbout uuid (past ++ [f])) (AskedFor uuid (past ++ [f])) w := by
  apply holds.mono
  · intro preUrl listUrl playTime asked
    exact ⟨asked.1, asked.2.more f⟩
  · intro preUrl playTime asked
    obtain ⟨own, listUrl, told, requested⟩ := asked
    exact ⟨own, listUrl, told.more f, requested.more f⟩

/-- A step's new question or request has the step itself to vouch for it. -/
theorem vouched_step {uuid : String} (past : List HomeFired) (w : HomeWorld) (i : HomeInput)
    (vouched : HomeScreen.Vouched uuid past w) :
    HomeScreen.Vouched uuid (past ++ [fire homeScreen.step w i]) (homeScreen.step w i).1 where
  device := (home_keeps w i).1.trans vouched.device
  holds := by
    have before : (fire homeScreen.step w i).before = w := rfl
    have input : (fire homeScreen.step w i).input = i := rfl
    have effects : (fire homeScreen.step w i).effects = (homeScreen.step w i).2 := rfl
    have kept := holds_more vouched.holds (fire homeScreen.step w i)
    generalize fire homeScreen.step w i = f at *
    apply holds_step kept
    rw [← effects]
    refine ⟨?_, ?_, ?_⟩
    · intro text preUrl listUrl playTime message accepted out
      have own := (playTime_uuid accepted).trans vouched.device
      rw [← before] at accepted
      exact ⟨own, listUrl, .inl (.now ⟨text, input.trans message, accepted⟩), .now out⟩
    · intro text preUrl listUrl playTime message accepted
      have own := (playTime_uuid accepted).trans vouched.device
      rw [← before] at accepted
      exact ⟨own, .now ⟨text, input.trans message, accepted⟩⟩
    · intro preUrl listUrl playTime confirmed top asked out
      rw [← before] at top
      exact ⟨asked.1, listUrl, .inr ⟨asked.2, .now ⟨input.trans confirmed, top⟩⟩, .now out⟩

/-- A player opened in this step is of a record that the page was told to play and whose
    list it asked for, with the lectures of the reply that has come for it. -/
def AnswersWith (uuid : String) (past : List HomeFired) (f : HomeFired) (urls titles : List String)
    (playTime : PlayTime) : Prop :=
  playTime.uuid = uuid ∧ ∃ preUrl listUrl,
    Told preUrl listUrl playTime past ∧ Requested listUrl playTime past ∧
      ∃ k reply res, ∃ data : List String, f.input = .resume k reply ∧
        f.before.tasks[k]? = some (.awaitingList preUrl playTime) ∧ reply.object = some res ∧
          res.get "data" = .array (data.map .string) ∧
            res.get "title" = .array (titles.map .string) ∧ urls = data.map (preUrl ++ "/" ++ ·)

/-- So are all the players opened in this step. -/
def AnswersOwn (uuid : String) (past : List HomeFired) (f : HomeFired) : Prop :=
  ∀ urls titles playTime, Effect.push urls titles playTime ∈ f.effects →
    AnswersWith uuid past f urls titles playTime

theorem answersOwn_of_vouched {uuid : String} {past : List HomeFired} {w : HomeWorld}
    (vouched : HomeScreen.Vouched uuid past w) (i : HomeInput) :
    AnswersOwn uuid past (fire homeScreen.step w i) := by
  intro urls titles playTime pushed
  have turn := homeTurn w i
  simp only [fire_effects] at pushed
  generalize homeScreen.step w i = next at turn pushed
  cases turn with
  | @pushes k reply res preUrl urls' titles' playTime' located answer made =>
      cases List.mem_singleton.mp pushed
      obtain ⟨own, listUrl, told, requested⟩ :=
        vouched.holds.lists preUrl playTime (List.mem_of_getElem? located)
      obtain ⟨data, dataField, titleField, shape⟩ := makeUrlList_eq_some_iff.mp made
      exact ⟨own, preUrl, listUrl, told, requested, k, reply, res, data, rfl, located, answer,
        dataField, titleField, shape⟩
  | _ => simp at pushed

/-- In every run of a home page, a player is opened only for a message that was accepted
    before, and agreed to where the page asked; it is given that message's record, and
    the lectures listed in answer to that record's own request. -/
theorem players_answer_messages (email uuid : String) (front : List HomeInput) (i : HomeInput) :
    AnswersOwn uuid (run homeScreen.step (HomeScreen.opened email uuid) front)
      (fire homeScreen.step (final homeScreen.step (HomeScreen.opened email uuid) front) i) := by
  have start : HomeScreen.Vouched uuid [] (HomeScreen.opened email uuid) :=
    ⟨rfl, by simp [HomeScreen.opened], by simp [HomeScreen.opened]⟩
  exact answersOwn_of_vouched (history_of_kept vouched_step start front) i

end Edutopik.Home

import Edutopik.Library.OneCall
import Edutopik.Media.DuplicateViewing
import Edutopik.Media.Record

/-! # A resume point is loaded whole or not at all

One `setPlayTime` call is followed through a run, between skips and other calls that
work on the same record. It starts by asking for the viewing log and nothing else. Its
first step is the reply to this check and its second, where the first lets it go on,
the reply to its lookup. Only the second writes, and everything it writes is of that
reply.
-/

namespace Edutopik.Media

open Dart EventLoop Machine

/-! ## The two assignments -/

def orRaise {α : Type} : Option α → EStateM Unit PlayTime α
  | some value => pure value
  | none => throw ()

theorem run_orRaise_some {α β : Type} (value : α) (next : α → EStateM Unit PlayTime β)
    (playTime : PlayTime) : (orRaise (some value) >>= next).run playTime = (next value).run playTime :=
  rfl

theorem run_orRaise_none {α β : Type} (next : α → EStateM Unit PlayTime β) (playTime : PlayTime) :
    (orRaise none >>= next).run playTime = .error () playTime := rfl

/-- The end of `setPlayTime`, one statement after the other. An exception keeps what
    was written before it. -/
def PlayTime.setFields (res : JsonObject) : EStateM Unit PlayTime Unit := do
  let text ← orRaise (res.get "current_time").toText
  let minute ← orRaise (parseInt text)
  modify fun playTime => { playTime with currentTime := some minute }
  modify fun playTime => { playTime with fin := res.get "fin" }

/-- No exception comes between the two writes. -/
theorem PlayTime.run_setFields (playTime : PlayTime) (res : JsonObject) :
    (PlayTime.setFields res).run playTime =
      match playTime.assign res with
      | some written => .ok () written
      | none => .error () playTime := by
  unfold PlayTime.setFields PlayTime.assign
  cases given : (res.get "current_time").toText with
  | none => rw [run_orRaise_none, Option.bind_none]
  | some text =>
      rw [run_orRaise_some, Option.bind_some]
      cases read : parseInt text with
      | none => rw [run_orRaise_none]
      | some minute =>
          rw [run_orRaise_some]
          rfl

/-! ## One call -/

/-- The reply to a check that lets the call of this device go on. -/
def LetsGoOn (device : String) (checked : Reply) : Prop :=
  ∃ log, checked.object = some log ∧ log.get "CurrentState" ≠ .string "none" ∧
    log.get "UUID" = .string device

def KeepsRecord (f : Fired Player PlayerInput Effect) : Prop :=
  f.after.shared.playTime = f.before.shared.playTime

/-- The two statements run on the record as the step finds it, and leave it with both
    fields from this reply and the others as they were. -/
structure Writes (res : JsonObject) (f : Fired Player PlayerInput Effect) : Prop where
  statements :
    (PlayTime.setFields res).run f.before.shared.playTime = .ok () f.after.shared.playTime
  fields : ∃ minute, (res.get "current_time").toText.bind parseInt = some minute ∧
    f.after.shared.playTime =
      { f.before.shared.playTime with currentTime := some minute, fin := res.get "fin" }

/-- What the steps of one `setPlayTime` call do to the record. -/
inductive AllOrNothing (device : String) : List (Fired Player PlayerInput Effect) → Prop
  | nothing {steps} : (∀ f ∈ steps, KeepsRecord f) → AllOrNothing device steps
  | all {check lookup : Fired Player PlayerInput Effect} {j k : Nat} {checked answered : Reply}
      {res : JsonObject} :
      check.input = .resume j checked → LetsGoOn device checked → KeepsRecord check →
        lookup.input = .resume k answered → answered.object = some res → Writes res lookup →
          AllOrNothing device [check, lookup]

/-- What is left of a call that waits for its lookup: one step, which writes or not. -/
inductive Loads : List (Fired Player PlayerInput Effect) → Prop
  | pending : Loads []
  | kept {lookup} : KeepsRecord lookup → Loads [lookup]
  | written {lookup k answered res} : lookup.input = .resume k answered →
      answered.object = some res → Writes res lookup → Loads [lookup]

/-- What the steps left of a call do, by what it waits for. -/
def SetsPlayTime (device : String) : Task → List (Fired Player PlayerInput Effect) → Prop
  | .awaitingLog _, steps => AllOrNothing device steps
  | .awaitingTime _, steps => Loads steps

/-! ## Whose checks are pending -/

/-- Every check is made for the device of the record. -/
abbrev ChecksDevice (device : String) : Player → Prop :=
  World.Holds (fun s => s.playTime.uuid = device)
    (fun _ t => ∀ uuid, t = .awaitingLog uuid → uuid = device)

theorem HoldsRecord.uuid {p : PlayTime} {s : State} (held : HoldsRecord p s) :
    s.playTime.uuid = p.uuid := by
  obtain ⟨lmNum, currentTime, fin, same⟩ := held
  rw [same]

theorem asked_of_skipPressed {s : State} {count : Int} {skip : DataManager → DataManager × Skip}
    {t : Task} (started : t ∈ (s.skipPressed count skip).tasks) :
    t = .awaitingLog s.playTime.uuid := by
  unfold State.skipPressed at started
  dsimp only at started
  split at started
  · simp at started
  · exact List.mem_singleton.mp started
  · exact List.mem_singleton.mp started

theorem asked_of_react {s : State} {e : Event} {t : Task} (started : t ∈ (s.react e).tasks) :
    t = .awaitingLog s.playTime.uuid := by
  cases e with
  | previous =>
      simp only [State.react] at started
      split at started
      · exact asked_of_skipPressed started
      · simp [State.idle] at started
  | next =>
      simp only [State.react] at started
      split at started
      · exact asked_of_skipPressed started
      · simp [State.idle] at started
  | videoEnd =>
      simp only [State.react, State.onVideoEnd] at started
      split at started
      · split at started <;> simp at started
      · simp [State.idle] at started
  | confirmAlert =>
      simp only [State.react] at started
      split at started <;> simp [State.idle] at started
  | speedDown | speedUp | back =>
      simp only [State.react] at started
      split at started <;>
        simp [State.idle, State.speedDownTapped, State.speedUpTapped, State.setSpeed,
          State.backTapped] at started
  | _ => simp [State.react] at started

theorem not_asked_of_resume {s : State} {task : Task} {reply : Reply} {uuid : String} :
    .awaitingLog uuid ∉ (s.resume task reply).tasks := by
  have turn := resumed s task reply
  generalize s.resume task reply = next at turn
  cases turn with
  | closes text => simp
  | asks => simp
  | seeks minute => simp
  | _ => simp [State.idle]

theorem checksDevice_step {device : String} (w : Player) (i : PlayerInput)
    (checks : ChecksDevice device w) : ChecksDevice device (mediaControl.step w i).1 := by
  refine holds_step ?_ ?_ w i checks
  · intro w e checks
    have same : (w.shared.react e).shared.playTime.uuid = device :=
      (HoldsRecord.react e).uuid.trans checks.shared
    refine ⟨same, ?_, checks.pending⟩
    intro t started uuid log
    cases (asked_of_react started).symm.trans log
    exact checks.shared
  · intro w k task reply checks located
    have same : (w.shared.resume task reply).shared.playTime.uuid = device :=
      (HoldsRecord.resume task reply).uuid.trans checks.shared
    refine ⟨same, ?_, checks.pending⟩
    intro t started uuid log
    subst log
    exact absurd started not_asked_of_resume

theorem checksDevice_of_opened {urls titles : List String} {playTime : PlayTime} {w : Player}
    (opened : Player.initState urls titles playTime = some w) : ChecksDevice playTime.uuid w := by
  obtain ⟨record, -, -, -, tasks⟩ := initState_shared opened
  refine ⟨by rw [record], ?_⟩
  intro t pending uuid log
  subst log
  rw [tasks] at pending
  cases List.mem_singleton.mp pending
  rfl

/-! ## The call from step to step -/

/-- The turn that reads the reply to a check leaves the record alone. -/
theorem playTime_of_checked (s : State) (uuid : String) (reply : Reply) :
    (s.resume (.awaitingLog uuid) reply).shared.playTime = s.playTime := by
  have turn := resumed s (.awaitingLog uuid) reply
  generalize s.resume (.awaitingLog uuid) reply = next at turn
  cases turn with
  | closes text =>
      rw [State.resumePlaying_shared]
  | _ => rfl

theorem keepsRecord_of_checked {w : Player} {k : Nat} {uuid : String}
    (located : w.tasks[k]? = some (.awaitingLog uuid)) (reply : Reply) :
    KeepsRecord (fire mediaControl.step w (.resume k reply)) := by
  rw [KeepsRecord, fire_after, shared_of_resume mediaControl located]
  exact playTime_of_checked w.shared uuid reply

/-- A check that is followed by a lookup was answered for the device it was made for. -/
theorem letsGoOn_of_left {s : State} {uuid : String} {reply : Reply} {next : Task} {more : List Task}
    (left : (s.resume (.awaitingLog uuid) reply).tasks = next :: more) :
    LetsGoOn uuid reply ∧ ∃ lmNum, next = .awaitingTime lmNum := by
  have turn := resumed s (.awaitingLog uuid) reply
  generalize s.resume (.awaitingLog uuid) reply = taken at turn left
  cases turn with
  | closes text => simp at left
  | asks answer continues =>
      cases left
      exact ⟨⟨_, answer, (checkLog_continues_iff _ _).mp continues⟩, _, rfl⟩
  | _ => cases left

/-- A lookup leaves nothing of its call. -/
theorem tasks_of_lookup (s : State) (lmNum : Int) (reply : Reply) :
    (s.resume (.awaitingTime lmNum) reply).tasks = [] := by
  have turn := resumed s (.awaitingTime lmNum) reply
  generalize s.resume (.awaitingTime lmNum) reply = next at turn
  cases turn with
  | seeks minute => exact State.resumePlaying_tasks _ _
  | _ => rfl

theorem loads_of_lookup {w : Player} {k : Nat} {lmNum : Int}
    (located : w.tasks[k]? = some (.awaitingTime lmNum)) (reply : Reply) :
    Loads [fire mediaControl.step w (.resume k reply)] := by
  have stepped : (fire mediaControl.step w (.resume k reply)).after.shared =
      (w.shared.resume (.awaitingTime lmNum) reply).shared :=
    shared_of_resume mediaControl located reply
  have turn := resumed w.shared (.awaitingTime lmNum) reply
  generalize w.shared.resume (.awaitingTime lmNum) reply = taken at turn stepped
  cases turn with
  | @seeks _ res minute answer read =>
      let written : PlayTime :=
        { w.shared.playTime with currentTime := some minute, fin := res.get "fin" }
      have assigned : w.shared.playTime.assign res = some written :=
        PlayTime.assign_eq_some_iff.mpr ⟨minute, read, rfl⟩
      have after : (fire mediaControl.step w (.resume k reply)).after.shared.playTime = written := by
        rw [stepped, State.resumePlaying_shared]
      refine .written rfl answer ⟨?_, minute, read, after⟩
      rw [after, fire_before, PlayTime.run_setFields, assigned]
  | _ =>
      apply Loads.kept
      rw [KeepsRecord, stepped]
      rfl

theorem sets_of_end {device : String} (w : Player) (k : Nat) (t : Task) (reply : Reply)
    (_ : ChecksDevice device w) (located : w.tasks[k]? = some t)
    (_ : (mediaControl.resume w.shared t reply).tasks = []) :
    SetsPlayTime device t [fire mediaControl.step w (.resume k reply)] := by
  cases t with
  | awaitingLog uuid =>
      apply AllOrNothing.nothing
      intro f member
      cases List.mem_singleton.mp member
      exact keepsRecord_of_checked located reply
  | awaitingTime lmNum => exact loads_of_lookup located reply

theorem sets_of_going {device : String} (w : Player) (k : Nat) (t : Task) (reply : Reply)
    (next : Task) (more : List Task) (steps : List (Fired Player PlayerInput Effect))
    (checks : ChecksDevice device w) (located : w.tasks[k]? = some t)
    (left : (mediaControl.resume w.shared t reply).tasks = next :: more)
    (later : SetsPlayTime device next steps) :
    SetsPlayTime device t (fire mediaControl.step w (.resume k reply) :: steps) := by
  cases t with
  | awaitingLog uuid =>
      have own : uuid = device := checks.pending _ (List.mem_of_getElem? located) uuid rfl
      obtain ⟨passed, lmNum, rfl⟩ := letsGoOn_of_left left
      have check := keepsRecord_of_checked located reply
      cases later with
      | pending =>
          apply AllOrNothing.nothing
          intro f member
          cases List.mem_singleton.mp member
          exact check
      | kept lookup =>
          apply AllOrNothing.nothing
          intro f member
          rcases List.mem_cons.mp member with rfl | member
          · exact check
          · cases List.mem_singleton.mp member
            exact lookup
      | written replied answer writes =>
          exact .all rfl (own ▸ passed) check replied answer writes
  | awaitingTime lmNum =>
      have none := tasks_of_lookup w.shared lmNum reply
      cases none.symm.trans left

/-- From any opening of the player and whatever came before: what one `setPlayTime`
    call does to the record, for every way to go on, is all or nothing. -/
theorem setPlayTime_allOrNothing {urls titles : List String} {playTime : PlayTime} {w : Player}
    (opened : Player.initState urls titles playTime = some w) (front : List PlayerInput)
    {k : Nat} {uuid : String}
    (pending : (final mediaControl.step w front).tasks[k]? = some (.awaitingLog uuid))
    (is : List PlayerInput) :
    (mediaControl.call (final mediaControl.step w front) k is).Sublist
        (run mediaControl.step (final mediaControl.step w front) is) ∧
      AllOrNothing playTime.uuid (mediaControl.call (final mediaControl.step w front) k is) := by
  have checks : ChecksDevice playTime.uuid (final mediaControl.step w front) :=
    final_of_kept checksDevice_step (checksDevice_of_opened opened) front
  have waits : ∀ t, SetsPlayTime playTime.uuid t [] := by
    intro t
    cases t with
    | awaitingLog uuid => exact .nothing (by simp)
    | awaitingTime lmNum => exact .pending
  refine ⟨call_sublist mediaControl _ k is, ?_⟩
  exact call_rule checksDevice_step waits sets_of_end sets_of_going checks pending is

/-- The check of the opening call is answered, a skip starts a second call, and the
    lookup of the first is answered. -/
def loadedWhileSkipping : List PlayerInput :=
  [.resume 0 (.answered 200 (some (.object
      [("CurrentState", .string "playing"), ("UUID", .string "device-a")]))),
    .event .next,
    .resume 0 (.answered 200 (some (.object [("current_time", .string "12"), ("fin", .string "N")])))]

example : (mediaControl.call samplePlayer 0 loadedWhileSkipping).length = 2 := rfl

theorem setPlayTime_allOrNothing_sample :
    (mediaControl.call samplePlayer 0 loadedWhileSkipping).Sublist
        (run mediaControl.step samplePlayer loadedWhileSkipping) ∧
      AllOrNothing "device-a" (mediaControl.call samplePlayer 0 loadedWhileSkipping) :=
  setPlayTime_allOrNothing samplePlayer_opened [] (k := 0) rfl loadedWhileSkipping

end Edutopik.Media

import Edutopik.Media.LectureCount

/-! # Viewing on two devices

The server keeps, per account, the device that views. Another device may take the
log over at any moment. A player notices only when it asks, so every lecture it
goes on to has to be asked for. The skip buttons ask; the callback for the end of
a video hands the next video over and asks nothing.
-/

namespace Edutopik.Media

open Dart EventLoop Machine

/-- The server's log for the account of the player. -/
structure ViewingLog where
  currentState : String
  uuid : String
  deriving DecidableEq, Repr

/-- How the server answers `getLastLog`. -/
def ViewingLog.reply (log : ViewingLog) : Reply :=
  .answered 200 (some (.object
    [("CurrentState", .string log.currentState), ("UUID", .string log.uuid)]))

/-- One player and the log it shares with the account's other devices. -/
structure Session where
  player : Player
  log : ViewingLog

inductive SessionInput where
  | player (i : PlayerInput)
  | takeOver (uuid : String)

def sessionStep : Machine.Step Session SessionInput Effect
  | session, .player i =>
      let next := mediaControl.step session.player i
      ({ session with player := next.1 }, next.2)
  | session, .takeOver uuid => ({ session with log.uuid := uuid }, [])

namespace Session

def uuid (session : Session) : String := session.player.shared.playTime.uuid

end Session

/-- A step that hands no video over without asking for the log, and whose check
    closes the player whenever it is answered from a log that names another device. -/
structure Checked (f : Fired Session SessionInput Effect) : Prop where
  asks : ∀ change, Effect.handleChangeVideo change ∈ f.effects →
    .getLastLog f.before.player.shared.playTime.logQuery ∈ f.effects ∧
      .awaitingLog f.before.uuid ∈ f.after.player.tasks ∧ f.after.player.shared.mounted = true
  closes : ∀ change, Effect.handleChangeVideo change ∈ f.effects → ∀ (later : Session) (k : Nat),
    later.player.tasks[k]? = some (.awaitingLog f.before.uuid) →
      later.player.shared.mounted = true → later.log.uuid ≠ f.before.uuid →
        .pop ∈ (sessionStep later (.player (.resume k later.log.reply))).2

/-- No video but the last one ends while the player is there to go on. -/
def EndsLast (session : Session) : SessionInput → Prop
  | .player (.event .videoEnd) =>
      session.player.shared.mounted → ¬ session.player.shared.dataManager.hasNextVideo
  | _ => True

/-! ## The check itself -/

theorem checkLog_continues_iff (uuid : String) (res : JsonObject) :
    State.checkLog uuid res = .continues ↔
      res.get "CurrentState" ≠ .string "none" ∧ res.get "UUID" = .string uuid := by
  unfold State.checkLog
  split
  · rename_i expired
    simp [(Json.equals_iff _ _).mp expired]
  · rename_i active
    have alive : res.get "CurrentState" ≠ .string "none" :=
      fun expired => active ((Json.equals_iff _ _).mpr expired)
    split
    · rename_i own
      simp [alive, (Json.equals_iff _ _).mp own]
    · rename_i other
      have foreign : res.get "UUID" ≠ .string uuid :=
        fun own => other ((Json.equals_iff _ _).mpr own)
      simp [foreign]

/-- A check answered with anything but this device's running session closes a
    mounted player. -/
theorem pop_of_checkLog {s : State} {uuid : String} {reply : Reply} {res : JsonObject}
    (mounted : s.mounted = true) (answer : reply.object = some res)
    (refused : State.checkLog uuid res ≠ .continues) :
    .pop ∈ (s.resume (.awaitingLog uuid) reply).effects := by
  have turn := resumed s (.awaitingLog uuid) reply
  generalize s.resume (.awaitingLog uuid) reply = next at turn
  cases turn with
  | unread none =>
      rw [none] at answer
      cases answer
  | unmounted _ _ unmounted =>
      rw [mounted] at unmounted
      contradiction
  | closes text => exact State.mem_resumePlaying.mpr (.inl List.mem_cons_self)
  | asks own continues =>
      cases own.symm.trans answer
      exact absurd continues refused

theorem closes_of_foreign_log (later : Session) (k : Nat) {uuid : String}
    (pending : later.player.tasks[k]? = some (.awaitingLog uuid))
    (mounted : later.player.shared.mounted = true) (foreign : later.log.uuid ≠ uuid) :
    .pop ∈ (sessionStep later (.player (.resume k later.log.reply))).2 := by
  have refused : State.checkLog uuid
      [("CurrentState", .string later.log.currentState), ("UUID", .string later.log.uuid)] ≠
        .continues := by
    rw [Ne, checkLog_continues_iff]
    intro continues
    obtain ⟨-, own⟩ := continues
    exact foreign (by simpa [JsonObject.get_cons] using own)
  have taken := step_resume mediaControl pending later.log.reply
  simp only [sessionStep, taken]
  exact pop_of_checkLog mounted rfl refused

/-! ## One step -/

theorem checked_of_noSwitch {f : Fired Session SessionInput Effect}
    (switches : ∀ change, Effect.handleChangeVideo change ∉ f.effects) : Checked f where
  asks := fun change handed => absurd handed (switches change)
  closes := fun change handed => absurd handed (switches change)

/-- A skip button asks for the log whenever it moves. -/
theorem checked_of_skips {session : Session} {i : PlayerInput} {count : Int} {neighbour : Bool}
    {turn : Turn State Task Effect} {tasks : List Task}
    (skips : session.player.shared.Skips count neighbour turn)
    (mounted : session.player.shared.mounted = true) (started : turn.tasks ⊆ tasks) :
    Checked ⟨session, .player i, turn.effects, ⟨⟨turn.shared, tasks⟩, session.log⟩⟩ := by
  cases skips with
  | moves _ _ moved =>
      obtain ⟨url, effects⟩ := moved.effects
      constructor
      · intro change _
        refine ⟨by simp [effects], started ?_, moved.mounted.trans mounted⟩
        simp [moved.tasks, Session.uuid]
      · intro _ _ later k
        exact closes_of_foreign_log later k
  | stays _ same =>
      apply checked_of_noSwitch
      intro change
      simp [same]

/-- While the selection is in range, a step is checked exactly if it is not the end
    of a video with a lecture after it. -/
theorem PlayerTurn.checked_iff {session : Session} {i : PlayerInput} {turn : Turn State Task Effect}
    {tasks : List Task} (kind : PlayerTurn session.player i turn)
    (leaves : Leaves session.player turn tasks)
    (located : session.player.shared.Located) (present : session.player.shared.Present) :
    Checked ⟨session, .player i, turn.effects, ⟨⟨turn.shared, tasks⟩, session.log⟩⟩ ↔
      EndsLast session (.player i) := by
  cases kind with
  | quiet elsewhere quiet =>
      apply iff_of_true (checked_of_noSwitch quiet.switches)
      unfold EndsLast
      split
      · rename_i same
        cases same
        exact fun reached => absurd reached elsewhere
      · trivial
  | previous onTop =>
      apply iff_of_true _ trivial
      apply checked_of_skips (State.previousPressed_skips located) _ leaves.started
      exact present.mounted_of_onTop onTop
  | next onTop =>
      apply iff_of_true _ trivial
      apply checked_of_skips (State.nextPressed_skips located) _ leaves.started
      exact present.mounted_of_onTop onTop
  | videoEnd mounted =>
      obtain ⟨n, c, here⟩ := located
      have hasNext := here.hasNextVideo_iff
      by_cases more : c.HasNext
      · apply iff_of_false _ (fun last => last mounted (hasNext.mpr more))
        intro checked
        obtain ⟨url, moves⟩ := State.onVideoEnd_moves here more
        have asked := (checked.asks _ (by rw [moves]; exact List.mem_cons_self)).1
        simp [moves] at asked
      · apply iff_of_true _ (fun _ next => more (hasNext.mp next))
        apply checked_of_noSwitch
        simp [State.onVideoEnd_stays here more, State.idle]

/-! ## Runs -/

structure Session.Sound (session : Session) : Prop where
  located : session.player.shared.Located
  present : session.player.shared.Present

theorem sound_step (session : Session) (i : SessionInput) (sound : session.Sound) :
    (sessionStep session i).1.Sound := by
  cases i with
  | player i =>
      exact ⟨located_step session.player i sound.located, present_step session.player i sound.present⟩
  | takeOver uuid => exact ⟨sound.located, sound.present⟩

theorem checked_iff_endsLast (session : Session) (i : SessionInput) (sound : session.Sound) :
    Checked (fire sessionStep session i) ↔ EndsLast session i := by
  cases i with
  | player i =>
      obtain ⟨turn, tasks, taken, leaves, kind⟩ := exists_playerTurn session.player i
      simp only [fire, sessionStep, taken]
      exact kind.checked_iff leaves sound.located sound.present
  | takeOver uuid =>
      exact iff_of_true (checked_of_noSwitch (by simp [sessionStep])) trivial

/-- In every run of a player and of the other devices of its account, each video
    handed over is asked for, by a check that closes the player once another device
    has taken the log over, exactly if no video but the last one ends. -/
theorem switches_checked_iff {urls titles : List String} {playTime : PlayTime} {w : Player}
    (opened : Player.initState urls titles playTime = some w) (log : ViewingLog)
    (is : List SessionInput) :
    (∀ f ∈ run sessionStep ⟨w, log⟩ is, Checked f) ↔
      ∀ f ∈ run sessionStep ⟨w, log⟩ is, EndsLast f.before f.input := by
  have sound : Session.Sound ⟨w, log⟩ :=
    ⟨(initState_counts opened).located, fun _ => initState_route opened⟩
  exact good_iff_guarded (fun session i sound _ => sound_step session i sound)
    (fun session i sound ends => (checked_iff_endsLast session i sound).mpr ends)
    (fun session i sound passes checked => passes ((checked_iff_endsLast session i sound).mp checked))
    sound is

/-- Another device takes the log over, the first video ends, and the second is
    handed over with nothing asked. -/
theorem videoEnd_unchecked :
    Player.initState ["v/1.mp4", "v/2.mp4"] ["1강", "2강"] sampleRecord = some samplePlayer ∧
      ∃ f ∈ run sessionStep ⟨samplePlayer, ⟨"playing", "device-a"⟩⟩
          [.takeOver "device-b", .player (.event .videoEnd)],
        f.before.log.uuid ≠ f.before.uuid ∧
          (∃ change, Effect.handleChangeVideo change ∈ f.effects) ∧
          ∀ query, Effect.getLastLog query ∉ f.effects :=
  ⟨rfl, _, List.mem_cons_of_mem _ List.mem_cons_self, by decide, ⟨_, List.mem_cons_self⟩, by
    intro query
    simp [fire, sessionStep, mediaControl, Loop.step, samplePlayer, State.react, State.onVideoEnd,
      DataManager.skipToNextVideo, DataManager.hasNextVideo, Dart.index]⟩

theorem switches_checked_iff_sample :
    (∀ f ∈ run sessionStep ⟨samplePlayer, ⟨"playing", "device-a"⟩⟩
        [.takeOver "device-b", .player (.event .next)], Checked f) ↔
      ∀ f ∈ run sessionStep ⟨samplePlayer, ⟨"playing", "device-a"⟩⟩
        [.takeOver "device-b", .player (.event .next)], EndsLast f.before f.input :=
  switches_checked_iff samplePlayer_opened _ _

end Edutopik.Media

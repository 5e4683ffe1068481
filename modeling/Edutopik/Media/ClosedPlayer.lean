import Edutopik.Media.DuplicateViewing

/-! # Closing the player

The back arrow removes the player's route, and so does every viewing-log check that
is refused. Any number of checks may be pending; none of them asks whether the
player is still there, before it pops the topmost route or after, when it goes on
to seek and to rebuild.
-/

namespace Edutopik.Media

open Dart EventLoop Machine

/-- Whether a step of the player removes a route. The button of an alert removes the
    alert and is not the player's. -/
def removes (f : Fired Player PlayerInput Effect) : Bool :=
  match f.input with
  | .event .confirmAlert => false
  | _ => f.effects.contains .pop

/-- A step that removes no route but the player's own, and with which no continuation
    plays on after the player is gone. -/
structure LeavesOnlyItself (f : Fired Player PlayerInput Effect) : Prop where
  own : removes f = true → f.before.shared.navigator.head? = some .player
  silent : ∀ k reply, f.input = .resume k reply → Route.player ∉ f.after.shared.navigator →
    (∀ position, Effect.seekTo position ∉ f.effects) ∧ Effect.setState ∉ f.effects

/-- Over a run the player removes its own route once and nothing else. -/
structure ClosesOnce (w : Player) (is : List PlayerInput) : Prop where
  each : ∀ f ∈ run mediaControl.step w is, LeavesOnlyItself f
  once : (run mediaControl.step w is).countP removes =
    if Route.player ∈ (final mediaControl.step w is).shared.navigator then 0 else 1
  home : Route.home ∈ (final mediaControl.step w is).shared.navigator

/-- A check that is refused finds the state disposed of, and a resume point that is
    read finds the player there. -/
structure Heeds (w : Player) (k : Nat) (res : JsonObject) : Prop where
  log : ∀ uuid, w.tasks[k]? = some (.awaitingLog uuid) → State.checkLog uuid res ≠ .continues →
    w.shared.mounted = false
  time : ∀ lmNum minute, w.tasks[k]? = some (.awaitingTime lmNum) →
    (res.get "current_time").toText.bind parseInt = some minute → Route.player ∈ w.shared.navigator

def Considerate (w : Player) : PlayerInput → Prop
  | .event _ => True
  | .resume k reply => ∀ res, reply.object = some res → Heeds w k res

/-! ## Events -/

/-- The player is there, on top of the home page, or it is gone and left only that. -/
def Alone (s : State) : Prop :=
  s.navigator = [.player, .home] ∧ s.mounted = true ∨ s.navigator = [.home]

theorem Alone.of_same {s t : State} (alone : Alone s) (navigator : t.navigator = s.navigator)
    (mounted : t.mounted = s.mounted) : Alone t := by
  rcases alone with ⟨there, isMounted⟩ | gone
  · exact .inl ⟨navigator.trans there, mounted.trans isMounted⟩
  · exact .inr (navigator.trans gone)

/-- What an event can do to the routes while the player is alone: the back arrow
    removes the player, and nothing else removes anything. -/
inductive Departs (s : State) (e : Event) (turn : Turn State Task Effect) : Prop where
  | stays : turn.shared.navigator = s.navigator → Effect.pop ∉ turn.effects → Departs s e turn
  | leaves : e = .back → s.navigator = [.player, .home] → turn.shared.navigator = [.home] →
      Effect.pop ∈ turn.effects → Departs s e turn

theorem Departs.ite {s : State} {e : Event} {reached : Bool} {turn : Turn State Task Effect}
    (taken : reached = true → Departs s e turn) : Departs s e (if reached then turn else s.idle) := by
  cases reached with
  | true => exact taken rfl
  | false => exact .stays rfl (by simp [State.idle])

theorem react_departs {s : State} (alone : Alone s) (e : Event) : Departs s e (s.react e) := by
  have skipped : ∀ count skip, Departs s e (s.skipPressed count skip) := by
    intro count skip
    apply Departs.stays (State.skipPressed_place s count skip).1
    intro popped
    rcases State.mem_skipPressed popped with reported | ⟨change, switched⟩ | checked
    · cases reported
    · cases switched
    · cases checked
  cases e with
  | speedDown => exact .ite fun _ => .stays rfl (by simp [State.speedDownTapped, State.setSpeed])
  | speedUp => exact .ite fun _ => .stays rfl (by simp [State.speedUpTapped, State.setSpeed])
  | previous => exact .ite fun _ => skipped _ _
  | next => exact .ite fun _ => skipped _ _
  | back =>
      apply Departs.ite
      intro onTop
      have there : s.navigator = [.player, .home] := by
        rcases alone with ⟨there, -⟩ | gone
        · exact there
        · simp [State.onTop, gone] at onTop
      exact .leaves rfl there (by simp [State.backTapped, State.takePosition, there])
        (by simp [State.backTapped])
  | videoEnd =>
      apply Departs.ite
      intro _
      apply Departs.stays s.onVideoEnd_place.1
      intro popped
      obtain ⟨change, switched⟩ := State.mem_onVideoEnd popped
      cases switched
  | timerFires k => exact .stays rfl (by simp [State.react])
  | timerCancelled k => exact .stays rfl (by simp [State.react])
  | plays position => exact .stays rfl (by simp [State.react])
  | confirmAlert =>
      have noAlert : ∀ text, s.navigator.head? ≠ some (.alert text) := by
        intro text
        rcases alone with ⟨there, -⟩ | gone
        · simp [there]
        · simp [gone]
      have nothing : s.react .confirmAlert = s.idle := by
        unfold State.react
        dsimp only
        split
        · rename_i text shown
          exact absurd shown (noAlert text)
        · rfl
      rw [nothing]
      exact .stays rfl (by simp [State.idle])
  | disposed => exact .stays rfl (by simp [State.react])

/-! ## Replies -/

/-- What a reply to a call does to the routes and the video: nothing, a removal with
    all that follows, or a seek. -/
inductive Continues (w : Player) (k : Nat) (res : JsonObject) (turn : Turn State Task Effect) : Prop where
  | quiet : turn.shared.navigator = w.shared.navigator → turn.shared.mounted = w.shared.mounted →
      (∀ e ∈ turn.effects, ∃ query, e = .getPlayTime query) →
      Heeds w k res → Continues w k res turn
  | closes (text : String) (uuid : String) : w.tasks[k]? = some (.awaitingLog uuid) →
      State.checkLog uuid res ≠ .continues → w.shared.mounted = true →
      turn.shared.navigator = .alert text :: w.shared.navigator.tail →
      .seekTo w.shared.playTime.resumePosition ∈ turn.effects → Continues w k res turn
  | seeks (lmNum minute : Int) (position : Duration) : w.tasks[k]? = some (.awaitingTime lmNum) →
      (res.get "current_time").toText.bind parseInt = some minute →
      turn.shared.navigator = w.shared.navigator → turn.shared.mounted = w.shared.mounted →
      .seekTo position ∈ turn.effects → Effect.pop ∉ turn.effects → Continues w k res turn

theorem continues_of_resumed {w : Player} {k : Nat} {t : Task} (located : w.tasks[k]? = some t)
    {reply : Reply} {res : JsonObject} (answer : reply.object = some res)
    {turn : Turn State Task Effect} (resumed : Resumed w.shared reply t turn) : Continues w k res turn := by
  cases resumed with
  | unread none =>
      rw [none] at answer
      cases answer
  | unmounted own _ unmounted =>
      apply Continues.quiet rfl rfl (by simp [State.idle])
      refine ⟨fun _ _ _ => unmounted, ?_⟩
      intro lmNum minute asked
      rw [located] at asked
      cases asked
  | closes text own refused mounted =>
      cases own.symm.trans answer
      apply Continues.closes text _ located refused mounted
      · rw [State.resumePlaying_shared]
      · rw [State.mem_resumePlaying]
        exact .inr (.inl rfl)
  | asks own checked =>
      cases own.symm.trans answer
      apply Continues.quiet rfl rfl (by simp)
      constructor
      · intro uuid asked refused
        rw [located] at asked
        cases asked
        exact absurd checked refused
      · intro lmNum minute asked
        rw [located] at asked
        cases asked
  | unreadable own unreadable =>
      cases own.symm.trans answer
      apply Continues.quiet rfl rfl (by simp [State.idle])
      constructor
      · intro uuid asked
        rw [located] at asked
        cases asked
      · intro lmNum minute _ read
        rw [unreadable] at read
        cases read
  | seeks minute own read =>
      cases own.symm.trans answer
      apply Continues.seeks _ minute _ located read
      · rw [State.resumePlaying_shared]
      · rw [State.resumePlaying_shared]
      · rw [State.mem_resumePlaying]
        exact .inr (.inl rfl)
      · simp [State.mem_resumePlaying]

/-! ## One step -/

/-- One while the player is among the routes. -/
def there (w : Player) : Nat := if Route.player ∈ w.shared.navigator then 1 else 0

theorem removes_eq_false {f : Fired Player PlayerInput Effect} (none : Effect.pop ∉ f.effects) :
    removes f = false := by
  unfold removes
  split
  · rfl
  · simpa using none

/-- What a considerate step does: nothing to the routes, or the player leaves by the
    back arrow. -/
structure Tidy (w : Player) (i : PlayerInput) : Prop where
  alone : Alone (mediaControl.step w i).1.shared
  good : LeavesOnlyItself (fire mediaControl.step w i)
  takes : (if removes (fire mediaControl.step w i) then 1 else 0) + there (mediaControl.step w i).1 =
    there w

/-- A step that leaves the routes alone and removes none. -/
theorem tidy_of_same {w : Player} {i : PlayerInput} (alone : Alone w.shared)
    (navigator : (mediaControl.step w i).1.shared.navigator = w.shared.navigator)
    (none : Effect.pop ∉ (mediaControl.step w i).2)
    (silent : ∀ k reply, i = .resume k reply → Route.player ∉ w.shared.navigator →
      (∀ position, Effect.seekTo position ∉ (mediaControl.step w i).2) ∧
        Effect.setState ∉ (mediaControl.step w i).2) : Tidy w i := by
  have notRemoves : removes (fire mediaControl.step w i) = false := removes_eq_false none
  refine ⟨?_, ⟨?_, ?_⟩, ?_⟩
  · rcases alone with ⟨inPlace, mounted⟩ | gone
    · left
      refine ⟨navigator.trans inPlace, ?_⟩
      rcases (routes_step w i).mounted with same | away
      · exact same.trans mounted
      · simp [navigator, inPlace] at away
    · exact .inr (navigator.trans gone)
  · intro removed
    rw [notRemoves] at removed
    contradiction
  · intro k reply same away
    have awayBefore : Route.player ∉ w.shared.navigator := by
      rw [← navigator]
      exact away
    exact silent k reply same awayBefore
  · simp [notRemoves, there, navigator]

theorem tidy_event {w : Player} (alone : Alone w.shared) (e : Event) : Tidy w (.event e) := by
  cases react_departs alone e with
  | stays navigator none => exact tidy_of_same alone navigator none (by simp)
  | leaves isBack before after popped =>
      subst isBack
      have among : Effect.pop ∈ (mediaControl.step w (.event .back)).2 := popped
      have removed : removes (fire mediaControl.step w (.event .back)) = true := by
        simpa [removes] using among
      have afterStep : (mediaControl.step w (.event .back)).1.shared.navigator = [.home] := after
      refine ⟨.inr after, ⟨?_, by simp⟩, ?_⟩
      · intro _
        simp [before]
      · simp [removed, there, before, afterStep]

/-- Nothing happens without a pending call and an answer it can read. -/
theorem tidy_of_idle {w : Player} {i : PlayerInput} (alone : Alone w.shared)
    (same : (mediaControl.step w i).1.shared = w.shared) (none : (mediaControl.step w i).2 = []) :
    Tidy w i :=
  tidy_of_same alone (by rw [same]) (by simp [none]) (by simp [none])

theorem resume_unread {w : Player} {k : Nat} {t : Task} (located : w.tasks[k]? = some t)
    {reply : Reply} (unread : reply.object = none) :
    (mediaControl.step w (.resume k reply)).1.shared = w.shared ∧
      (mediaControl.step w (.resume k reply)).2 = [] := by
  rw [step_resume mediaControl located]
  simp [mediaControl, State.resume, unread, State.idle]

section Replies

variable {w : Player} {k : Nat} {reply : Reply} {t : Task} {res : JsonObject}

/-- Only what the reply holds has to be heeded. -/
theorem considerate_iff (answer : reply.object = some res) :
    Considerate w (.resume k reply) ↔ Heeds w k res := by
  constructor
  · intro considerate
    exact considerate res answer
  · intro heeds res' answer'
    rw [answer] at answer'
    cases answer'
    exact heeds

/-- A lookup on its way removes nothing and plays nothing. -/
theorem tidy_of_quiet (alone : Alone w.shared) (located : w.tasks[k]? = some t)
    (navigator : (w.shared.resume t reply).shared.navigator = w.shared.navigator)
    (lookups : ∀ e ∈ (w.shared.resume t reply).effects, ∃ query, e = .getPlayTime query) :
    Tidy w (.resume k reply) := by
  have taken := step_resume mediaControl located reply
  have absent : ∀ e, (∀ query, e ≠ .getPlayTime query) →
      e ∉ (mediaControl.step w (.resume k reply)).2 := by
    intro e other member
    rw [taken] at member
    obtain ⟨query, same⟩ := lookups e member
    exact other query same
  apply tidy_of_same alone (by rw [taken]; exact navigator) (absent _ (by simp))
  intro _ _ _ _
  exact ⟨fun position => absent _ (by simp), absent _ (by simp)⟩

/-- A seek is silent only while the player is there. -/
theorem not_leaves_of_sought (located : w.tasks[k]? = some t) {position : Duration}
    (sought : .seekTo position ∈ (w.shared.resume t reply).effects)
    (away : Route.player ∉ (w.shared.resume t reply).shared.navigator) :
    ¬ LeavesOnlyItself (fire mediaControl.step w (.resume k reply)) := by
  have taken := step_resume mediaControl located reply
  intro leaves
  apply (leaves.silent k reply rfl (by rw [fire_after, taken]; exact away)).1 position
  rw [fire_effects, taken]
  exact sought

/-- A reply is tidy exactly if it is considerate. -/
theorem tidy_resume_iff (alone : Alone w.shared) (located : w.tasks[k]? = some t)
    (answer : reply.object = some res) :
    (Heeds w k res → Tidy w (.resume k reply)) ∧
      (¬ Heeds w k res → ¬ LeavesOnlyItself (fire mediaControl.step w (.resume k reply))) := by
  have taken := step_resume mediaControl located reply
  cases continues_of_resumed located answer (resumed w.shared t reply) with
  | quiet navigator mounted lookups heeds =>
      exact ⟨fun _ => tidy_of_quiet alone located navigator lookups, fun violated => absurd heeds violated⟩
  | closes text uuid pending refused mounted navigator sought =>
      constructor
      · intro heeds
        have unmounted := heeds.log uuid pending refused
        rw [mounted] at unmounted
        contradiction
      · intro _
        apply not_leaves_of_sought located sought
        rw [navigator]
        rcases alone with ⟨inPlace, -⟩ | left
        · simp [inPlace]
        · simp [left]
  | seeks lmNum minute position pending read navigator mounted sought none =>
      constructor
      · intro heeds
        have inPlace := heeds.time lmNum minute pending read
        apply tidy_of_same alone (by rw [taken]; exact navigator) (by rw [taken]; exact none)
        intro _ _ _ away
        exact absurd inPlace away
      · intro violated
        apply not_leaves_of_sought located sought
        rw [navigator]
        intro inPlace
        apply violated
        refine ⟨?_, fun _ _ _ _ => inPlace⟩
        intro uuid asked
        rw [pending] at asked
        cases asked

end Replies

/-! ## Runs -/

theorem tidy_iff_considerate {w : Player} (alone : Alone w.shared) (i : PlayerInput) :
    (Considerate w i → Tidy w i) ∧
      (¬ Considerate w i → ¬ LeavesOnlyItself (fire mediaControl.step w i)) := by
  cases i with
  | event e => exact ⟨fun _ => tidy_event alone e, fun violated => absurd trivial violated⟩
  | resume k reply =>
      cases located : w.tasks[k]? with
      | none =>
          have idle := step_idle mediaControl located reply
          refine ⟨fun _ => tidy_of_idle alone (by rw [idle]) (by rw [idle]), fun violated => ?_⟩
          exact absurd (fun res _ => ⟨by simp [located], by simp [located]⟩) violated
      | some t =>
          cases answer : reply.object with
          | none =>
              obtain ⟨same, none⟩ := resume_unread located answer
              refine ⟨fun _ => tidy_of_idle alone same none, fun violated => ?_⟩
              exact absurd (fun res read => by simp [answer] at read) violated
          | some res =>
              rw [considerate_iff answer]
              exact tidy_resume_iff alone located answer

/-- In every run, whatever is tapped and in whatever order the replies come in, the
    player removes its own route once, nothing else, and is silent from then on,
    exactly if no check is refused before the state is disposed of and no resume point
    is read after the player has left. -/
theorem closesOnce_iff {urls titles : List String} {playTime : PlayTime} {w : Player}
    (opened : Player.initState urls titles playTime = some w) (is : List PlayerInput) :
    ClosesOnce w is ↔ ∀ f ∈ run mediaControl.step w is, Considerate f.before f.input := by
  have route := initState_route opened
  have alone : Alone w.shared := .inl route
  have keeps : ∀ (w : Player) i, Alone w.shared → Considerate w i →
      Alone (mediaControl.step w i).1.shared :=
    fun w i alone considerate => ((tidy_iff_considerate alone i).1 considerate).alone
  have each : (∀ f ∈ run mediaControl.step w is, LeavesOnlyItself f) ↔
      ∀ f ∈ run mediaControl.step w is, Considerate f.before f.input := good_iff_guarded keeps
    (fun w i alone considerate => ((tidy_iff_considerate alone i).1 considerate).good)
    (fun w i alone violated => (tidy_iff_considerate alone i).2 violated) alone is
  constructor
  · intro closes
    exact each.mp closes.each
  · intro considerate
    have ending : Alone (final mediaControl.step w is).shared := final_of_guarded keeps alone considerate
    have count : (run mediaControl.step w is).countP removes + there (final mediaControl.step w is) =
        there w := countP_add_final keeps
      (fun w i alone considerate => ((tidy_iff_considerate alone i).1 considerate).takes) alone considerate
    have atStart : there w = 1 := by simp [there, route.1]
    refine ⟨each.mpr considerate, ?_, ?_⟩
    · rw [atStart] at count
      unfold there at count
      split at count
      · rename_i stays
        simp only [stays, if_true]
        omega
      · rename_i gone
        simp only [gone, if_false]
        omega
    · rcases ending with ⟨inPlace, -⟩ | gone
      · simp [inPlace]
      · simp [gone]

/-- The back arrow is tapped while the first check is pending; the check is then
    refused and removes the home page. -/
theorem refusedAfterBack_popsHome :
    Player.initState ["v/1.mp4", "v/2.mp4"] ["1강", "2강"] sampleRecord = some samplePlayer ∧
      ∃ f ∈ run mediaControl.step samplePlayer [.event .back,
          .resume 0 (.answered 200 (some (.object [("CurrentState", .string "none")])))],
        removes f = true ∧ f.before.shared.navigator = [.home] ∧
          Route.home ∉ f.after.shared.navigator :=
  ⟨rfl, _, List.mem_cons_of_mem _ List.mem_cons_self, by decide, by decide, by decide⟩

theorem closesOnce_iff_sample :
    ClosesOnce samplePlayer [.event .next, .event .back] ↔
      ∀ f ∈ run mediaControl.step samplePlayer [.event .next, .event .back],
        Considerate f.before f.input :=
  closesOnce_iff samplePlayer_opened _

end Edutopik.Media

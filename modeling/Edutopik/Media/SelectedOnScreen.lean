import Edutopik.Media.OnScreen

/-! # The lecture on screen and the lecture selected

The end of a video selects the next lecture at once and shows it five seconds later.
Until then the title and the buttons are about a lecture that is still to come. It does
come, and the selected lecture is on screen after it, exactly if the skip buttons are
left alone while a change is waiting, and the change that was asked for last is neither
cancelled nor overtakes another.
-/

namespace Edutopik.Media

open Dart EventLoop Machine

/-- What is on screen, and then what waits, in the order it was asked for. -/
def FlickManager.queue (flick : FlickManager) : List VideoPlayerController :=
  flick.current :: flick.timers

/-- The last to be shown is the selected lecture, under the url the list has for it. With
    nothing waiting that is the video on screen. -/
def State.ShowsSelected (s : State) : Prop :=
  ∃ controller, s.flickManager.queue.getLast? = some controller ∧
    controller.index = s.dataManager.currentPlaying ∧
      Dart.index s.dataManager.urls s.dataManager.currentPlaying = some controller.url

/-- A button skips with nothing waiting. The last change is not cancelled, and takes place
    alone. -/
def Orderly (w : Player) : PlayerInput → Prop
  | .event .previous => w.shared.onTop = true → w.shared.dataManager.hasPreviousVideo = true →
      w.shared.flickManager.timers = []
  | .event .next => w.shared.onTop = true → w.shared.dataManager.hasNextVideo = true →
      w.shared.flickManager.timers = []
  | .event (.timerFires k) => k + 1 = w.shared.flickManager.timers.length → k = 0
  | .event (.timerCancelled k) => k + 1 ≠ w.shared.flickManager.timers.length
  | _ => True

/-! ## What holds while all is in order -/

/-- The selected lecture is on screen with nothing waiting, or waits behind earlier ones. -/
inductive State.Ranked (s : State) : Prop where
  | shown : s.flickManager.timers = [] →
      s.flickManager.current.index = s.dataManager.currentPlaying → Ranked s
  | coming (front : List VideoPlayerController) (last : VideoPlayerController) :
      s.flickManager.timers = front ++ [last] → last.index = s.dataManager.currentPlaying →
        s.flickManager.current.index < s.dataManager.currentPlaying →
          (∀ controller ∈ front, controller.index < s.dataManager.currentPlaying) → Ranked s

namespace State.Ranked

variable {s t : State}

theorem getLast (ranked : s.Ranked) :
    ∃ controller, s.flickManager.queue.getLast? = some controller ∧
      controller.index = s.dataManager.currentPlaying := by
  cases ranked with
  | shown none same => exact ⟨_, by simp [FlickManager.queue, none], same⟩
  | coming front last waiting same =>
      exact ⟨last, by simp [FlickManager.queue, waiting, List.getLast?_cons], same⟩

theorem showsSelected {urls titles : List String} (ranked : s.Ranked) (shows : s.Shows urls titles) :
    s.ShowsSelected := by
  obtain ⟨controller, last, same⟩ := ranked.getLast
  have listed : controller.From urls := by
    have member := List.mem_of_getLast? last
    rcases List.mem_cons.mp member with rfl | waiting
    · exact shows.current
    · exact shows.timers controller waiting
  refine ⟨controller, last, same, ?_⟩
  rw [shows.listed, ← same]
  exact listed

/-- A turn that leaves the videos and the selection where they are. -/
theorem kept (ranked : s.Ranked) (sameIndex : t.flickManager.current.index = s.flickManager.current.index)
    (sameTimers : t.flickManager.timers = s.flickManager.timers)
    (sameSelection : t.dataManager.currentPlaying = s.dataManager.currentPlaying) : t.Ranked := by
  cases ranked with
  | shown none same => exact .shown (sameTimers.trans none) (by rw [sameIndex, sameSelection, same])
  | coming front last waiting same here earlier =>
      apply State.Ranked.coming front last (sameTimers.trans waiting)
      · rw [sameSelection, same]
      · rw [sameIndex, sameSelection]
        exact here
      · rw [sameSelection]
        exact earlier

/-- One that waits and is not the last goes, and what is on screen is still an earlier one. -/
theorem dropped (ranked : s.Ranked) {k : Nat} (inside : k < s.flickManager.timers.length)
    (notLast : k + 1 ≠ s.flickManager.timers.length) {current : VideoPlayerController}
    (earlier : current.index < s.dataManager.currentPlaying) :
    State.Ranked { s with
      flickManager := { current := current, timers := s.flickManager.timers.eraseIdx k } } := by
  cases ranked with
  | shown none => simp [none] at inside
  | coming front last waiting same here before =>
      have within : k < front.length := by
        rw [waiting, List.length_append, List.length_singleton] at inside notLast
        omega
      refine .coming (front.eraseIdx k) last ?_ same earlier ?_
      · simp only [waiting, List.eraseIdx_append_of_lt_length within]
      · exact fun controller member => before controller (List.mem_of_mem_eraseIdx member)

end State.Ranked

/-! ## One step -/

theorem FlickManager.timerFires_eq {flick : FlickManager} {k : Nat} {controller : VideoPlayerController}
    (waiting : flick.timers[k]? = some controller) :
    flick.timerFires k = { current := controller, timers := flick.timers.eraseIdx k } := by
  simp only [timerFires, waiting]

theorem FlickManager.timerFires_none {flick : FlickManager} {k : Nat} (none : flick.timers[k]? = none) :
    flick.timerFires k = flick := by
  simp only [timerFires, none]

namespace State.Ranked

variable {s : State}

/-- Only the last may stay away or come before its turn. -/
theorem timerFires (ranked : s.Ranked) {k : Nat}
    (orderly : k + 1 = s.flickManager.timers.length → k = 0) :
    (s.react (.timerFires k)).shared.Ranked := by
  simp only [State.react]
  cases there : s.flickManager.timers[k]? with
  | none =>
      rw [FlickManager.timerFires_none there]
      exact ranked
  | some controller =>
      rw [FlickManager.timerFires_eq there]
      obtain ⟨inside, own⟩ := List.getElem?_eq_some_iff.mp there
      by_cases last : k + 1 = s.flickManager.timers.length
      · have first := orderly last
        subst first
        have single : s.flickManager.timers = [controller] := by
          obtain ⟨only, shape⟩ := List.length_eq_one_iff.mp last.symm
          rw [shape] at there ⊢
          cases there
          rfl
        cases ranked with
        | shown none => simp [none] at single
        | coming front last waiting same =>
            rw [single] at waiting
            have ends := congrArg List.getLast? waiting
            simp only [List.getLast?_singleton, List.getLast?_append, Option.some_or,
              Option.some.injEq] at ends
            subst ends
            exact .shown (by simp [single]) same
      · apply ranked.dropped inside last
        cases ranked with
        | shown none => simp [none] at inside
        | coming front last' waiting same here before =>
            apply before
            have within : k < front.length := by
              rw [waiting, List.length_append, List.length_singleton] at inside last
              omega
            rw [waiting, List.getElem?_append_left within] at there
            exact List.mem_of_getElem? there

theorem timerCancelled (ranked : s.Ranked) {k : Nat}
    (orderly : k + 1 ≠ s.flickManager.timers.length) :
    (s.react (.timerCancelled k)).shared.Ranked := by
  simp only [State.react, FlickManager.timerCancelled]
  by_cases inside : k < s.flickManager.timers.length
  · apply ranked.dropped inside orderly
    cases ranked with
    | shown none => simp [none] at inside
    | coming front last waiting same here => exact here
  · exact ranked.kept rfl (List.eraseIdx_of_length_le (by omega)) rfl

theorem le_selected (ranked : s.Ranked) {controller : VideoPlayerController}
    (member : controller ∈ s.flickManager.queue) :
    controller.index ≤ s.dataManager.currentPlaying := by
  cases ranked with
  | shown none same =>
      have only : controller = s.flickManager.current := by
        simpa [FlickManager.queue, none] using member
      exact Int.le_of_eq (by rw [only, same])
  | coming front last waiting same here before =>
      rw [FlickManager.queue, waiting] at member
      rcases List.mem_cons.mp member with rfl | later
      · exact Int.le_of_lt here
      · rcases List.mem_append.mp later with earlier | final
        · exact Int.le_of_lt (before controller earlier)
        · exact Int.le_of_eq (by rw [List.mem_singleton.mp final, same])

/-- A skip with nothing waiting shows the lecture it selects. -/
theorem skips (ranked : s.Ranked) {count : Int} {neighbour : Bool} {turn : Turn State Task Effect}
    (skips : s.Skips count neighbour turn) (orderly : neighbour = true → s.flickManager.timers = []) :
    turn.shared.Ranked := by
  cases skips with
  | moves more landing moved =>
      exact .shown (moved.timers.trans (orderly more)) (moved.shown.trans moved.selected.symm)
  | stays _ same =>
      rw [same]
      exact ranked.kept rfl rfl rfl

/-- The next lecture waits behind all there is. -/
theorem onVideoEnd (ranked : s.Ranked) (located : s.Located) : s.onVideoEnd.shared.Ranked := by
  obtain ⟨n, c, here⟩ := located
  by_cases more : c.HasNext
  · obtain ⟨url, moves⟩ := State.onVideoEnd_moves here more
    have earlier : ∀ controller ∈ s.flickManager.queue, controller.index < (c.place : Int) + 1 := by
      intro controller member
      have behind := ranked.le_selected member
      rw [here.place] at behind
      omega
    rw [moves]
    refine .coming s.flickManager.timers _ rfl rfl ?_ ?_
    · exact earlier _ List.mem_cons_self
    · exact fun controller member => earlier controller (List.mem_cons_of_mem _ member)
  · rw [State.onVideoEnd_stays here more]
    exact ranked

theorem ite (ranked : s.Ranked) {reached : Bool} {turn : Turn State Task Effect}
    (taken : reached = true → turn.shared.Ranked) :
    (if reached then turn else s.idle).shared.Ranked := by
  cases reached with
  | true => exact taken rfl
  | false => exact ranked

theorem resume (ranked : s.Ranked) (task : Task) (reply : Reply) :
    (s.resume task reply).shared.Ranked := by
  have turn := resumed s task reply
  generalize s.resume task reply = next at turn
  cases turn with
  | closes text =>
      rw [State.resumePlaying_shared]
      exact ranked.kept rfl rfl rfl
  | seeks minute =>
      rw [State.resumePlaying_shared]
      exact ranked.kept rfl rfl rfl
  | _ => exact ranked

end State.Ranked

theorem ranked_react {w : Player} (ranked : w.shared.Ranked) (located : w.shared.Located) (e : Event)
    (orderly : Orderly w (.event e)) : (w.shared.react e).shared.Ranked := by
  cases e with
  | previous =>
      exact ranked.ite fun onTop => ranked.skips (State.previousPressed_skips located) (orderly onTop)
  | next => exact ranked.ite fun onTop => ranked.skips (State.nextPressed_skips located) (orderly onTop)
  | videoEnd => exact ranked.ite fun _ => ranked.onVideoEnd located
  | timerFires k => exact ranked.timerFires orderly
  | timerCancelled k => exact ranked.timerCancelled orderly
  | speedDown => exact ranked.ite fun _ => ranked.kept rfl rfl rfl
  | speedUp => exact ranked.ite fun _ => ranked.kept rfl rfl rfl
  | back => exact ranked.ite fun _ => ranked.kept rfl rfl rfl
  | plays position => exact ranked.kept rfl rfl rfl
  | confirmAlert =>
      simp only [State.react]
      split
      · exact ranked.kept rfl rfl rfl
      · exact ranked
  | disposed => exact ranked.kept rfl rfl rfl

theorem ranked_step (w : Player) (i : PlayerInput) (ranked : w.shared.Ranked)
    (located : w.shared.Located) (orderly : Orderly w i) :
    (mediaControl.step w i).1.shared.Ranked := by
  rcases step_cases w i with ⟨e, rfl⟩ | ⟨k, r, rfl, missing⟩ | ⟨k, r, t, rfl, there⟩
  · exact ranked_react ranked located e orderly
  · rw [step_idle mediaControl missing]
    exact ranked
  · rw [step_resume mediaControl there]
    exact ranked.resume t r

/-! ## Out of order -/

theorem not_showsSelected {s : State} {controller : VideoPlayerController}
    (last : s.flickManager.queue.getLast? = some controller)
    (other : controller.index ≠ s.dataManager.currentPlaying) : ¬ s.ShowsSelected := by
  intro shows
  obtain ⟨shown, same, selected, -⟩ := shows
  cases last.symm.trans same
  exact other selected

/-- A skip past a change that waits is undone by it. -/
theorem astray_skip {s : State} (ranked : s.Ranked) {count : Int} (counts : count ≠ 0)
    {neighbour : Bool} {turn : Turn State Task Effect} (skips : s.Skips count neighbour turn)
    (more : neighbour = true) (waiting : s.flickManager.timers ≠ []) : ¬ turn.shared.ShowsSelected := by
  cases skips with
  | stays none => simp [more] at none
  | @moves place _ landing moved =>
      cases ranked with
      | shown none => exact absurd none waiting
      | coming front last shape same =>
          have queued : turn.shared.flickManager.queue.getLast? = some last := by
            simp [FlickManager.queue, moved.timers, shape, List.getLast?_cons]
          apply not_showsSelected queued
          rw [same, moved.selected]
          omega

/-- With the last out of the queue, what is last is an earlier one. -/
theorem astray_queue {s t : State} (sameSelection : t.dataManager = s.dataManager)
    (earlier : ∀ controller, t.flickManager.queue.getLast? = some controller →
      controller.index < s.dataManager.currentPlaying) : ¬ t.ShowsSelected := by
  intro shows
  obtain ⟨controller, last, selected, -⟩ := shows
  have before := earlier controller last
  rw [selected, sameSelection] at before
  omega

theorem astray_timerCancelled {s : State} (ranked : s.Ranked) {k : Nat}
    (last : k + 1 = s.flickManager.timers.length) :
    ¬ (s.react (.timerCancelled k)).shared.ShowsSelected := by
  cases ranked with
  | shown none => simp [none] at last
  | coming front controller waiting same here before =>
      have place : k = front.length := by
        rw [waiting, List.length_append, List.length_singleton] at last
        omega
      have sameList : (s.react (.timerCancelled k)).shared.dataManager = s.dataManager := rfl
      apply astray_queue sameList
      intro other ends
      simp only [State.react, FlickManager.timerCancelled, FlickManager.queue, waiting, place,
        List.eraseIdx_append_of_length_le (Nat.le_refl _), Nat.sub_self, List.eraseIdx_cons_zero,
        List.append_nil] at ends
      rcases List.mem_cons.mp (List.mem_of_getLast? ends) with rfl | member
      · exact here
      · exact before other member

theorem astray_timerFires {s : State} (ranked : s.Ranked) {k : Nat}
    (last : k + 1 = s.flickManager.timers.length) (behind : k ≠ 0) :
    ¬ (s.react (.timerFires k)).shared.ShowsSelected := by
  cases ranked with
  | shown none => simp [none] at last
  | coming front controller waiting same here before =>
      have place : k = front.length := by
        rw [waiting, List.length_append, List.length_singleton] at last
        omega
      subst place
      have there : s.flickManager.timers[front.length]? = some controller := by simp [waiting]
      have sameList : (s.react (.timerFires front.length)).shared.dataManager = s.dataManager := rfl
      apply astray_queue sameList
      intro other ends
      simp only [State.react, FlickManager.timerFires_eq there, FlickManager.queue, waiting,
        List.eraseIdx_append_of_length_le (Nat.le_refl _), Nat.sub_self, List.eraseIdx_cons_zero,
        List.append_nil] at ends
      rw [List.getLast?_cons_of_ne_nil (List.ne_nil_of_length_pos (Nat.pos_of_ne_zero behind))] at ends
      exact before other (List.mem_of_getLast? ends)

/-- A step out of order leaves another lecture to be the last. -/
theorem astray_step (w : Player) (i : PlayerInput) (ranked : w.shared.Ranked)
    (located : w.shared.Located) (disorder : ¬ Orderly w i) :
    ¬ (mediaControl.step w i).1.shared.ShowsSelected := by
  cases i with
  | resume k reply => exact absurd trivial disorder
  | event e =>
      rw [step_event]
      cases e with
      | previous =>
          simp only [Orderly, Classical.not_imp] at disorder
          obtain ⟨onTop, more, waiting⟩ := disorder
          simp only [mediaControl, State.react, onTop, if_true]
          exact astray_skip ranked (by decide) (State.previousPressed_skips located) more waiting
      | next =>
          simp only [Orderly, Classical.not_imp] at disorder
          obtain ⟨onTop, more, waiting⟩ := disorder
          simp only [mediaControl, State.react, onTop, if_true]
          exact astray_skip ranked (by decide) (State.nextPressed_skips located) more waiting
      | timerFires k =>
          simp only [Orderly, Classical.not_imp] at disorder
          exact astray_timerFires ranked disorder.1 disorder.2
      | timerCancelled k =>
          simp only [Orderly, ne_eq, Classical.not_not] at disorder
          exact astray_timerCancelled ranked disorder
      | _ => exact absurd trivial disorder

/-! ## Every run -/

/-- What every step in order keeps. -/
structure InOrder (urls titles : List String) (w : Player) : Prop where
  ranked : w.shared.Ranked
  located : w.shared.Located
  shows : w.shared.Shows urls titles

theorem inOrder_step {urls titles : List String} (w : Player) (i : PlayerInput)
    (inOrder : InOrder urls titles w) (orderly : Orderly w i) :
    InOrder urls titles (mediaControl.step w i).1 where
  ranked := ranked_step w i inOrder.ranked inOrder.located orderly
  located := located_step w i inOrder.located
  shows := shows_step w i inOrder.shows

theorem initState_inOrder {urls titles : List String} {playTime : PlayTime} {w : Player}
    (opened : Player.initState urls titles playTime = some w) : InOrder urls titles w where
  ranked := by
    obtain ⟨-, list, shown, none, -⟩ := initState_shared opened
    exact .shown none (by rw [shown, list])
  located := (initState_counts opened).located
  shows := initState_shows opened

/-- In every run of a player, the lecture shown last is the one selected after every step
    exactly if every step is in order. -/
theorem screen_selected_iff {urls titles : List String} {playTime : PlayTime} {w : Player}
    (opened : Player.initState urls titles playTime = some w) (is : List PlayerInput) :
    (∀ f ∈ run mediaControl.step w is, f.after.shared.ShowsSelected) ↔
      ∀ f ∈ run mediaControl.step w is, Orderly f.before f.input := by
  apply good_iff_guarded inOrder_step _ _ (initState_inOrder opened)
  · intro w i inOrder orderly
    have next := inOrder_step w i inOrder orderly
    exact next.ranked.showsSelected next.shows
  · intro w i inOrder disorder
    exact astray_step w i inOrder.ranked inOrder.located disorder

/-- The first lecture ends, and `previous` is tapped before the second is shown. -/
theorem screen_selected_iff_sample :
    (∀ f ∈ run mediaControl.step samplePlayer [.event .videoEnd, .event .previous],
        f.after.shared.ShowsSelected) ↔
      ∀ f ∈ run mediaControl.step samplePlayer [.event .videoEnd, .event .previous],
        Orderly f.before f.input :=
  screen_selected_iff samplePlayer_opened _

end Edutopik.Media

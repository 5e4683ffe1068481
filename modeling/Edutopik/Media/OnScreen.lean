import Edutopik.Media.LectureCount

/-! # The videos of a player are those of its list

The list a player is opened with never changes, and whatever is on screen or waits for
its timer is one of its lectures, under the url the list has for it.
-/

namespace Edutopik.Media

open Dart EventLoop Machine

/-- The controller plays the url at its place of the list. -/
def VideoPlayerController.From (urls : List String) (controller : VideoPlayerController) : Prop :=
  Dart.index urls controller.index = some controller.url

structure State.Shows (urls titles : List String) (s : State) : Prop where
  listed : s.dataManager.urls = urls
  titled : s.dataManager.titles = titles
  current : s.flickManager.current.From urls
  timers : ∀ controller ∈ s.flickManager.timers, controller.From urls

/-- A skip keeps the list, and what it hands over is from it. -/
structure DataManager.SkipsWithin (dm : DataManager) (skipped : DataManager × Skip) : Prop where
  listed : skipped.1.urls = dm.urls
  titled : skipped.1.titles = dm.titles
  hands : ∀ change, skipped.2 = .hands change → change.network.From dm.urls

namespace DataManager

theorem skipToNextVideo_within (duration : Option Duration) (dm : DataManager) :
    dm.SkipsWithin (dm.skipToNextVideo duration) := by
  unfold skipToNextVideo
  split
  · split
    · exact ⟨rfl, rfl, nofun⟩
    · rename_i url read
      refine ⟨rfl, rfl, ?_⟩
      intro change same
      cases same
      exact read
  · exact ⟨rfl, rfl, nofun⟩

theorem skipToPreviousVideo_within (dm : DataManager) : dm.SkipsWithin dm.skipToPreviousVideo := by
  unfold skipToPreviousVideo
  dsimp only
  split
  · split
    · exact ⟨rfl, rfl, nofun⟩
    · rename_i url read
      refine ⟨rfl, rfl, ?_⟩
      intro change same
      cases same
      exact read
  · exact ⟨rfl, rfl, nofun⟩

end DataManager

namespace State.Shows

variable {urls titles : List String} {s : State}

theorem handed (shows : s.Shows urls titles) {change : ChangeVideo}
    (read : change.network.From urls) {moved : DataManager} (sameUrls : moved.urls = urls)
    (sameTitles : moved.titles = titles) (record : PlayTime) :
    State.Shows urls titles { s with
      playTime := record
      dataManager := moved
      flickManager := s.flickManager.handleChangeVideo change } := by
  cases duration : change.videoChangeDuration with
  | none =>
      refine ⟨sameUrls, sameTitles, ?_, ?_⟩
      · simpa only [FlickManager.handleChangeVideo, duration] using read
      · simpa only [FlickManager.handleChangeVideo, duration] using shows.timers
  | some delay =>
      refine ⟨sameUrls, sameTitles, ?_, ?_⟩
      · simpa only [FlickManager.handleChangeVideo, duration] using shows.current
      · simp only [FlickManager.handleChangeVideo, duration]
        intro controller member
        rcases List.mem_append.mp member with old | new
        · exact shows.timers controller old
        · rw [List.mem_singleton.mp new]
          exact read

theorem skipPressed (shows : s.Shows urls titles) (count : Int)
    {skip : DataManager → DataManager × Skip}
    (within : s.dataManager.SkipsWithin (skip s.dataManager)) :
    (s.skipPressed count skip).shared.Shows urls titles := by
  have listed := within.listed.trans shows.listed
  have titled := within.titled.trans shows.titled
  have same : skip s.takePosition.dataManager = skip s.dataManager := rfl
  unfold State.skipPressed
  dsimp only
  rw [same]
  split
  · exact ⟨listed, titled, shows.current, shows.timers⟩
  · exact ⟨listed, titled, shows.current, shows.timers⟩
  · rename_i change out
    have read := within.hands change out
    rw [shows.listed] at read
    exact shows.handed read listed titled _

theorem onVideoEnd (shows : s.Shows urls titles) : s.onVideoEnd.shared.Shows urls titles := by
  have within := DataManager.skipToNextVideo_within (some (Duration.ofSeconds 5)) s.dataManager
  have listed := within.listed.trans shows.listed
  have titled := within.titled.trans shows.titled
  unfold State.onVideoEnd
  dsimp only
  split
  · rename_i change out
    have read := within.hands change out
    rw [shows.listed] at read
    exact shows.handed read listed titled _
  · exact ⟨listed, titled, shows.current, shows.timers⟩
  · exact ⟨listed, titled, shows.current, shows.timers⟩

theorem ite (shows : s.Shows urls titles) {reached : Bool} {turn : Turn State Task Effect}
    (taken : turn.shared.Shows urls titles) :
    (if reached then turn else s.idle).shared.Shows urls titles := by
  cases reached with
  | true => exact taken
  | false => exact shows

theorem elsewhere (shows : s.Shows urls titles) {t : State} (sameList : t.dataManager = s.dataManager)
    (sameVideo : t.flickManager.current.index = s.flickManager.current.index ∧
      t.flickManager.current.url = s.flickManager.current.url)
    (fewer : t.flickManager.timers ⊆ s.flickManager.timers) : t.Shows urls titles where
  listed := by
    rw [sameList]
    exact shows.listed
  titled := by
    rw [sameList]
    exact shows.titled
  current := by
    rw [VideoPlayerController.From, sameVideo.1, sameVideo.2]
    exact shows.current
  timers := fun controller member => shows.timers controller (fewer member)

theorem react (shows : s.Shows urls titles) (e : Event) : (s.react e).shared.Shows urls titles := by
  have same : s.flickManager.timers ⊆ s.flickManager.timers := List.Subset.refl _
  cases e with
  | speedDown => exact shows.ite (shows.elsewhere rfl ⟨rfl, rfl⟩ same)
  | speedUp => exact shows.ite (shows.elsewhere rfl ⟨rfl, rfl⟩ same)
  | previous => exact shows.ite (shows.skipPressed _ s.dataManager.skipToPreviousVideo_within)
  | next => exact shows.ite (shows.skipPressed _ (s.dataManager.skipToNextVideo_within none))
  | back => exact shows.ite (shows.elsewhere rfl ⟨rfl, rfl⟩ same)
  | videoEnd => exact shows.ite shows.onVideoEnd
  | timerFires k =>
      simp only [State.react, FlickManager.timerFires]
      split
      · exact shows
      · rename_i controller waiting
        refine ⟨shows.listed, shows.titled, ?_, ?_⟩
        · exact shows.timers controller (List.mem_of_getElem? waiting)
        · exact fun other member => shows.timers other (List.mem_of_mem_eraseIdx member)
  | timerCancelled k =>
      exact shows.elsewhere rfl ⟨rfl, rfl⟩ (fun other member => List.mem_of_mem_eraseIdx member)
  | plays position => exact shows.elsewhere rfl ⟨rfl, rfl⟩ same
  | confirmAlert =>
      simp only [State.react]
      split
      · exact shows.elsewhere rfl ⟨rfl, rfl⟩ same
      · exact shows
  | disposed => exact shows.elsewhere rfl ⟨rfl, rfl⟩ same

theorem resume (shows : s.Shows urls titles) (task : Task) (reply : Reply) :
    (s.resume task reply).shared.Shows urls titles := by
  have same : s.flickManager.timers ⊆ s.flickManager.timers := List.Subset.refl _
  have turn := resumed s task reply
  generalize s.resume task reply = next at turn
  cases turn with
  | closes text =>
      rw [State.resumePlaying_shared]
      exact shows.elsewhere rfl ⟨rfl, rfl⟩ same
  | seeks minute =>
      rw [State.resumePlaying_shared]
      exact shows.elsewhere rfl ⟨rfl, rfl⟩ same
  | _ => exact shows

end State.Shows

theorem shows_step {urls titles : List String} (w : Player) (i : PlayerInput)
    (shows : w.shared.Shows urls titles) : (mediaControl.step w i).1.shared.Shows urls titles := by
  rcases step_cases w i with ⟨e, rfl⟩ | ⟨k, r, rfl, missing⟩ | ⟨k, r, t, rfl, located⟩
  · exact shows.react e
  · rw [step_idle mediaControl missing]
    exact shows
  · rw [step_resume mediaControl located]
    exact shows.resume t r

theorem initState_shows {urls titles : List String} {playTime : PlayTime} {w : Player}
    (opened : Player.initState urls titles playTime = some w) : w.shared.Shows urls titles := by
  unfold Player.initState Player.firstBuild at opened
  split at opened
  · cases opened
  · rename_i url read
    cases opened
    exact ⟨rfl, rfl, read, by simp [State.initPlayer]⟩

end Edutopik.Media

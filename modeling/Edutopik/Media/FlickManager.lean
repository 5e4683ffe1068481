import Mathlib.Data.Rat.Defs
import Edutopik.Media.DataManager

/-! # The video library as the app sees it

`FlickManager` is a package. The app hands it a fresh controller, at once or with
a delay, seeks and sets the speed of whichever controller is current, and reads
its position. A delayed change waits in a timer that may fire or be cancelled at
any moment; what else the package does with timers is left open.
-/

namespace Edutopik.Media

open Dart

/-- One video. `index` is the place of its url in the lecture list. -/
structure VideoPlayerController where
  url : String
  index : Int
  position : Duration := Duration.zero
  playbackSpeed : ℚ := 1
  deriving DecidableEq

def ChangeVideo.network (change : ChangeVideo) : VideoPlayerController :=
  { url := change.url, index := change.index }

structure FlickManager where
  current : VideoPlayerController
  timers : List VideoPlayerController := []
  deriving DecidableEq

namespace FlickManager

def handleChangeVideo (flick : FlickManager) (change : ChangeVideo) : FlickManager :=
  match change.videoChangeDuration with
  | none => { flick with current := change.network }
  | some _ => { flick with timers := flick.timers ++ [change.network] }

def timerFires (flick : FlickManager) (k : Nat) : FlickManager :=
  match flick.timers[k]? with
  | none => flick
  | some controller => { current := controller, timers := flick.timers.eraseIdx k }

def timerCancelled (flick : FlickManager) (k : Nat) : FlickManager :=
  { flick with timers := flick.timers.eraseIdx k }

def seekTo (flick : FlickManager) (position : Duration) : FlickManager :=
  { flick with current := { flick.current with position := position } }

def setPlaybackSpeed (flick : FlickManager) (speed : ℚ) : FlickManager :=
  { flick with current := { flick.current with playbackSpeed := speed } }

end FlickManager

end Edutopik.Media

import Edutopik.Dart.Core
import Edutopik.Library.Cursor

/-! # The list of lectures and the one selected

`DataManager` counts lectures from zero, tests the ends of the list with `!=`
and moves its index and the video in a different order in the two skips. While
the index is in range it behaves as a cursor over the urls: `skipToNextVideo_at`
and `skipToPreviousVideo_at` say so, and nothing later looks inside the skips.
-/

namespace Edutopik.Media

open Dart

structure DataManager where
  urls : List String
  titles : List String
  currentPlaying : Int
  deriving DecidableEq, Repr

/-- One call of `flickManager.handleChangeVideo`: the url of the new controller,
    the index it was taken at, and `videoChangeDuration`. -/
structure ChangeVideo where
  url : String
  index : Int
  videoChangeDuration : Option Duration
  deriving DecidableEq, Repr

/-- How a skip ends: the index is at the end of the list, a video is handed over,
    or `urls[..]` raises. -/
inductive Skip where
  | stays
  | hands (change : ChangeVideo)
  | rangeError
  deriving DecidableEq, Repr

namespace DataManager

def getTitle (dm : DataManager) : Option String := Dart.index dm.titles dm.currentPlaying

def hasNextVideo (dm : DataManager) : Bool := dm.currentPlaying != (dm.urls.length : Int) - 1

def hasPreviousVideo (dm : DataManager) : Bool := dm.currentPlaying != 0

def skipToNextVideo (duration : Option Duration) (dm : DataManager) : DataManager × Skip :=
  if dm.hasNextVideo then
    match Dart.index dm.urls (dm.currentPlaying + 1) with
    | none => (dm, .rangeError)
    | some url =>
        ({ dm with currentPlaying := dm.currentPlaying + 1 },
          .hands ⟨url, dm.currentPlaying + 1, duration⟩)
  else (dm, .stays)

/-- The index is moved before the url is read. -/
def skipToPreviousVideo (dm : DataManager) : DataManager × Skip :=
  if dm.hasPreviousVideo then
    let moved := { dm with currentPlaying := dm.currentPlaying - 1 }
    match Dart.index moved.urls moved.currentPlaying with
    | none => (moved, .rangeError)
    | some url => (moved, .hands ⟨url, moved.currentPlaying, none⟩)
  else (dm, .stays)

/-! ## The cursor it implements -/

/-- The lectures are the elements of the sequence and `currentPlaying` is the place. -/
structure At {n : Nat} (dm : DataManager) (c : Cursor n) : Prop where
  length : dm.urls.length = n
  place : dm.currentPlaying = c.place

variable {n : Nat} {dm : DataManager} {c : Cursor n}

theorem At.hasNextVideo_iff (located : dm.At c) : dm.hasNextVideo = true ↔ c.HasNext := by
  have inRange := c.inRange
  simp only [hasNextVideo, Cursor.HasNext, located.length, located.place, bne_iff_ne]
  omega

theorem At.hasPreviousVideo_iff (located : dm.At c) :
    dm.hasPreviousVideo = true ↔ c.HasPrevious := by
  simp only [hasPreviousVideo, Cursor.HasPrevious, located.place, bne_iff_ne]
  omega

theorem At.exists_url (located : dm.At c) {place : Nat} (inside : place < n) :
    ∃ url, dm.urls[place]? = some url :=
  ⟨_, List.getElem?_eq_getElem (by rw [located.length]; exact inside)⟩

theorem skipToNextVideo_moves (located : dm.At c) (more : c.HasNext) (duration : Option Duration) :
    ∃ url, dm.urls[c.place + 1]? = some url ∧
      dm.skipToNextVideo duration =
        ({ dm with currentPlaying := c.place + 1 }, .hands ⟨url, c.place + 1, duration⟩) := by
  have here : dm.hasNextVideo = true := located.hasNextVideo_iff.mpr more
  obtain ⟨url, read⟩ := located.exists_url more
  have indexed : Dart.index dm.urls ((c.place : Int) + 1) = some url := by
    rw [← read, ← index_ofNat, Int.natCast_succ]
  refine ⟨url, read, ?_⟩
  simp only [skipToNextVideo, here, if_true, located.place, indexed]

theorem skipToNextVideo_stays (located : dm.At c) (last : ¬ c.HasNext) (duration : Option Duration) :
    dm.skipToNextVideo duration = (dm, .stays) := by
  have here : dm.hasNextVideo = false := by
    rw [Bool.eq_false_iff]
    exact fun more => last (located.hasNextVideo_iff.mp more)
  simp only [skipToNextVideo, here, Bool.false_eq_true, if_false]

theorem skipToPreviousVideo_moves (located : dm.At c) (more : c.HasPrevious) :
    ∃ url, dm.urls[c.place - 1]? = some url ∧
      dm.skipToPreviousVideo =
        ({ dm with currentPlaying := (c.place : Int) - 1 },
          .hands ⟨url, (c.place : Int) - 1, none⟩) := by
  have here : dm.hasPreviousVideo = true := located.hasPreviousVideo_iff.mpr more
  obtain ⟨url, read⟩ := located.exists_url c.previous.inRange
  have positive : 0 < c.place := more
  have back : (c.place : Int) - 1 = (c.place - 1 : Nat) := by omega
  have indexed : Dart.index dm.urls ((c.place : Int) - 1) = some url := by
    rw [← read, ← index_ofNat, Cursor.previous_place, back]
  refine ⟨url, read, ?_⟩
  simp only [skipToPreviousVideo, here, if_true, located.place, indexed]

theorem skipToPreviousVideo_stays (located : dm.At c) (first : ¬ c.HasPrevious) :
    dm.skipToPreviousVideo = (dm, .stays) := by
  have here : dm.hasPreviousVideo = false := by
    rw [Bool.eq_false_iff]
    exact fun more => first (located.hasPreviousVideo_iff.mp more)
  simp only [skipToPreviousVideo, here, Bool.false_eq_true, if_false]

/-- The next skip implements the cursor's move. -/
theorem skipToNextVideo_at (located : dm.At c) (duration : Option Duration) :
    (dm.skipToNextVideo duration).1.At c.next := by
  by_cases more : c.HasNext
  · obtain ⟨url, _, moved⟩ := skipToNextVideo_moves located more duration
    rw [moved]
    exact ⟨located.length, by simp [Cursor.next_place more]⟩
  · rw [skipToNextVideo_stays located more duration, Cursor.next_stays more]
    exact located

/-- The previous skip implements the cursor's move. -/
theorem skipToPreviousVideo_at (located : dm.At c) : dm.skipToPreviousVideo.1.At c.previous := by
  by_cases more : c.HasPrevious
  · obtain ⟨url, _, moved⟩ := skipToPreviousVideo_moves located more
    rw [moved]
    exact ⟨located.length, by simp [Int.natCast_sub more]⟩
  · rw [skipToPreviousVideo_stays located more, Cursor.previous_stays more]
    exact located

end DataManager

end Edutopik.Media

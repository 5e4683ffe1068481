import Edutopik.Library.Machine
import Edutopik.Media.DataManager

/-! # Any sequence of skips

The two skips move the index and ask for the video in opposite orders. Whatever
calls are made, with delays or without, the video asked for last is the one at the
index: a call moves both or neither.
-/

namespace Edutopik.Media

open Dart Machine

inductive SkipCall where
  | next (duration : Option Duration)
  | previous
  deriving DecidableEq, Repr

namespace DataManager

def call (dm : DataManager) : SkipCall → DataManager × Skip
  | .next duration => dm.skipToNextVideo duration
  | .previous => dm.skipToPreviousVideo

/-- A `DataManager` on its own, called from anywhere. -/
def skips : Machine.Step DataManager SkipCall Skip := fun dm call => ((dm.call call).1, [(dm.call call).2])

/-- The url given to `handleChangeVideo` last, `initial` if there was none. -/
def lastHanded (initial : String) : List Skip → String
  | [] => initial
  | .hands change :: rest => lastHanded change.url rest
  | .stays :: rest | .rangeError :: rest => lastHanded initial rest

/-- The index is one of the list and the video asked for last is the one there;
    calls hand a video over exactly if they move, and both buttons know which do. -/
structure Tracks (urls : List String) (asked : String) (dm : DataManager) : Prop where
  sameList : dm.urls = urls
  inRange : 0 ≤ dm.currentPlaying ∧ dm.currentPlaying < urls.length
  asked : Dart.index urls dm.currentPlaying = some asked
  hands_iff : ∀ call, (∃ change, (dm.call call).2 = .hands change) ↔
    (dm.call call).1.currentPlaying ≠ dm.currentPlaying
  hasNextVideo_iff : ∀ duration, dm.hasNextVideo = true ↔
    (dm.skipToNextVideo duration).1.currentPlaying ≠ dm.currentPlaying
  hasPreviousVideo_iff : dm.hasPreviousVideo = true ↔
    dm.skipToPreviousVideo.1.currentPlaying ≠ dm.currentPlaying
  restores : ∀ duration, (dm.skipToNextVideo duration).1.currentPlaying ≠ dm.currentPlaying →
    (dm.skipToNextVideo duration).1.skipToPreviousVideo.1.currentPlaying = dm.currentPlaying

variable {n : Nat} {dm : DataManager} {c : Cursor n}

/-- What a call does while the index is in range: it stays, or it goes to another
    place of the list and hands over the url there. -/
inductive Calls (dm : DataManager) : DataManager × Skip → Prop where
  | stays : Calls dm (dm, .stays)
  | moves {place : Int} {change : ChangeVideo} : place ≠ dm.currentPlaying →
      Dart.index dm.urls place = some change.url →
      Calls dm ({ dm with currentPlaying := place }, .hands change)

theorem skipToNextVideo_calls (located : dm.At c) (duration : Option Duration) :
    dm.Calls (dm.skipToNextVideo duration) := by
  by_cases more : c.HasNext
  · obtain ⟨url, read, moved⟩ := skipToNextVideo_moves located more duration
    rw [moved]
    apply Calls.moves
    · rw [located.place]
      omega
    · rw [← Int.natCast_succ, index_ofNat]
      exact read
  · rw [skipToNextVideo_stays located more duration]
    exact .stays

theorem skipToPreviousVideo_calls (located : dm.At c) : dm.Calls dm.skipToPreviousVideo := by
  by_cases more : c.HasPrevious
  · obtain ⟨url, read, moved⟩ := skipToPreviousVideo_moves located more
    have positive : 0 < c.place := more
    rw [moved]
    apply Calls.moves
    · rw [located.place]
      omega
    · have back : (c.place : Int) - 1 = (c.place - 1 : Nat) := by omega
      rw [back, index_ofNat]
      exact read
  · rw [skipToPreviousVideo_stays located more]
    exact .stays

theorem call_calls (located : dm.At c) (call : SkipCall) : dm.Calls (dm.call call) := by
  cases call with
  | next duration => exact skipToNextVideo_calls located duration
  | previous => exact skipToPreviousVideo_calls located

theorem Calls.hands_iff {result : DataManager × Skip} (calls : dm.Calls result) :
    (∃ change, result.2 = .hands change) ↔ result.1.currentPlaying ≠ dm.currentPlaying := by
  cases calls with
  | stays => simp
  | moves elsewhere _ => exact iff_of_true ⟨_, rfl⟩ elsewhere

/-! ## What the ends of the list say -/

theorem At.hasNextVideo_iff_moves (located : dm.At c) (duration : Option Duration) :
    dm.hasNextVideo = true ↔ (dm.skipToNextVideo duration).1.currentPlaying ≠ dm.currentPlaying := by
  have after := (skipToNextVideo_at located duration).place
  rw [located.hasNextVideo_iff, after, located.place]
  by_cases more : c.HasNext
  · refine iff_of_true more ?_
    rw [Cursor.next_place more]
    omega
  · simp [more, Cursor.next_stays more]

theorem At.hasPreviousVideo_iff_moves (located : dm.At c) :
    dm.hasPreviousVideo = true ↔ dm.skipToPreviousVideo.1.currentPlaying ≠ dm.currentPlaying := by
  have after := (skipToPreviousVideo_at located).place
  rw [located.hasPreviousVideo_iff, after, located.place]
  by_cases more : c.HasPrevious
  · have positive : 0 < c.place := more
    refine iff_of_true more ?_
    simp only [Cursor.previous_place]
    omega
  · simp [more, Cursor.previous_stays more]

/-- Going on and back again. -/
theorem At.restores (located : dm.At c) (duration : Option Duration)
    (moved : (dm.skipToNextVideo duration).1.currentPlaying ≠ dm.currentPlaying) :
    (dm.skipToNextVideo duration).1.skipToPreviousVideo.1.currentPlaying = dm.currentPlaying := by
  have more : c.HasNext :=
    located.hasNextVideo_iff.mp ((located.hasNextVideo_iff_moves duration).mpr moved)
  have back := (skipToPreviousVideo_at (skipToNextVideo_at located duration)).place
  rw [back, located.place, Cursor.previous_place, Cursor.next_place more, Nat.add_sub_cancel]

theorem At.tracks (located : dm.At c) {asked : String}
    (read : Dart.index dm.urls dm.currentPlaying = some asked) : Tracks dm.urls asked dm where
  sameList := rfl
  inRange := (index_isSome_iff dm.urls dm.currentPlaying).mp (Option.isSome_of_eq_some read)
  asked := read
  hands_iff := fun call => (call_calls located call).hands_iff
  hasNextVideo_iff := located.hasNextVideo_iff_moves
  hasPreviousVideo_iff := located.hasPreviousVideo_iff_moves
  restores := located.restores

/-! ## Runs -/

theorem call_at (located : dm.At c) (call : SkipCall) : ∃ d : Cursor n, (dm.call call).1.At d := by
  cases call with
  | next duration => exact ⟨c.next, skipToNextVideo_at located duration⟩
  | previous => exact ⟨c.previous, skipToPreviousVideo_at located⟩

/-- A call keeps the list, and hands over the video it goes to. -/
theorem Calls.asked {result : DataManager × Skip} (calls : dm.Calls result) {asked : String}
    (read : Dart.index dm.urls dm.currentPlaying = some asked) :
    result.1.urls = dm.urls ∧
      Dart.index result.1.urls result.1.currentPlaying = some (lastHanded asked [result.2]) := by
  cases calls with
  | stays => exact ⟨rfl, read⟩
  | moves _ there => exact ⟨rfl, there⟩

theorem lastHanded_cons (initial : String) (skip : Skip) (rest : List Skip) :
    lastHanded initial (skip :: rest) = lastHanded (lastHanded initial [skip]) rest := by
  cases skip <;> rfl

theorem At.tracks_final (located : dm.At c) {asked : String}
    (read : Dart.index dm.urls dm.currentPlaying = some asked) (calls : List SkipCall) :
    Tracks dm.urls (lastHanded asked (output skips dm calls)) (final skips dm calls) := by
  induction calls generalizing dm c asked with
  | nil => exact located.tracks read
  | cons call rest ih =>
      obtain ⟨d, next⟩ := call_at located call
      obtain ⟨sameList, nextRead⟩ := (call_calls located call).asked read
      have later := ih next nextRead
      rw [sameList] at later
      have handed : output skips dm (call :: rest) =
          (dm.call call).2 :: output skips (dm.call call).1 rest := rfl
      rw [final_cons, handed, lastHanded_cons]
      exact later

/-- From every start within the list, after any calls, the index and the video
    asked for belong together. -/
theorem skips_track {urls titles : List String} {start : Int} {initial : String}
    (opened : Dart.index urls start = some initial) (calls : List SkipCall) :
    Tracks urls (lastHanded initial (output skips ⟨urls, titles, start⟩ calls))
      (final skips ⟨urls, titles, start⟩ calls) := by
  have bounds := (index_isSome_iff urls start).mp (Option.isSome_of_eq_some opened)
  have located : (⟨urls, titles, start⟩ : DataManager).At
      (⟨start.toNat, by omega⟩ : Cursor urls.length) := ⟨rfl, by simp; omega⟩
  exact located.tracks_final opened calls

theorem skips_track_sample :
    Tracks ["v/1.mp4", "v/2.mp4"]
      (lastHanded "v/1.mp4"
        (output skips ⟨["v/1.mp4", "v/2.mp4"], ["1강", "2강"], 0⟩ [.next none, .previous, .previous]))
      (final skips ⟨["v/1.mp4", "v/2.mp4"], ["1강", "2강"], 0⟩ [.next none, .previous, .previous]) :=
  skips_track rfl _

end DataManager

end Edutopik.Media

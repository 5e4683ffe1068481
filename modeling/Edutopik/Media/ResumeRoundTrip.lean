import Edutopik.Dart.Decimal
import Edutopik.Media.LectureCount

/-! # Leaving a lecture and coming back to it

A position is reported in whole minutes, as the digits of a number. Whoever comes
back gets that number from the server and starts at it. What is lost on the way is
what was played of the minute, once: a position of whole minutes comes back as it is.
-/

namespace Dart.Duration

/-- The last whole minute that is not after `d`. -/
def wholeMinutes (d : Duration) : Duration :=
  ⟨d.inMicroseconds / microsecondsPerMinute * microsecondsPerMinute⟩

theorem wholeMinutes_le (d : Duration) : d.wholeMinutes.inMicroseconds ≤ d.inMicroseconds := by
  simp only [wholeMinutes, microsecondsPerMinute]
  omega

theorem lt_wholeMinutes_add (d : Duration) :
    d.inMicroseconds < d.wholeMinutes.inMicroseconds + microsecondsPerMinute := by
  simp only [wholeMinutes, microsecondsPerMinute]
  omega

theorem wholeMinutes_mono {d e : Duration} (le : d.inMicroseconds ≤ e.inMicroseconds) :
    d.wholeMinutes.inMicroseconds ≤ e.wholeMinutes.inMicroseconds := by
  simp only [wholeMinutes, microsecondsPerMinute]
  omega

theorem wholeMinutes_nonneg {d : Duration} (nonneg : 0 ≤ d.inMicroseconds) :
    0 ≤ d.wholeMinutes.inMicroseconds := by
  simp only [wholeMinutes, microsecondsPerMinute]
  omega

@[simp] theorem wholeMinutes_wholeMinutes (d : Duration) :
    d.wholeMinutes.wholeMinutes = d.wholeMinutes := by
  simp only [wholeMinutes, microsecondsPerMinute, mk.injEq]
  omega

theorem inMinutes_of_nonneg {d : Duration} (nonneg : 0 ≤ d.inMicroseconds) :
    d.inMinutes = d.inMicroseconds / microsecondsPerMinute :=
  Int.tdiv_eq_ediv_of_nonneg nonneg

/-- Splitting minutes into hours and minutes and adding them up loses nothing. -/
theorem ofHoursMinutes_split {minutes : Int} (nonneg : 0 ≤ minutes) :
    ofHoursMinutes (minutes.tdiv 60) (minutes % 60) = ⟨minutes * microsecondsPerMinute⟩ := by
  rw [Int.tdiv_eq_ediv_of_nonneg nonneg]
  simp only [ofHoursMinutes, microsecondsPerHour, microsecondsPerMinute, mk.injEq]
  omega

theorem ofHoursMinutes_inMinutes {d : Duration} (nonneg : 0 ≤ d.inMicroseconds) :
    ofHoursMinutes (d.inMinutes.tdiv 60) (d.inMinutes % 60) = d.wholeMinutes := by
  have minutes : 0 ≤ d.inMinutes := Int.tdiv_nonneg nonneg (by decide)
  rw [ofHoursMinutes_split minutes, inMinutes_of_nonneg nonneg]
  rfl

theorem inMinutes_wholeMinutes {d : Duration} (nonneg : 0 ≤ d.inMicroseconds) :
    d.wholeMinutes.inMinutes = d.inMinutes := by
  rw [inMinutes_of_nonneg (wholeMinutes_nonneg nonneg), inMinutes_of_nonneg nonneg]
  exact Int.mul_ediv_cancel _ (by decide)

/-- The minutes of a `Duration` are an `int`, as its microseconds are. -/
theorem isInt_inMinutes {d : Duration} (fits : IsInt d.inMicroseconds) : IsInt d.inMinutes := by
  unfold IsInt at fits
  unfold IsInt inMinutes microsecondsPerMinute
  by_cases nonneg : 0 ≤ d.inMicroseconds
  · rw [Int.tdiv_eq_ediv_of_nonneg nonneg]
    omega
  · have opposite : d.inMicroseconds.tdiv 60000000 = -((-d.inMicroseconds) / 60000000) := by
      rw [← Int.tdiv_eq_ediv_of_nonneg (by omega), Int.neg_tdiv, Int.neg_neg]
    rw [opposite]
    omega

end Dart.Duration

namespace Edutopik.Media

open Dart EventLoop

def State.position (s : State) : Duration := s.flickManager.current.position

/-- The server gives the number of a report back as it was written. -/
def Echoes (report : Report) (reply : Reply) : Prop :=
  ∃ res, reply.object = some res ∧
    res.get "current_time" = .string (interpolate report.currentTime)

/-- Whoever reports in `s` comes back later to a player in any state `t`, whose lookup
    is answered with what was reported. -/
inductive Cycle (s : State) : State → Prop
  | mk {e : Event} {report : Report} {t : State} {lmNum : Int} {reply : Reply} :
      Effect.sendPlayTime report ∈ (s.react e).effects → Echoes report reply →
        Cycle s (t.resume (.awaitingTime lmNum) reply).shared

/-- That many cycles in a row, with anything in between but playback. -/
inductive Cycles : Nat → State → State → Prop
  | one {s t} : Cycle s t → Cycles 1 s t
  | more {n s t t' u} : Cycle s t → t'.position = t.position → Cycles n t' u → Cycles (n + 1) s u

theorem currentTime_of_report {s : State} {e : Event} {report : Report}
    (sent : Effect.sendPlayTime report ∈ (s.react e).effects) :
    report.currentTime = some s.position.inMinutes := by
  cases eventLets sent with
  | report fin => rfl

theorem position_of_read {t : State} {lmNum minute : Int} {reply : Reply} {res : JsonObject}
    (answer : reply.object = some res)
    (read : (res.get "current_time").toText.bind parseInt = some minute) :
    (t.resume (.awaitingTime lmNum) reply).shared.position =
      Duration.ofHoursMinutes (minute.tdiv 60) (minute % 60) := by
  have turn := resumed t (.awaitingTime lmNum) reply
  generalize t.resume (.awaitingTime lmNum) reply = next at turn
  cases turn with
  | unread none =>
      rw [none] at answer
      cases answer
  | unreadable answered unreadable =>
      rw [answered] at answer
      cases answer
      rw [unreadable] at read
      cases read
  | seeks sought answered found =>
      rw [answered] at answer
      cases answer
      rw [found] at read
      cases read
      rw [State.resumePlaying_shared]
      rfl

theorem Cycle.position {s t : State} (cycle : Cycle s t) (played : 0 ≤ s.position.inMicroseconds)
    (fits : IsInt s.position.inMinutes) : t.position = s.position.wholeMinutes := by
  cases cycle with
  | mk sent echoed =>
      obtain ⟨res, answer, given⟩ := echoed
      rw [currentTime_of_report sent] at given
      have read : (res.get "current_time").toText.bind parseInt = some s.position.inMinutes := by
        rw [given]
        exact (parseInt_toString_iff _).mpr fits
      rw [position_of_read answer read]
      exact Duration.ofHoursMinutes_inMinutes played

theorem Cycles.position {n : Nat} {s u : State} (cycles : Cycles n s u)
    (played : 0 ≤ s.position.inMicroseconds) (fits : IsInt s.position.inMinutes) :
    u.position = s.position.wholeMinutes := by
  induction cycles with
  | one cycle => exact cycle.position played fits
  | @more n s t t' u cycle unplayed later ih =>
      have again : t'.position = s.position.wholeMinutes :=
        unplayed.trans (cycle.position played fits)
      rw [again, Duration.wholeMinutes_wholeMinutes, Duration.inMinutes_wholeMinutes played] at ih
      exact ih (Duration.wholeMinutes_nonneg played) fits

/-- Less than a minute is lost, who was further comes back no earlier, and doing it
    again and again loses nothing more. `fits` is the type of `inMinutes`. -/
theorem leave_and_resume {s t : State} (played : 0 ≤ s.position.inMicroseconds)
    (fits : IsInt s.position.inMinutes) (cycle : Cycle s t) :
    (t.position.inMicroseconds ≤ s.position.inMicroseconds ∧
      s.position.inMicroseconds < t.position.inMicroseconds + Duration.microsecondsPerMinute) ∧
    (∀ s' t', s.position.inMicroseconds ≤ s'.position.inMicroseconds →
      IsInt s'.position.inMinutes → Cycle s' t' →
        t.position.inMicroseconds ≤ t'.position.inMicroseconds) ∧
    ∀ n u, Cycles n s u → u.position = t.position := by
  have here := cycle.position played fits
  rw [here]
  refine ⟨⟨Duration.wholeMinutes_le _, Duration.lt_wholeMinutes_add _⟩, ?_, ?_⟩
  · intro s' t' further fits' cycle'
    rw [cycle'.position (by omega) fits']
    exact Duration.wholeMinutes_mono further
  · intro n u cycles
    exact cycles.position played fits

/-- The lecture is left after 1:23:45. -/
def viewer : State :=
  { samplePlayer.shared with flickManager.current.position := ⟨5025000000⟩ }

/-- The player opened next, once its lookup is answered. -/
def returned : State :=
  (samplePlayer.shared.resume (.awaitingTime 1)
    (.answered 200 (some (.object [("current_time", .string "83")])))).shared

theorem leave_and_resume_sample :
    (returned.position.inMicroseconds ≤ 5025000000 ∧
      5025000000 < returned.position.inMicroseconds + 60000000) ∧
    (∀ s' t', viewer.position.inMicroseconds ≤ s'.position.inMicroseconds →
      IsInt s'.position.inMinutes → Cycle s' t' →
        returned.position.inMicroseconds ≤ t'.position.inMicroseconds) ∧
    ∀ n u, Cycles n viewer u → u.position = returned.position := by
  apply leave_and_resume (s := viewer) (by decide) (Duration.isInt_inMinutes (by decide))
  exact @Cycle.mk viewer .back (viewer.takePosition.playTime.report "Y") samplePlayer.shared 1 _
    List.mem_cons_self ⟨_, rfl, rfl⟩

end Edutopik.Media

import Edutopik.Library.OneCall
import Edutopik.Login.Body

/-! # A press decides by its own email

All presses on a built form share `emailCheck`. It is 1 whenever no press is at its
check: a press that sets it to 0 sets it back before it lets go. What a press does
after its check therefore depends on the text it checked and on no other press.
-/

namespace Edutopik.Login

open Dart EventLoop Machine

abbrev FormStep := Fired Form FormInput Effect

def Posts (steps : List FormStep) : Prop :=
  ∃ f ∈ steps, ∃ request, Effect.posts request ∈ f.effects

/-- The dialog of an email that is none is on the screen. -/
def ShowsNonEmailFormat (steps : List FormStep) : Prop :=
  ∃ f ∈ steps, Effect.opens .nonEmailFormat ∈ f.effects

/-- The next step of the call is the device id it reads. -/
def ReadsMobileId (steps : List FormStep) : Prop :=
  ∃ next more k id, steps = next :: more ∧ next.input = .resume k (.mobileId id)

/-- What a press whose email is checked in the step `check`, at place `k`, does from
    then on. -/
structure Decides (check : FormStep) (k : Nat) (rest : List FormStep) : Prop where
  identifies : check.after.tasks[k]? = some .identifying ↔
    hasMatch check.before.shared.email = true
  posts : Posts rest ↔ hasMatch check.before.shared.email = true ∧ ReadsMobileId rest
  shows : ShowsNonEmailFormat rest ↔ hasMatch check.before.shared.email = false ∧ rest ≠ []

/-- The steps of a press: none yet, the failure of its write, or its check and what it
    decides. -/
inductive Press : List FormStep → Prop
  | pending : Press []
  | unsaved {f k r} : f.input = .resume k r → r ≠ .done → f.effects = [] → Press [f]
  | checked {check k rest} : check.input = .resume k .done →
      .checks check.before.shared.email ∈ check.effects → Decides check k rest →
        Press (check :: rest)

/-- What the steps left of a press do, by what it waits for. -/
def PressFrom : Task → List FormStep → Prop
  | .saving _, steps => Press steps
  | .identifying, steps => (Posts steps ↔ ReadsMobileId steps) ∧ ¬ ShowsNonEmailFormat steps
  | .posting _, steps => ¬ Posts steps ∧ ¬ ShowsNonEmailFormat steps
  | .building route, steps =>
      ¬ Posts steps ∧ (ShowsNonEmailFormat steps ↔ route = .nonEmailFormat ∧ steps ≠ [])

/-! ## The flag -/

def Ready (w : Form) : Prop := w.shared.emailCheck = 1

theorem ready_step (w : Form) (i : FormInput) (ready : Ready w) : Ready (body.step w i).1 := by
  rcases step_cases w i with ⟨e, rfl⟩ | ⟨k, r, rfl, missing⟩ | ⟨k, r, t, rfl, located⟩
  · cases e <;> exact ready
  · rw [step_idle body missing]
    exact ready
  · rw [step_resume body located]
    have turn := Body.resumes w.shared t r
    rw [body_resume]
    generalize w.shared.resume t r = next at turn
    cases turn with
    | saved => simp [Ready, Body.saved_shared]
    | _ => exact ready

/-- No reply shows the dialog of an email that is none. -/
theorem loginRoute_ne {mobileId : String} {statusCode : Int} {res : JsonObject} {route : Route}
    (routed : loginRoute mobileId statusCode res = some route) : route ≠ .nonEmailFormat := by
  intro same
  subst same
  unfold loginRoute at routed
  split at routed
  · split at routed
    · split at routed
      · cases routed
      · split at routed <;> cases routed
    · cases routed
  · cases routed

/-! ## What one more step adds -/

theorem posts_cons {f : FormStep} {steps : List FormStep} :
    Posts (f :: steps) ↔ (∃ request, Effect.posts request ∈ f.effects) ∨ Posts steps := by
  simp [Posts]

theorem shows_cons {f : FormStep} {steps : List FormStep} :
    ShowsNonEmailFormat (f :: steps) ↔
      Effect.opens .nonEmailFormat ∈ f.effects ∨ ShowsNonEmailFormat steps := by
  simp [ShowsNonEmailFormat]

theorem not_posts_nil : ¬ Posts [] := by simp [Posts]

theorem not_shows_nil : ¬ ShowsNonEmailFormat [] := by simp [ShowsNonEmailFormat]

theorem not_posts_of_silent {f : FormStep} {steps : List FormStep} (silent : f.effects = [])
    (later : ¬ Posts steps) : ¬ Posts (f :: steps) := by
  rw [posts_cons, silent]
  simp [later]

theorem not_shows_of_silent {f : FormStep} {steps : List FormStep} (silent : f.effects = [])
    (later : ¬ ShowsNonEmailFormat steps) : ¬ ShowsNonEmailFormat (f :: steps) := by
  rw [shows_cons, silent]
  simp [later]

theorem not_readsMobileId_nil : ¬ ReadsMobileId [] := by simp [ReadsMobileId]

theorem pressFrom_nil (t : Task) : PressFrom t [] := by
  cases t with
  | saving value => exact .pending
  | identifying => exact ⟨iff_of_false not_posts_nil not_readsMobileId_nil, not_shows_nil⟩
  | posting request => exact ⟨not_posts_nil, not_shows_nil⟩
  | building route => exact ⟨not_posts_nil, iff_of_false not_shows_nil (by simp)⟩

/-! ## A press from step to step -/

section Stages

variable {w : Form} {k : Nat} {r : Result}

/-- A write that fails ends the press. -/
theorem press_unsaved {value : String} (located : w.tasks[k]? = some (.saving value))
    (failed : r ≠ .done) : Press [fire body.step w (.resume k r)] := by
  apply Press.unsaved rfl failed
  rw [fire_effects, effects_of_resume body located]
  cases r with
  | done => exact absurd rfl failed
  | _ => rfl

/-- The check, with whatever follows it. -/
theorem press_checked {value : String} {next : Task} {more : List Task} {steps : List FormStep}
    (ready : Ready w) (located : w.tasks[k]? = some (.saving value))
    (left : (w.shared.saved value).tasks = next :: more) (later : PressFrom next steps) :
    Press (fire body.step w (.resume k .done) :: steps) := by
  have checks : Effect.checks w.shared.email ∈ (fire body.step w (.resume k .done)).effects := by
    rw [fire_effects, effects_of_resume body located]
    simp [Body.resume, Body.saved_effects]
  have place : (fire body.step w (.resume k .done)).after.tasks[k]? = some next :=
    place_of_resume body located left
  rw [Body.saved_tasks ready] at left
  apply Press.checked rfl checks
  by_cases accepted : hasMatch w.shared.email = true
  · rw [if_pos accepted] at left
    cases left
    exact
      { identifies := iff_of_true place accepted
        posts := later.1.trans ⟨fun reads => ⟨accepted, reads⟩, fun both => both.2⟩
        shows := iff_of_false later.2 (by simp [accepted]) }
  · rw [if_neg accepted] at left
    cases left
    have rejected : hasMatch w.shared.email = false := by simpa using accepted
    exact
      { identifies := iff_of_false (by rw [place]; simp) accepted
        posts := iff_of_false later.1 (fun both => accepted both.1)
        shows := later.2.trans ⟨fun both => ⟨rejected, both.2⟩, fun both => ⟨rfl, both.2⟩⟩ }

/-- The device id arrives: the press posts. -/
theorem pressFrom_read {id : String} {request : LoginRequest} {steps : List FormStep}
    (located : w.tasks[k]? = some .identifying) (later : PressFrom (.posting request) steps) :
    PressFrom .identifying (fire body.step w (.resume k (.mobileId id)) :: steps) := by
  have effects : (fire body.step w (.resume k (.mobileId id))).effects =
      (w.shared.identified id).effects := effects_of_resume body located _
  constructor
  · apply iff_of_true
    · apply posts_cons.mpr
      rw [effects]
      exact .inl ⟨_, List.mem_singleton_self _⟩
    · exact ⟨_, _, k, id, rfl, rfl⟩
  · intro shown
    rcases shows_cons.mp shown with here | after
    · rw [effects] at here
      simp [Body.identified] at here
    · exact later.2 after

/-- It cannot be read: the press ends. -/
theorem pressFrom_unread (located : w.tasks[k]? = some .identifying)
    (unread : ∀ id, r ≠ .mobileId id) : PressFrom .identifying [fire body.step w (.resume k r)] := by
  have silent : (fire body.step w (.resume k r)).effects = [] := by
    rw [fire_effects, effects_of_resume body located]
    cases r with
    | mobileId id => exact absurd rfl (unread id)
    | _ => rfl
  have reads : ¬ ReadsMobileId [fire body.step w (.resume k r)] := by
    intro reads
    obtain ⟨next, more, j, id, same, input⟩ := reads
    cases same
    cases input
    exact unread id rfl
  exact ⟨iff_of_false (not_posts_of_silent silent not_posts_nil) reads,
    not_shows_of_silent silent not_shows_nil⟩

theorem effects_of_posting {request : LoginRequest} (located : w.tasks[k]? = some (.posting request)) :
    (fire body.step w (.resume k r)).effects = [] := by
  rw [fire_effects, effects_of_resume body located, body_resume]
  have turn := Body.resumes w.shared (.posting request) r
  generalize w.shared.resume (.posting request) r = next at turn
  cases turn with
  | _ => rfl

/-- A press whose reply is read is not one whose email is none. -/
theorem route_of_posting {request : LoginRequest} {next : Task} {more : List Task}
    (left : (w.shared.resume (.posting request) r).tasks = next :: more) :
    ∃ route, next = .building route ∧ route ≠ .nonEmailFormat := by
  cases r with
  | replied reply =>
      simp only [Body.resume, Body.answered] at left
      split at left
      · cases left
      · split at left
        · cases left
        · rename_i routed
          cases left
          exact ⟨_, rfl, loginRoute_ne routed⟩
  | _ => cases left

theorem pressFrom_built {route : Route} (located : w.tasks[k]? = some (.building route)) :
    PressFrom (.building route) [fire body.step w (.resume k r)] := by
  have effects : (fire body.step w (.resume k r)).effects =
      [.opens (route.build w.shared.email w.shared.password)] := effects_of_resume body located r
  constructor
  · rw [posts_cons, effects]
    simp [not_posts_nil]
  · rw [shows_cons, effects]
    cases route <;> simp [Route.build, not_shows_nil]

end Stages

theorem pressFrom_end (w : Form) (k : Nat) (t : Task) (r : Result) (ready : Ready w)
    (located : w.tasks[k]? = some t) (left : (body.resume w.shared t r).tasks = []) :
    PressFrom t [fire body.step w (.resume k r)] := by
  cases t with
  | saving value =>
      apply press_unsaved located
      intro done
      subst done
      have tasks := Body.saved_tasks ready value
      rw [show (w.shared.saved value).tasks = [] from left] at tasks
      split at tasks <;> cases tasks
  | identifying =>
      apply pressFrom_unread located
      intro id read
      subst read
      cases left
  | posting request =>
      have silent := effects_of_posting (r := r) located
      exact ⟨not_posts_of_silent silent not_posts_nil, not_shows_of_silent silent not_shows_nil⟩
  | building route => exact pressFrom_built located

theorem pressFrom_going (w : Form) (k : Nat) (t : Task) (r : Result) (next : Task)
    (more : List Task) (steps : List FormStep) (ready : Ready w) (located : w.tasks[k]? = some t)
    (left : (body.resume w.shared t r).tasks = next :: more) (later : PressFrom next steps) :
    PressFrom t (fire body.step w (.resume k r) :: steps) := by
  cases t with
  | saving value =>
      cases r with
      | done => exact press_checked ready located left later
      | _ => cases left
  | identifying =>
      cases r with
      | mobileId id =>
          cases left
          exact pressFrom_read located later
      | _ => cases left
  | posting request =>
      obtain ⟨route, rfl, another⟩ := route_of_posting left
      have silent := effects_of_posting (r := r) located
      have shows : ¬ ShowsNonEmailFormat steps := fun shown => another (later.2.mp shown).1
      exact ⟨not_posts_of_silent silent later.1, not_shows_of_silent silent shows⟩
  | building route => cases left

/-- From a form as built and whatever came before: each press reads the device id and
    posts, or shows the dialog, by the text at its own check. -/
theorem press_decides {w : Form} (built : w.shared.emailCheck = 1) (front : List FormInput)
    {k : Nat} {value : String} (pending : (final body.step w front).tasks[k]? = some (.saving value))
    (is : List FormInput) :
    (body.call (final body.step w front) k is).Sublist (run body.step (final body.step w front) is) ∧
      Press (body.call (final body.step w front) k is) := by
  have ready : Ready (final body.step w front) := final_of_kept ready_step built front
  refine ⟨call_sublist body _ k is, ?_⟩
  exact call_rule ready_step pressFrom_nil pressFrom_end pressFrom_going ready pending is

/-- LOGIN is pressed with half an email in the field. -/
def halfTyped : List FormInput := [.event (.editEmail "kim"), .event .login]

/-- It is checked, the email is completed and LOGIN pressed again before the dialog of
    the first press is on the screen. -/
def completed : List FormInput :=
  [.resume 0 .done, .event (.editEmail "kim@edutopik.com"), .event .login, .resume 1 .done,
    .resume 0 .done, .resume 0 (.mobileId "device-a")]

example : (body.call (final body.step ⟨{ storage := none }, []⟩ halfTyped) 0 completed).length = 2 := by
  decide

theorem press_decides_sample :
    (body.call (final body.step ⟨{ storage := none }, []⟩ halfTyped) 0 completed).Sublist
        (run body.step (final body.step ⟨{ storage := none }, []⟩ halfTyped) completed) ∧
      Press (body.call (final body.step ⟨{ storage := none }, []⟩ halfTyped) 0 completed) :=
  press_decides (w := ⟨{ storage := none }, []⟩) rfl halfTyped (k := 0) rfl completed

end Edutopik.Login

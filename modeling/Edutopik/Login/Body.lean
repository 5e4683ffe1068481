import Edutopik.Library.EventLoop
import Edutopik.Login.EmailPattern
import Edutopik.Login.LoginProc

/-! # The login form

Every press of LOGIN is a call of its own: it saves what the fields hold, checks the
email, reads the device id, posts, and shows a route. The fields are read again
after each await, and once more when the route is built.

A write takes effect when its await completes. What is shown covers the form but
does not remove it, so presses and edits are admitted at any time.
-/

namespace Edutopik.Login

open Dart EventLoop

/-- `_BodyState`, the two text controllers, and the storage key `login`. -/
structure Body where
  storage : Option String
  email : String := ""
  password : String := ""
  /-- The variable of `build` that every press on one built form shares. -/
  emailCheck : Int := 1

/-- Where a press is suspended. -/
inductive Task where
  | saving (value : String)
  | identifying
  | posting (request : LoginRequest)
  /-- A route pushed and not built yet. -/
  | building (route : Route)
  deriving DecidableEq, Repr

inductive Event where
  | editEmail (text : String)
  | editPassword (text : String)
  | login

/-- What an await ends in. -/
inductive Result where
  | done
  | mobileId (id : String)
  | replied (reply : Reply)
  | raised

/-- A route as built. -/
inductive Screen where
  | home (uuid email : String)
  | devOveruse (userId mobileId pass : String)
  | devNew (userId mobileId pass deleteDeviceUUID : String)
  | incorrectAcc
  | nonEmailFormat
  deriving DecidableEq, Repr

inductive Effect where
  | saves (value : String)
  | checks (email : String)
  | posts (request : LoginRequest)
  | opens (screen : Screen)
  | deletes (value : Option String)
  deriving DecidableEq, Repr

abbrev Form := World Body Task

abbrev FormInput := Input Event Result

/-- What the builder of a route reads from the fields. -/
def Route.build (email password : String) : Route → Screen
  | .home mobileId => .home mobileId email
  | .devOveruse mobileId => .devOveruse email mobileId password
  | .devNew mobileId => .devNew email mobileId password " "
  | .incorrectAcc => .incorrectAcc
  | .nonEmailFormat => .nonEmailFormat

namespace Body

def idle (s : Body) : Turn Body Task Effect := { shared := s }

def login (s : Body) : Turn Body Task Effect :=
  { shared := s, tasks := [.saving (credential s.email s.password)] }

def react (s : Body) : Event → Turn Body Task Effect
  | .editEmail text => { shared := { s with email := text } }
  | .editPassword text => { shared := { s with password := text } }
  | .login => s.login

/-- The write is done: the email is checked as it is now. A text that fails sets
    `emailCheck` to 0 and the branch taken then sets it back. -/
def saved (s : Body) (value : String) : Turn Body Task Effect :=
  let written := { s with storage := some value }
  let checked := if hasMatch s.email then written else { written with emailCheck := 0 }
  if checked.emailCheck = 1 then
    { shared := checked, tasks := [.identifying], effects := [.saves value, .checks s.email] }
  else
    { shared := { checked with emailCheck := 1 }
      tasks := [.building .nonEmailFormat]
      effects := [.saves value, .checks s.email] }

def identified (s : Body) (mobileId : String) : Turn Body Task Effect :=
  let request : LoginRequest := { eMail := s.email, deviceId := mobileId, userPW := s.password }
  { shared := s, tasks := [.posting request], effects := [.posts request] }

def answered (s : Body) (request : LoginRequest) (reply : Reply) : Turn Body Task Effect :=
  match reply.decode with
  | none => s.idle
  | some (statusCode, res) =>
      match loginRoute request.deviceId statusCode res with
      | none => s.idle
      | some route => { shared := s, tasks := [.building route] }

def built (s : Body) (route : Route) : Turn Body Task Effect :=
  { shared := s, effects := [.opens (route.build s.email s.password)] }

/-- Any result but the one awaited ends the call, as an exception does. -/
def resume (s : Body) : Task → Result → Turn Body Task Effect
  | .saving value, .done => s.saved value
  | .identifying, .mobileId id => s.identified id
  | .posting request, .replied reply => s.answered request reply
  | .building route, _ => s.built route
  | _, _ => s.idle

end Body

def body : Loop Body Task Event Result Effect where
  react := Body.react
  resume := Body.resume

@[simp] theorem body_react : body.react = Body.react := rfl

@[simp] theorem body_resume : body.resume = Body.resume := rfl

namespace Body

variable {s : Body}

theorem saved_eq (s : Body) (value : String) :
    s.saved value =
      { shared := { s with storage := some value, emailCheck := 1 }
        tasks :=
          if hasMatch s.email = true ∧ s.emailCheck = 1 then [.identifying]
          else [.building .nonEmailFormat]
        effects := [.saves value, .checks s.email] } := by
  by_cases accepted : hasMatch s.email = true
  · by_cases kept : s.emailCheck = 1
    · simp [saved, accepted, kept]
    · simp [saved, accepted, kept]
  · simp [saved, accepted]

/-- Whatever `emailCheck` was, it is 1 once the turn ends: the branch that finds it
    changed changes it back. -/
theorem saved_shared (value : String) :
    (s.saved value).shared = { s with storage := some value, emailCheck := 1 } := by
  rw [saved_eq]

theorem saved_effects (value : String) :
    (s.saved value).effects = [.saves value, .checks s.email] := by
  rw [saved_eq]

/-- With the flag at 1 a press goes on by the text in the field. -/
theorem saved_tasks (ready : s.emailCheck = 1) (value : String) :
    (s.saved value).tasks =
      if hasMatch s.email = true then [.identifying] else [.building .nonEmailFormat] := by
  rw [saved_eq]
  simp [ready]

/-- What the turn of a task can be: one of the four stages of a press, or an end that
    does nothing. -/
inductive Resumes (s : Body) : Task → Result → Turn Body Task Effect → Prop where
  | saved {value} : Resumes s (.saving value) .done (s.saved value)
  | identified {id} : Resumes s .identifying (.mobileId id) (s.identified id)
  | shows {request reply route} : Resumes s (.posting request) (.replied reply)
      { shared := s, tasks := [.building route] }
  | built {route r} : Resumes s (.building route) r (s.built route)
  | ends {t r} : Resumes s t r s.idle

theorem resumes (s : Body) (t : Task) (r : Result) : Resumes s t r (s.resume t r) := by
  cases t with
  | saving value =>
      cases r with
      | done => exact .saved
      | _ => exact .ends
  | identifying =>
      cases r with
      | mobileId id => exact .identified
      | _ => exact .ends
  | posting request =>
      cases r with
      | replied reply =>
          simp only [resume, answered]
          split
          · exact .ends
          · split
            · exact .ends
            · exact .shows
      | _ => exact .ends
  | building route => exact .built

/-- No stage of a press leaves a write behind. -/
theorem not_saving_of_resume (t : Task) (r : Result) (value : String) :
    Task.saving value ∉ (s.resume t r).tasks := by
  have turn := resumes s t r
  generalize s.resume t r = next at turn
  cases turn with
  | saved =>
      simp only [saved]
      split <;> split <;> simp
  | identified => simp [identified]
  | shows => simp
  | built => simp [built]
  | ends => simp [idle]

/-- The stages after the write leave the storage alone. -/
theorem resume_shared {t : Task} {r : Result} (after : ∀ value, t ≠ .saving value) :
    (s.resume t r).shared = s := by
  have turn := resumes s t r
  generalize s.resume t r = next at turn
  cases turn with
  | saved => exact absurd rfl (after _)
  | _ => rfl

theorem not_deletes_of_resume (t : Task) (r : Result) (value : Option String) :
    Effect.deletes value ∉ (s.resume t r).effects := by
  have turn := resumes s t r
  generalize s.resume t r = next at turn
  cases turn with
  | saved => simp [saved_effects]
  | identified => simp [identified]
  | shows => simp
  | built => simp [built]
  | ends => simp [idle]

end Body

theorem storage_of_saving {w : Form} {k : Nat} {value : String}
    (located : w.tasks[k]? = some (.saving value)) :
    (body.step w (.resume k .done)).1.shared.storage = some value := by
  rw [step_resume body located]
  simp [Body.resume, Body.saved_shared]

/-- A step of the form leaves the storage alone or is a write taking effect. -/
theorem storage_cases (w : Form) (i : FormInput) :
    (body.step w i).1.shared.storage = w.shared.storage ∨
      ∃ k value, i = .resume k .done ∧ w.tasks[k]? = some (.saving value) ∧
        (body.step w i).1.shared.storage = some value := by
  rcases step_cases w i with ⟨e, rfl⟩ | ⟨k, r, rfl, missing⟩ | ⟨k, r, t, rfl, located⟩
  · cases e <;> exact .inl rfl
  · rw [step_idle body missing]
    exact .inl rfl
  · rw [step_resume body located]
    cases t with
    | saving value =>
        cases r with
        | done => exact .inr ⟨k, value, rfl, located, by simp [Body.resume, Body.saved_shared]⟩
        | _ => exact .inl rfl
    | _ => exact .inl (congrArg Body.storage (Body.resume_shared (by simp)))

/-- The form deletes nothing. -/
theorem not_deletes_of_form (w : Form) (i : FormInput) (value : Option String) :
    Effect.deletes value ∉ (body.step w i).2 := by
  rcases step_cases w i with ⟨e, rfl⟩ | ⟨k, r, rfl, missing⟩ | ⟨k, r, t, rfl, located⟩
  · cases e <;> simp [step_event, Body.react, Body.login]
  · simp [step_idle body missing]
  · rw [step_resume body located]
    exact Body.not_deletes_of_resume t r value

end Edutopik.Login

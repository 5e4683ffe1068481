import Edutopik.Login.Body

/-! # One press, one account

A press reads the email field at up to three later points and the password field at
two. What it saves, checks, sends and opens is about one account exactly if each of
those reads finds the fields as the press found them.
-/

namespace Edutopik.Login

open Dart EventLoop Machine

/-- The fields a route's builder reads. -/
def Route.readsEmail : Route → Bool
  | .home _ | .devOveruse _ | .devNew _ => true
  | .incorrectAcc | .nonEmailFormat => false

def Route.readsPassword : Route → Bool
  | .devOveruse _ | .devNew _ => true
  | .home _ | .incorrectAcc | .nonEmailFormat => false

/-- Whether a stage that ends in `r` goes on to read the email field. -/
def Task.readsEmail : Task → Result → Bool
  | .saving _, .done => true
  | .identifying, .mobileId _ => true
  | .building route, _ => route.readsEmail
  | _, _ => false

def Task.readsPassword : Task → Result → Bool
  | .identifying, .mobileId _ => true
  | .building route, _ => route.readsPassword
  | _, _ => false

/-- The screen is for the account, as far as it is for any. -/
def Screen.Names (email password : String) : Screen → Prop
  | .home _ given => given = email
  | .devOveruse given _ pass => given = email ∧ pass = password
  | .devNew given _ pass _ => given = email ∧ pass = password
  | .incorrectAcc | .nonEmailFormat => True

/-- What is saved, checked, sent or opened is the account's. -/
def Effect.Names (email password : String) : Effect → Prop
  | .saves value => value = credential email password
  | .checks given => given = email
  | .posts request => request.eMail = email ∧ request.userPW = password
  | .opens screen => screen.Names email password
  | .deletes _ => True

/-- Any input of the form but a further press. -/
abbrev EditInput := {i : FormInput // i ≠ .event .login}

def editStep : Machine.Step Form EditInput Effect := fun w i => body.step w i

/-- A stage that reads a field finds it as it was when LOGIN was pressed. -/
def Unedited (email password : String) (w : Form) (i : EditInput) : Prop :=
  ∀ k r t, i.val = .resume k r → w.tasks[k]? = some t →
    (t.readsEmail r = true → w.shared.email = email) ∧
      (t.readsPassword r = true → w.shared.password = password)

/-- The form right after a press of LOGIN with nothing else under way. -/
def pressed (s : Body) : Form := (body.step ⟨s, []⟩ (.event .login)).1

/-- The write still pending is the one of the press. -/
def SavesOwn (email password : String) (w : Form) : Prop :=
  ∀ value, Task.saving value ∈ w.tasks → value = credential email password

variable {email password : String}

theorem build_names_iff (s : Body) (route : Route) :
    (route.build s.email s.password).Names email password ↔
      (route.readsEmail = true → s.email = email) ∧
        (route.readsPassword = true → s.password = password) := by
  cases route <;> simp [Route.build, Screen.Names, Route.readsEmail, Route.readsPassword]

/-- A stage acts for the account exactly if what it reads is the account's. -/
theorem resume_names_iff {s : Body} {t : Task} (r : Result)
    (own : ∀ value, t = .saving value → value = credential email password) :
    (∀ e ∈ (s.resume t r).effects, e.Names email password) ↔
      (t.readsEmail r = true → s.email = email) ∧
        (t.readsPassword r = true → s.password = password) := by
  cases t with
  | saving value =>
      cases r with
      | done =>
          have same : value = credential email password := own value rfl
          simp [Body.resume, Body.saved_effects, Effect.Names, Task.readsEmail, Task.readsPassword, same]
      | _ => simp [Body.resume, Body.idle, Task.readsEmail, Task.readsPassword]
  | identifying =>
      cases r with
      | mobileId id =>
          simp [Body.resume, Body.identified, Effect.Names, Task.readsEmail, Task.readsPassword]
      | _ => simp [Body.resume, Body.idle, Task.readsEmail, Task.readsPassword]
  | posting request =>
      cases r with
      | replied reply =>
          simp only [Body.resume, Body.answered]
          split
          · simp [Body.idle, Task.readsEmail, Task.readsPassword]
          · split <;> simp [Body.idle, Task.readsEmail, Task.readsPassword]
      | _ => simp [Body.resume, Body.idle, Task.readsEmail, Task.readsPassword]
  | building route =>
      simpa [Body.resume, Body.built, Effect.Names, Task.readsEmail, Task.readsPassword] using
        build_names_iff s route

theorem savesOwn_step (w : Form) (i : EditInput) (own : SavesOwn email password w) :
    SavesOwn email password (editStep w i).1 := by
  obtain ⟨i, noPress⟩ := i
  intro value pending
  simp only [editStep] at pending
  rcases step_cases w i with ⟨e, rfl⟩ | ⟨k, r, rfl, missing⟩ | ⟨k, r, t, rfl, located⟩
  · rw [step_event body] at pending
    rcases List.mem_append.mp pending with old | new
    · exact own value old
    · cases e with
      | login => exact absurd rfl noPress
      | editEmail text => simp [body, Body.react] at new
      | editPassword text => simp [body, Body.react] at new
  · rw [step_idle body missing] at pending
    exact own value pending
  · rw [step_resume body located] at pending
    rcases mem_replaceAt pending with new | old
    · exact absurd new (Body.not_saving_of_resume t r value)
    · exact own value old

theorem names_iff_unedited (w : Form) (i : EditInput) (own : SavesOwn email password w) :
    (∀ e ∈ (fire editStep w i).effects, e.Names email password) ↔ Unedited email password w i := by
  obtain ⟨i, noPress⟩ := i
  simp only [fire_effects, editStep]
  rcases step_cases w i with ⟨e, rfl⟩ | ⟨k, r, rfl, missing⟩ | ⟨k, r, t, rfl, located⟩
  · apply iff_of_true
    · cases e <;> simp [step_event, body, Body.react, Body.login]
    · intro k r t input
      cases input
  · apply iff_of_true (by simp [step_idle body missing])
    intro k' r' t input there
    cases input
    rw [missing] at there
    cases there
  · rw [step_resume body located]
    have here : ∀ value, t = .saving value → value = credential email password := by
      intro value same
      subst same
      exact own value (List.mem_of_getElem? located)
    apply (resume_names_iff r here).trans
    constructor
    · intro reads k' r' t' input there
      cases input
      rw [located] at there
      cases there
      exact reads
    · intro unedited
      exact unedited k r t rfl located

/-- For one press of LOGIN, whatever is edited, however its awaits are interleaved
    with the edits and whatever they end in: all that is saved, checked, sent and
    opened is about the account in the fields at the press, exactly if every stage
    that reads a field finds it unedited. -/
theorem press_names_one_account_iff (s : Body) (is : List EditInput) :
    (∀ f ∈ run editStep (pressed s) is, ∀ e ∈ f.effects, e.Names s.email s.password) ↔
      ∀ f ∈ run editStep (pressed s) is, Unedited s.email s.password f.before f.input := by
  have start : SavesOwn s.email s.password (pressed s) := by
    intro value pending
    simpa [pressed, step_event, body, Body.react, Body.login] using pending
  exact good_iff_guarded (fun w i own _ => savesOwn_step w i own)
    (fun w i own unedited => (names_iff_unedited w i own).mpr unedited)
    (fun w i own edited names => edited ((names_iff_unedited w i own).mp names)) start is

/-- A form with the fields filled in. -/
def filledIn (email password : String) : Body :=
  { storage := none, email := email, password := password }

/-- The email is edited while the reply is awaited. -/
def editedPress : List EditInput :=
  [⟨.resume 0 .done, by simp⟩, ⟨.resume 0 (.mobileId "device-a"), by simp⟩,
    ⟨.event (.editEmail "lee@edutopik.com"), by simp⟩,
    ⟨.resume 0 (.replied (.answered 200 (some (.object
      [("IsLogin", .string "true"), ("IsRegister", .string "true")])))), by simp⟩,
    ⟨.resume 0 .done, by simp⟩]

/-- The password of one account is checked, and the home page opens for another. -/
theorem editedPress_opens_other :
    Effect.posts ⟨"kim@edutopik.com", "device-a", "pw"⟩ ∈
        output editStep (pressed (filledIn "kim@edutopik.com" "pw")) editedPress ∧
      Effect.opens (.home "device-a" "lee@edutopik.com") ∈
        output editStep (pressed (filledIn "kim@edutopik.com" "pw")) editedPress := by
  decide

end Edutopik.Login

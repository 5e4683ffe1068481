import Edutopik.Otp.OtpForm

/-! # Whose code registers whose device

Firebase issues an id for one request and accepts one code for it. A form that is
confirmed signs in with whichever id was delivered last. Its registration is bound to
its own account exactly if a code that Firebase will accept is only ever confirmed on
a form of the account that the id was issued for.
-/

namespace Edutopik.Otp

open Dart EventLoop Machine

/-- What Firebase knows of an id: the account whose `sendMessage` it was issued for, and
    the code it sent to that account's phone. -/
structure Firebase where
  account : String → Option String
  code : String → Option String

namespace Firebase

variable (fb : Firebase)

/-- What Firebase can bring: an id issued for the request that waits for it, and a user
    exactly for the code that was sent. -/
def delivers (w : App) : AppInput → Bool
  | .event _ => true
  | .resume k r =>
      match w.tasks[k]?, r with
      | some (.verifying userId _), .codeSent id => fb.account id = some userId
      | some (.signingIn _ _ credential), .signedIn true =>
          fb.code credential.verificationId = some credential.smsCode
      | some (.signingIn _ _ credential), _ =>
          fb.code credential.verificationId ≠ some credential.smsCode
      | _, _ => true

/-- The app together with Firebase: what Firebase does not bring does not happen. -/
def step : Machine.Step App AppInput Effect := fun w i =>
  if fb.delivers w i then otp.step w i else (w, [])

end Firebase

/-- The step is a sign-in of the form that gave a user. -/
def SignsIn (place : Nat) (form : OtpForm) (credential : Credential)
    (f : Fired App AppInput Effect) : Prop :=
  ∃ k, f.input = .resume k (.signedIn true) ∧
    f.before.tasks[k]? = some (.signingIn place form credential)

/-- The step goes on after the form's sign-in with the credential, and registers. -/
def Registers (place : Nat) (form : OtpForm) (credential : Credential) (registration : Registration)
    (f : Fired App AppInput Effect) : Prop :=
  ∃ k name, f.input = .resume k (.deviceName name) ∧
    f.before.tasks[k]? = some (.naming place form credential) ∧
      registration = form.registration name

/-- Every registration follows a sign-in, by the same form, with an id that was issued
    for the account it registers. -/
def Bound (fb : Firebase) (is : List AppInput) : Prop :=
  ∀ pre f post, run fb.step ⟨{}, []⟩ is = pre ++ f :: post →
    ∀ registration, Effect.deviceRegister registration ∈ f.effects →
      ∃ place form credential, Registers place form credential registration f ∧
        fb.account credential.verificationId = some registration.eMail ∧
          ∃ g ∈ pre, SignsIn place form credential g

/-- A form is confirmed with the code sent for the id held only if that id was issued
    for the form's account. -/
def CodeIsOwn (fb : Firebase) (w : App) : AppInput → Prop
  | .event (.confirm place codes) => ∀ form, w.shared.form? place = some form →
      fb.code w.shared.verificationId1 = some codes.code →
        fb.account w.shared.verificationId1 = some form.userId
  | _ => True

/-- What comes in after the last event. -/
def Answers (i : AppInput) : Prop := ∃ k r, i = .resume k r

/-! ## What the pending tasks rely on -/

/-- A sign-in that Firebase will accept, or has accepted, is with an id of the form's
    account. -/
def BoundTask (fb : Firebase) : Task → Prop
  | .signingIn _ form credential =>
      fb.code credential.verificationId = some credential.smsCode →
        fb.account credential.verificationId = some form.userId
  | .naming _ form credential => fb.account credential.verificationId = some form.userId
  | _ => True

def BoundTasks (fb : Firebase) (w : App) : Prop := ∀ t ∈ w.tasks, BoundTask fb t

/-- One registration, taken alone. -/
def PostsOwn (fb : Firebase) (f : Fired App AppInput Effect) : Prop :=
  ∀ registration, Effect.deviceRegister registration ∈ f.effects →
    ∃ place form credential, Registers place form credential registration f ∧
      fb.account credential.verificationId = some registration.eMail

section Steps

variable {fb : Firebase} {w : App} {i : AppInput}

theorem Firebase.step_delivered (brought : fb.delivers w i = true) : fb.step w i = otp.step w i :=
  if_pos brought

theorem Firebase.step_idle (kept : fb.delivers w i = false) : fb.step w i = (w, []) := by
  simp [Firebase.step, kept]

/-- A task that Firebase brings forward leaves one as bound as it was. -/
theorem boundTask_of_resume {k : Nat} {t t' : Task} {r : Result}
    (located : w.tasks[k]? = some t) (brought : fb.delivers w (.resume k r) = true)
    (bound : BoundTask fb t) (spawned : t' ∈ (w.shared.resume t r).tasks) : BoundTask fb t' := by
  cases spawns_of_resume spawned with
  | verifying => trivial
  | naming =>
      rename_i place form credential
      have sent : fb.code credential.verificationId = some credential.smsCode := by
        simpa only [Firebase.delivers, located, decide_eq_true_eq] using brought
      exact bound sent
  | registering => trivial

theorem boundTask_of_react {e : Event} (own : CodeIsOwn fb w (.event e)) {t : Task}
    (spawned : t ∈ (w.shared.react e).tasks) : BoundTask fb t := by
  cases starts_of_react spawned with
  | awaitingPhone => trivial
  | signingIn there => exact own _ there

end Steps

theorem boundTasks_step (fb : Firebase) (w : App) (i : AppInput) (bound : BoundTasks fb w)
    (own : CodeIsOwn fb w i) : BoundTasks fb (fb.step w i).1 := by
  cases brought : fb.delivers w i with
  | false =>
      rw [Firebase.step_idle brought]
      exact bound
  | true =>
      rw [Firebase.step_delivered brought]
      rcases step_cases w i with ⟨e, rfl⟩ | ⟨k, r, rfl, missing⟩ | ⟨k, r, t, rfl, located⟩
      · intro t pending
        exact (List.mem_append.mp pending).elim (bound t) (boundTask_of_react own)
      · rw [EventLoop.step_idle otp missing]
        exact bound
      · rw [step_resume otp located]
        intro t' pending
        rcases mem_replaceAt pending with new | old
        · exact boundTask_of_resume located brought (bound t (List.mem_of_getElem? located)) new
        · exact bound t' old

theorem postsOwn_of_bound (fb : Firebase) (w : App) (i : AppInput) (bound : BoundTasks fb w) :
    PostsOwn fb (fire fb.step w i) := by
  intro registration sent
  simp only [fire_effects] at sent
  cases brought : fb.delivers w i with
  | false => simp [Firebase.step_idle brought] at sent
  | true =>
      rw [Firebase.step_delivered brought] at sent
      rcases step_cases w i with ⟨e, rfl⟩ | ⟨k, r, rfl, missing⟩ | ⟨k, r, t, rfl, located⟩
      · exact absurd sent (not_deviceRegister_of_react w.shared e registration)
      · simp [EventLoop.step_idle otp missing] at sent
      · rw [step_resume otp located] at sent
        obtain ⟨place, form, credential, name, rfl, rfl, same⟩ := naming_of_deviceRegister sent
        have issued : fb.account credential.verificationId = some form.userId :=
          bound _ (List.mem_of_getElem? located)
        exact ⟨place, form, credential, ⟨k, name, rfl, located, same⟩, by rw [same]; exact issued⟩

/-! ## A confirmation that is not bound -/

section Foreign

variable {fb : Firebase} {w : App} {k place : Nat} {form : OtpForm} {credential : Credential}

/-- A pending sign-in with the code that was sent goes on to read the device's name. -/
theorem step_signedIn (pending : w.tasks[k]? = some (.signingIn place form credential))
    (sent : fb.code credential.verificationId = some credential.smsCode) :
    (fb.step w (.resume k (.signedIn true))).1.tasks[k]? = some (.naming place form credential) := by
  have brought : fb.delivers w (.resume k (.signedIn true)) = true := by
    simp [Firebase.delivers, pending, sent]
  rw [Firebase.step_delivered brought]
  exact place_of_resume otp pending rfl

/-- A form that reads the device's name registers, whoever the id was issued for. -/
theorem not_postsOwn_of_naming (pending : w.tasks[k]? = some (.naming place form credential))
    (foreign : fb.account credential.verificationId ≠ some form.userId) (name : String) :
    ¬ PostsOwn fb (fire fb.step w (.resume k (.deviceName name))) := by
  intro own
  have brought : fb.delivers w (.resume k (.deviceName name)) = true := by
    simp [Firebase.delivers, pending]
  have sent : Effect.deviceRegister (form.registration name) ∈
      (fire fb.step w (.resume k (.deviceName name))).effects := by
    rw [fire_effects, Firebase.step_delivered brought, step_resume otp pending]
    exact List.mem_cons_self
  obtain ⟨place', form', credential', ⟨k', name', input, located, -⟩, issued⟩ := own _ sent
  cases input
  rw [fire_before, pending] at located
  cases located
  exact foreign issued

/-- Firebase accepts the code, and the form registers. -/
theorem exposes_foreign (fb : Firebase) (w : App) (i : AppInput) (foreign : ¬ CodeIsOwn fb w i) :
    ∃ tail, (∀ j ∈ tail, Answers j) ∧ ∃ f ∈ run fb.step w (i :: tail), ¬ PostsOwn fb f := by
  unfold CodeIsOwn at foreign
  split at foreign
  · rename_i place codes
    simp only [Classical.not_forall] at foreign
    obtain ⟨form, there, sent, other⟩ := foreign
    have confirmed : (fb.step w (.event (.confirm place codes))).1.tasks[w.tasks.length]? =
        some (.signingIn place form ⟨w.shared.verificationId1, codes.code⟩) := by
      rw [Firebase.step_delivered rfl]
      simp [step_event, State.react, there, State.confirm]
    refine ⟨[.resume w.tasks.length (.signedIn true), .resume w.tasks.length (.deviceName "iPhone")],
      ?_, _, ?_, not_postsOwn_of_naming (step_signedIn confirmed sent) other "iPhone"⟩
    · simp [Answers]
    · simp
  · exact absurd trivial foreign

end Foreign

/-! ## Where a registration comes from -/

/-- A form that reads the device's name has signed in before. -/
theorem exists_signsIn {fb : Firebase} {is : List AppInput} {place : Nat} {form : OtpForm}
    {credential : Credential}
    (pending : Task.naming place form credential ∈ (final fb.step ⟨{}, []⟩ is).tasks) :
    ∃ g ∈ run fb.step ⟨{}, []⟩ is, SignsIn place form credential g := by
  obtain ⟨g, member, absent, present⟩ :=
    exists_gain fb.step (p := fun w : App => Task.naming place form credential ∈ w.tasks) pending
      (by simp)
  refine ⟨g, member, ?_⟩
  rw [eq_fire_of_mem fb.step member, fire_after] at present
  cases brought : fb.delivers g.before g.input with
  | false =>
      rw [Firebase.step_idle brought] at present
      exact absurd present absent
  | true =>
      rw [Firebase.step_delivered brought] at present
      rcases step_cases g.before g.input with
        ⟨e, input⟩ | ⟨k, r, input, missing⟩ | ⟨k, r, t, input, located⟩
      · rw [input, step_event] at present
        rcases List.mem_append.mp present with old | new
        · exact absurd old absent
        · cases starts_of_react new
      · rw [input, EventLoop.step_idle otp missing] at present
        exact absurd present absent
      · rw [input, step_resume otp located] at present
        rcases mem_replaceAt present with new | old
        · cases spawns_of_resume new
          exact ⟨k, input, located⟩
        · exact absurd old absent

theorem bound_of_postsOwn {fb : Firebase} {is : List AppInput}
    (own : ∀ f ∈ run fb.step ⟨{}, []⟩ is, PostsOwn fb f) : Bound fb is := by
  intro pre f post shape registration sent
  obtain ⟨place, form, credential, registers, issued⟩ :=
    own f (by rw [shape]; simp) registration sent
  obtain ⟨k, name, input, located, same⟩ := registers
  obtain ⟨front, back, rfl, rfl, fired, -⟩ := exists_cut fb.step shape
  have before : f.before = final fb.step ⟨{}, []⟩ front := by rw [fired]; rfl
  rw [before] at located
  refine ⟨place, form, credential, ⟨k, name, input, ?_, same⟩, issued,
    exists_signsIn (List.mem_of_getElem? located)⟩
  rw [before]
  exact located

theorem postsOwn_of_bounded {fb : Firebase} {is : List AppInput} (bound : Bound fb is) :
    ∀ f ∈ run fb.step ⟨{}, []⟩ is, PostsOwn fb f := by
  intro f member registration sent
  obtain ⟨pre, post, shape⟩ := List.append_of_mem member
  obtain ⟨place, form, credential, registers, issued, -⟩ := bound pre f post shape registration sent
  exact ⟨place, form, credential, registers, issued⟩

/-- For any number of forms opened for any accounts, any order of Firebase's callbacks
    and confirmations at any time, and whatever comes in after the last of them: every
    registration follows a sign-in with an id of its own account exactly if no form is
    confirmed with the code of an id of another account. -/
theorem registration_bound_iff (fb : Firebase) (is : List AppInput) :
    (∀ front, front <+: is → ∀ tail, (∀ i ∈ tail, Answers i) → Bound fb (front ++ tail)) ↔
      ∀ f ∈ run fb.step ⟨{}, []⟩ is, CodeIsOwn fb f.before f.input := by
  have start : BoundTasks fb ⟨{}, []⟩ := by simp [BoundTasks]
  have completion : ∀ w tail, BoundTasks fb w → (∀ i ∈ tail, Answers i) →
      ∀ f ∈ run fb.step w tail, CodeIsOwn fb f.before f.input := by
    intro w tail _ answers f member
    obtain ⟨k, r, same⟩ := answers f.input (input_mem_of_mem fb.step member)
    rw [same]
    trivial
  have exact : GoodThroughout fb.step (fun tail => ∀ i ∈ tail, Answers i) (PostsOwn fb) ⟨{}, []⟩ is ↔
      ∀ f ∈ run fb.step ⟨{}, []⟩ is, CodeIsOwn fb f.before f.input :=
    goodThroughout_iff_guarded (boundTasks_step fb) (fun w i bound _ => postsOwn_of_bound fb w i bound)
      completion (fun w i _ => exposes_foreign fb w i) start is
  rw [← exact]
  constructor
  · intro bound front isPrefix tail answers
    exact postsOwn_of_bounded (bound front isPrefix tail answers)
  · intro own front isPrefix tail answers
    exact bound_of_postsOwn (own front isPrefix tail answers)

/-- One code has been sent, to kim's phone. -/
def sampleFirebase : Firebase where
  account id := if id = "id-kim" then some "kim@edutopik.com" else none
  code id := if id = "id-kim" then some "111111" else none

def sampleForm (userId : String) : OtpForm :=
  { userId := userId, mobileId := "device-a", pass := "pw", deleteDeviceUUID := " " }

/-- Kim's code arrives; then a form is opened for lee, and kim's code is confirmed on it
    before any code for lee was sent. -/
def codeOfAnother : List AppInput :=
  [.event (.opened (sampleForm "kim@edutopik.com")),
    .resume 0 (.replied (.answered 200 (some (.object [("Phone", .string "+821000000000")])))),
    .resume 0 (.codeSent "id-kim"), .event (.opened (sampleForm "lee@edutopik.com")),
    .event (.confirm 1 ⟨"1", "1", "1", "1", "1", "1"⟩), .resume 1 (.signedIn true)]

theorem codeOfAnother_registers :
    Effect.deviceRegister ⟨"device-a", "lee@edutopik.com", "iPhone", " "⟩ ∈
        output sampleFirebase.step ⟨{}, []⟩ (codeOfAnother ++ [.resume 1 (.deviceName "iPhone")]) ∧
      ¬ Bound sampleFirebase (codeOfAnother ++ [.resume 1 (.deviceName "iPhone")]) := by
  refine ⟨by decide, fun bound => ?_⟩
  have pending : (final sampleFirebase.step ⟨{}, []⟩ codeOfAnother).tasks[1]? =
      some (.naming 1 (sampleForm "lee@edutopik.com") ⟨"id-kim", "111111"⟩) := by decide
  have foreign : sampleFirebase.account "id-kim" ≠ some "lee@edutopik.com" := by decide
  apply not_postsOwn_of_naming pending foreign "iPhone"
  apply postsOwn_of_bounded bound
  rw [run_append]
  exact List.mem_append_right _ List.mem_cons_self

end Edutopik.Otp

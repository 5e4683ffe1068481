import Edutopik.Library.EventLoop
import Edutopik.Login.LoginProc

/-! # The OTP form

Every form asks for a code when it is opened, and registers its device when a code is
confirmed. All forms of the app share one `verificationId1`: whichever code was sent
last overwrites it, and whichever form is confirmed next uses it.

A form stays where it was opened; `gone` tells which of them have been popped.
-/

namespace Edutopik.Otp

open Dart EventLoop

/-- The arguments of an `OtpScreen`, handed down to its `OtpForm`. -/
structure OtpForm where
  userId : String
  mobileId : String
  pass : String
  deleteDeviceUUID : String
  deriving DecidableEq, Repr

/-- A `PhoneAuthCredential`. -/
structure Credential where
  verificationId : String
  smsCode : String
  deriving DecidableEq, Repr

/-- The texts of the six fields. -/
structure Codes where
  code1 : String
  code2 : String
  code3 : String
  code4 : String
  code5 : String
  code6 : String

def Codes.code (c : Codes) : String :=
  c.code1 ++ c.code2 ++ c.code3 ++ c.code4 ++ c.code5 ++ c.code6

/-- The body posted to `device_register.asp`. -/
structure Registration where
  deviceId : String
  eMail : String
  deviceName : String
  deleteDevice : String
  deriving DecidableEq, Repr

structure State where
  verificationId1 : String := ""
  /-- Every form opened so far, in order. -/
  forms : List OtpForm := []
  /-- The places of the forms that have been popped. -/
  gone : List Nat := []

/-- Where a `sendMessage` or a confirmed form is suspended. The form is given with its
    place. -/
inductive Task where
  | awaitingPhone (userId : String)
  /-- The callbacks of `verifyPhoneNumber` are still to come. -/
  | verifying (userId phone : String)
  | signingIn (place : Nat) (form : OtpForm) (credential : Credential)
  | naming (place : Nat) (form : OtpForm) (credential : Credential)
  | registering (place : Nat) (form : OtpForm)
  deriving DecidableEq, Repr

inductive Event where
  | opened (form : OtpForm)
  | resend (place : Nat)
  | confirm (place : Nat) (codes : Codes)
  | popped (place : Nat)

/-- What an await or a callback brings. -/
inductive Result where
  | replied (reply : Reply)
  | codeSent (verificationId : String)
  /-- `signInWithCredential` completes, with or without a user. -/
  | signedIn (user : Bool)
  | deviceName (name : String)
  | raised

inductive Effect where
  | userInfo (eMail : String)
  | verifyPhoneNumber (phone : String)
  | signInWithCredential (credential : Credential)
  | deviceRegister (registration : Registration)
  | openHome (uuid email : String)
  | incorrectAuth
  deriving DecidableEq, Repr

abbrev App := World State Task

abbrev AppInput := Input Event Result

/-- The request a form posts. -/
def OtpForm.registration (form : OtpForm) (name : String) : Registration :=
  { deviceId := form.mobileId
    eMail := form.userId
    deviceName := name
    deleteDevice := form.deleteDeviceUUID }

namespace State

def idle (s : State) : Turn State Task Effect := { shared := s }

/-- The form at a place, if its screen is still there. -/
def form? (s : State) (place : Nat) : Option OtpForm :=
  if place ∈ s.gone then none else s.forms[place]?

/-- A form is built, and calls `sendMessage`. -/
def openForm (s : State) (form : OtpForm) : Turn State Task Effect :=
  { shared := { s with forms := s.forms ++ [form] }
    tasks := [.awaitingPhone form.userId]
    effects := [.userInfo form.userId] }

/-- The credential is made of the id held now and the code typed. -/
def confirm (s : State) (place : Nat) (form : OtpForm) (codes : Codes) : Turn State Task Effect :=
  let credential : Credential := { verificationId := s.verificationId1, smsCode := codes.code }
  { shared := s
    tasks := [.signingIn place form credential]
    effects := [.signInWithCredential credential] }

def react (s : State) : Event → Turn State Task Effect
  | .opened form => s.openForm form
  | .resend place =>
      match s.form? place with
      | none => s.idle
      | some form => s.openForm form
  | .confirm place codes =>
      match s.form? place with
      | none => s.idle
      | some form => s.confirm place form codes
  | .popped place => { shared := { s with gone := place :: s.gone } }

/-- The phone number has to be a string. -/
def phoneAnswered (s : State) (userId : String) (reply : Reply) : Turn State Task Effect :=
  match reply.decode with
  | none => s.idle
  | some (statusCode, res) =>
      if Login.statusAccepted statusCode then
        match (res.get "Phone").toText with
        | none => s.idle
        | some phone =>
            { shared := s
              tasks := [.verifying userId phone]
              effects := [.verifyPhoneNumber phone] }
      else s.idle

/-- The `catch` branch. Its dialog needs the form's context, and raises without it. -/
def caught (s : State) (place : Nat) : Turn State Task Effect :=
  match s.form? place with
  | none => s.idle
  | some _ => { shared := s, effects := [.incorrectAuth] }

def signedIn (s : State) (place : Nat) (form : OtpForm) (credential : Credential) (user : Bool) :
    Turn State Task Effect :=
  if user then { shared := s, tasks := [.naming place form credential] } else s.idle

def named (s : State) (place : Nat) (form : OtpForm) (name : String) : Turn State Task Effect :=
  { shared := s
    tasks := [.registering place form]
    effects := [.deviceRegister (form.registration name)] }

/-- Any answer opens the home page; the push needs the form's context too. -/
def registered (s : State) (place : Nat) (form : OtpForm) : Turn State Task Effect :=
  match s.form? place with
  | none => s.idle
  | some _ => { shared := s, effects := [.openHome form.mobileId form.userId] }

/-- Outside the `try` an unexpected result ends the call; inside it is caught. -/
def resume (s : State) : Task → Result → Turn State Task Effect
  | .awaitingPhone userId, .replied reply => s.phoneAnswered userId reply
  | .awaitingPhone _, _ => s.idle
  | .verifying _ _, .codeSent verificationId =>
      { shared := { s with verificationId1 := verificationId } }
  | .verifying _ _, _ => s.idle
  | .signingIn place form credential, .signedIn user => s.signedIn place form credential user
  | .signingIn place _ _, _ => s.caught place
  | .naming place form _, .deviceName name => s.named place form name
  | .naming place _ _, _ => s.caught place
  | .registering place form, .replied (.answered _ _) => s.registered place form
  | .registering place _, _ => s.caught place

end State

def otp : Loop State Task Event Result Effect where
  react := State.react
  resume := State.resume

@[simp] theorem otp_react : otp.react = State.react := rfl

@[simp] theorem otp_resume : otp.resume = State.resume := rfl

/-! ## What a turn can do -/

/-- A handler's turn: a form is opened, a form is confirmed, or nothing is asked for. -/
inductive Reacts (s : State) : Event → Turn State Task Effect → Prop where
  | opens {e form} : Reacts s e (s.openForm form)
  | confirms {place form codes} : s.form? place = some form →
      Reacts s (.confirm place codes) (s.confirm place form codes)
  | quiet {e turn} : turn.shared.forms = s.forms → turn.tasks = [] → turn.effects = [] →
      Reacts s e turn

theorem reacts (s : State) (e : Event) : Reacts s e (s.react e) := by
  cases e with
  | opened form => exact .opens
  | resend place =>
      simp only [State.react]
      split
      · exact .quiet rfl rfl rfl
      · exact .opens
  | confirm place codes =>
      simp only [State.react]
      split
      · exact .quiet rfl rfl rfl
      · rename_i form there
        exact .confirms there
  | popped place => exact .quiet rfl rfl rfl

/-- The turn of a task: one of the four stages that go on, or an end that leaves the
    forms alone and registers nothing. -/
inductive Resumes (s : State) : Task → Result → Turn State Task Effect → Prop where
  | asks {userId phone reply} : Resumes s (.awaitingPhone userId) (.replied reply)
      { shared := s, tasks := [.verifying userId phone], effects := [.verifyPhoneNumber phone] }
  | holds {userId phone id} : Resumes s (.verifying userId phone) (.codeSent id)
      { shared := { s with verificationId1 := id } }
  | signsIn {place form credential} :
      Resumes s (.signingIn place form credential) (.signedIn true)
        { shared := s, tasks := [.naming place form credential] }
  | names {place form credential name} :
      Resumes s (.naming place form credential) (.deviceName name) (s.named place form name)
  | ends {t r turn} : turn.shared = s → turn.tasks = [] →
      (∀ registration, Effect.deviceRegister registration ∉ turn.effects) → Resumes s t r turn

namespace Resumes

variable {s : State} {t : Task} {r : Result}

theorem idle : Resumes s t r s.idle := .ends rfl rfl (by simp [State.idle])

theorem caught (place : Nat) : Resumes s t r (s.caught place) := by
  unfold State.caught
  split
  · exact idle
  · exact .ends rfl rfl (by simp)

theorem registered (place : Nat) (form : OtpForm) : Resumes s t r (s.registered place form) := by
  unfold State.registered
  split
  · exact idle
  · exact .ends rfl rfl (by simp)

theorem phoneAnswered (userId : String) (reply : Reply) :
    Resumes s (.awaitingPhone userId) (.replied reply) (s.phoneAnswered userId reply) := by
  unfold State.phoneAnswered
  split
  · exact idle
  · split
    · split
      · exact idle
      · exact .asks
    · exact idle

end Resumes

theorem resumes (s : State) (t : Task) (r : Result) : Resumes s t r (s.resume t r) := by
  cases t with
  | awaitingPhone userId =>
      cases r with
      | replied reply => exact .phoneAnswered userId reply
      | _ => exact .idle
  | verifying userId phone =>
      cases r with
      | codeSent id => exact .holds
      | _ => exact .idle
  | signingIn place form credential =>
      cases r with
      | signedIn user =>
          cases user with
          | true => exact .signsIn
          | false => exact .idle
      | _ => exact .caught place
  | naming place form credential =>
      cases r with
      | deviceName name => exact .names
      | _ => exact .caught place
  | registering place form =>
      cases r with
      | replied reply =>
          cases reply with
          | failed => exact .caught place
          | answered statusCode body => exact .registered place form
      | _ => exact .caught place

/-- Only a form that has read the device's name registers. -/
theorem naming_of_deviceRegister {s : State} {t : Task} {r : Result} {registration : Registration}
    (sent : .deviceRegister registration ∈ (s.resume t r).effects) :
    ∃ place form credential name, t = .naming place form credential ∧ r = .deviceName name ∧
      registration = form.registration name := by
  have turn := resumes s t r
  generalize s.resume t r = next at sent turn
  cases turn with
  | asks => simp at sent
  | holds => simp at sent
  | signsIn => simp at sent
  | names =>
      rename_i place form credential name
      exact ⟨place, form, credential, name, rfl, rfl, by simpa [State.named] using sent⟩
  | ends _ _ silent => exact absurd sent (silent registration)

theorem not_deviceRegister_of_react (s : State) (e : Event) (registration : Registration) :
    Effect.deviceRegister registration ∉ (s.react e).effects := by
  have turn := reacts s e
  generalize s.react e = next at turn
  cases turn with
  | opens => simp [State.openForm]
  | confirms there => simp [State.confirm]
  | quiet _ _ silent => simp [silent]

/-- The tasks an event can start. -/
inductive Starts (s : State) : Event → Task → Prop where
  | awaitingPhone {e userId} : Starts s e (.awaitingPhone userId)
  | signingIn {place form codes} : s.form? place = some form →
      Starts s (.confirm place codes) (.signingIn place form ⟨s.verificationId1, codes.code⟩)

theorem starts_of_react {s : State} {e : Event} {t : Task} (spawned : t ∈ (s.react e).tasks) :
    Starts s e t := by
  have turn := reacts s e
  generalize s.react e = next at spawned turn
  cases turn with
  | opens =>
      cases List.mem_singleton.mp spawned
      exact .awaitingPhone
  | confirms there =>
      cases List.mem_singleton.mp spawned
      exact .signingIn there
  | quiet _ none _ => simp [none] at spawned

/-- The tasks a task can go on as: only a sign-in that gave a user leads on to the name
    of the device. -/
inductive Spawns : Task → Result → Task → Prop where
  | verifying {t r userId phone} : Spawns t r (.verifying userId phone)
  | naming {place form credential} :
      Spawns (.signingIn place form credential) (.signedIn true) (.naming place form credential)
  | registering {t r place form} : Spawns t r (.registering place form)

theorem spawns_of_resume {s : State} {t t' : Task} {r : Result}
    (spawned : t' ∈ (s.resume t r).tasks) : Spawns t r t' := by
  have turn := resumes s t r
  generalize s.resume t r = next at spawned turn
  cases turn with
  | asks =>
      cases List.mem_singleton.mp spawned
      exact .verifying
  | holds => simp at spawned
  | signsIn =>
      cases List.mem_singleton.mp spawned
      exact .naming
  | names =>
      cases List.mem_singleton.mp spawned
      exact .registering
  | ends _ none _ => simp [none] at spawned

/-! ## Forms stay where they were opened -/

/-- A confirmed form is the one at its place. -/
def Placed (s : State) : Task → Prop
  | .signingIn place form _ | .naming place form _ => s.forms[place]? = some form
  | _ => True

theorem form?_forms {s : State} {place : Nat} {form : OtpForm} (there : s.form? place = some form) :
    s.forms[place]? = some form := by
  unfold State.form? at there
  split at there
  · cases there
  · exact there

theorem Placed.grow {s s' : State} {more : List OtpForm} (grown : s'.forms = s.forms ++ more)
    {t : Task} (placed : Placed s t) : Placed s' t := by
  have kept : ∀ (place : Nat) (form : OtpForm), s.forms[place]? = some form →
      s'.forms[place]? = some form := by
    intro place form there
    obtain ⟨inside, -⟩ := List.getElem?_eq_some_iff.mp there
    rw [grown, List.getElem?_append_left inside]
    exact there
  cases t with
  | signingIn place form credential => exact kept place form placed
  | naming place form credential => exact kept place form placed
  | _ => trivial

theorem resume_forms (s : State) (t : Task) (r : Result) :
    (s.resume t r).shared.forms = s.forms := by
  have turn := resumes s t r
  generalize s.resume t r = next at turn
  cases turn with
  | ends same _ _ => rw [same]
  | _ => rfl

/-- Forms are only ever added. -/
theorem exists_react_forms (s : State) (e : Event) :
    ∃ more, (s.react e).shared.forms = s.forms ++ more := by
  have turn := reacts s e
  generalize s.react e = next at turn
  cases turn with
  | opens => exact ⟨_, rfl⟩
  | confirms there => exact ⟨[], (List.append_nil _).symm⟩
  | quiet same _ _ => exact ⟨[], by rw [same, List.append_nil]⟩

theorem placed_react {s : State} {e : Event} {t : Task} (spawned : t ∈ (s.react e).tasks) :
    Placed s t := by
  cases starts_of_react spawned with
  | awaitingPhone => trivial
  | signingIn there => exact form?_forms there

theorem placed_resume {s : State} {t t' : Task} {r : Result} (placed : Placed s t)
    (spawned : t' ∈ (s.resume t r).tasks) : Placed s t' := by
  cases spawns_of_resume spawned with
  | verifying => trivial
  | naming => exact placed
  | registering => trivial

theorem placed_step (w : App) (i : AppInput) (placed : w.Holds (fun _ => True) Placed) :
    (otp.step w i).1.Holds (fun _ => True) Placed := by
  apply holds_step _ _ w i placed
  · intro w e placed
    obtain ⟨more, grown⟩ := exists_react_forms w.shared e
    exact ⟨trivial, fun t spawned => (placed_react spawned).grow grown,
      fun t pending => (placed.pending t pending).grow grown⟩
  · intro w k t r placed located
    have grown : (w.shared.resume t r).shared.forms = w.shared.forms ++ [] := by
      rw [resume_forms, List.append_nil]
    have own := placed.pending t (List.mem_of_getElem? located)
    exact ⟨trivial, fun t' spawned => (placed_resume own spawned).grow grown,
      fun t' pending => (placed.pending t' pending).grow grown⟩

end Edutopik.Otp

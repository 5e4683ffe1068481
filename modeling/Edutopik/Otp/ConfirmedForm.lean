import Edutopik.Library.History
import Edutopik.Library.OneCall
import Edutopik.Otp.OtpTurns

/-! # What becomes of a confirmed form

A form that is confirmed signs in, reads the name of the device, registers it and opens
the home page, and at three of these stages it may turn to the dialog instead. Any
number of forms may be at it at a time. Each registers its device once at most and
before anything else, and ends in one place; none is forgotten.
-/

namespace Edutopik.Otp

open Dart EventLoop Machine

/-! ## One form -/

/-- What a form may let out after its sign-in. -/
inductive FormOutput (form : OtpForm) : List Effect → Prop where
  | waits : FormOutput form []
  | refused : FormOutput form [.incorrectAuth]
  | registers (name : String) : FormOutput form [.deviceRegister (form.registration name)]
  | fails (name : String) :
      FormOutput form [.deviceRegister (form.registration name), .incorrectAuth]
  | opens (name : String) : FormOutput form
      [.deviceRegister (form.registration name), .openHome form.mobileId form.userId]

/-- What it may let out after the registration was posted. -/
inductive AnswerOutput (form : OtpForm) : List Effect → Prop where
  | waits : AnswerOutput form []
  | fails : AnswerOutput form [.incorrectAuth]
  | opens : AnswerOutput form [.openHome form.mobileId form.userId]

theorem AnswerOutput.registered {form : OtpForm} {later : List Effect} (answer : AnswerOutput form later)
    (name : String) : FormOutput form (.deviceRegister (form.registration name) :: later) := by
  cases answer with
  | waits => exact .registers name
  | fails => exact .fails name
  | opens => exact .opens name

/-- From each stage on. -/
def TaskOutput : Task → List Effect → Prop
  | .signingIn _ form _, out | .naming _ form _, out => FormOutput form out
  | .registering _ form, out => AnswerOutput form out
  | .awaitingPhone _, _ | .verifying _ _, _ => True

theorem taskOutput_silent (t : Task) : TaskOutput t [] := by
  cases t with
  | signingIn place form credential => exact .waits
  | naming place form credential => exact .waits
  | registering place form => exact .waits
  | _ => trivial

/-- What the turn of a task may let out. -/
abbrev Outputs (t : Task) : Turn State Task Effect → Prop := Utters TaskOutput t

theorem Outputs.caught {t : Task} (turnedAway : TaskOutput t [.incorrectAuth]) (s : State) (place : Nat) :
    Outputs t (s.caught place) := by
  unfold State.caught
  cases s.form? place with
  | none => exact .ends (taskOutput_silent t)
  | some form => exact .ends turnedAway

theorem Outputs.registered (s : State) (place : Nat) (form : OtpForm) :
    Outputs (.registering place form) (s.registered place form) := by
  unfold State.registered
  have home : TaskOutput (.registering place form) [.openHome form.mobileId form.userId] :=
    AnswerOutput.opens
  cases s.form? place with
  | none => exact .ends (taskOutput_silent _)
  | some _ => exact .ends home

theorem Outputs.phoneAnswered (s : State) (userId : String) (reply : Reply) :
    Outputs (.awaitingPhone userId) (s.phoneAnswered userId reply) := by
  unfold State.phoneAnswered
  split
  · exact .ends trivial
  · split
    · split
      · exact .ends trivial
      · exact .goes (fun _ _ => trivial)
    · exact .ends trivial

theorem outputs (s : State) (t : Task) (r : Result) : Outputs t (s.resume t r) := by
  have silent := taskOutput_silent t
  cases t with
  | awaitingPhone userId =>
      cases r with
      | replied reply => exact .phoneAnswered s userId reply
      | _ => exact .ends trivial
  | verifying userId phone => cases r <;> exact .ends trivial
  | signingIn place form credential =>
      have turnedAway : TaskOutput (.signingIn place form credential) [.incorrectAuth] :=
        FormOutput.refused
      cases r with
      | signedIn user =>
          cases user with
          | true => exact .goes (fun _ output => output)
          | false => exact .ends silent
      | _ => exact .caught turnedAway s place
  | naming place form credential =>
      have turnedAway : TaskOutput (.naming place form credential) [.incorrectAuth] :=
        FormOutput.refused
      cases r with
      | deviceName name => exact .goes (fun _ answer => AnswerOutput.registered answer name)
      | _ => exact .caught turnedAway s place
  | registering place form =>
      have turnedAway : TaskOutput (.registering place form) [.incorrectAuth] := AnswerOutput.fails
      cases r with
      | replied reply =>
          cases reply with
          | answered statusCode body => exact .registered s place form
          | failed => exact .caught turnedAway s place
      | _ => exact .caught turnedAway s place

theorem speaks_taskOutput : otp.Speaks TaskOutput where
  silent := taskOutput_silent
  turns := outputs

/-- Whatever the other forms do meanwhile, a form that signs in lets out this. -/
theorem form_outputs {w : App} {k place : Nat} {form : OtpForm} {credential : Credential}
    (pending : w.tasks[k]? = some (.signingIn place form credential)) (is : List AppInput) :
    FormOutput form ((otp.call w k is).flatMap Fired.effects) :=
  speaks_taskOutput.call pending is

/-- Two forms of one account signing in. -/
def sampleForms : App :=
  let form : OtpForm := ⟨"kim@edutopik.com", "device-a", "1234", " "⟩
  ⟨{ verificationId1 := "id-1", forms := [form, form] },
    [.signingIn 0 form ⟨"id-1", "123456"⟩, .signingIn 1 form ⟨"id-1", "654321"⟩]⟩

/-- The first is turned away, the second goes on to the home page. -/
def sampleResults : List AppInput :=
  [.resume 1 (.signedIn true), .resume 0 .raised, .resume 0 (.deviceName "Pixel 4"),
    .resume 0 (.replied (.answered 200 none))]

theorem form_outputs_sample :
    FormOutput ⟨"kim@edutopik.com", "device-a", "1234", " "⟩
        ((otp.call sampleForms 1 sampleResults).flatMap Fired.effects) ∧
      (otp.call sampleForms 1 sampleResults).flatMap Fired.effects =
        [.deviceRegister ⟨"device-a", "kim@edutopik.com", "Pixel 4", " "⟩,
          .openHome "device-a" "kim@edutopik.com"] :=
  ⟨form_outputs rfl sampleResults, rfl⟩

/-! ## Every confirmed form -/

def Task.isConfirmed : Task → Bool
  | .signingIn _ _ _ | .naming _ _ _ | .registering _ _ => true
  | .awaitingPhone _ | .verifying _ _ => false

/-- How many confirmed forms are still at it. -/
def atIt (w : App) : Nat := w.tasks.countP Task.isConfirmed

def confirmsForm (f : OtpFired) : Bool :=
  match f.input with
  | .event (.confirm place _) => (f.before.shared.form? place).isSome
  | _ => false

def Effect.isHome : Effect → Bool
  | .openHome _ _ => true
  | _ => false

/-- How many home pages and dialogs these are. -/
def ends (effects : List Effect) : Nat := effects.countP Effect.isHome + effects.count .incorrectAuth

/-- The sign-in gave no user, or the call ends after its screen has gone. -/
def State.drops (s : State) : Task → Result → Bool
  | .signingIn _ _ _, .signedIn user => !user
  | .naming _ _ _, .deviceName _ => false
  | .signingIn place _ _, _ | .naming place _ _, _ | .registering place _, _ =>
      (s.form? place).isNone
  | .awaitingPhone _, _ | .verifying _ _, _ => false

def dropsForm (f : OtpFired) : Bool :=
  match f.input with
  | .event _ => false
  | .resume k r => (f.before.tasks[k]?).any (f.before.shared.drops · r)

/-- A turn leaves the form at it, or takes one of the three ways out. -/
def Settles (s : State) (t : Task) (r : Result) (turn : Turn State Task Effect) : Prop :=
  ends turn.effects + (s.drops t r).toNat + turn.tasks.countP Task.isConfirmed = t.isConfirmed.toNat

theorem Settles.caught {s : State} {t : Task} {r : Result} {place : Nat}
    (confirmed : t.isConfirmed = true) (gone : s.drops t r = (s.form? place).isNone) :
    Settles s t r (s.caught place) := by
  unfold Settles State.caught
  rw [confirmed, gone]
  cases s.form? place <;> rfl

theorem Settles.phoneAnswered (s : State) (userId : String) (reply : Reply) :
    Settles s (.awaitingPhone userId) (.replied reply) (s.phoneAnswered userId reply) := by
  unfold State.phoneAnswered
  split
  · rfl
  · split
    · split <;> rfl
    · rfl

theorem Settles.registered (s : State) (place : Nat) (form : OtpForm) (statusCode : Int)
    (body : Option Json) :
    Settles s (.registering place form) (.replied (.answered statusCode body))
      (s.registered place form) := by
  have gone : s.drops (.registering place form) (.replied (.answered statusCode body)) =
      (s.form? place).isNone := rfl
  unfold Settles State.registered
  rw [gone]
  cases s.form? place <;> rfl

theorem settles (s : State) (t : Task) (r : Result) : Settles s t r (s.resume t r) := by
  cases t with
  | awaitingPhone userId =>
      cases r with
      | replied reply => exact .phoneAnswered s userId reply
      | _ => rfl
  | verifying userId phone => cases r <;> rfl
  | signingIn place form credential =>
      cases r with
      | signedIn user => cases user <;> rfl
      | _ => exact .caught rfl rfl
  | naming place form credential =>
      cases r with
      | deviceName name => rfl
      | _ => exact .caught rfl rfl
  | registering place form =>
      cases r with
      | replied reply =>
          cases reply with
          | answered statusCode body => exact .registered s place form statusCode body
          | failed => exact .caught rfl rfl
      | _ => exact .caught rfl rfl

/-- A handler's turn takes in the form it confirms, and none is settled by it. -/
theorem form_comes (w : App) (e : Event) :
    ends (w.shared.react e).effects = 0 ∧ (w.shared.react e).tasks.countP Task.isConfirmed =
      (confirmsForm (fire otp.step w (.event e))).toNat := by
  simp only [confirmsForm, fire]
  cases e with
  | opened form => exact ⟨rfl, rfl⟩
  | resend place =>
      simp only [State.react]
      cases w.shared.form? place <;> exact ⟨rfl, rfl⟩
  | confirm place codes =>
      simp only [State.react]
      cases w.shared.form? place <;> exact ⟨rfl, rfl⟩
  | popped place => exact ⟨rfl, rfl⟩

/-- One step takes a form in, or leads one out, or keeps them all. -/
theorem forms_balanced (w : App) (i : AppInput) :
    ends (fire otp.step w i).effects + (dropsForm (fire otp.step w i)).toNat + atIt (otp.step w i).1 =
      atIt w + (confirmsForm (fire otp.step w i)).toNat := by
  rcases step_cases w i with ⟨e, rfl⟩ | ⟨k, r, rfl, missing⟩ | ⟨k, r, t, rfl, located⟩
  · obtain ⟨noEnd, comes⟩ := form_comes w e
    have noDrop : dropsForm (fire otp.step w (.event e)) = false := rfl
    rw [noDrop, ← comes, atIt, fire_effects, step_event, List.countP_append]
    simp only [otp_react, noEnd, atIt]
    simp
  · simp [ends, dropsForm, confirmsForm, fire, step_idle otp missing r, missing]
  · have turn := settles w.shared t r
    have count := countP_replaceAt located Task.isConfirmed (w.shared.resume t r).tasks
    unfold Settles at turn
    simp only [dropsForm, confirmsForm, atIt, fire, step_resume otp located, otp_resume, located,
      Option.any_some, Bool.toNat_false]
    omega

/-- In every run the forms confirmed so far are the homes opened, the dialogs shown, those
    that were dropped, and those still at it. -/
theorem forms_accounted (w : App) (is : List AppInput) :
    (output otp.step w is).countP Effect.isHome + (output otp.step w is).count .incorrectAuth +
        (run otp.step w is).countP dropsForm + atIt (final otp.step w is) =
      atIt w + (run otp.step w is).countP confirmsForm := by
  have total : ((run otp.step w is).map fun f => ends f.effects + (dropsForm f).toNat).sum +
      atIt (final otp.step w is) = atIt w + ((run otp.step w is).map fun f => (confirmsForm f).toNat).sum :=
    spent_eq_received forms_balanced w is
  rw [List.sum_map_add, sum_toNat_eq_countP, sum_toNat_eq_countP] at total
  have letOut : ((run otp.step w is).map fun f => ends f.effects).sum =
      (output otp.step w is).countP Effect.isHome + (output otp.step w is).count .incorrectAuth := by
    rw [output, List.countP_flatMap, List.count, List.countP_flatMap, ← List.sum_map_add]
    rfl
  rw [letOut] at total
  exact total

end Edutopik.Otp

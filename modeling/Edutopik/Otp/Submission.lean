import Edutopik.Otp.DeviceInfo
import Edutopik.Otp.OtpForm

/-! # Confirming a code

Four steps that can fail stand in one `try`: the sign-in, reading the device's name,
the registration and the push. Whatever is raised in it shows the dialog of a wrong
code, and any answer to the registration opens the home page.
-/

namespace Edutopik.Otp

open Dart EventLoop Machine

inductive SignIn where
  | rejected
  | noUser
  | user
  deriving DecidableEq, Repr

/-- A reply with a 2xx status. -/
def Succeeded : Reply → Prop
  | .failed => False
  | .answered statusCode _ => 200 ≤ statusCode ∧ statusCode ≤ 299

def SignIn.result : SignIn → Result
  | .rejected => .raised
  | .noUser => .signedIn false
  | .user => .signedIn true

/-- The name is asked for on every platform. -/
def DeviceInfoPlugin.result (device : DeviceInfoPlugin) : Result :=
  match device.deviceName with
  | none => .raised
  | some name => .deviceName name

/-- A code is confirmed on the form at the place, and its steps end in these results.
    Whatever else is pending in the app stays so. -/
def submission (w : App) (place : Nat) (codes : Codes) (signIn : SignIn) (device : DeviceInfoPlugin)
    (reply : Reply) : List Effect :=
  output otp.step w
    [.event (.confirm place codes), .resume w.tasks.length signIn.result,
      .resume w.tasks.length device.result, .resume w.tasks.length (.replied reply)]

def OpensHome (effects : List Effect) : Prop := ∃ uuid email, Effect.openHome uuid email ∈ effects

/-- The device is registered: the request is sent and answered with a success. -/
def Registered (effects : List Effect) (reply : Reply) : Prop :=
  (∃ registration, Effect.deviceRegister registration ∈ effects) ∧ Succeeded reply

/-- A submission ends where its outcome says. -/
structure EndsRight (effects : List Effect) (signIn : SignIn) (reply : Reply) : Prop where
  home : OpensHome effects ↔ signIn = .user ∧ Registered effects reply
  dialog : .incorrectAuth ∈ effects ↔ signIn = .rejected

variable {w : App} {place : Nat} {form : OtpForm}

/-! ## What a submission does -/

/-- What comes after a sign-in that gave a user. -/
def afterUser (form : OtpForm) (device : DeviceInfoPlugin) (reply : Reply) : List Effect :=
  match device.deviceName, reply with
  | none, _ => [.incorrectAuth]
  | some name, .failed => [.deviceRegister (form.registration name), .incorrectAuth]
  | some name, .answered _ _ =>
      [.deviceRegister (form.registration name), .openHome form.mobileId form.userId]

def afterSignIn (form : OtpForm) (device : DeviceInfoPlugin) (reply : Reply) : SignIn → List Effect
  | .rejected => [.incorrectAuth]
  | .noUser => []
  | .user => afterUser form device reply

theorem submission_eq (there : w.shared.form? place = some form) (codes : Codes) (signIn : SignIn)
    (device : DeviceInfoPlugin) (reply : Reply) :
    submission w place codes signIn device reply =
      .signInWithCredential ⟨w.shared.verificationId1, codes.code⟩ ::
        afterSignIn form device reply signIn := by
  obtain ⟨s, tasks⟩ := w
  have form? : s.form? place = some form := there
  simp only [submission, output_cons, output_nil, step_event, otp_react, State.react, form?,
    State.confirm, step_newest, otp_resume]
  cases signIn with
  | rejected =>
      simp [SignIn.result, State.resume, State.caught, form?, step_beyond, afterSignIn]
  | noUser =>
      simp [SignIn.result, State.resume, State.signedIn, State.idle, step_beyond, afterSignIn]
  | user =>
      simp only [SignIn.result, State.resume, State.signedIn, if_true, step_newest, otp_resume]
      cases read : device.deviceName with
      | none =>
          simp [DeviceInfoPlugin.result, read, State.caught, form?, step_beyond, afterSignIn, afterUser]
      | some name =>
          cases reply with
          | failed =>
              simp [DeviceInfoPlugin.result, read, State.resume, State.named, State.caught, form?,
                step_newest, afterSignIn, afterUser]
          | answered statusCode body =>
              simp [DeviceInfoPlugin.result, read, State.resume, State.named, State.registered, form?,
                step_newest, afterSignIn, afterUser]

/-! ## Where it ends -/

/-- With a user, the end is right if the name is read and the registration succeeds. -/
theorem endsRight_user_iff (form : OtpForm) (credential : Credential) (device : DeviceInfoPlugin)
    (reply : Reply) :
    EndsRight (.signInWithCredential credential :: afterUser form device reply) .user reply ↔
      device.deviceName.isSome ∧ Succeeded reply := by
  cases read : device.deviceName with
  | none =>
      have wrong : ¬ EndsRight (.signInWithCredential credential :: afterUser form device reply)
          .user reply := by
        intro ends
        have shown := ends.dialog.mp (by simp [afterUser, read])
        cases shown
      simp [wrong]
  | some name =>
      cases reply with
      | failed =>
          have wrong : ¬ EndsRight (.signInWithCredential credential :: afterUser form device .failed)
              .user .failed := by
            intro ends
            have shown := ends.dialog.mp (by simp [afterUser, read])
            cases shown
          simp [wrong, Succeeded]
      | answered statusCode body =>
          have opens : OpensHome (.signInWithCredential credential ::
              afterUser form device (.answered statusCode body)) :=
            ⟨form.mobileId, form.userId, by simp [afterUser, read]⟩
          have sent : ∃ registration, Effect.deviceRegister registration ∈
              .signInWithCredential credential :: afterUser form device (.answered statusCode body) :=
            ⟨form.registration name, by simp [afterUser, read]⟩
          have quiet : .incorrectAuth ∉ .signInWithCredential credential ::
              afterUser form device (.answered statusCode body) := by simp [afterUser, read]
          constructor
          · intro ends
            exact ⟨rfl, (ends.home.mp opens).2.2⟩
          · intro both
            exact
              { home := iff_of_true opens ⟨rfl, sent, both.2⟩
                dialog := iff_of_false quiet (by decide) }

/-- For every form that is there, every code typed, whatever else is pending, and every
    combination of outcomes: the home page opens exactly for a registered device and the
    dialog of a wrong code exactly for a rejected sign-in, if and only if a user signed
    in had the device's name read and its registration answered with a success. -/
theorem submission_endsRight_iff (there : w.shared.form? place = some form) (codes : Codes)
    (signIn : SignIn) (device : DeviceInfoPlugin) (reply : Reply) :
    EndsRight (submission w place codes signIn device reply) signIn reply ↔
      (signIn = .user → device.iosInfo.data?.isSome ∧ Succeeded reply) := by
  rw [submission_eq there, ← device.deviceName_isSome]
  cases signIn with
  | rejected =>
      refine iff_of_true ?_ (by simp)
      exact
        { home := by simp [OpensHome, afterSignIn]
          dialog := by simp [afterSignIn] }
  | noUser =>
      refine iff_of_true ?_ (by simp)
      exact
        { home := by simp [OpensHome, afterSignIn]
          dialog := by simp [afterSignIn] }
  | user =>
      simp only [forall_const]
      exact endsRight_user_iff form _ device reply

/-- On Android nobody with the right code gets where they should. -/
theorem android_endsWrong (there : w.shared.form? place = some form) (codes : Codes)
    {device : DeviceInfoPlugin} (android : device.platform = .android) (reply : Reply) :
    ¬ EndsRight (submission w place codes .user device reply) .user reply := by
  rw [submission_eq there]
  intro ends
  have read := ((endsRight_user_iff form _ device reply).mp ends).1
  simp [DeviceInfoPlugin.deviceName_android android] at read

def confirmedForm : OtpForm :=
  { userId := "kim@edutopik.com", mobileId := "device-a", pass := "old", deleteDeviceUUID := " " }

/-- One form that was sent a code. -/
def confirmedApp : App :=
  { shared := { verificationId1 := "id-1", forms := [confirmedForm] }, tasks := [] }

def sampleDevice : DeviceInfoPlugin :=
  { platform := .iOS
    androidInfo := .raised
    iosInfo := .given ⟨"iPhone", "device-a"⟩
    onlyIos := by simp }

def confirmedCodes : Codes := ⟨"1", "2", "3", "4", "5", "6"⟩

/-- The right code: a registration the server refuses opens the home page, and one that
    is not answered shows the dialog of a wrong code. -/
theorem refusedRegistration_opensHome :
    ¬ EndsRight (submission confirmedApp 0 confirmedCodes .user sampleDevice (.answered 500 none)) .user
        (.answered 500 none) ∧
      ¬ EndsRight (submission confirmedApp 0 confirmedCodes .user sampleDevice .failed) .user .failed := by
  constructor
  · intro ends
    have registered := (ends.home.mp ⟨"device-a", "kim@edutopik.com", by decide⟩).2
    exact absurd registered.2.2 (by decide)
  · intro ends
    have rejected := ends.dialog.mp (by decide)
    cases rejected

theorem submission_endsRight_iff_sample :
    EndsRight (submission confirmedApp 0 confirmedCodes .user sampleDevice (.answered 200 none)) .user
        (.answered 200 none) ↔
      (SignIn.user = .user → sampleDevice.iosInfo.data?.isSome ∧ Succeeded (.answered 200 none)) :=
  submission_endsRight_iff (show confirmedApp.shared.form? 0 = some confirmedForm by decide) confirmedCodes
    .user sampleDevice (.answered 200 none)

end Edutopik.Otp

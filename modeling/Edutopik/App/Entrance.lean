import Edutopik.Login.LoginScreen
import Edutopik.Otp.DeviceFlow

/-! # The screens before the home page

The login screen stays at the bottom of the route stack. A login that finds the device
unregistered shows a dialog, and a dialog leads to an OTP form, at once or after one
of the account's devices has been picked. Any number of dialogs and forms may have
been opened; all forms share the one `otp`.

A tap reaches what is on top of the route stack. What it may reach is left open here:
everything said of all runs is said of those as well in which a tap reaches a dialog or
a form that is on top.
-/

namespace Edutopik.App

open Dart EventLoop

/-- What stands between a login and a form: the dialog about two devices, the request
    its OK makes, or a dialog whose OK pushes the form. -/
inductive Asking where
  | overuse (userId mobileId pass : String)
  | selecting (userId mobileId pass : String)
  | dialog (dialog : Otp.Dialog)
  | dismissed

inductive AskingInput where
  | ok
  | tap (device : Otp.Device)
  /-- `select_device.asp` answers, with the popped dialog's context `mounted` or not. -/
  | replied (reply : Reply) (mounted : Bool)
  | dismiss

inductive AskingEffect where
  | selectDevice (eMail : String)
  | pushes (form : Otp.OtpForm)

namespace Asking

def step : Asking → AskingInput → Asking × Option AskingEffect
  | .overuse userId mobileId pass, .ok =>
      (.selecting userId mobileId pass, some (.selectDevice userId))
  | .selecting userId mobileId pass, .replied reply mounted =>
      match Otp.Dialog.shown (fun _ => reply) mounted (.devOveruse userId mobileId pass) with
      | none => (.dismissed, none)
      | some sheet => (.dialog sheet, none)
  | .dialog shown, .tap device => (.dialog (shown.tap device), none)
  | .dialog shown, .ok => (.dialog shown, shown.ok.map .pushes)
  | .overuse _ _ _, .dismiss => (.dismissed, none)
  | .dialog _, .dismiss => (.dismissed, none)
  | asking, _ => (asking, none)

/-- What a screen opened by the login screen asks. -/
def shown : Login.Screen → List Asking
  | .devOveruse userId mobileId pass => [.overuse userId mobileId pass]
  | .devNew userId mobileId pass deleteDeviceUUID =>
      [.dialog (.devNew { userId, mobileId, pass, deleteDeviceUUID })]
  | _ => []

def shownBy : Login.Effect → List Asking
  | .opens screen => shown screen
  | _ => []

end Asking

structure Entrance where
  screen : Login.LoginScreen
  /-- Every dialog so far, in order. -/
  asking : List Asking := []
  otp : Otp.App := { shared := {}, tasks := [] }

inductive EntranceInput where
  | screen (i : Login.ScreenInput)
  | asking (k : Nat) (i : AskingInput)
  | otp (i : Otp.AppInput)
  /-- The link below the login button. -/
  | alreadyHaveAnAccountCheck
  | noticeOk
  | webViewLeft

inductive EntranceEffect where
  | screen (e : Login.Effect)
  | selectDevice (eMail : String)
  | otp (e : Otp.Effect)
  | webView (url : String)

namespace Entrance

/-- A step of the login screen, with the dialogs it shows. -/
def takeScreen (s : Entrance) (i : Login.ScreenInput) : Entrance × List EntranceEffect :=
  let next := s.screen.step i
  ({ s with screen := next.1, asking := s.asking ++ next.2.flatMap Asking.shownBy },
    next.2.map .screen)

def takeOtp (s : Entrance) (i : Otp.AppInput) : Entrance × List EntranceEffect :=
  let next := Otp.otp.step s.otp i
  ({ s with otp := next.1 }, next.2.map .otp)

/-- What a dialog does beyond changing itself: a request, or a form. -/
def take (s : Entrance) : Option AskingEffect → Entrance × List EntranceEffect
  | none => (s, [])
  | some (.selectDevice eMail) => (s, [.selectDevice eMail])
  | some (.pushes form) => s.takeOtp (.event (.opened form))

def joinAgree : String := "https://www.edutopik.com/member/join_agree.asp"

/-- Forms are opened by the dialogs and by `resend` only. -/
def step : Machine.Step Entrance EntranceInput EntranceEffect
  | s, .screen i => s.takeScreen i
  | s, .asking k i =>
      match s.asking[k]? with
      | none => (s, [])
      | some asking =>
          { s with asking := s.asking.set k (asking.step i).1 }.take (asking.step i).2
  | s, .otp (.event (.opened _)) => (s, [])
  | s, .otp i => s.takeOtp i
  | s, .alreadyHaveAnAccountCheck => (s, [.webView joinAgree])
  | s, .noticeOk => (s, [])
  | s, .webViewLeft => (s, [])

/-- The app as it starts, with what earlier runs of it left in the storage. -/
def start (storage : Option String) : Entrance := { screen := .start storage }

end Entrance

/-! ## The routes -/

/-- A route of one of these screens. The login screen itself lies below all. -/
inductive EntranceRoute where
  /-- A dialog whose OK only takes it away. -/
  | notice
  | asking (k : Nat)
  | form (place : Nat)
  | webView
  deriving DecidableEq

namespace Entrance

/-- The route that an input pops. OK pops the dialog about two devices, no other. -/
def pops (s : Entrance) : EntranceInput → Option EntranceRoute
  | .asking k .ok =>
      match s.asking[k]? with
      | some (.overuse _ _ _) => some (.asking k)
      | _ => none
  | .asking k .dismiss => some (.asking k)
  | .otp (.event (.popped place)) => some (.form place)
  | .noticeOk => some .notice
  | .webViewLeft => some .webView
  | _ => none

/-- The routes that go with an effect. A home page brings its own, and a form asks for
    its account's phone number when it is there. -/
def pushedWith (s : Entrance) : EntranceEffect → List EntranceRoute
  | .screen (.opens .incorrectAcc) | .screen (.opens .nonEmailFormat) => [.notice]
  | .screen (.opens (.devOveruse _ _ _)) | .screen (.opens (.devNew _ _ _ _)) =>
      [.asking s.asking.length]
  | .otp (.userInfo _) => [.form s.otp.shared.forms.length]
  | .otp .incorrectAuth => [.notice]
  | .webView _ => [.webView]
  | _ => []

/-- The sheet of devices is shown without a word to the outside. -/
def showsSheet (s : Entrance) : EntranceInput → List EntranceRoute
  | .asking k (.replied reply mounted) =>
      match s.asking[k]? with
      | some (.selecting userId mobileId pass) =>
          let sheet := Otp.Dialog.shown (fun _ => reply) mounted (.devOveruse userId mobileId pass)
          sheet.toList.map fun _ => .asking k
      | _ => []
  | _ => []

/-- The routes that a step pushes. -/
def pushes (s : Entrance) (i : EntranceInput) : List EntranceRoute :=
  (s.step i).2.flatMap s.pushedWith ++ s.showsSheet i

end Entrance

/-! ## What a step can do -/

/-- A dialog turns into one about the same account and device, or goes. -/
inductive Asking.Becomes : Asking → Asking → Prop where
  | same {asking} : Becomes asking asking
  | selecting {userId mobileId pass} :
      Becomes (.overuse userId mobileId pass) (.selecting userId mobileId pass)
  | sheet {userId mobileId pass devices} :
      Becomes (.selecting userId mobileId pass) (.dialog (.sheet userId mobileId pass devices))
  | tapped {dialog device} : Becomes (.dialog dialog) (.dialog (dialog.tap device))
  | dismissed {asking} : Becomes asking .dismissed

theorem Asking.becomes (asking : Asking) (i : AskingInput) : asking.Becomes (asking.step i).1 := by
  cases asking with
  | overuse userId mobileId pass =>
      cases i with
      | ok => exact .selecting
      | dismiss => exact .dismissed
      | _ => exact .same
  | selecting userId mobileId pass =>
      cases i with
      | replied reply mounted =>
          simp only [step, Otp.Dialog.shown]
          cases Otp.Devices.select reply with
          | none => exact .dismissed
          | some devices =>
              cases mounted with
              | false => exact .dismissed
              | true => exact .sheet
      | _ => exact .same
  | dialog dialog =>
      cases i with
      | tap device => exact .tapped
      | dismiss => exact .dismissed
      | _ => exact .same
  | dismissed => cases i <;> exact .same

/-- Only the OK of a dialog pushes a form, and it is the dialog's own. -/
theorem Asking.dialog_of_pushes {asking : Asking} {i : AskingInput} {form : Otp.OtpForm}
    (pushed : (asking.step i).2 = some (.pushes form)) :
    ∃ dialog, asking = .dialog dialog ∧ i = .ok ∧ dialog.ok = some form := by
  cases asking with
  | overuse userId mobileId pass => cases i <;> simp [step] at pushed
  | selecting userId mobileId pass =>
      cases i with
      | replied reply mounted =>
          simp only [step] at pushed
          split at pushed <;> cases pushed
      | _ => simp [step] at pushed
  | dialog dialog =>
      cases i with
      | ok =>
          obtain ⟨form', pushes, same⟩ := Option.map_eq_some_iff.mp pushed
          cases same
          exact ⟨dialog, rfl, rfl, pushes⟩
      | _ => simp [step] at pushed
  | dismissed => cases i <;> simp [step] at pushed

namespace Entrance

/-- A step is one of the login screen or of the OTP forms, or a dialog's: it changes in
    place and may ask for the devices or push its form. The page of the terms and what
    only takes a route away change nothing. -/
inductive Moves (s : Entrance) : EntranceInput → Entrance × List EntranceEffect → Prop where
  | idle {i} : Moves s i (s, [])
  | webView {url} : Moves s .alreadyHaveAnAccountCheck (s, [.webView url])
  | screen {i} : Moves s (.screen i) (s.takeScreen i)
  | otp {i} : (∀ form, i ≠ .event (.opened form)) → Moves s (.otp i) (s.takeOtp i)
  | asks {k i asking effects} : s.asking[k]? = some asking →
      (∀ e ∈ effects, ∃ eMail, e = .selectDevice eMail) →
        (∀ eMail, (asking.step i).2 = some (.selectDevice eMail) → .selectDevice eMail ∈ effects) →
          Moves s (.asking k i) ({ s with asking := s.asking.set k (asking.step i).1 }, effects)
  | pushes {k dialog form} : s.asking[k]? = some (.dialog dialog) → dialog.ok = some form →
      Moves s (.asking k .ok) (s.takeOtp (.event (.opened form)))

theorem moves (s : Entrance) (i : EntranceInput) : Moves s i (s.step i) := by
  cases i with
  | screen i => exact .screen
  | asking k i =>
      simp only [step]
      cases located : s.asking[k]? with
      | none => exact .idle
      | some asking =>
          simp only []
          cases out : (asking.step i).2 with
          | none => exact .asks located (by simp) (by simp [out])
          | some e =>
              cases e with
              | selectDevice eMail => exact .asks located (by simp) (by simp [out])
              | pushes form =>
                  obtain ⟨dialog, rfl, rfl, pushes⟩ := Asking.dialog_of_pushes out
                  have same : s.asking.set k (Asking.dialog dialog) = s.asking := by
                    apply List.ext_getElem?
                    intro j
                    rw [List.getElem?_set]
                    split
                    · subst_vars
                      split
                      · exact located.symm
                      · rename_i inside
                        rw [List.getElem?_eq_none (by omega)]
                    · rfl
                  simp only [Asking.step, same, take]
                  exact .pushes located pushes
  | otp i =>
      cases i with
      | event e =>
          cases e with
          | opened form => exact .idle
          | _ => exact .otp (by simp)
      | resume k r => exact .otp (by simp)
  | alreadyHaveAnAccountCheck => exact .webView
  | noticeOk => exact .idle
  | webViewLeft => exact .idle

end Entrance

end Edutopik.App

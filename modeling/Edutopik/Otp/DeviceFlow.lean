import Edutopik.Login.Body
import Edutopik.Otp.OtpForm

/-! # From a login to a registration

A login on a device that is not registered leads to a dialog, the dialog to an OTP
form, and the form to a registration. With two devices registered the dialog first
asks which one to replace: it fetches them, shows a sheet with two buttons, and hands
the chosen UUID to the form. Otherwise a blank is handed on.
-/

namespace Edutopik.Otp

open Dart EventLoop Login

inductive Device where
  | first
  | second
  deriving DecidableEq, Repr

/-- The key under which `select_device.asp` returns the device's UUID. -/
def Device.key : Device → String
  | .first => "UUID1"
  | .second => "UUID2"

/-- The variables of `DevOveruseDialog`'s `build`. -/
structure Devices where
  deviceName1 : String := "."
  deviceName2 : String := "."
  deviceUUID1 : String := "."
  deviceUUID2 : String := "."
  isCheck1 : Bool := false
  isCheck2 : Bool := false
  deriving DecidableEq, Repr

namespace Devices

/-- The four assignments from a reply. One that is not a string raises, and the sheet
    is not shown. -/
def assign (devices : Devices) (res : JsonObject) : Option Devices :=
  match (res.get "NAME1").toText, (res.get "NAME2").toText, (res.get "UUID1").toText,
      (res.get "UUID2").toText with
  | some name1, some name2, some uuid1, some uuid2 =>
      some { devices with
        deviceName1 := name1, deviceName2 := name2, deviceUUID1 := uuid1, deviceUUID2 := uuid2 }
  | _, _, _, _ => none

/-- What the sheet is shown with after a reply of `select_device.asp`. -/
def select (reply : Reply) : Option Devices :=
  match reply.decode with
  | none => none
  | some (statusCode, res) =>
      if statusAccepted statusCode then assign {} res else some {}

def tap (devices : Devices) : Device → Devices
  | .first => { devices with isCheck1 := true, isCheck2 := false }
  | .second => { devices with isCheck1 := false, isCheck2 := true }

/-- The UUID that OK hands on. -/
def checked (devices : Devices) : Option String :=
  if devices.isCheck1 then some devices.deviceUUID1
  else if devices.isCheck2 then some devices.deviceUUID2
  else none

end Devices

/-- What OK is pressed on: `DevNewDialog`, or the sheet of `DevOveruseDialog`. -/
inductive Dialog where
  | devNew (form : OtpForm)
  | sheet (userId mobileId pass : String) (devices : Devices)

namespace Dialog

/-- What a screen opened by LOGIN leads to. `server` is what `select_device.asp` answers
    for an account; the sheet needs the popped dialog's context to be still `mounted`. -/
def shown (server : String → Reply) (mounted : Bool) : Screen → Option Dialog
  | .devNew userId mobileId pass deleteDeviceUUID =>
      some (.devNew { userId, mobileId, pass, deleteDeviceUUID })
  | .devOveruse userId mobileId pass =>
      match Devices.select (server userId) with
      | none => none
      | some devices => if mounted then some (.sheet userId mobileId pass devices) else none
  | _ => none

def devices : Dialog → Option Devices
  | .devNew _ => none
  | .sheet _ _ _ devices => some devices

def tap (device : Device) : Dialog → Dialog
  | .devNew form => .devNew form
  | .sheet userId mobileId pass devices => .sheet userId mobileId pass (devices.tap device)

/-- The form that OK pushes, if any. -/
def ok : Dialog → Option OtpForm
  | .devNew form => some form
  | .sheet userId mobileId pass devices =>
      devices.checked.map fun uuid =>
        { userId := userId, mobileId := mobileId, pass := pass, deleteDeviceUUID := uuid }

end Dialog

/-- A dialog with the forms opened from it. The last two fields record what was done:
    the device button tapped last, and for each form the one tapped when it was opened. -/
structure Flow where
  dialog : Dialog
  app : App := { shared := {}, tasks := [] }
  tapped : Option Device := none
  chosen : List (Option Device) := []

inductive FlowInput where
  | tap (device : Device)
  | ok
  | otp (i : AppInput)

namespace Flow

/-- A form opened again by `resend` keeps the choice of the first. -/
def resent (s : Flow) (place : Nat) : List (Option Device) :=
  match s.app.shared.form? place with
  | none => s.chosen
  | some _ => s.chosen ++ [(s.chosen[place]?).join]

/-- Forms are opened by the dialog and by `resend` only. -/
def step : Machine.Step Flow FlowInput Effect
  | s, .tap device =>
      match s.dialog.devices with
      | none => (s, [])
      | some _ => ({ s with dialog := s.dialog.tap device, tapped := some device }, [])
  | s, .ok =>
      match s.dialog.ok with
      | none => (s, [])
      | some form =>
          let next := otp.step s.app (.event (.opened form))
          ({ s with app := next.1, chosen := s.chosen ++ [s.tapped] }, next.2)
  | s, .otp (.event (.opened _)) => (s, [])
  | s, .otp (.event (.resend place)) =>
      let next := otp.step s.app (.event (.resend place))
      ({ s with app := next.1, chosen := s.resent place }, next.2)
  | s, .otp i =>
      let next := otp.step s.app i
      ({ s with app := next.1 }, next.2)

end Flow

end Edutopik.Otp

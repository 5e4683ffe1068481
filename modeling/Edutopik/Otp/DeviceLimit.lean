import Edutopik.Otp.DeviceFlow

/-! # The limit of two devices

The server keeps whatever devices are registered; the limit is kept by what a
registration asks it to delete. With two or more devices registered that has to be the
device chosen last, and only with fewer may it be a blank.

The flow compares the count with `"2"` alone, and shows the sheet with placeholders
where it ignores the reply that should fill it.
-/

namespace Edutopik.Otp

open Dart EventLoop Machine Login

/-- A reply that leads to a registration, with `n` devices registered. -/
structure LeadsToRegistration (statusCode : Int) (res : JsonObject) (n : Nat) : Prop where
  status : statusAccepted statusCode = true
  login : res.get "IsLogin" = .string "true"
  register : res.get "IsRegister" ≠ .string "true"
  count : res.get "CountUUID" = .string (toString n)

/-- `fits choice uuid`: a form opened on that choice may ask for that UUID. -/
def Fitting (fits : Option Device → String → Prop) (tapped : Option Device) : Dialog → Prop
  | .devNew form => ∀ choice, fits choice form.deleteDeviceUUID
  | .sheet _ _ _ devices =>
      devices.isCheck1 = decide (tapped = some .first) ∧
        devices.isCheck2 = decide (tapped = some .second) ∧
          fits (some .first) devices.deviceUUID1 ∧ fits (some .second) devices.deviceUUID2

structure Tracked (fits : Option Device → String → Prop) (s : Flow) : Prop where
  dialog : Fitting fits s.tapped s.dialog
  length : s.chosen.length = s.app.shared.forms.length
  forms : ∀ (place : Nat) (form : OtpForm), s.app.shared.forms[place]? = some form →
    ∃ choice, s.chosen[place]? = some choice ∧ fits choice form.deleteDeviceUUID
  tasks : s.app.Holds (fun _ => True) Placed

variable {fits : Option Device → String → Prop} {s : Flow}

/-- A form added with a choice that fits it. -/
theorem Tracked.opens {form : OtpForm} {choice : Option Device} {app : App}
    (tracked : Tracked fits s) (fit : fits choice form.deleteDeviceUUID)
    (grown : app.shared.forms = s.app.shared.forms ++ [form])
    (placed : app.Holds (fun _ => True) Placed) :
    Tracked fits { s with app := app, chosen := s.chosen ++ [choice] } where
  dialog := tracked.dialog
  length := by simp [grown, tracked.length]
  forms := by
    intro place opened there
    simp only [grown] at there
    rcases Nat.lt_or_ge place s.app.shared.forms.length with inside | outside
    · rw [List.getElem?_append_left inside] at there
      obtain ⟨old, chosen, fitsOld⟩ := tracked.forms place opened there
      refine ⟨old, ?_, fitsOld⟩
      rw [List.getElem?_append_left (by rw [tracked.length]; exact inside)]
      exact chosen
    · rw [List.getElem?_append_right outside] at there
      have last : place = s.chosen.length := by
        obtain ⟨bound, -⟩ := List.getElem?_eq_some_iff.mp there
        simp only [List.length_singleton] at bound
        rw [tracked.length]
        omega
      subst last
      have same : opened = form := by simpa [tracked.length, eq_comm] using there
      exact ⟨choice, by simp, same ▸ fit⟩
  tasks := placed

/-- A step of the forms that opens none. -/
theorem Tracked.stays {app : App} (tracked : Tracked fits s)
    (same : app.shared.forms = s.app.shared.forms) (placed : app.Holds (fun _ => True) Placed) :
    Tracked fits { s with app := app } where
  dialog := tracked.dialog
  length := by simp only [same, tracked.length]
  forms := by
    simp only [same]
    exact tracked.forms
  tasks := placed

theorem toString_eq_two_iff (n : Nat) : toString n = "2" ↔ n = 2 := by
  constructor
  · intro same
    have small : n < 10 := by
      have short : n.repr.length ≤ 1 := by
        rw [← Nat.toString_eq_repr, same]
        decide
      exact (Nat.length_repr_le_iff Nat.one_pos).mp short
    revert same
    revert n
    decide
  · intro two
    rw [two]
    rfl

theorem LeadsToRegistration.route {statusCode : Int} {res : JsonObject} {n : Nat}
    (leads : LeadsToRegistration statusCode res n) (mobileId : String) :
    loginRoute mobileId statusCode res =
      some (if n = 2 then .devOveruse mobileId else .devNew mobileId) := by
  have registered : (res.get "IsRegister").equals "true" = false :=
    Bool.eq_false_iff.mpr fun same => leads.register ((Json.equals_iff _ _).mp same)
  have counted : (res.get "CountUUID").equals "2" = decide (n = 2) := by
    rw [leads.count, Bool.eq_iff_iff]
    simp only [Json.equals, beq_iff_eq, decide_eq_true_eq]
    exact toString_eq_two_iff n
  simp only [loginRoute, leads.status, leads.login, registered, counted]
  by_cases two : n = 2
  · simp [two, Json.equals]
  · simp [two, Json.equals]

/-- The sheet is shown with the UUIDs of a reply that counts, else with placeholders. -/
theorem select_cases {reply : Reply} {devices : Devices} (shown : Devices.select reply = some devices) :
    ∃ statusCode res, reply.decode = some (statusCode, res) ∧
      devices.isCheck1 = false ∧ devices.isCheck2 = false ∧
        if statusAccepted statusCode then
          res.get "UUID1" = .string devices.deviceUUID1 ∧ res.get "UUID2" = .string devices.deviceUUID2
        else devices.deviceUUID1 = "." ∧ devices.deviceUUID2 = "." := by
  unfold Devices.select at shown
  cases decoded : reply.decode with
  | none => simp [decoded] at shown
  | some answer =>
      obtain ⟨statusCode, res⟩ := answer
      refine ⟨statusCode, res, rfl, ?_⟩
      simp only [decoded] at shown
      by_cases accepted : statusAccepted statusCode = true
      · simp only [accepted, if_true, Devices.assign] at shown ⊢
        split at shown
        · rename_i uuid1 uuid2 _ _ read1 read2
          cases shown
          exact ⟨rfl, rfl, Json.toText_eq_some_iff.mp read1, Json.toText_eq_some_iff.mp read2⟩
        · cases shown
      · simp only [accepted] at shown ⊢
        cases shown
        exact ⟨rfl, rfl, rfl, rfl⟩

theorem shown_devOveruse {server : String → Reply} {mounted : Bool}
    {userId mobileId pass : String} {dialog : Dialog}
    (shown : Dialog.shown server mounted (.devOveruse userId mobileId pass) = some dialog) :
    ∃ devices, Devices.select (server userId) = some devices ∧
      dialog = .sheet userId mobileId pass devices := by
  simp only [Dialog.shown] at shown
  split at shown
  · cases shown
  · rename_i devices selected
    cases mounted with
    | true =>
        cases shown
        exact ⟨devices, selected, rfl⟩
    | false => cases shown

end Edutopik.Otp

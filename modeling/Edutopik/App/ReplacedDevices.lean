import Edutopik.App.Admissions
import Edutopik.Otp.DeviceLimit

/-! # Which device a registration replaces

A form carries the device to delete from the dialog that opened it to the registration.
The dialog about a new device gives it a blank. The sheet gives it the UUID whose button
was tapped: one of the two that `select_device.asp` listed for the form's account, or the
placeholder where the list was not read. Any number of dialogs may be open and any number
of forms at it, and none takes the device of another account's sheet.
-/

namespace Edutopik.App

open Dart EventLoop Machine

/-! ## The traces -/

def uuidOf (devices : Otp.Devices) : Otp.Device → String
  | .first => devices.deviceUUID1
  | .second => devices.deviceUUID2

def isCheckOf (devices : Otp.Devices) : Otp.Device → Bool
  | .first => devices.isCheck1
  | .second => devices.isCheck2

/-- The devices of the account were asked for. -/
def DevicesAsked (userId : String) : List EntranceFired → Prop :=
  Past fun f => .selectDevice userId ∈ f.effects

/-- The dialog of the account had such an answer. -/
def DevicesAnswered (such : Int → JsonObject → Prop) (userId : String) : List EntranceFired → Prop :=
  Past fun f => ∃ k mobileId pass reply mounted statusCode res,
    f.input = .asking k (.replied reply mounted) ∧
      f.before.asking[k]? = some (.selecting userId mobileId pass) ∧
        reply.decode = some (statusCode, res) ∧ such statusCode res

/-- A UUID the sheet of the account may show. -/
inductive Offered (past : List EntranceFired) (userId : String) : String → Prop where
  | listed {uuid} (device : Otp.Device) :
      DevicesAnswered (fun statusCode res => Login.statusAccepted statusCode = true ∧
        res.get device.key = .string uuid) userId past → Offered past userId uuid
  | unread : DevicesAnswered (fun statusCode _ => Login.statusAccepted statusCode = false) userId past →
      Offered past userId "."

/-- Its button was tapped, on a sheet of the account. -/
def Picked (userId uuid : String) : List EntranceFired → Prop :=
  Past fun f => ∃ k device mobileId pass devices, f.input = .asking k (.tap device) ∧
    f.before.asking[k]? = some (.dialog (.sheet userId mobileId pass devices)) ∧
      uuidOf devices device = uuid

/-- What stands behind the device that a form deletes. -/
inductive MayDelete (past : List EntranceFired) (form : Otp.OtpForm) : Prop where
  | blank : PressTold (.devNew form.mobileId) past → form.deleteDeviceUUID = " " →
      MayDelete past form
  | chosen : PressTold (.devOveruse form.mobileId) past → DevicesAsked form.userId past →
      Offered past form.userId form.deleteDeviceUUID →
        Picked form.userId form.deleteDeviceUUID past → MayDelete past form

theorem Offered.more {past : List EntranceFired} {userId uuid : String}
    (offered : Offered past userId uuid) (f : EntranceFired) : Offered (past ++ [f]) userId uuid := by
  cases offered with
  | listed device answered => exact .listed device (answered.more f)
  | unread answered => exact .unread (answered.more f)

theorem MayDelete.more {past : List EntranceFired} {form : Otp.OtpForm}
    (may : MayDelete past form) (f : EntranceFired) : MayDelete (past ++ [f]) form := by
  cases may with
  | blank told same => exact .blank (told.more f) same
  | chosen told asked offered picked =>
      exact .chosen (told.more f) (asked.more f) (offered.more f) (picked.more f)

/-! ## What is held -/

structure SheetVouched (past : List EntranceFired) (userId mobileId : String)
    (devices : Otp.Devices) : Prop where
  told : PressTold (.devOveruse mobileId) past
  asked : DevicesAsked userId past
  offered : ∀ device, Offered past userId (uuidOf devices device)
  picked : ∀ device, isCheckOf devices device = true → Picked userId (uuidOf devices device) past

def AskingVouched (past : List EntranceFired) : Asking → Prop
  | .overuse _ mobileId _ => PressTold (.devOveruse mobileId) past
  | .selecting userId mobileId _ => PressTold (.devOveruse mobileId) past ∧ DevicesAsked userId past
  | .dialog (.devNew form) => PressTold (.devNew form.mobileId) past ∧ form.deleteDeviceUUID = " "
  | .dialog (.sheet userId mobileId _ devices) => SheetVouched past userId mobileId devices
  | .dismissed => True

structure Replaces (past : List EntranceFired) (s : Entrance) : Prop where
  vouched : Vouched past s
  asking : ∀ asking ∈ s.asking, AskingVouched past asking
  otp : Otp.FormsAll (MayDelete past) s.otp

theorem AskingVouched.more {past : List EntranceFired} {asking : Asking}
    (vouched : AskingVouched past asking) (f : EntranceFired) : AskingVouched (past ++ [f]) asking := by
  cases asking with
  | overuse userId mobileId pass => exact PressTold.more vouched f
  | selecting userId mobileId pass => exact ⟨vouched.1.more f, vouched.2.more f⟩
  | dialog dialog =>
      cases dialog with
      | devNew form => exact ⟨vouched.1.more f, vouched.2⟩
      | sheet userId mobileId pass devices =>
          exact
            { told := vouched.told.more f
              asked := vouched.asked.more f
              offered := fun device => (vouched.offered device).more f
              picked := fun device checked => (vouched.picked device checked).more f }
  | dismissed => trivial

/-! ## One step -/

/-- A dialog that is shown has the reply behind it that led to it. -/
theorem askingVouched_of_shown {past : List EntranceFired} {route : Login.Route}
    {email password : String} {asking : Asking} (told : PressVouched past (.building route))
    (shown : asking ∈ Asking.shownBy (.opens (route.build email password))) :
    AskingVouched past asking := by
  cases route with
  | devOveruse mobileId =>
      rw [List.mem_singleton.mp shown]
      exact told.resolve_left nofun
  | devNew mobileId =>
      rw [List.mem_singleton.mp shown]
      exact ⟨told.resolve_left nofun, rfl⟩
  | _ => simp [Login.Route.build, Asking.shownBy, Asking.shown] at shown

/-- The sheet a reply leads to shows what it lists, and nothing is tapped on it yet. -/
theorem sheetVouched_of_select {past : List EntranceFired} {f : EntranceFired} {k : Nat}
    {userId mobileId pass : String} {reply : Reply} {mounted : Bool} {devices : Otp.Devices}
    (vouched : AskingVouched (past ++ [f]) (.selecting userId mobileId pass))
    (input : f.input = .asking k (.replied reply mounted))
    (located : f.before.asking[k]? = some (.selecting userId mobileId pass))
    (selected : Otp.Devices.select reply = some devices) :
    SheetVouched (past ++ [f]) userId mobileId devices := by
  obtain ⟨statusCode, res, decoded, check1, check2, filled⟩ := Otp.select_cases selected
  refine ⟨vouched.1, vouched.2, ?_, ?_⟩
  · intro device
    cases accepted : Login.statusAccepted statusCode with
    | true =>
        simp only [accepted, if_true] at filled
        have own : res.get device.key = .string (uuidOf devices device) := by
          cases device with
          | first => exact filled.1
          | second => exact filled.2
        exact .listed device
          (.now ⟨k, mobileId, pass, reply, mounted, statusCode, res, input, located, decoded,
            accepted, own⟩)
    | false =>
        simp only [accepted] at filled
        have own : uuidOf devices device = "." := by
          cases device with
          | first => exact filled.1
          | second => exact filled.2
        rw [own]
        exact .unread
          (.now ⟨k, mobileId, pass, reply, mounted, statusCode, res, input, located, decoded, accepted⟩)
  · intro device checked
    cases device with
    | first => cases check1.symm.trans checked
    | second => cases check2.symm.trans checked

/-- A tap checks the device it is on, and no other. -/
theorem sheetVouched_tap {past : List EntranceFired} {f : EntranceFired} {k : Nat}
    {userId mobileId pass : String} {devices : Otp.Devices} {device : Otp.Device}
    (vouched : SheetVouched (past ++ [f]) userId mobileId devices)
    (input : f.input = .asking k (.tap device))
    (located : f.before.asking[k]? = some (.dialog (.sheet userId mobileId pass devices))) :
    SheetVouched (past ++ [f]) userId mobileId (devices.tap device) := by
  have same : uuidOf (devices.tap device) = uuidOf devices := by
    cases device <;> (funext other; cases other <;> rfl)
  refine ⟨vouched.told, vouched.asked, same ▸ vouched.offered, ?_⟩
  intro other checked
  have this : other = device := by
    cases device <;> cases other <;> first | rfl | cases checked
  rw [this, same]
  exact .now ⟨k, device, mobileId, pass, devices, input, located, rfl⟩

theorem askingVouched_step {past : List EntranceFired} {f : EntranceFired} {k : Nat}
    {asking : Asking} {i : AskingInput} (vouched : AskingVouched (past ++ [f]) asking)
    (input : f.input = .asking k i) (located : f.before.asking[k]? = some asking)
    (asks : ∀ eMail, (asking.step i).2 = some (.selectDevice eMail) → .selectDevice eMail ∈ f.effects) :
    AskingVouched (past ++ [f]) (asking.step i).1 := by
  cases asking with
  | overuse userId mobileId pass =>
      cases i with
      | ok => exact ⟨vouched, .now (asks userId rfl)⟩
      | dismiss => trivial
      | _ => exact vouched
  | selecting userId mobileId pass =>
      cases i with
      | replied reply mounted =>
          simp only [Asking.step]
          split
          · trivial
          · rename_i sheet shown
            obtain ⟨devices, selected, rfl⟩ := Otp.shown_devOveruse shown
            exact sheetVouched_of_select vouched input located selected
      | _ => exact vouched
  | dialog dialog =>
      cases i with
      | tap device =>
          cases dialog with
          | devNew form => exact vouched
          | sheet userId mobileId pass devices => exact sheetVouched_tap vouched input located
      | dismiss => trivial
      | _ => exact vouched
  | dismissed => cases i <;> trivial

/-- The form that OK pushes deletes what the dialog stands for. -/
theorem mayDelete_of_ok {past : List EntranceFired} {dialog : Otp.Dialog} {form : Otp.OtpForm}
    (vouched : AskingVouched past (.dialog dialog)) (pushed : dialog.ok = some form) :
    MayDelete past form := by
  cases dialog with
  | devNew own =>
      cases pushed
      exact .blank vouched.1 vouched.2
  | sheet userId mobileId pass devices =>
      obtain ⟨uuid, checked, rfl⟩ := Option.map_eq_some_iff.mp pushed
      have device : ∃ device, isCheckOf devices device = true ∧ uuidOf devices device = uuid := by
        unfold Otp.Devices.checked at checked
        split at checked
        · rename_i first
          exact ⟨.first, first, Option.some.inj checked⟩
        · split at checked
          · rename_i second
            exact ⟨.second, second, Option.some.inj checked⟩
          · cases checked
      obtain ⟨device, isCheck, rfl⟩ := device
      exact .chosen vouched.told vouched.asked (vouched.offered device) (vouched.picked device isCheck)

/-- The forms go on, where one that is opened may delete what it does. -/
theorem Replaces.takeOtp {past : List EntranceFired} {s : Entrance} {f : EntranceFired}
    {i : Otp.AppInput} (vouched : Vouched (past ++ [f]) (s.takeOtp i).1) (replaces : Replaces past s)
    (opened : ∀ form, i = .event (.opened form) → MayDelete (past ++ [f]) form) :
    Replaces (past ++ [f]) (s.takeOtp i).1 where
  vouched := vouched
  asking := fun asking member => (replaces.asking asking member).more f
  otp := by
    have grown := replaces.otp.mono (fun form may => MayDelete.more may f)
    exact (Otp.formsAll_step grown opened).1

theorem replaces_step (past : List EntranceFired) (s : Entrance) (i : EntranceInput)
    (replaces : Replaces past s) : Replaces (past ++ [fire Entrance.step s i]) (s.step i).1 := by
  have vouched := vouched_step past s i replaces.vouched
  have turn := s.moves i
  have before : (fire Entrance.step s i).before = s := rfl
  have input : (fire Entrance.step s i).input = i := rfl
  have effects : (fire Entrance.step s i).effects = (s.step i).2 := rfl
  have asking : ∀ asking ∈ s.asking, AskingVouched (past ++ [fire Entrance.step s i]) asking :=
    fun asking member => (replaces.asking asking member).more _
  have otp := replaces.otp.mono (fun form may => MayDelete.more may (fire Entrance.step s i))
  generalize fire Entrance.step s i = f at *
  generalize s.step i = next at turn effects vouched
  cases turn with
  | idle => exact ⟨vouched, asking, otp⟩
  | webView => exact ⟨vouched, asking, otp⟩
  | @screen i =>
      refine ⟨vouched, ?_, otp⟩
      intro asking' member
      rcases List.mem_append.mp member with old | new
      · exact asking asking' old
      · obtain ⟨route, building, shown⟩ := building_of_shown new
        exact askingVouched_of_shown ((replaces.vouched.more f).presses _ building) shown
  | otp notOpened => exact replaces.takeOtp vouched (fun form same => absurd same (notOpened form))
  | @asks k i asking' effects' located selects asks =>
      refine ⟨vouched, ?_, otp⟩
      intro other member
      rcases List.mem_or_eq_of_mem_set member with old | rfl
      · exact asking other old
      · apply askingVouched_step (asking asking' (List.mem_of_getElem? located)) input
        · rw [before]
          exact located
        · rw [effects]
          exact asks
  | pushes located pushed =>
      apply replaces.takeOtp vouched
      intro form same
      cases same
      exact mayDelete_of_ok (asking _ (List.mem_of_getElem? located)) pushed

theorem replaces_start (storage : Option String) : Replaces [] (.start storage) where
  vouched := vouched_start storage
  asking := by simp [Entrance.start]
  otp := ⟨by simp [Entrance.start], by simp [Entrance.start]⟩

/-! ## The registrations -/

/-- A form that registers this has signed in, and may delete the device it asks to. -/
def Registers (past : List EntranceFired) (registration : Otp.Registration) : Prop :=
  ∃ form name, registration = form.registration name ∧ SignedIn form past ∧ MayDelete past form

theorem naming_of_takeOtp {s : Entrance} {i : Otp.AppInput} {registration : Otp.Registration}
    (posted : .otp (.deviceRegister registration) ∈ (s.takeOtp i).2) :
    ∃ place form credential name, .naming place form credential ∈ s.otp.tasks ∧
      registration = form.registration name := by
  obtain ⟨e, out, same⟩ := List.mem_map.mp posted
  cases same
  have turn := Otp.otpTurn s.otp i
  generalize Otp.otp.step s.otp i = next at turn out
  cases turn with
  | @names k place form credential name located =>
      cases List.mem_singleton.mp out
      exact ⟨place, form, credential, name, List.mem_of_getElem? located, rfl⟩
  | _ => simp at out

theorem Replaces.registers {past : List EntranceFired} {s : Entrance} {i : EntranceInput}
    {registration : Otp.Registration} (replaces : Replaces past s)
    (posted : .otp (.deviceRegister registration) ∈ (s.step i).2) : Registers past registration := by
  have naming : ∃ place form credential name, .naming place form credential ∈ s.otp.tasks ∧
      registration = form.registration name := by
    have turn := s.moves i
    generalize s.step i = next at turn posted
    cases turn with
    | idle => simp at posted
    | webView => simp at posted
    | screen => simp [Entrance.takeScreen] at posted
    | otp => exact naming_of_takeOtp posted
    | asks _ selects =>
        obtain ⟨eMail, same⟩ := selects _ posted
        cases same
    | pushes => exact naming_of_takeOtp posted
  obtain ⟨place, form, credential, name, pending, rfl⟩ := naming
  exact ⟨form, name, rfl, (replaces.vouched.confirmed _ pending).2,
    replaces.otp.confirmed _ pending form rfl⟩

/-! ## The app -/

/-- What the screens before the home page let out in a step of the app, they let out in a
    step of their own run. -/
theorem exists_entrance_step {storage : Option String} {is : List AppInput} {input : AppInput}
    {k : Nat} {e : EntranceEffect}
    (out : (k, .entrance e) ∈ (app.step (final app.step (opened storage) is) input).2) :
    ∃ i, e ∈ (Entrance.step (final Entrance.step (.start storage) (entranceInputs is)) i).2 := by
  cases Colony.letsOut_of_step out with
  | @own part i there letOut =>
      have steps := part.steps k (final app.step (opened storage) is).shared i
      have own : .entrance e ∈ (part.step k (final app.step (opened storage) is).shared i).2 := letOut
      generalize part.step k (final app.step (opened storage) is).shared i = next at steps own
      cases steps with
      | @entrance s i =>
          obtain ⟨e', stepped, same⟩ := List.mem_map.mp own
          cases same
          obtain ⟨-, moved⟩ := (accounted storage is).entrance k s there
          exact ⟨i, moved ▸ stepped⟩
      | home => simp at own
      | player => simp at own
      | _ => cases own
  | joins there letOut begun opening =>
      -- What joins is a page or a player, and lets out its own.
      cases Part.begins begun with
      | home opens => cases List.mem_singleton.mp opening
      | player initial => cases List.mem_singleton.mp opening

/-- Every registration among these has in this run of the app, by the steps of the screens
    before the home page, what it takes behind it. -/
def RegistrationsOwn (storage : Option String) (is : List AppInput) (out : List AppEffect) : Prop :=
  ∀ k registration, (k, .entrance (.otp (.deviceRegister registration))) ∈ out →
    Registers (run Entrance.step (.start storage) (entranceInputs is)) registration

/-- However the app runs, a registration is posted only for a form that has signed in. Of a
    new device it deletes none, and otherwise what was offered for the form's own account
    and tapped. -/
theorem registrations_replace_own (storage : Option String) (is : List AppInput) (input : AppInput) :
    RegistrationsOwn storage is (app.step (final app.step (opened storage) is) input).2 := by
  intro k registration posted
  obtain ⟨i, own⟩ := exists_entrance_step posted
  have replaces := history_of_kept replaces_step (replaces_start storage) (entranceInputs is)
  exact replaces.registers own

end Edutopik.App

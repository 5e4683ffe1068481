import Edutopik.App.RouteStack
import Edutopik.Login.FormTurns
import Edutopik.Media.Record
import Edutopik.Home.Messages
import Edutopik.Otp.DeviceInfo
import Edutopik.Otp.OtpTurns

/-! # The device the app speaks for

An id of the device is read in two places only, by a press of LOGIN and by the automatic
login. From there it is handed on: with the request, to the dialogs and the forms, to the
registration, to the home page and the address it loads, into the record of every
message, and with the record to the player's reports. Nothing on the way changes it.
-/

namespace Edutopik.App

open Dart EventLoop Machine

/-! ## What is about which device -/

def devicesOfScreen : Login.Screen → List String
  | .home uuid _ => [uuid]
  | .devOveruse _ mobileId _ | .devNew _ mobileId _ _ => [mobileId]
  | .incorrectAcc | .nonEmailFormat => []

def devicesOfLogin : Login.Effect → List String
  | .posts request => [request.deviceId]
  | .opens screen => devicesOfScreen screen
  | .saves _ | .checks _ | .deletes _ => []

def devicesOfOtp : Otp.Effect → List String
  | .deviceRegister registration => [registration.deviceId]
  | .openHome uuid _ => [uuid]
  | _ => []

def EntranceEffect.devices : EntranceEffect → List String
  | .screen e => devicesOfLogin e
  | .selectDevice _ | .webView _ => []
  | .otp e => devicesOfOtp e

def devicesOfPress : Login.Task → List String
  | .posting request => [request.deviceId]
  | .building route => route.mobileId?.toList
  | .saving _ | .identifying => []

def devicesOfAuto : Login.AutoLogin → List String
  | .posting _ request | .rereading request _ _ => [request.deviceId]
  | .reading | .identifying _ _ _ | .finished => []

def devicesOfDialog : Otp.Dialog → List String
  | .devNew form => [form.mobileId]
  | .sheet _ mobileId _ _ => [mobileId]

def Asking.devices : Asking → List String
  | .overuse _ mobileId _ | .selecting _ mobileId _ => [mobileId]
  | .dialog shown => devicesOfDialog shown
  | .dismissed => []

/-- The id that an input brings. -/
def mobileIdOf : Login.Result → Option String
  | .mobileId id => some id
  | _ => none

def EntranceInput.mobileId? : EntranceInput → Option String
  | .screen (.form (.resume _ r)) => mobileIdOf r
  | .screen (.auto r) => mobileIdOf r
  | _ => none

def PartInput.mobileId? : PartInput → Option String
  | .entrance i => i.mobileId?
  | _ => none

/-- What is let out speaks for a device of this kind, if for any. -/
def PartEffect.SpeaksFor (P : String → Prop) : PartEffect → Prop
  | .entrance e => ∀ id ∈ e.devices, P id
  | .home (.get url) => ∃ listUrl playTime, url = Home.listRequest listUrl playTime ∧ P playTime.uuid
  | .home (.push _ _ playTime) => P playTime.uuid
  | .player (.sendPlayTime report) => P report.uuid
  | .loads url => ∃ email uuid, url = (Home.HomeScreen.opened email uuid).shared.initialUrl ∧ P uuid
  | _ => True

variable {P : String → Prop}

/-! ## The login screen -/

structure LoginCarries (P : String → Prop) (s : Login.LoginScreen) : Prop where
  form : ∀ t ∈ s.form.tasks, ∀ id ∈ devicesOfPress t, P id
  auto : ∀ id ∈ devicesOfAuto s.auto, P id

theorem devicesOfScreen_build {email password : String} {route : Login.Route} :
    devicesOfScreen (route.build email password) = route.mobileId?.toList := by
  cases route <;> rfl

/-- A task that takes another's place is about the same device, or about one just brought. -/
theorem pressCarries_step {w : Login.Form} {i : Login.FormInput}
    (carries : ∀ t ∈ w.tasks, ∀ id ∈ devicesOfPress t, P id)
    (brought : ∀ k r, i = .resume k r → ∀ id, mobileIdOf r = some id → P id) :
    (∀ t ∈ (Login.body.step w i).1.tasks, ∀ id ∈ devicesOfPress t, P id) ∧
      ∀ e ∈ (Login.body.step w i).2, ∀ id ∈ devicesOfLogin e, P id := by
  have turn := Login.formTurn w i
  generalize Login.body.step w i = next at turn
  cases turn with
  | idle => exact ⟨carries, by simp⟩
  | edits => exact ⟨carries, by simp⟩
  | presses => exact ⟨forall_mem_started carries (by simp [devicesOfPress]), by simp⟩
  | @saves k value located =>
      refine ⟨forall_mem_replaceAt carries ?_ k, by simp [devicesOfLogin]⟩
      rcases Login.saved_tasks_cases w.shared value with goesOn | ends
      · simp [goesOn, devicesOfPress]
      · simp [ends, devicesOfPress, Login.Route.mobileId?]
  | @identifies k id located =>
      have own : P id := brought k _ rfl id rfl
      refine ⟨forall_mem_replaceAt carries ?_ k, by simpa [devicesOfLogin] using own⟩
      simpa [devicesOfPress] using own
  | @answers k request reply statusCode res route located decoded leads =>
      have own : P request.deviceId :=
        carries _ (List.mem_of_getElem? located) _ List.mem_cons_self
      refine ⟨forall_mem_replaceAt carries (List.forall_mem_singleton.mpr ?_) k, by simp⟩
      intro id about
      rw [Login.loginRoute_mobileId leads (Option.mem_toList.mp about)]
      exact own
  | @builds k route r located =>
      refine ⟨forall_mem_replaceAt carries (by simp) k, ?_⟩
      intro e out
      rw [List.mem_singleton.mp out, devicesOfLogin, devicesOfScreen_build]
      exact carries _ (List.mem_of_getElem? located)
  | ends => exact ⟨forall_mem_replaceAt carries (by simp) _, by simp⟩

theorem autoCarries_step {s : Login.LoginScreen} {r : Login.Result}
    (carries : ∀ id ∈ devicesOfAuto s.auto, P id) (brought : ∀ id, mobileIdOf r = some id → P id) :
    (∀ id ∈ devicesOfAuto (s.resume r).1.auto, P id) ∧
      (∀ e ∈ (s.resume r).2, ∀ id ∈ devicesOfLogin e, P id) ∧ (s.resume r).1.form = s.form := by
  have turn := Login.autoTurn_resume s r
  generalize s.resume r = next at turn
  cases turn with
  | finish => exact ⟨by simp [Login.LoginScreen.finish, devicesOfAuto], by simp, rfl⟩
  | read => exact ⟨by simp [devicesOfAuto], by simp, rfl⟩
  | @identified _ _ _ id phase =>
      have own : P id := brought id rfl
      exact ⟨by simpa [devicesOfAuto] using own, by simpa [devicesOfLogin] using own, rfl⟩
  | answered phase decoded =>
      rw [phase] at carries
      exact ⟨carries, by simp, rfl⟩
  | opens phase there =>
      rw [phase] at carries
      refine ⟨by simp [Login.LoginScreen.finish, devicesOfAuto], ?_, rfl⟩
      intro e out
      rw [List.mem_singleton.mp out]
      exact carries

theorem loginCarries_step {s : Login.LoginScreen} {i : Login.ScreenInput} (carries : LoginCarries P s)
    (brought : ∀ id, (EntranceInput.screen i).mobileId? = some id → P id) :
    LoginCarries P (s.step i).1 ∧ ∀ e ∈ (s.step i).2, ∀ id ∈ devicesOfLogin e, P id := by
  cases i with
  | form i =>
      have brings : ∀ k r, i = .resume k r → ∀ id, mobileIdOf r = some id → P id := by
        intro k r same id named
        subst same
        exact brought id named
      obtain ⟨form, out⟩ := pressCarries_step carries.form brings
      exact ⟨⟨form, carries.auto⟩, out⟩
  | auto r =>
      obtain ⟨auto, out, same⟩ := autoCarries_step carries.auto brought
      refine ⟨⟨?_, auto⟩, out⟩
      have form := carries.form
      rw [← same] at form
      exact form
  | deletes =>
      simp only [Login.LoginScreen.step]
      split
      · exact ⟨carries, by simp⟩
      · exact ⟨⟨carries.form, carries.auto⟩, by simp [devicesOfLogin]⟩

/-! ## The dialogs and the forms -/

/-- What is let out about such a form is about its device. -/
theorem devices_of_about {e : Otp.Effect} (about : e.About fun form => P form.mobileId) :
    ∀ id ∈ devicesOfOtp e, P id := by
  intro id member
  cases e with
  | deviceRegister registration =>
      obtain ⟨form, name, own, rfl⟩ := about
      rw [List.mem_singleton.mp member]
      exact own
  | openHome uuid email =>
      obtain ⟨form, own, rfl, rfl⟩ := about
      rw [List.mem_singleton.mp member]
      exact own
  | _ => simp [devicesOfOtp] at member

theorem Asking.Becomes.devices {before after : Asking} (becomes : before.Becomes after) :
    after.devices ⊆ before.devices := by
  cases becomes with
  | same => exact List.Subset.refl _
  | selecting => exact List.Subset.refl _
  | sheet => exact List.Subset.refl _
  | @tapped dialog device => cases dialog <;> exact List.Subset.refl _
  | dismissed => exact List.nil_subset _

theorem devices_of_ok {dialog : Otp.Dialog} {form : Otp.OtpForm} (pushes : dialog.ok = some form) :
    form.mobileId ∈ devicesOfDialog dialog := by
  cases dialog with
  | devNew own =>
      cases pushes
      exact List.mem_cons_self
  | sheet userId mobileId pass devices =>
      obtain ⟨uuid, -, rfl⟩ := Option.map_eq_some_iff.mp pushes
      exact List.mem_cons_self

theorem devices_of_shownBy {e : Login.Effect} {asking : Asking} (shown : asking ∈ Asking.shownBy e) :
    asking.devices ⊆ devicesOfLogin e := by
  cases e with
  | opens screen =>
      cases screen with
      | devOveruse userId mobileId pass =>
          rw [List.mem_singleton.mp shown]
          exact List.Subset.refl _
      | devNew userId mobileId pass deleteDeviceUUID =>
          rw [List.mem_singleton.mp shown]
          exact List.Subset.refl _
      | _ => simp [Asking.shownBy, Asking.shown] at shown
  | _ => simp [Asking.shownBy] at shown

/-! ## The screens before the home page -/

structure EntranceCarries (P : String → Prop) (s : Entrance) : Prop where
  screen : LoginCarries P s.screen
  asking : ∀ asking ∈ s.asking, ∀ id ∈ asking.devices, P id
  otp : Otp.FormsAll (fun form => P form.mobileId) s.otp

theorem EntranceCarries.takeOtp {s : Entrance} (carries : EntranceCarries P s) {i : Otp.AppInput}
    (opened : ∀ form, i = .event (.opened form) → P form.mobileId) :
    EntranceCarries P (s.takeOtp i).1 ∧ ∀ e ∈ (s.takeOtp i).2, ∀ id ∈ e.devices, P id := by
  obtain ⟨otp, out⟩ := Otp.formsAll_step carries.otp opened
  refine ⟨⟨carries.screen, carries.asking, otp⟩, ?_⟩
  intro e letOut
  obtain ⟨e', own, rfl⟩ := List.mem_map.mp letOut
  exact devices_of_about (out e' own)

theorem entranceCarries_step {s : Entrance} {i : EntranceInput} (carries : EntranceCarries P s)
    (brought : ∀ id, i.mobileId? = some id → P id) :
    EntranceCarries P (s.step i).1 ∧ ∀ e ∈ (s.step i).2, ∀ id ∈ e.devices, P id := by
  have turn := s.moves i
  generalize s.step i = next at turn
  cases turn with
  | idle => exact ⟨carries, by simp⟩
  | webView => exact ⟨carries, by simp [EntranceEffect.devices]⟩
  | @screen i =>
      obtain ⟨screen, out⟩ := loginCarries_step carries.screen brought
      refine ⟨⟨screen, ?_, carries.otp⟩, ?_⟩
      · intro asking member id about
        rcases List.mem_append.mp member with old | new
        · exact carries.asking asking old id about
        · obtain ⟨e, own, shown⟩ := List.mem_flatMap.mp new
          exact out e own id (devices_of_shownBy shown about)
      · intro e letOut
        obtain ⟨e', own, rfl⟩ := List.mem_map.mp letOut
        exact out e' own
  | otp notOpened => exact carries.takeOtp (fun form same => absurd same (notOpened form))
  | @asks k i asking effects located selects =>
      refine ⟨⟨carries.screen, ?_, carries.otp⟩, ?_⟩
      · intro asking' member id about
        rcases List.mem_or_eq_of_mem_set member with old | rfl
        · exact carries.asking asking' old id about
        · have own := carries.asking asking (List.mem_of_getElem? located)
          exact own id ((asking.becomes i).devices about)
      · intro e letOut
        obtain ⟨eMail, rfl⟩ := selects e letOut
        simp [EntranceEffect.devices]
  | pushes located pushed =>
      have own := carries.asking _ (List.mem_of_getElem? located) _ (devices_of_ok pushed)
      apply carries.takeOtp
      intro form same
      cases same
      exact own

/-! ## The home page and the player -/

/-- A question shown by a page is about a record of this device. -/
def Route.Carries (P : String → Prop) : Route → Prop
  | .home _ (.confirm _ _ playTime) => P playTime.uuid
  | _ => True

structure HomeCarries (P : String → Prop) (w : Home.HomeWorld) : Prop where
  device : P w.shared.uuid
  lists : ∀ preUrl playTime, Home.Task.awaitingList preUrl playTime ∈ w.tasks → P playTime.uuid

/-- The records a page holds are of this device. -/
abbrev HoldsFor (P : String → Prop) (w : Home.HomeWorld) : Prop :=
  Home.HomeScreen.Holds (fun _ _ playTime => P playTime.uuid) (fun _ playTime => P playTime.uuid) w

theorem holdsFor_step {w : Home.HomeWorld} (device : P w.shared.uuid) (holds : HoldsFor P w)
    (i : Home.HomeInput) : HoldsFor P (Home.homeScreen.step w i).1 := by
  apply Home.holds_step holds
  refine ⟨?_, ?_, fun _ _ _ _ _ own _ => own⟩
  · intro text preUrl listUrl playTime message accepted out
    exact Home.playTime_uuid accepted ▸ device
  · intro text preUrl listUrl playTime message accepted
    exact Home.playTime_uuid accepted ▸ device

/-- What a page asks for and opens is what it holds. -/
theorem home_speaksFor {w : Home.HomeWorld} {i : Home.HomeInput} (device : P w.shared.uuid)
    (holds : HoldsFor P w) :
    ∀ e ∈ (Home.homeScreen.step w i).2, PartEffect.SpeaksFor P (.home e) := by
  have turn := Home.homeTurn w i
  generalize Home.homeScreen.step w i = next at turn
  intro e out
  cases turn with
  | asks accepted =>
      rw [List.mem_singleton.mp out]
      exact ⟨_, _, rfl, Home.playTime_uuid accepted ▸ device⟩
  | confirms top =>
      have own := holds.questions _ _ _ (by rw [top]; exact List.mem_cons_self)
      rcases List.mem_cons.mp out with rfl | out
      · trivial
      · rw [List.mem_singleton.mp out]
        exact ⟨_, _, rfl, own⟩
  | pushes located answer made =>
      rw [List.mem_singleton.mp out]
      exact holds.lists _ _ (List.mem_of_getElem? located)
  | questions accepted =>
      rw [List.mem_singleton.mp out]
      trivial
  | declines top =>
      rw [List.mem_singleton.mp out]
      trivial
  | _ => simp at out

theorem holdsFor_of_routes {k : Nat} {routes : List Route} {w : Home.HomeWorld}
    (carries : HomeCarries P w) (sound : ∀ route ∈ routes, route.Carries P) :
    HoldsFor P (Part.homeSees k routes w) where
  lists := carries.lists
  questions := by
    intro preUrl listUrl playTime shown
    obtain ⟨route, member, same⟩ := List.mem_map.mp shown
    have own := sound route member
    cases route with
    | home j shownRoute =>
        simp only [Route.seenByHome] at same
        split at same
        · subst same
          exact own
        · cases same
    | _ => cases same

theorem entranceRoutes_carries {k : Nat} {s : Entrance} {i : EntranceInput} {routes : List Route}
    (sound : ∀ route ∈ routes, route.Carries P) :
    ∀ route ∈ Part.entranceRoutes k s i routes, route.Carries P := by
  intro route there
  rcases mem_entranceRoutes there with before | ⟨own, rfl⟩
  · exact sound route before
  · trivial

/-- What a page does to the route stack adds no question but one it shows. -/
theorem homeRoutes_carries {k : Nat} {top : Option Home.Route} {routes : List Route}
    (own : ∀ route, top = some route → (Route.home k route).Carries P)
    (sound : ∀ route ∈ routes, route.Carries P) (effects : List Home.Effect) :
    ∀ route ∈ effects.foldl (Part.homeRoutes k top) routes, route.Carries P := by
  intro route there
  rcases mem_homeRoutes there with before | ⟨shown, same, rfl⟩
  · exact sound route before
  · exact own shown same

theorem playerRoutes_carries {k : Nat} {routes : List Route}
    (sound : ∀ route ∈ routes, route.Carries P) (effects : List Media.Effect) :
    ∀ route ∈ effects.foldl (Part.playerRoutes k) routes, route.Carries P := by
  intro route there
  rcases mem_playerRoutes there with before | ⟨own, rfl⟩
  · exact sound route before
  · trivial

/-- The player's record keeps its device, and the player reports from its record. -/
theorem playerCarries_step {w : Media.Player} {i : Media.PlayerInput} (own : P w.shared.playTime.uuid) :
    P (Media.mediaControl.step w i).1.shared.playTime.uuid ∧
      ∀ e ∈ (Media.mediaControl.step w i).2, PartEffect.SpeaksFor P (.player e) := by
  have here : Media.HoldsRecord w.shared.playTime w.shared := .of_same rfl
  constructor
  · obtain ⟨lmNum, currentTime, fin, same⟩ := Media.holdsRecord_step w i here
    rw [same]
    exact own
  · intro e out
    have made := Media.madeFrom_of_step here out
    cases e with
    | sendPlayTime report =>
        obtain ⟨lmNum, minute, mark, -, rfl⟩ := made
        exact own
    | _ => trivial

/-! ## The app -/

def Part.Carries (P : String → Prop) : Part → Prop
  | .entrance s => EntranceCarries P s
  | .home w => HomeCarries P w
  | .player w => P w.shared.playTime.uuid

/-- An input that brings an id brings one of these. -/
def PartInput.Brings (P : String → Prop) (i : PartInput) : Prop := ∀ id, i.mobileId? = some id → P id

theorem app_upholds (P : String → Prop) :
    app.Upholds (fun routes => ∀ route ∈ routes, route.Carries P) (Part.Carries P)
      (PartInput.Brings P) (PartEffect.SpeaksFor P) where
  turn := by
    intro k routes part i sound carries brought
    have turn := part.steps k routes i
    simp only [app]
    generalize part.step k routes i = next at turn
    cases turn with
    | entrance =>
        obtain ⟨next, out⟩ := entranceCarries_step carries brought
        exact ⟨entranceRoutes_carries sound, next, List.forall_mem_map.mpr out⟩
    | @home w i =>
        have device : P (Part.homeSees k routes w).shared.uuid := carries.device
        have holds := holdsFor_of_routes (k := k) carries sound
        have next := holdsFor_step device holds i
        have same := (Home.home_keeps (Part.homeSees k routes w) i).1
        refine ⟨homeRoutes_carries ?_ sound _, ⟨same ▸ device, next.lists⟩,
          List.forall_mem_map.mpr (home_speaksFor device holds)⟩
        intro route top
        cases route with
        | confirm preUrl listUrl playTime =>
            exact next.questions preUrl listUrl playTime (List.mem_of_head? top)
        | _ => trivial
    | @player w i =>
        have own : P (Part.playerSees k routes w).shared.playTime.uuid := carries
        obtain ⟨next, out⟩ := playerCarries_step own
        exact ⟨playerRoutes_carries sound _, next, List.forall_mem_map.mpr out⟩
    | back =>
        have left := goBack_sublist k part routes
        exact ⟨fun route member => sound route (left.subset member), carries, by simp⟩
    | passes => exact ⟨sound, carries, by simp⟩
  starts := by
    intro e speaks part out begun
    have begins := Part.begins begun
    cases begins with
    | @home e uuid email opens =>
        have about : uuid ∈ e.devices := by
          unfold Part.opensHome at opens
          split at opens
          · cases opens
            exact List.mem_cons_self
          · cases opens
            exact List.mem_cons_self
          · cases opens
        have own : P uuid := speaks uuid about
        exact ⟨⟨own, by simp [Home.HomeScreen.opened]⟩,
          List.forall_mem_singleton.mpr ⟨email, uuid, rfl, own⟩⟩
    | player initial =>
        obtain ⟨url, rfl⟩ := Media.initState_opens initial
        exact ⟨speaks, List.forall_mem_singleton.mpr trivial⟩
  joins := by
    intro k part routes carries sound
    cases part with
    | entrance s => exact sound
    | home w => exact List.forall_mem_cons.mpr ⟨trivial, sound⟩
    | player w => exact List.forall_mem_cons.mpr ⟨trivial, sound⟩

theorem opened_carries (storage : Option String) :
    (opened storage).Sound (fun routes => ∀ route ∈ routes, route.Carries P) (Part.Carries P) where
  shared := by simp [opened, Route.Carries]
  members := by
    intro part member
    rw [List.mem_singleton.mp member]
    have screen : LoginCarries P (.start storage) :=
      ⟨by simp [Login.LoginScreen.start], by simp [Login.LoginScreen.start, devicesOfAuto]⟩
    refine ⟨screen, ?_, ?_, ?_⟩
    · simp [Entrance.start]
    · simp [Entrance.start]
    · simp [Entrance.start]

/-- Whatever the app does, on whatever it had saved and is told, all it lets out about a
    device is about the one it runs on, under its id or, where that could not be read,
    under the empty one; and so are the pages and the players that are open, and the
    questions on the route stack. -/
theorem speaks_for_phone (phone : Otp.Phone) (storage : Option String) (is : List AppInput)
    (read : ∀ i ∈ is, i.2.Brings phone.Brings) :
    (∀ e ∈ output app.step (opened storage) is,
        e.2.SpeaksFor fun id => id = phone.id ∨ id = "") ∧
      (∀ part ∈ (final app.step (opened storage) is).members,
        part.Carries fun id => id = phone.id ∨ id = "") ∧
      ∀ route ∈ (final app.step (opened storage) is).shared,
        route.Carries fun id => id = phone.id ∨ id = "" := by
  have named : ∀ i ∈ is, i.2.Brings fun id => id = phone.id ∨ id = "" :=
    fun i member id brought => Otp.Phone.brings_iff.mp (read i member id brought)
  obtain ⟨sound, out⟩ := (app_upholds _).run (opened_carries storage) named
  exact ⟨out, sound.members, sound.shared⟩

/-- A phone of the first platform. -/
def samplePhone : Otp.Phone :=
  { platform := .android, androidId := "9774d56d682e549c", identifierForVendor := "" }

/-- The saved login is read, the id is asked for twice and could be read once. -/
def sampleReads : List AppInput :=
  [(0, .entrance (.screen (.auto .done))),
    (0, .entrance (.screen (.auto (.mobileId "9774d56d682e549c")))),
    (0, .entrance (.screen (.form (.event .login)))),
    (0, .entrance (.screen (.form (.resume 0 .done)))),
    (0, .entrance (.screen (.form (.resume 0 (.mobileId "")))))]

theorem sampleReads_read : ∀ i ∈ sampleReads, i.2.Brings samplePhone.Brings := by
  intro i member id brought
  simp only [sampleReads, List.mem_cons, List.not_mem_nil, or_false] at member
  rcases member with rfl | rfl | rfl | rfl | rfl
  · cases brought
  · cases brought
    exact Otp.Phone.brings_iff.mpr (.inl rfl)
  · cases brought
  · cases brought
  · cases brought
    exact Otp.Phone.brings_iff.mpr (.inr rfl)

theorem speaks_for_phone_sample :
    (∀ e ∈ output app.step (opened (some "kim@edutopik.com 1234")) sampleReads,
        e.2.SpeaksFor fun id => id = samplePhone.id ∨ id = "") ∧
      (∀ part ∈ (final app.step (opened (some "kim@edutopik.com 1234")) sampleReads).members,
        part.Carries fun id => id = samplePhone.id ∨ id = "") ∧
      ∀ route ∈ (final app.step (opened (some "kim@edutopik.com 1234")) sampleReads).shared,
        route.Carries fun id => id = samplePhone.id ∨ id = "" :=
  speaks_for_phone samplePhone _ sampleReads sampleReads_read

end Edutopik.App

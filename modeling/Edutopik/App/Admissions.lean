import Edutopik.App.DeviceIdentity
import Edutopik.Library.History

/-! # What stands behind a home page

Three things open a home page: a press of LOGIN, the automatic login, and a confirmed
form. This says what each of them has behind it. A press has a reply that knows the
account and the device; a form has a refused device, a sign-in and a posted
registration; the automatic login has a reply, and nothing is asked of what it said.

A step leaves its trace in the history, so what is held at any time can be traced to
the steps it came from, whatever else went on between them.
-/

namespace Edutopik.App

open Dart EventLoop Machine

abbrev EntranceFired := Fired Entrance EntranceInput EntranceEffect

/-! ## The traces -/

/-- A login was asked for. -/
def Posted (request : Login.LoginRequest) : List EntranceFired → Prop :=
  Past fun f => .screen (.posts request) ∈ f.effects

/-- The reply to the request of a press led to this route. -/
def PressAnswered (request : Login.LoginRequest) (route : Login.Route) :
    List EntranceFired → Prop :=
  Past fun f => ∃ k reply statusCode res,
    f.input = .screen (.form (.resume k (.replied reply))) ∧
      f.before.screen.form.tasks[k]? = some (.posting request) ∧
        reply.decode = some (statusCode, res) ∧
          Login.loginRoute request.deviceId statusCode res = some route

/-- A press posted its request and was led to this route. -/
def PressTold (route : Login.Route) (past : List EntranceFired) : Prop :=
  ∃ request, Posted request past ∧ PressAnswered request route past

/-- There was a reply to the request of the automatic login. -/
def AutoAnswered (request : Login.LoginRequest) : List EntranceFired → Prop :=
  Past fun f => ∃ userInfo reply, f.input = .screen (.auto (.replied reply)) ∧
    f.before.screen.auto = .posting userInfo request ∧ reply.decode.isSome

/-- A press was told that the account is known and this device is not registered. -/
def Unregistered (mobileId : String) (past : List EntranceFired) : Prop :=
  PressTold (.devNew mobileId) past ∨ PressTold (.devOveruse mobileId) past

/-- The form was confirmed with a code that signed a user in. -/
def SignedIn (form : Otp.OtpForm) : List EntranceFired → Prop :=
  Past fun f => ∃ k place credential, f.input = .otp (.resume k (.signedIn true)) ∧
    f.before.otp.tasks[k]? = some (.signingIn place form credential)

/-- The form has asked for its device to be registered. -/
def Registering (form : Otp.OtpForm) : List EntranceFired → Prop :=
  Past fun f => ∃ name, .otp (.deviceRegister (form.registration name)) ∈ f.effects

theorem PressTold.more {route : Login.Route} {past : List EntranceFired}
    (told : PressTold route past) (f : EntranceFired) : PressTold route (past ++ [f]) := by
  obtain ⟨request, posted, answered⟩ := told
  exact ⟨request, posted.more f, answered.more f⟩

theorem Unregistered.more {mobileId : String} {past : List EntranceFired}
    (unregistered : Unregistered mobileId past) (f : EntranceFired) :
    Unregistered mobileId (past ++ [f]) :=
  unregistered.imp (fun told => told.more f) (fun told => told.more f)

/-! ## What is held -/

def PressVouched (past : List EntranceFired) : Login.Task → Prop
  | .posting request => Posted request past
  | .building route => route = .nonEmailFormat ∨ PressTold route past
  | .saving _ | .identifying => True

def AutoVouched (past : List EntranceFired) : Login.AutoLogin → Prop
  | .posting _ request => Posted request past
  | .rereading request _ _ => Posted request past ∧ AutoAnswered request past
  | .reading | .identifying _ _ _ | .finished => True

def FormVouched (past : List EntranceFired) : Otp.Task → Prop
  | .signingIn _ form _ => Unregistered form.mobileId past
  | .naming _ form _ => Unregistered form.mobileId past ∧ SignedIn form past
  | .registering _ form =>
      Unregistered form.mobileId past ∧ SignedIn form past ∧ Registering form past
  | .awaitingPhone _ | .verifying _ _ => True

structure Vouched (past : List EntranceFired) (s : Entrance) : Prop where
  presses : ∀ t ∈ s.screen.form.tasks, PressVouched past t
  auto : AutoVouched past s.screen.auto
  asking : ∀ asking ∈ s.asking, ∀ id ∈ asking.devices, Unregistered id past
  forms : ∀ form ∈ s.otp.shared.forms, Unregistered form.mobileId past
  confirmed : ∀ t ∈ s.otp.tasks, FormVouched past t

theorem Vouched.more {past : List EntranceFired} {s : Entrance} (vouched : Vouched past s)
    (f : EntranceFired) : Vouched (past ++ [f]) s where
  presses := by
    intro t member
    have held := vouched.presses t member
    cases t with
    | posting request => exact held.more f
    | building route => exact held.imp id (fun told => told.more f)
    | _ => trivial
  auto := by
    have held := vouched.auto
    cases phase : s.screen.auto with
    | posting userInfo request =>
        rw [phase] at held
        exact held.more f
    | rereading request statusCode res =>
        rw [phase] at held
        exact ⟨held.1.more f, held.2.more f⟩
    | _ => trivial
  asking := fun asking member id about => (vouched.asking asking member id about).more f
  forms := fun form member => (vouched.forms form member).more f
  confirmed := by
    intro t member
    have held := vouched.confirmed t member
    cases t with
    | signingIn place form credential => exact held.more f
    | naming place form credential => exact ⟨held.1.more f, held.2.more f⟩
    | registering place form => exact ⟨held.1.more f, held.2.1.more f, held.2.2.more f⟩
    | _ => trivial

/-! ## One step -/

/-- Only a reply about an unregistered device leads to a dialog. -/
theorem unregistered_of_shown {past : List EntranceFired} {route : Login.Route}
    {email password : String} {asking : Asking} {id : String}
    (told : route = .nonEmailFormat ∨ PressTold route past)
    (shown : asking ∈ Asking.shownBy (.opens (route.build email password)))
    (about : id ∈ asking.devices) : Unregistered id past := by
  cases route with
  | devOveruse mobileId =>
      rw [List.mem_singleton.mp shown] at about
      rw [List.mem_singleton.mp about]
      exact .inr (told.resolve_left nofun)
  | devNew mobileId =>
      rw [List.mem_singleton.mp shown] at about
      rw [List.mem_singleton.mp about]
      exact .inl (told.resolve_left nofun)
  | _ => simp [Login.Route.build, Asking.shownBy, Asking.shown] at shown

/-- Only a press that builds its route shows a dialog. -/
theorem building_of_shown {s : Login.LoginScreen} {i : Login.ScreenInput} {asking : Asking}
    (shown : asking ∈ (s.step i).2.flatMap Asking.shownBy) :
    ∃ route, .building route ∈ s.form.tasks ∧
      asking ∈ Asking.shownBy (.opens (route.build s.form.shared.email s.form.shared.password)) := by
  cases i with
  | form i =>
      have turn := Login.formTurn s.form i
      simp only [Login.LoginScreen.step] at shown
      generalize Login.body.step s.form i = next at turn shown
      cases turn with
      | builds located => exact ⟨_, List.mem_of_getElem? located, by simpa using shown⟩
      | _ => simp [Asking.shownBy] at shown
  | auto r =>
      have turn := Login.autoTurn_resume s r
      simp only [Login.LoginScreen.step] at shown
      generalize s.resume r = next at turn shown
      cases turn <;> simp [Asking.shownBy, Asking.shown] at shown
  | deletes =>
      simp only [Login.LoginScreen.step] at shown
      split at shown <;> simp [Asking.shownBy] at shown

section Steps

variable {past : List EntranceFired} {s : Entrance} {f : EntranceFired}

/-- The step itself vouches for what a press goes on with. -/
theorem pressVouched_step {i : Login.FormInput} (kept : Vouched (past ++ [f]) s)
    (before : f.before = s) (input : f.input = .screen (.form i))
    (effects : f.effects = (Login.body.step s.screen.form i).2.map .screen) :
    ∀ t ∈ (Login.body.step s.screen.form i).1.tasks, PressVouched (past ++ [f]) t := by
  have turn := Login.formTurn s.screen.form i
  generalize Login.body.step s.screen.form i = next at turn effects
  cases turn with
  | idle => exact kept.presses
  | edits => exact kept.presses
  | presses =>
      intro t member
      rcases List.mem_append.mp member with old | new
      · exact kept.presses t old
      · rw [List.mem_singleton.mp new]
        trivial
  | @saves k value located =>
      refine forall_mem_replaceAt kept.presses ?_ _
      intro t new
      rcases Login.saved_tasks_cases s.screen.form.shared value with goesOn | ends
      · rw [goesOn] at new
        rw [List.mem_singleton.mp new]
        trivial
      · rw [ends] at new
        rw [List.mem_singleton.mp new]
        exact .inl rfl
  | identifies located =>
      refine forall_mem_replaceAt kept.presses ?_ _
      intro t new
      rw [List.mem_singleton.mp new]
      exact .now (by rw [effects]; exact List.mem_cons_self)
  | answers located decoded leads =>
      refine forall_mem_replaceAt kept.presses ?_ _
      intro t new
      rw [List.mem_singleton.mp new]
      have posted := kept.presses _ (List.mem_of_getElem? located)
      rw [← before] at located
      exact .inr ⟨_, posted, .now ⟨_, _, _, _, input, located, decoded, leads⟩⟩
  | builds located => exact forall_mem_replaceAt kept.presses (by simp) _
  | ends => exact forall_mem_replaceAt kept.presses (by simp) _

theorem autoVouched_step {r : Login.Result} (kept : Vouched (past ++ [f]) s)
    (before : f.before = s) (input : f.input = .screen (.auto r))
    (effects : f.effects = (s.screen.resume r).2.map .screen) :
    AutoVouched (past ++ [f]) (s.screen.resume r).1.auto ∧
      (s.screen.resume r).1.form = s.screen.form := by
  have turn := Login.autoTurn_resume s.screen r
  generalize s.screen.resume r = next at turn effects
  cases turn with
  | finish => exact ⟨trivial, rfl⟩
  | read => exact ⟨trivial, rfl⟩
  | identified phase =>
      refine ⟨.now ?_, rfl⟩
      rw [effects]
      exact List.mem_cons_self
  | answered phase decoded =>
      have held := kept.auto
      rw [phase] at held
      rw [← before] at phase
      exact ⟨⟨held, .now ⟨_, _, input, phase, by simp [decoded]⟩⟩, rfl⟩
  | opens phase there => exact ⟨trivial, rfl⟩

/-- The login screen's step. -/
theorem screenVouched_step {i : Login.ScreenInput} (kept : Vouched (past ++ [f]) s)
    (before : f.before = s) (input : f.input = .screen i)
    (effects : f.effects = (s.screen.step i).2.map .screen) :
    Vouched (past ++ [f]) (s.takeScreen i).1 := by
  have asks : ∀ asking ∈ (s.takeScreen i).1.asking, ∀ id ∈ asking.devices,
      Unregistered id (past ++ [f]) := by
    intro asking member id about
    rcases List.mem_append.mp member with old | new
    · exact kept.asking asking old id about
    · obtain ⟨route, building, shown⟩ := building_of_shown new
      exact unregistered_of_shown (kept.presses _ building) shown about
  cases i with
  | form i =>
      exact ⟨pressVouched_step kept before input effects, kept.auto, asks, kept.forms, kept.confirmed⟩
  | auto r =>
      obtain ⟨auto, same⟩ := autoVouched_step kept before input effects
      refine ⟨?_, auto, asks, kept.forms, kept.confirmed⟩
      have presses := kept.presses
      rw [← same] at presses
      exact presses
  | deletes =>
      have step : (s.screen.step .deletes).1.form.tasks = s.screen.form.tasks ∧
          (s.screen.step .deletes).1.auto = s.screen.auto := by
        simp only [Login.LoginScreen.step]
        split <;> exact ⟨rfl, rfl⟩
      obtain ⟨sameTasks, sameAuto⟩ := step
      refine ⟨?_, ?_, asks, kept.forms, kept.confirmed⟩
      · have presses := kept.presses
        rw [← sameTasks] at presses
        exact presses
      · have auto := kept.auto
        rw [← sameAuto] at auto
        exact auto

theorem Vouched.replaced (kept : Vouched past s) (k : Nat) {new : List Otp.Task}
    (fresh : ∀ t ∈ new, FormVouched past t) :
    ∀ t ∈ replaceAt k new s.otp.tasks, FormVouched past t :=
  forall_mem_replaceAt kept.confirmed fresh k

theorem Vouched.added (kept : Vouched past s) {new : Otp.Task} (fresh : FormVouched past new) :
    ∀ t ∈ s.otp.tasks ++ [new], FormVouched past t :=
  forall_mem_started kept.confirmed fresh

theorem Vouched.form? (kept : Vouched past s) {place : Nat} {form : Otp.OtpForm}
    (there : s.otp.shared.form? place = some form) : Unregistered form.mobileId past :=
  kept.forms form (List.mem_of_getElem? (Otp.form?_forms there))

/-- The step of the forms: `i` is what the forms are given, which is not the input of the
    step itself where a dialog pushes a form. -/
theorem formVouched_step {i : Otp.AppInput} (kept : Vouched (past ++ [f]) s)
    (before : f.before = s) (input : ∀ k r, i = .resume k r → f.input = .otp i)
    (opened : ∀ form, i = .event (.opened form) → Unregistered form.mobileId (past ++ [f]))
    (effects : f.effects = (Otp.otp.step s.otp i).2.map .otp) :
    Vouched (past ++ [f]) (s.takeOtp i).1 := by
  have turn := Otp.otpTurn s.otp i
  have rest : ∀ w : Otp.App, (∀ form ∈ w.shared.forms, Unregistered form.mobileId (past ++ [f])) →
      (∀ t ∈ w.tasks, FormVouched (past ++ [f]) t) → Vouched (past ++ [f]) { s with otp := w } :=
    fun w forms confirmed => ⟨kept.presses, kept.auto, kept.asking, forms, confirmed⟩
  simp only [Entrance.takeOtp]
  generalize Otp.otp.step s.otp i = next at turn effects
  cases turn with
  | idle => exact kept
  | @opens e form opens =>
      have own : Unregistered form.mobileId (past ++ [f]) := by
        cases opens with
        | opened => exact opened form rfl
        | resend there => exact kept.form? there
      refine rest _ ?_ ?_
      · intro form' member
        rcases List.mem_append.mp member with old | new
        · exact kept.forms form' old
        · rw [List.mem_singleton.mp new]
          exact own
      · apply kept.added
        trivial
  | confirms there => exact rest _ kept.forms (kept.added (kept.form? there))
  | pops => exact rest _ kept.forms kept.confirmed
  | asks located =>
      refine rest _ kept.forms ?_
      apply kept.replaced
      intro t new
      rw [List.mem_singleton.mp new]
      trivial
  | holds located => exact rest _ kept.forms (kept.replaced _ (by simp))
  | signsIn located =>
      have held := kept.confirmed _ (List.mem_of_getElem? located)
      refine rest _ kept.forms ?_
      apply kept.replaced
      intro t new
      rw [List.mem_singleton.mp new]
      rw [← before] at located
      exact ⟨held, .now ⟨_, _, _, input _ _ rfl, located⟩⟩
  | @names k place form credential name located =>
      have held := kept.confirmed _ (List.mem_of_getElem? located)
      refine rest _ kept.forms ?_
      apply kept.replaced
      intro t new
      rw [List.mem_singleton.mp new]
      refine ⟨held.1, held.2, .now ⟨name, ?_⟩⟩
      rw [effects]
      exact List.mem_cons_self
  | registers located => exact rest _ kept.forms (kept.replaced _ (by simp))
  | fails => exact rest _ kept.forms (kept.replaced _ (by simp))
  | ends => exact rest _ kept.forms (kept.replaced _ (by simp))

end Steps

theorem vouched_step (past : List EntranceFired) (s : Entrance) (i : EntranceInput)
    (vouched : Vouched past s) : Vouched (past ++ [fire Entrance.step s i]) (s.step i).1 := by
  have turn := s.moves i
  have before : (fire Entrance.step s i).before = s := rfl
  have input : (fire Entrance.step s i).input = i := rfl
  have effects : (fire Entrance.step s i).effects = (s.step i).2 := rfl
  have kept := vouched.more (fire Entrance.step s i)
  generalize fire Entrance.step s i = f at *
  generalize s.step i = next at turn effects
  cases turn with
  | idle => exact kept
  | webView => exact kept
  | screen => exact screenVouched_step kept before input effects
  | otp notOpened =>
      apply formVouched_step kept before _ _ effects
      · exact fun _ _ _ => input
      · exact fun form same => absurd same (notOpened form)
  | @asks k i asking _ located _ =>
      refine ⟨kept.presses, kept.auto, ?_, kept.forms, kept.confirmed⟩
      intro asking' member id about
      rcases List.mem_or_eq_of_mem_set member with old | rfl
      · exact kept.asking asking' old id about
      · exact kept.asking asking (List.mem_of_getElem? located) id ((asking.becomes i).devices about)
  | pushes located pushed =>
      apply formVouched_step kept before _ _ effects
      · exact fun _ _ => nofun
      · intro form same
        cases same
        exact kept.asking _ (List.mem_of_getElem? located) _ (devices_of_ok pushed)

/-! ## The home pages -/

/-- The step opens a home page for this device and email. -/
def Opens (uuid email : String) (f : EntranceFired) : Prop :=
  ∃ e ∈ f.effects, Part.opensHome e = some (uuid, email)

/-- What a step that opens a home page for this device and email has behind it. -/
inductive Admits (past : List EntranceFired) (f : EntranceFired) : String → String → Prop where
  /-- A press that builds the page: it has posted its request, and was told that account
      and device are known. The email is what the field holds by now. -/
  | press {k r uuid} : f.input = .screen (.form (.resume k r)) →
      f.before.screen.form.tasks[k]? = some (.building (.home uuid)) →
        PressTold (.home uuid) past → Admits past f uuid f.before.screen.form.shared.email
  /-- The automatic login at its second read: it has posted the login that was saved, and
      has an answer. -/
  | auto {request statusCode res} : f.input = .screen (.auto .done) →
      f.before.screen.auto = .rereading request statusCode res →
        Posted request past → AutoAnswered request past →
          Admits past f request.deviceId request.eMail
  /-- A form for a device that was refused before: it has signed in and asked for the
      registration, and this is the answer. -/
  | registered {form k place statusCode body} :
      f.input = .otp (.resume k (.replied (.answered statusCode body))) →
        f.before.otp.tasks[k]? = some (.registering place form) →
          Unregistered form.mobileId past → SignedIn form past → Registering form past →
            Admits past f form.mobileId form.userId

section Opening

variable {past : List EntranceFired} {s : Entrance} {f : EntranceFired} {uuid email : String}

theorem admits_of_press {i : Login.FormInput} (vouched : Vouched past s) (before : f.before = s)
    (input : f.input = .screen (.form i))
    (opens : .opens (.home uuid email) ∈ (Login.body.step s.screen.form i).2) :
    Admits past f uuid email := by
  have turn := Login.formTurn s.screen.form i
  generalize Login.body.step s.screen.form i = next at turn opens
  cases turn with
  | @builds k route r located =>
      have told := vouched.presses _ (List.mem_of_getElem? located)
      cases route with
      | home mobileId =>
          cases List.mem_singleton.mp opens
          rw [← before] at located ⊢
          exact .press input located (told.resolve_left nofun)
      | _ => simp [Login.Route.build] at opens
  | _ => simp at opens

theorem admits_of_auto {r : Login.Result} (vouched : Vouched past s) (before : f.before = s)
    (input : f.input = .screen (.auto r))
    (opens : .opens (.home uuid email) ∈ (s.screen.resume r).2) : Admits past f uuid email := by
  have turn := Login.autoTurn_resume s.screen r
  generalize s.screen.resume r = next at turn opens
  cases turn with
  | opens phase there =>
      cases List.mem_singleton.mp opens
      have held := vouched.auto
      rw [phase] at held
      rw [← before] at phase
      exact .auto input phase held.1 held.2
  | _ => simp at opens

theorem admits_of_otp {i : Otp.AppInput} (vouched : Vouched past s) (before : f.before = s)
    (input : ∀ k r, i = .resume k r → f.input = .otp i)
    (opens : .openHome uuid email ∈ (Otp.otp.step s.otp i).2) : Admits past f uuid email := by
  have turn := Otp.otpTurn s.otp i
  generalize Otp.otp.step s.otp i = next at turn opens
  cases turn with
  | registers located =>
      cases List.mem_singleton.mp opens
      obtain ⟨unregistered, signedIn, registering⟩ :=
        vouched.confirmed _ (List.mem_of_getElem? located)
      rw [← before] at located
      exact .registered (input _ _ rfl) located unregistered signedIn registering
  | _ => simp at opens

theorem admits_of_takeOtp {i : Otp.AppInput} {e : EntranceEffect} (vouched : Vouched past s)
    (before : f.before = s) (input : ∀ k r, i = .resume k r → f.input = .otp i)
    (out : e ∈ (s.takeOtp i).2) (opens : Part.opensHome e = some (uuid, email)) :
    Admits past f uuid email := by
  obtain ⟨e', own, rfl⟩ := List.mem_map.mp out
  cases e' with
  | openHome uuid' email' =>
      cases opens
      exact admits_of_otp vouched before input own
  | _ => cases opens

/-- A step that opens a home page has all this behind it. -/
theorem admits_of_step (i : EntranceInput) (vouched : Vouched past s) {e : EntranceEffect}
    (out : e ∈ (s.step i).2) (opens : Part.opensHome e = some (uuid, email)) :
    Admits past (fire Entrance.step s i) uuid email := by
  have turn := s.moves i
  have before : (fire Entrance.step s i).before = s := rfl
  have input : (fire Entrance.step s i).input = i := rfl
  generalize fire Entrance.step s i = f at *
  generalize s.step i = next at turn out
  cases turn with
  | idle => simp at out
  | webView =>
      rw [List.mem_singleton.mp out] at opens
      cases opens
  | @screen i =>
      obtain ⟨e', own, rfl⟩ := List.mem_map.mp out
      cases e' with
      | opens screen =>
          cases screen with
          | home uuid' email' =>
              cases opens
              cases i with
              | form i => exact admits_of_press vouched before input own
              | auto r => exact admits_of_auto vouched before input own
              | deletes =>
                  simp only [Login.LoginScreen.step] at own
                  split at own <;> simp at own
          | _ => cases opens
      | _ => cases opens
  | otp notOpened => exact admits_of_takeOtp vouched before (fun _ _ _ => input) out opens
  | asks located selects =>
      obtain ⟨eMail, rfl⟩ := selects e out
      cases opens
  | pushes located pushed =>
      apply admits_of_takeOtp vouched before _ out opens
      intro k r same
      cases same

end Opening

theorem vouched_start (storage : Option String) : Vouched [] (.start storage) where
  presses := by simp [Entrance.start, Login.LoginScreen.start]
  auto := by simp [Entrance.start, Login.LoginScreen.start, AutoVouched]
  asking := by simp [Entrance.start]
  forms := by simp [Entrance.start]
  confirmed := by simp [Entrance.start]

/-! ## The app -/

/-- What the screens before the home page are given in a run of the app. -/
def entranceInputs (is : List AppInput) : List EntranceInput :=
  (Colony.inputsOf 0 is).filterMap PartInput.entrance?

/-- Somewhere in the run of those screens a step opened a page for this device and email,
    and had behind it what it takes. -/
def Admitted (storage : Option String) (is : List AppInput) (uuid email : String) : Prop :=
  ∃ front i back, entranceInputs is = front ++ i :: back ∧
    Opens uuid email (fire Entrance.step (final Entrance.step (.start storage) front) i) ∧
      Admits (run Entrance.step (.start storage) front)
        (fire Entrance.step (final Entrance.step (.start storage) front) i) uuid email

theorem entranceInputs_append (is : List AppInput) (k : Nat) (i : PartInput) :
    entranceInputs (is ++ [(k, i)]) =
      entranceInputs is ++ if k = 0 then i.entrance?.toList else [] := by
  unfold entranceInputs
  by_cases same : k = 0
  · subst same
    rw [Colony.inputsOf_append, Colony.inputsOf_cons_same, List.filterMap_append, if_pos rfl]
    cases i <;> rfl
  · rw [Colony.inputsOf_append, Colony.inputsOf_cons_other same, if_neg same]
    simp

theorem Admitted.more {storage : Option String} {is : List AppInput} {uuid email : String}
    (admitted : Admitted storage is uuid email) (input : AppInput) :
    Admitted storage (is ++ [input]) uuid email := by
  obtain ⟨front, i, back, shape, opens, admits⟩ := admitted
  obtain ⟨k, j⟩ := input
  refine ⟨front, i, back ++ if k = 0 then j.entrance?.toList else [], ?_, opens, admits⟩
  rw [entranceInputs_append, shape]
  simp

/-- The only screens before the home page are the first member, where a run of their own
    takes them, and every home page has been admitted in that run. -/
structure Accounted (storage : Option String) (is : List AppInput) (s : AppState) : Prop where
  entrance : ∀ (k : Nat) (e : Entrance), s.members[k]? = some (.entrance e) →
    k = 0 ∧ e = final Entrance.step (.start storage) (entranceInputs is)
  homes : ∀ (k : Nat) (w : Home.HomeWorld), s.members[k]? = some (.home w) →
    Admitted storage is w.shared.uuid w.shared.email

theorem entrance_of_step {k : Nat} {routes : List Route} {part : Part} {i : PartInput}
    {e : Entrance} (moved : .entrance e = (part.step k routes i).1.2) :
    ∃ e', part = .entrance e' ∧ e = final Entrance.step e' i.entrance?.toList := by
  cases part with
  | entrance e' =>
      cases i with
      | entrance i => exact ⟨e', rfl, Part.entrance.inj moved⟩
      | _ => exact ⟨e', rfl, Part.entrance.inj moved⟩
  | home w => cases i <;> cases moved
  | player w => cases i <;> cases moved

theorem home_of_step {k : Nat} {routes : List Route} {part : Part} {i : PartInput}
    {w : Home.HomeWorld} (moved : .home w = (part.step k routes i).1.2) :
    ∃ w', part = .home w' ∧ w.shared.uuid = w'.shared.uuid ∧ w.shared.email = w'.shared.email := by
  cases part with
  | entrance e => cases i <;> cases moved
  | home w' =>
      cases i with
      | home i =>
          cases moved
          exact ⟨w', rfl, Home.home_keeps (Part.homeSees k routes w') i⟩
      | _ =>
          cases moved
          exact ⟨w, rfl, rfl, rfl⟩
  | player w => cases i <;> cases moved

/-- A home page is opened by a step of the screens before it, in their own run. -/
theorem admitted_of_begun {storage : Option String} {is : List AppInput} {s : AppState}
    (accounted : Accounted storage is s) {k : Nat} {part : Part} {i : PartInput} {e : PartEffect}
    {w : Home.HomeWorld} {opening : List PartEffect} (located : s.members[k]? = some part)
    (out : e ∈ (part.step k s.shared i).2) (begun : Part.Begins e (.home w) opening) :
    Admitted storage (is ++ [(k, i)]) w.shared.uuid w.shared.email := by
  cases begun with
  | @home e uuid email opens =>
      have steps := Part.steps k s.shared part i
      generalize part.step k s.shared i = next at steps out
      cases steps with
      | @entrance before i =>
          obtain ⟨e', own, same⟩ := List.mem_map.mp out
          cases same
          obtain ⟨rfl, here⟩ := accounted.entrance k before located
          refine ⟨entranceInputs is, i, [], entranceInputs_append is 0 _, ?_⟩
          rw [← here]
          refine ⟨⟨_, own, opens⟩, ?_⟩
          apply admits_of_step i _ own opens
          rw [here]
          exact history_of_kept vouched_step (vouched_start storage) (entranceInputs is)
      | home => simp at out
      | player => simp at out
      | _ => cases out

theorem accounted_step {storage : Option String} {is : List AppInput} {s : AppState}
    (accounted : Accounted storage is s) (k : Nat) (i : PartInput) :
    Accounted storage (is ++ [(k, i)]) (app.step s (k, i)).1 where
  entrance := by
    intro j e located
    rw [entranceInputs_append, final_append]
    rcases Colony.get_of_step located with
      ⟨other, old⟩ | ⟨part, there, ⟨rfl, moved⟩ | ⟨-, e, out, opening, begun⟩⟩
    · obtain ⟨rfl, same⟩ := accounted.entrance j e old
      rw [if_neg other]
      exact ⟨rfl, same⟩
    · obtain ⟨e', rfl, next⟩ := entrance_of_step moved
      obtain ⟨rfl, same⟩ := accounted.entrance k e' there
      rw [if_pos rfl, ← same]
      exact ⟨rfl, next⟩
    · cases Part.begins begun
  homes := by
    intro j w located
    rcases Colony.get_of_step located with
      ⟨-, old⟩ | ⟨part, there, ⟨rfl, moved⟩ | ⟨-, e, out, opening, begun⟩⟩
    · exact (accounted.homes j w old).more _
    · obtain ⟨w', rfl, uuid, email⟩ := home_of_step moved
      rw [uuid, email]
      exact (accounted.homes k w' there).more _
    · exact admitted_of_begun accounted there out (Part.begins begun)

theorem accounted (storage : Option String) (is : List AppInput) :
    Accounted storage is (final app.step (opened storage) is) := by
  induction is using List.reverseRecOn with
  | nil =>
      constructor
      · intro k e located
        cases k with
        | zero => exact ⟨rfl, (Part.entrance.inj (Option.some.inj located)).symm⟩
        | succ k => cases located
      · intro k w located
        cases k with
        | zero => cases located
        | succ k => cases located
  | append_singleton is input ih =>
      obtain ⟨k, i⟩ := input
      rw [final_append]
      exact accounted_step ih k i

/-- All home pages there are have been admitted. -/
def HomesAdmitted (storage : Option String) (is : List AppInput) (s : AppState) : Prop :=
  ∀ (k : Nat) (w : Home.HomeWorld), s.members[k]? = some (.home w) →
    Admitted storage is w.shared.uuid w.shared.email

/-- However the app runs, every home page there is, for its device and email, has been
    admitted by the screens before it. -/
theorem homes_admitted (storage : Option String) (is : List AppInput) :
    HomesAdmitted storage is (final app.step (opened storage) is) :=
  (accounted storage is).homes

end Edutopik.App

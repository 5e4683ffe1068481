import Edutopik.Login.LoginScreen

/-! # Who is let in, automatically and by the button

The same reply is read twice in this app. The button opens the home page for a
checked login on a registered device only; the automatic login opens it for every
reply it can decode, unless the device is not registered and the delete takes effect
before the storage is read again.
-/

namespace Edutopik.Login

open Dart EventLoop Machine

/-- The order in which the delete and the second read take effect. -/
inductive Order where
  | deleteFirst
  | readFirst
  deriving DecidableEq

def OpensHome (effects : List Effect) : Prop :=
  ∃ uuid email, Effect.opens (.home uuid email) ∈ effects

/-- The reply of a server that answers with a JSON object. -/
def objectReply (statusCode : Int) (res : JsonObject) : Reply :=
  .answered statusCode (some (.object res))

/-- A press of LOGIN with nothing else going on, and the builder of what it shows. -/
def pressInputs (mobileId : String) (statusCode : Int) (res : JsonObject) : List FormInput :=
  [.event .login, .resume 0 .done, .resume 0 (.mobileId mobileId),
    .resume 0 (.replied (objectReply statusCode res)), .resume 0 .done]

/-- What the LOGIN button does with this email and password and this reply. -/
def manualLogin (email password mobileId : String) (statusCode : Int) (res : JsonObject) :
    List Effect :=
  output body.step ⟨{ storage := none, email := email, password := password }, []⟩
    (pressInputs mobileId statusCode res)

def Order.inputs : Order → List ScreenInput
  | .deleteFirst => [.deletes, .auto .done]
  | .readFirst => [.auto .done, .deletes]

/-- What the automatic login does with this saved value and this reply. -/
def automaticLogin (userInfo mobileId : String) (statusCode : Int) (res : JsonObject)
    (order : Order) : List Effect :=
  output LoginScreen.step (LoginScreen.start (some userInfo))
    ([.auto .done, .auto (.mobileId mobileId), .auto (.replied (objectReply statusCode res))] ++
      order.inputs)

/-- What it does from the reply on, with something saved and the form in any state. -/
def automaticReply (form : Form) (saved userInfo : String) (request : LoginRequest) (order : Order)
    (statusCode : Int) (res : JsonObject) : List Effect :=
  output LoginScreen.step
    { form := { form with shared.storage := some saved }, auto := .posting userInfo request }
    (.auto (.replied (objectReply statusCode res)) :: order.inputs)

/-! ## The button -/

theorem manualLogin_refused {email : String} (refused : hasMatch email = false)
    (password mobileId : String) (statusCode : Int) (res : JsonObject) :
    ¬ OpensHome (manualLogin email password mobileId statusCode res) := by
  intro opens
  obtain ⟨uuid, given, opened⟩ := opens
  simp [manualLogin, pressInputs, step_event, Body.react, Body.login, Body.resume, Body.saved, refused,
    Body.built, Route.build] at opened

/-- An accepted email is posted, and what the reply's route builds is shown. -/
theorem manualLogin_accepted {email : String} (accepted : hasMatch email = true)
    (password mobileId : String) (statusCode : Int) (res : JsonObject) :
    manualLogin email password mobileId statusCode res =
      [.saves (credential email password), .checks email, .posts ⟨email, mobileId, password⟩] ++
        ((loginRoute mobileId statusCode res).map fun route =>
          Effect.opens (route.build email password)).toList := by
  cases shown : loginRoute mobileId statusCode res with
  | none =>
      simp [manualLogin, pressInputs, step_event, Body.react, Body.login, Body.resume, Body.saved,
        accepted, Body.identified, Body.answered, objectReply, shown, Body.idle]
  | some route =>
      simp [manualLogin, pressInputs, step_event, Body.react, Body.login, Body.resume, Body.saved,
        accepted, Body.identified, Body.answered, objectReply, shown, Body.built]

theorem manualLogin_opensHome_iff (email password mobileId : String) (statusCode : Int)
    (res : JsonObject) :
    OpensHome (manualLogin email password mobileId statusCode res) ↔
      hasMatch email = true ∧ statusAccepted statusCode = true ∧
        res.get "IsLogin" = .string "true" ∧ res.get "IsRegister" = .string "true" := by
  cases accepted : hasMatch email with
  | false =>
      simp only [manualLogin_refused accepted, Bool.false_eq_true, false_and]
  | true =>
      have shows : OpensHome (manualLogin email password mobileId statusCode res) ↔
          ∃ uuid, loginRoute mobileId statusCode res = some (.home uuid) := by
        rw [manualLogin_accepted accepted]
        cases shown : loginRoute mobileId statusCode res with
        | none => simp [OpensHome]
        | some route => cases route <;> simp [OpensHome, Route.build]
      rw [shows]
      simp only [loginRoute_home_iff, true_and]
      constructor
      · intro shown
        obtain ⟨uuid, status, login, register, -⟩ := shown
        exact ⟨status, login, register⟩
      · intro checked
        obtain ⟨status, login, register⟩ := checked
        exact ⟨mobileId, status, login, register, rfl⟩

/-! ## The automatic login -/

theorem automaticReply_opensHome_iff (form : Form) (saved userInfo : String) (request : LoginRequest)
    (order : Order) (statusCode : Int) (res : JsonObject) :
    OpensHome (automaticReply form saved userInfo request order statusCode res) ↔
      ¬ (logsOut statusCode res = true ∧ order = .deleteFirst) := by
  cases out : logsOut statusCode res with
  | false =>
      cases order <;> simp [OpensHome, automaticReply, LoginScreen.step, LoginScreen.resume,
        LoginScreen.storage, LoginScreen.finish, objectReply, out, Order.inputs]
  | true =>
      cases order <;> simp [OpensHome, automaticReply, LoginScreen.step, LoginScreen.resume,
        LoginScreen.storage, LoginScreen.store, LoginScreen.finish, objectReply, out, Order.inputs]

/-- Whichever comes first, the delete takes effect. -/
theorem automaticReply_deletes_iff (form : Form) (saved userInfo : String) (request : LoginRequest)
    (order : Order) (statusCode : Int) (res : JsonObject) :
    (∃ value, Effect.deletes value ∈ automaticReply form saved userInfo request order statusCode res) ↔
      logsOut statusCode res = true := by
  cases out : logsOut statusCode res with
  | false =>
      cases order <;> simp [automaticReply, LoginScreen.step, LoginScreen.resume,
        LoginScreen.storage, LoginScreen.finish, objectReply, out, Order.inputs]
  | true =>
      cases order <;> simp [automaticReply, LoginScreen.step, LoginScreen.resume,
        LoginScreen.storage, LoginScreen.store, LoginScreen.finish, objectReply, out, Order.inputs]

theorem automaticLogin_eq {userInfo userEmail userPassword : String}
    (read : readCredential userInfo = some (userEmail, userPassword)) (mobileId : String)
    (statusCode : Int) (res : JsonObject) (order : Order) :
    automaticLogin userInfo mobileId statusCode res order =
      .posts ⟨userEmail, mobileId, userPassword⟩ ::
        automaticReply (LoginScreen.start (some userInfo)).form userInfo userInfo
          ⟨userEmail, mobileId, userPassword⟩ order statusCode res := by
  simp [automaticLogin, automaticReply, LoginScreen.step, LoginScreen.resume, LoginScreen.start,
    LoginScreen.storage, read]

theorem automaticLogin_opensHome_iff {userInfo userEmail userPassword : String}
    (read : readCredential userInfo = some (userEmail, userPassword)) (mobileId : String)
    (statusCode : Int) (res : JsonObject) (order : Order) :
    OpensHome (automaticLogin userInfo mobileId statusCode res order) ↔
      ¬ (logsOut statusCode res = true ∧ order = .deleteFirst) := by
  have replied := automaticReply_opensHome_iff (LoginScreen.start (some userInfo)).form userInfo userInfo
    ⟨userEmail, mobileId, userPassword⟩ order statusCode res
  simpa [OpensHome, automaticLogin_eq read] using replied

/-- A saved value without two fields ends the automatic login. -/
theorem automaticLogin_unreadable {userInfo : String} (unreadable : readCredential userInfo = none)
    (mobileId : String) (statusCode : Int) (res : JsonObject) (order : Order) :
    ¬ OpensHome (automaticLogin userInfo mobileId statusCode res order) := by
  cases order <;> simp [OpensHome, automaticLogin, LoginScreen.step, LoginScreen.resume,
    LoginScreen.start, LoginScreen.storage, LoginScreen.finish, unreadable, Order.inputs]

theorem logsOut_iff {statusCode : Int} {res : JsonObject} :
    logsOut statusCode res = true ↔
      statusAccepted statusCode = true ∧ res.get "IsRegister" = .string "false" := by
  simp [logsOut, saysUnregistered]

/-- What has to be the case for a saved email to be let in by the button too, or not to
    be let in at all. -/
def AdmittedAlike (email : String) (statusCode : Int) (res : JsonObject) (order : Order) : Prop :=
  (hasMatch email = true ∧ statusAccepted statusCode = true ∧
      res.get "IsLogin" = .string "true" ∧ res.get "IsRegister" = .string "true") ∨
    (statusAccepted statusCode = true ∧ res.get "IsRegister" = .string "false" ∧
      order = .deleteFirst)

theorem admits_iff_of_read {userInfo email password : String}
    (read : readCredential userInfo = some (email, password)) (mobileId : String)
    (statusCode : Int) (res : JsonObject) (order : Order) :
    (OpensHome (automaticLogin userInfo mobileId statusCode res order) →
        OpensHome (manualLogin email password mobileId statusCode res)) ↔
      AdmittedAlike email statusCode res order := by
  rw [manualLogin_opensHome_iff, automaticLogin_opensHome_iff read, logsOut_iff]
  constructor
  · intro admits
    by_cases out : (statusAccepted statusCode = true ∧ res.get "IsRegister" = .string "false") ∧
        order = .deleteFirst
    · exact .inr ⟨out.1.1, out.1.2, out.2⟩
    · exact .inl (admits out)
  · intro alike opens
    cases alike with
    | inl manual => exact manual
    | inr out =>
        obtain ⟨status, register, first⟩ := out
        exact absurd ⟨⟨status, register⟩, first⟩ opens

/-- For every saved value, every reply and both orders of the delete and the second
    read: the automatic login lets in nobody but whom the button lets in with the saved
    email and password, exactly if the email matches the pattern and the reply is a
    checked login on a registered device, or the reply logs the device out and the delete
    takes effect first. -/
theorem automatic_admits_manual_iff (userInfo mobileId : String) (statusCode : Int)
    (res : JsonObject) (order : Order) :
    (OpensHome (automaticLogin userInfo mobileId statusCode res order) →
        ∃ email password, readCredential userInfo = some (email, password) ∧
          OpensHome (manualLogin email password mobileId statusCode res)) ↔
      ∀ email password, readCredential userInfo = some (email, password) →
        AdmittedAlike email statusCode res order := by
  cases read : readCredential userInfo with
  | none =>
      have closed := automaticLogin_unreadable read mobileId statusCode res order
      exact iff_of_true (fun opens => absurd opens closed) (fun _ _ some => by cases some)
  | some fields =>
      obtain ⟨email, password⟩ := fields
      have alike := admits_iff_of_read read mobileId statusCode res order
      constructor
      · intro admits email' password' same
        cases same
        apply alike.mp
        intro opens
        obtain ⟨_, _, same, manual⟩ := admits opens
        cases same
        exact manual
      · intro all opens
        exact ⟨email, password, rfl, alike.mpr (all email password rfl) opens⟩

/-- The server refuses the password; the button shows an error and the automatic login
    opens the home page. -/
theorem refusedPassword_admitted :
    readCredential "kim@edutopik.com old" = some ("kim@edutopik.com", "old") ∧
      Effect.opens (.home "device-a" "kim@edutopik.com") ∈
        automaticLogin "kim@edutopik.com old" "device-a" 200 [("IsLogin", .string "false")]
          .readFirst ∧
      ¬ OpensHome (manualLogin "kim@edutopik.com" "old" "device-a" 200
        [("IsLogin", .string "false")]) := by
  refine ⟨by decide, by decide, ?_⟩
  intro opens
  obtain ⟨uuid, email, opened⟩ := opens
  have effects : manualLogin "kim@edutopik.com" "old" "device-a" 200 [("IsLogin", .string "false")] =
      [.saves "kim@edutopik.com old", .checks "kim@edutopik.com",
        .posts ⟨"kim@edutopik.com", "device-a", "old"⟩, .opens .incorrectAcc] := by decide
  simp [effects] at opened

end Edutopik.Login

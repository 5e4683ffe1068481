import Edutopik.Login.Admission
import Edutopik.Otp.DeviceFlow

/-! # Status codes at the login-side requests

Four requests are answered with a status and a JSON object: the LOGIN button's, the
automatic login's, the one for the registered devices and the one for the phone
number. All put the status to the same test, which lets every error through and stops
every success but 200. What it guards differs, and two of the four go on whatever it
says.
-/

namespace Edutopik.Otp

open Dart EventLoop Machine Login

/-- What the LOGIN button's reply says is to be shown. -/
def bodyRoute (mobileId : String) (res : JsonObject) : Route :=
  if (res.get "IsLogin").equals "true" then
    if (res.get "IsRegister").equals "true" then .home mobileId
    else if (res.get "CountUUID").equals "2" then .devOveruse mobileId
    else .devNew mobileId
  else .incorrectAcc

/-- The variables after the four assignments, which stop at the first value that is no
    string. -/
def Devices.assigned (devices : Devices) (res : JsonObject) : Devices :=
  match (res.get "NAME1").toText with
  | none => devices
  | some name1 =>
      match (res.get "NAME2").toText with
      | none => { devices with deviceName1 := name1 }
      | some name2 =>
          match (res.get "UUID1").toText with
          | none => { devices with deviceName1 := name1, deviceName2 := name2 }
          | some uuid1 =>
              match (res.get "UUID2").toText with
              | none =>
                  { devices with
                    deviceName1 := name1, deviceName2 := name2, deviceUUID1 := uuid1 }
              | some uuid2 =>
                  { devices with
                    deviceName1 := name1, deviceName2 := name2, deviceUUID1 := uuid1,
                    deviceUUID2 := uuid2 }

/-- The variables once a reply of `select_device.asp` is dealt with. -/
def Devices.heldAfter (statusCode : Int) (res : JsonObject) : Devices :=
  if statusAccepted statusCode then Devices.assigned {} res else {}

/-- A reply that is awaited, with what is there when it comes. The saved login is there
    while the automatic login waits. -/
inductive Site where
  | login (s : Body) (request : LoginRequest)
  | automatic (form : Form) (saved userInfo : String) (request : LoginRequest) (order : Order)
  | devices
  | phone (s : State) (userId : String)

/-- What a reply to the LOGIN button leads to. -/
def loginReply (s : Body) (request : LoginRequest) (statusCode : Int) (res : JsonObject) :
    List Login.Effect :=
  output body.step ⟨s, [.posting request]⟩
    [.resume 0 (.replied (objectReply statusCode res)), .resume 0 .done]

/-- What a reply to `sendMessage` leads to. -/
def phoneReply (s : State) (userId : String) (statusCode : Int) (res : JsonObject) : List Effect :=
  (s.resume (.awaitingPhone userId) (.replied (objectReply statusCode res))).effects

/-- The home page, or a dialog that leads to a registration. -/
def LetsIn : Screen → Prop
  | .home _ _ | .devOveruse _ _ _ | .devNew _ _ _ _ => True
  | .incorrectAcc | .nonEmailFormat => False

namespace Site

/-- The reply opens neither the home page nor a registration dialog, deletes no saved
    login, fills in no device, and has no code sent. -/
def Silent (statusCode : Int) (res : JsonObject) : Site → Prop
  | .login s request =>
      ∀ screen, Login.Effect.opens screen ∈ loginReply s request statusCode res → ¬ LetsIn screen
  | .automatic form saved userInfo request order =>
      ¬ OpensHome (automaticReply form saved userInfo request order statusCode res) ∧
        ∀ value, Login.Effect.deletes value ∉
          automaticReply form saved userInfo request order statusCode res
  | .devices => Devices.heldAfter statusCode res = {}
  | .phone s userId => ∀ phone, Effect.verifyPhoneNumber phone ∉ phoneReply s userId statusCode res

/-- What is done is what the reply's body says. -/
def ActsOn (statusCode : Int) (res : JsonObject) : Site → Prop
  | .login s request =>
      loginReply s request statusCode res =
        [.opens ((bodyRoute request.deviceId res).build s.email s.password)]
  | .automatic form saved userInfo request order =>
      (∃ value, Login.Effect.deletes value ∈
          automaticReply form saved userInfo request order statusCode res) ↔
        saysUnregistered res = true
  | .devices => Devices.select (objectReply statusCode res) = Devices.assign {} res
  | .phone s userId => ∀ phone, res.get "Phone" = .string phone →
      Effect.verifyPhoneNumber phone ∈ phoneReply s userId statusCode res

/-- An error has no effect, and a success is acted on. -/
def Heeds (site : Site) (statusCode : Int) (res : JsonObject) : Prop :=
  (400 ≤ statusCode → site.Silent statusCode res) ∧
    (200 ≤ statusCode → statusCode ≤ 299 → site.ActsOn statusCode res)

end Site

/-- The keys of the four assignments, in their order. -/
def deviceKeys : List String := ["NAME1", "NAME2", "UUID1", "UUID2"]

/-- Up to the first value that is no string, all are the placeholder. -/
def Placeholders (res : JsonObject) : List String → Prop
  | [] => True
  | key :: rest => ∀ text, res.get key = .string text → text = "." ∧ Placeholders res rest

/-- The bodies an error may have without an effect. -/
def Site.Harmless (res : JsonObject) : Site → Prop
  | .login _ _ => res.get "IsLogin" ≠ .string "true"
  | .automatic _ _ _ _ _ => False
  | .devices => Placeholders res deviceKeys
  | .phone _ _ => ∀ phone, res.get "Phone" ≠ .string phone

/-- The bodies a success may have without anything to act on. -/
def Site.Unneeded (res : JsonObject) : Site → Prop
  | .login _ _ => False
  | .automatic _ _ _ _ _ => res.get "IsRegister" ≠ .string "false"
  | .devices => ∀ key ∈ deviceKeys, res.get key = .string "."
  | .phone _ _ => ∀ phone, res.get "Phone" ≠ .string phone

variable {statusCode : Int} {res : JsonObject}

theorem statusAccepted_iff : statusAccepted statusCode = true ↔ statusCode ≤ 200 ∨ 400 ≤ statusCode := by
  simp [statusAccepted]

/-! ## The LOGIN button -/

theorem loginRoute_eq (mobileId : String) :
    loginRoute mobileId statusCode res =
      if statusAccepted statusCode then some (bodyRoute mobileId res) else none := by
  unfold loginRoute bodyRoute
  split
  · split
    · split
      · rfl
      · split <;> rfl
    · rfl
  · rfl

theorem loginReply_eq (s : Body) (request : LoginRequest) :
    loginReply s request statusCode res =
      if statusAccepted statusCode then
        [.opens ((bodyRoute request.deviceId res).build s.email s.password)]
      else [] := by
  by_cases accepted : statusAccepted statusCode = true
  · simp [loginReply, Body.resume, Body.answered, objectReply, loginRoute_eq, accepted, Body.built]
  · simp [loginReply, Body.resume, Body.answered, objectReply, loginRoute_eq, accepted, Body.idle]

theorem letsIn_bodyRoute_iff (mobileId email password : String) :
    LetsIn ((bodyRoute mobileId res).build email password) ↔ res.get "IsLogin" = .string "true" := by
  rw [← Json.equals_iff]
  unfold bodyRoute
  split
  · rename_i login
    simp only [login, iff_true]
    split
    · trivial
    · split <;> trivial
  · rename_i login
    simp [login, Route.build, LetsIn]

/-! ## The registered devices -/

/-- With four strings the two models of the assignments agree. -/
theorem Devices.assigned_eq {devices given : Devices} (assigned : devices.assign res = some given) :
    devices.assigned res = given := by
  unfold Devices.assign at assigned
  split at assigned
  · rename_i name1 name2 uuid1 uuid2
    cases assigned
    simp only [Devices.assigned, name1, name2, uuid1, uuid2]
  · cases assigned

/-- The sheet shows what the variables hold. -/
theorem Devices.heldAfter_of_select {shown : Devices}
    (selected : Devices.select (objectReply statusCode res) = some shown) :
    shown = Devices.heldAfter statusCode res := by
  simp only [Devices.select, objectReply, Reply.decode_answered] at selected
  unfold Devices.heldAfter
  split at selected
  · rename_i accepted
    rw [if_pos accepted, Devices.assigned_eq selected]
  · rename_i refused
    rw [if_neg refused]
    exact (Option.some.inj selected).symm

theorem Devices.assigned_placeholders_iff :
    Devices.assigned {} res = {} ↔ Placeholders res deviceKeys := by
  simp only [Placeholders, deviceKeys, ← Json.toText_eq_some_iff, Devices.assigned]
  cases (res.get "NAME1").toText with
  | none => simp
  | some name1 =>
      cases (res.get "NAME2").toText with
      | none => simp
      | some name2 =>
          cases (res.get "UUID1").toText with
          | none => simp
          | some uuid1 =>
              cases (res.get "UUID2").toText <;> simp

theorem Devices.assign_placeholders_iff :
    Devices.assign {} res = some {} ↔ ∀ key ∈ deviceKeys, res.get key = .string "." := by
  simp only [deviceKeys, ← Json.toText_eq_some_iff, Devices.assign]
  split
  · rename_i name1 name2 uuid1 uuid2
    simp [name1, name2, uuid1, uuid2]
  · rename_i missing
    simp only [reduceCtorEq, List.forall_mem_cons, false_iff, not_and]
    intro name1 name2 uuid1 uuid2
    exact absurd uuid2 (missing "." "." "." "." name1 name2 uuid1)

/-! ## The phone number -/

theorem verifies_iff (s : State) (userId phone : String) :
    Effect.verifyPhoneNumber phone ∈ phoneReply s userId statusCode res ↔
      statusAccepted statusCode = true ∧ res.get "Phone" = .string phone := by
  rw [← Json.toText_eq_some_iff]
  unfold phoneReply State.resume State.phoneAnswered objectReply
  by_cases accepted : statusAccepted statusCode = true
  · cases read : (res.get "Phone").toText with
    | none => simp [accepted, read, State.idle]
    | some text => simp [accepted, read, eq_comm]
  · simp [accepted, State.idle]

/-! ## All four -/

/-- A reply that gets past the test is silent if its body is harmless. -/
theorem Site.silent_iff (accepted : statusAccepted statusCode = true) (site : Site) :
    site.Silent statusCode res ↔ site.Harmless res := by
  cases site with
  | login s request =>
      have shown : LetsIn ((bodyRoute request.deviceId res).build s.email s.password) ↔
          res.get "IsLogin" = .string "true" := letsIn_bodyRoute_iff _ _ _
      simp only [Silent, Harmless, loginReply_eq, accepted, if_true, List.mem_singleton,
        Effect.opens.injEq, forall_eq, shown]
  | automatic form saved userInfo request order =>
      simp only [Silent, Harmless, iff_false, automaticReply_opensHome_iff]
      intro silent
      obtain ⟨closed, kept⟩ := silent
      obtain ⟨out, -⟩ := not_not.mp closed
      obtain ⟨value, deleted⟩ := (automaticReply_deletes_iff form saved userInfo request order
        statusCode res).mpr out
      exact kept value deleted
  | devices =>
      simp only [Silent, Harmless, Devices.heldAfter, accepted, if_true]
      exact Devices.assigned_placeholders_iff
  | phone s userId => simp only [Silent, Harmless, verifies_iff, accepted, true_and, ne_eq]

/-- A body is acted on if the reply gets past the test, or if there is nothing to act on. -/
theorem Site.actsOn_iff (site : Site) :
    site.ActsOn statusCode res ↔ statusAccepted statusCode = true ∨ site.Unneeded res := by
  cases site with
  | login s request =>
      simp only [ActsOn, Unneeded, loginReply_eq, or_false]
      split <;> simp [*]
  | automatic form saved userInfo request order =>
      simp only [ActsOn, Unneeded, automaticReply_deletes_iff, logsOut_iff, saysUnregistered,
        Json.equals_iff]
      tauto
  | devices =>
      simp only [ActsOn, Unneeded, Devices.select, objectReply, Reply.decode_answered]
      split
      · rename_i accepted
        simp [accepted]
      · rename_i refused
        rw [← Devices.assign_placeholders_iff, or_iff_right refused]
        exact eq_comm
  | phone s userId =>
      simp only [ActsOn, Unneeded, verifies_iff]
      constructor
      · intro acts
        by_cases accepted : statusAccepted statusCode = true
        · exact .inl accepted
        · exact .inr fun phone given => accepted (acts phone given).1
      · intro either phone given
        exact ⟨either.resolve_right fun missing => missing phone given, given⟩

/-- At each of the four requests, for every status code and every body: an error has no
    effect and a success is acted on, exactly if no error comes with a body that is not
    harmless, and no success but 200 with one that has something to act on. -/
theorem site_heeds_iff (site : Site) (statusCode : Int) (res : JsonObject) :
    site.Heeds statusCode res ↔
      (400 ≤ statusCode → site.Harmless res) ∧
        (201 ≤ statusCode → statusCode ≤ 299 → site.Unneeded res) := by
  have error : 400 ≤ statusCode → statusAccepted statusCode = true :=
    fun high => statusAccepted_iff.mpr (.inr high)
  constructor
  · intro heeds
    obtain ⟨silent, acts⟩ := heeds
    constructor
    · intro high
      exact (site.silent_iff (error high)).mp (silent high)
    · intro low high
      refine (site.actsOn_iff.mp (acts (by omega) high)).resolve_left ?_
      rw [statusAccepted_iff]
      omega
  · intro both
    obtain ⟨harmless, unneeded⟩ := both
    constructor
    · intro high
      exact (site.silent_iff (error high)).mpr (harmless high)
    · intro low high
      apply site.actsOn_iff.mpr
      by_cases ok : statusCode = 200
      · exact .inl (statusAccepted_iff.mpr (.inl (by omega)))
      · exact .inr (unneeded (by omega) high)

/-- The LOGIN button pressed on one account. -/
def sampleSite : Site :=
  .login { storage := none, email := "kim@edutopik.com", password := "old" }
    { eMail := "kim@edutopik.com", deviceId := "device-a", userPW := "old" }

/-- An internal server error with the body of a checked login opens the home page, and
    the same body created with 201 opens nothing. -/
theorem errorReply_letsIn :
    ¬ sampleSite.Heeds 500 [("IsLogin", .string "true"), ("IsRegister", .string "true")] ∧
      ¬ sampleSite.Heeds 201 [("IsLogin", .string "true"), ("IsRegister", .string "true")] := by
  constructor
  · intro heeds
    have silent := heeds.1 (by decide) (.home "device-a" "kim@edutopik.com")
    exact silent (by decide) trivial
  · intro heeds
    have acts := heeds.2 (by decide) (by decide)
    have nothing : loginReply { storage := none, email := "kim@edutopik.com", password := "old" }
        ⟨"kim@edutopik.com", "device-a", "old"⟩ 201
          [("IsLogin", .string "true"), ("IsRegister", .string "true")] = [] := by decide
    have same := nothing.symm.trans acts
    cases same

end Edutopik.Otp

import Edutopik.Dart.Core

/-! # What the login form saves, asks and is told

One value is saved for both fields, and read back by splitting it. The request and
the reply are the same for the LOGIN button and for the automatic login; what they
do with the reply is not.
-/

namespace Edutopik.Login

open Dart

/-- What the LOGIN button saves: `email + " " + password`. -/
def credential (email password : String) : String := email ++ " " ++ password

/-- What the automatic login reads back: `split(' ')`, fields 0 and 1, each of which
    raises when it is not there. -/
def readCredential (userInfo : String) : Option (String × String) :=
  let user := split ' ' userInfo
  match Dart.index user 0, Dart.index user 1 with
  | some userEmail, some userPassword => some (userEmail, userPassword)
  | _, _ => none

/-- The body posted to `login_proc.asp`. -/
structure LoginRequest where
  eMail : String
  deviceId : String
  userPW : String
  deriving DecidableEq, Repr

/-- `statusCode <= 200 || statusCode >= 400`, the test every login-side reply is put to. -/
def statusAccepted (statusCode : Int) : Bool := statusCode ≤ 200 || statusCode ≥ 400

/-- What the LOGIN button's handler decides to show. The builders of the first three
    read the text fields when the route is built. -/
inductive Route where
  | home (mobileId : String)
  | devOveruse (mobileId : String)
  | devNew (mobileId : String)
  | incorrectAcc
  | nonEmailFormat
  deriving DecidableEq, Repr

/-- The LOGIN button's reading of a reply. -/
def loginRoute (mobileId : String) (statusCode : Int) (res : JsonObject) : Option Route :=
  if statusAccepted statusCode then
    if (res.get "IsLogin").equals "true" then
      if (res.get "IsRegister").equals "true" then some (.home mobileId)
      else if (res.get "CountUUID").equals "2" then some (.devOveruse mobileId)
      else some (.devNew mobileId)
    else some .incorrectAcc
  else none

/-- The reply says that the device is not registered for the account it is about. -/
def saysUnregistered (res : JsonObject) : Bool := (res.get "IsRegister").equals "false"

/-- The automatic login's reading of a reply: whether it logs the device out. -/
def logsOut (statusCode : Int) (res : JsonObject) : Bool :=
  statusAccepted statusCode && saysUnregistered res

theorem loginRoute_home_iff {mobileId uuid : String} {statusCode : Int} {res : JsonObject} :
    loginRoute mobileId statusCode res = some (.home uuid) ↔
      statusAccepted statusCode = true ∧ res.get "IsLogin" = .string "true" ∧
        res.get "IsRegister" = .string "true" ∧ uuid = mobileId := by
  simp only [← Json.equals_iff]
  unfold loginRoute
  split
  · rename_i status
    split
    · rename_i login
      split
      · rename_i register
        simp [status, login, register, eq_comm]
      · rename_i register
        split <;> simp [register]
    · rename_i login
      simp [login]
  · rename_i status
    simp [status]

/-! ## Reading back what was saved -/

theorem readCredential_eq_some_iff {userInfo userEmail userPassword : String} :
    readCredential userInfo = some (userEmail, userPassword) ↔
      ∃ more, split ' ' userInfo = userEmail :: userPassword :: more := by
  unfold readCredential
  cases fields : split ' ' userInfo with
  | nil => simp [Dart.index]
  | cons first rest =>
      cases rest with
      | nil => simp [Dart.index]
      | cons second more => simp [Dart.index]

theorem split_credential (email password : String) :
    split ' ' (credential email password) = split ' ' email ++ split ' ' password :=
  split_append ' ' email password

/-- Both fields come back exactly if neither holds the separator. -/
theorem readCredential_credential_iff (email password : String) :
    readCredential (credential email password) = some (email, password) ↔
      ' ' ∉ email.toList ∧ ' ' ∉ password.toList := by
  rw [readCredential_eq_some_iff, split_credential]
  constructor
  · intro read
    obtain ⟨more, fields⟩ := read
    have emailField : email ∈ split ' ' (credential email password) := by
      rw [split_credential, fields]
      exact List.mem_cons_self
    have passwordField : password ∈ split ' ' (credential email password) := by
      rw [split_credential, fields]
      exact List.mem_cons_of_mem _ List.mem_cons_self
    exact ⟨not_mem_of_mem_split emailField, not_mem_of_mem_split passwordField⟩
  · intro free
    obtain ⟨emailFree, passwordFree⟩ := free
    rw [split_of_not_mem emailFree, split_of_not_mem passwordFree]
    exact ⟨[], rfl⟩

end Edutopik.Login

import Edutopik.Login.Body

/-! # The login screen and its automatic login

`_asyncMethod` runs once, beside the form: it reads what was saved, posts it, deletes
it if the device is not registered, reads again, and opens the home page unless
nothing is there. Nothing awaits the delete, so it takes effect at some time of its
own, before or after the second read.

A read and the code after it are one step, since nothing the form does in between
could change what that code sees.
-/

namespace Edutopik.Login

open Dart EventLoop Machine

/-- Where the call of `_asyncMethod` is suspended. `userInfo` is the value first read. -/
inductive AutoLogin where
  | reading
  | identifying (userInfo userEmail userPassword : String)
  | posting (userInfo : String) (request : LoginRequest)
  | rereading (request : LoginRequest) (statusCode : Int) (res : JsonObject)
  | finished

structure LoginScreen where
  form : Form
  auto : AutoLogin := .reading
  /-- The value that the reply was about, while its delete is still to take effect. -/
  deleting : Option String := none

inductive ScreenInput where
  | form (i : FormInput)
  /-- What `_asyncMethod` awaits comes in. -/
  | auto (r : Result)
  /-- The delete takes effect. -/
  | deletes

namespace LoginScreen

def storage (s : LoginScreen) : Option String := s.form.shared.storage

def store (s : LoginScreen) (value : Option String) : LoginScreen :=
  { s with form.shared.storage := value }

/-- The call is over, by its last statement or by an exception. -/
def finish (s : LoginScreen) : LoginScreen := { s with auto := .finished }

/-- `_asyncMethod` from one await to the next. -/
def resume (s : LoginScreen) (r : Result) : LoginScreen × List Effect :=
  match s.auto, r with
  | .reading, .done =>
      match s.storage with
      | none => (s.finish, [])
      | some userInfo =>
          match readCredential userInfo with
          | none => (s.finish, [])
          | some (userEmail, userPassword) =>
              ({ s with auto := .identifying userInfo userEmail userPassword }, [])
  | .identifying userInfo userEmail userPassword, .mobileId id =>
      let request : LoginRequest := { eMail := userEmail, deviceId := id, userPW := userPassword }
      ({ s with auto := .posting userInfo request }, [.posts request])
  | .posting userInfo request, .replied reply =>
      match reply.decode with
      | none => (s.finish, [])
      | some (statusCode, res) =>
          ({ s with
              auto := .rereading request statusCode res
              deleting := if logsOut statusCode res then some userInfo else s.deleting }, [])
  | .rereading request _ _, .done =>
      match s.storage with
      | none => (s.finish, [])
      | some _ => (s.finish, [.opens (.home request.deviceId request.eMail)])
  | _, _ => (s.finish, [])

def step : Machine.Step LoginScreen ScreenInput Effect
  | s, .form i =>
      let next := body.step s.form i
      ({ s with form := next.1 }, next.2)
  | s, .auto r => s.resume r
  | s, .deletes =>
      match s.deleting with
      | none => (s, [])
      | some _ => ({ s.store none with deleting := none }, [.deletes s.storage])

/-- The screen as the app starts, with what earlier runs of it left in the storage. -/
def start (storage : Option String) : LoginScreen :=
  { form := { shared := { storage := storage }, tasks := [] } }

end LoginScreen

/-- What `_asyncMethod` can do between two awaits: end with nothing done, or take one
    of its four stages. -/
inductive AutoTurn (s : LoginScreen) : Result → LoginScreen × List Effect → Prop where
  | finish {r} : AutoTurn s r (s.finish, [])
  | read {userInfo userEmail userPassword} : s.auto = .reading → s.storage = some userInfo →
      readCredential userInfo = some (userEmail, userPassword) →
        AutoTurn s .done ({ s with auto := .identifying userInfo userEmail userPassword }, [])
  | identified {userInfo userEmail userPassword id} :
      s.auto = .identifying userInfo userEmail userPassword →
        AutoTurn s (.mobileId id)
          ({ s with auto := .posting userInfo ⟨userEmail, id, userPassword⟩ },
            [.posts ⟨userEmail, id, userPassword⟩])
  | answered {userInfo request reply statusCode res} : s.auto = .posting userInfo request →
      reply.decode = some (statusCode, res) →
        AutoTurn s (.replied reply)
          ({ s with
              auto := .rereading request statusCode res
              deleting := if logsOut statusCode res then some userInfo else s.deleting }, [])
  | opens {request statusCode res value} : s.auto = .rereading request statusCode res →
      s.storage = some value →
        AutoTurn s .done (s.finish, [.opens (.home request.deviceId request.eMail)])

theorem autoTurn_resume (s : LoginScreen) (r : Result) : AutoTurn s r (s.resume r) := by
  unfold LoginScreen.resume
  split
  · rename_i phase
    split
    · exact .finish
    · rename_i userInfo there
      split
      · exact .finish
      · rename_i userEmail userPassword read
        exact .read phase there read
  · rename_i phase
    exact .identified phase
  · rename_i phase
    split
    · exact .finish
    · rename_i statusCode res decoded
      exact .answered phase decoded
  · rename_i phase
    split
    · exact .finish
    · rename_i value there
      exact .opens phase there
  · exact .finish

end Edutopik.Login

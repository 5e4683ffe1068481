import Edutopik.Login.LoginScreen

/-! # What one step of the login form can do

`Body.resumes` says which stage a press takes. This says it of the whole form, with what
the reply read and what the fields held at that moment.
-/

namespace Edutopik.Login

open Dart EventLoop

inductive FormTurn (w : Form) : FormInput → Form × List Effect → Prop where
  | idle {i} : FormTurn w i (w, [])
  | edits {e shared} : shared.storage = w.shared.storage →
      FormTurn w (.event e) (⟨shared, w.tasks⟩, [])
  | presses : FormTurn w (.event .login)
      (⟨w.shared, w.tasks ++ [.saving (credential w.shared.email w.shared.password)]⟩, [])
  | saves {k value} : w.tasks[k]? = some (.saving value) →
      FormTurn w (.resume k .done) (⟨(w.shared.saved value).shared,
        replaceAt k (w.shared.saved value).tasks w.tasks⟩, [.saves value, .checks w.shared.email])
  | identifies {k id} : w.tasks[k]? = some .identifying →
      FormTurn w (.resume k (.mobileId id))
        (⟨w.shared, replaceAt k [.posting ⟨w.shared.email, id, w.shared.password⟩] w.tasks⟩,
          [.posts ⟨w.shared.email, id, w.shared.password⟩])
  | answers {k request reply statusCode res route} : w.tasks[k]? = some (.posting request) →
      reply.decode = some (statusCode, res) →
        loginRoute request.deviceId statusCode res = some route →
          FormTurn w (.resume k (.replied reply))
            (⟨w.shared, replaceAt k [.building route] w.tasks⟩, [])
  | builds {k route r} : w.tasks[k]? = some (.building route) →
      FormTurn w (.resume k r) (⟨w.shared, replaceAt k [] w.tasks⟩,
        [.opens (route.build w.shared.email w.shared.password)])
  | ends {k r} : FormTurn w (.resume k r) (⟨w.shared, replaceAt k [] w.tasks⟩, [])

namespace FormTurn

variable {w : Form} {k : Nat}

theorem event (e : Event) : FormTurn w (.event e) (body.step w (.event e)) := by
  rw [step_event]
  cases e with
  | editEmail text =>
      simp only [body_react, Body.react, List.append_nil]
      exact .edits rfl
  | editPassword text =>
      simp only [body_react, Body.react, List.append_nil]
      exact .edits rfl
  | login => exact .presses

theorem saved {value : String} (located : w.tasks[k]? = some (.saving value)) (r : Result) :
    FormTurn w (.resume k r) (body.step w (.resume k r)) := by
  rw [step_resume body located]
  cases r with
  | done =>
      have effects := Body.saved_effects (s := w.shared) value
      simp only [body_resume, Body.resume, effects]
      exact .saves located
  | _ => exact .ends

theorem identified (located : w.tasks[k]? = some .identifying) (r : Result) :
    FormTurn w (.resume k r) (body.step w (.resume k r)) := by
  rw [step_resume body located]
  cases r with
  | mobileId id => exact .identifies located
  | _ => exact .ends

theorem posted {request : LoginRequest} (located : w.tasks[k]? = some (.posting request))
    (r : Result) : FormTurn w (.resume k r) (body.step w (.resume k r)) := by
  rw [step_resume body located]
  cases r with
  | replied reply =>
      simp only [body_resume, Body.resume, Body.answered]
      cases decoded : reply.decode with
      | none => exact .ends
      | some answer =>
          obtain ⟨statusCode, res⟩ := answer
          dsimp only
          cases leads : loginRoute request.deviceId statusCode res with
          | none => exact .ends
          | some route => exact .answers located decoded leads
  | _ => exact .ends

end FormTurn

/-- Every step is the turn of a handler or of a pending press. -/
theorem formTurn (w : Form) (i : FormInput) : FormTurn w i (body.step w i) := by
  rcases step_cases w i with ⟨e, rfl⟩ | ⟨k, r, rfl, missing⟩ | ⟨k, r, t, rfl, located⟩
  · exact .event e
  · rw [step_idle body missing]
    exact .idle
  · cases t with
    | saving value => exact .saved located r
    | identifying => exact .identified located r
    | posting request => exact .posted located r
    | building route =>
        rw [step_resume body located]
        exact .builds located

/-- The device a route is about. -/
def Route.mobileId? : Route → Option String
  | .home mobileId | .devOveruse mobileId | .devNew mobileId => some mobileId
  | _ => none

/-- A reply leads to a route about the device that was posted. -/
theorem loginRoute_mobileId {mobileId id : String} {statusCode : Int} {res : JsonObject}
    {route : Route} (leads : loginRoute mobileId statusCode res = some route)
    (about : route.mobileId? = some id) : id = mobileId := by
  unfold loginRoute at leads
  split at leads
  · split at leads
    · split at leads
      · cases leads
        exact (Option.some.inj about).symm
      · split at leads
        · cases leads
          exact (Option.some.inj about).symm
        · cases leads
          exact (Option.some.inj about).symm
    · cases leads
      cases about
  · cases leads

/-- After the write a press goes on to the device id or shows what is wrong. -/
theorem saved_tasks_cases (s : Body) (value : String) :
    (s.saved value).tasks = [.identifying] ∨ (s.saved value).tasks = [.building .nonEmailFormat] := by
  rw [Body.saved_eq]
  dsimp only
  split
  · exact .inl rfl
  · exact .inr rfl

end Edutopik.Login

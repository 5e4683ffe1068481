import Edutopik.Otp.OtpForm

/-! # What one step of the OTP forms can do

`reacts` and `resumes` say which registrations a turn posts. This says all of a step:
which form it opens or confirms, what comes of a confirmed form, and where a home page
is opened.
-/

namespace Edutopik.Otp

open Dart EventLoop

abbrev OtpFired := Machine.Fired App AppInput Effect

/-- A form is opened by the event that names it, or again from its own screen. -/
inductive OpensForm (s : State) : Event → OtpForm → Prop where
  | opened {form} : OpensForm s (.opened form) form
  | resend {place form} : s.form? place = some form → OpensForm s (.resend place) form

/-- The answer names this phone, under a status that is taken for one. -/
def NamesPhone (phone : String) (reply : Reply) : Prop :=
  ∃ statusCode res, reply.decode = some (statusCode, res) ∧ Login.statusAccepted statusCode = true ∧
    (res.get "Phone").toText = some phone

inductive OtpTurn (w : App) : AppInput → App × List Effect → Prop where
  | idle {i} : OtpTurn w i (w, [])
  | opens {e form} : OpensForm w.shared e form →
      OtpTurn w (.event e) (⟨{ w.shared with forms := w.shared.forms ++ [form] },
        w.tasks ++ [.awaitingPhone form.userId]⟩, [.userInfo form.userId])
  | confirms {place codes form} : w.shared.form? place = some form →
      OtpTurn w (.event (.confirm place codes))
        (⟨w.shared, w.tasks ++ [.signingIn place form ⟨w.shared.verificationId1, codes.code⟩]⟩,
          [.signInWithCredential ⟨w.shared.verificationId1, codes.code⟩])
  | pops {place} : OtpTurn w (.event (.popped place))
      (⟨{ w.shared with gone := place :: w.shared.gone }, w.tasks⟩, [])
  | asks {k userId phone reply} : w.tasks[k]? = some (.awaitingPhone userId) →
      NamesPhone phone reply → OtpTurn w (.resume k (.replied reply))
        (⟨w.shared, replaceAt k [.verifying userId phone] w.tasks⟩, [.verifyPhoneNumber phone])
  | holds {k userId phone id} : w.tasks[k]? = some (.verifying userId phone) →
      OtpTurn w (.resume k (.codeSent id))
        (⟨{ w.shared with verificationId1 := id }, replaceAt k [] w.tasks⟩, [])
  | signsIn {k place form credential} : w.tasks[k]? = some (.signingIn place form credential) →
      OtpTurn w (.resume k (.signedIn true))
        (⟨w.shared, replaceAt k [.naming place form credential] w.tasks⟩, [])
  | names {k place form credential name} : w.tasks[k]? = some (.naming place form credential) →
      OtpTurn w (.resume k (.deviceName name))
        (⟨w.shared, replaceAt k [.registering place form] w.tasks⟩,
          [.deviceRegister (form.registration name)])
  | registers {k place form statusCode body} : w.tasks[k]? = some (.registering place form) →
      OtpTurn w (.resume k (.replied (.answered statusCode body)))
        (⟨w.shared, replaceAt k [] w.tasks⟩, [.openHome form.mobileId form.userId])
  | fails {k r} : OtpTurn w (.resume k r) (⟨w.shared, replaceAt k [] w.tasks⟩, [.incorrectAuth])
  | ends {k r} : OtpTurn w (.resume k r) (⟨w.shared, replaceAt k [] w.tasks⟩, [])

namespace OtpTurn

variable {w : App} {k : Nat}

theorem event (e : Event) : OtpTurn w (.event e) (otp.step w (.event e)) := by
  rw [step_event]
  cases e with
  | opened form => exact .opens .opened
  | resend place =>
      simp only [otp_react, State.react]
      cases there : w.shared.form? place with
      | none =>
          simp only [State.idle, List.append_nil]
          exact .idle
      | some form => exact .opens (.resend there)
  | confirm place codes =>
      simp only [otp_react, State.react]
      cases there : w.shared.form? place with
      | none =>
          simp only [State.idle, List.append_nil]
          exact .idle
      | some form => exact .confirms there
  | popped place =>
      simp only [otp_react, State.react, List.append_nil]
      exact .pops

/-- The turn of a task that is caught: the dialog is shown, or the form has gone. -/
theorem caught (place : Nat) (r : Result) :
    OtpTurn w (.resume k r) (⟨(w.shared.caught place).shared,
      replaceAt k (w.shared.caught place).tasks w.tasks⟩, (w.shared.caught place).effects) := by
  unfold State.caught
  cases w.shared.form? place with
  | none => exact .ends
  | some form => exact .fails

theorem awaitingPhone {userId : String} (located : w.tasks[k]? = some (.awaitingPhone userId))
    (r : Result) : OtpTurn w (.resume k r) (otp.step w (.resume k r)) := by
  rw [step_resume otp located]
  cases r with
  | replied reply =>
      simp only [otp_resume, State.resume, State.phoneAnswered]
      split
      · exact .ends
      · rename_i statusCode res decoded
        split
        · rename_i accepted
          split
          · exact .ends
          · rename_i phone text
            exact .asks located ⟨statusCode, res, decoded, accepted, text⟩
        · exact .ends
  | _ => exact .ends

theorem verifying {userId phone : String} (located : w.tasks[k]? = some (.verifying userId phone))
    (r : Result) : OtpTurn w (.resume k r) (otp.step w (.resume k r)) := by
  rw [step_resume otp located]
  cases r with
  | codeSent id => exact .holds located
  | _ => exact .ends

theorem signingIn {place : Nat} {form : OtpForm} {credential : Credential}
    (located : w.tasks[k]? = some (.signingIn place form credential)) (r : Result) :
    OtpTurn w (.resume k r) (otp.step w (.resume k r)) := by
  rw [step_resume otp located]
  cases r with
  | signedIn user =>
      cases user with
      | true => exact .signsIn located
      | false => exact .ends
  | _ => exact caught place _

theorem naming {place : Nat} {form : OtpForm} {credential : Credential}
    (located : w.tasks[k]? = some (.naming place form credential)) (r : Result) :
    OtpTurn w (.resume k r) (otp.step w (.resume k r)) := by
  rw [step_resume otp located]
  cases r with
  | deviceName name => exact .names located
  | _ => exact caught place _

theorem registering {place : Nat} {form : OtpForm}
    (located : w.tasks[k]? = some (.registering place form)) (r : Result) :
    OtpTurn w (.resume k r) (otp.step w (.resume k r)) := by
  rw [step_resume otp located]
  cases r with
  | replied reply =>
      cases reply with
      | failed => exact caught place _
      | answered statusCode body =>
          simp only [otp_resume, State.resume, State.registered]
          cases w.shared.form? place with
          | none => exact .ends
          | some _ => exact .registers located
  | _ => exact caught place _

end OtpTurn

/-- Every step is the turn of a handler or of a pending task. -/
theorem otpTurn (w : App) (i : AppInput) : OtpTurn w i (otp.step w i) := by
  rcases step_cases w i with ⟨e, rfl⟩ | ⟨k, r, rfl, missing⟩ | ⟨k, r, t, rfl, located⟩
  · exact .event e
  · rw [step_idle otp missing]
    exact .idle
  · cases t with
    | awaitingPhone userId => exact .awaitingPhone located r
    | verifying userId phone => exact .verifying located r
    | signingIn place form credential => exact .signingIn located r
    | naming place form credential => exact .naming located r
    | registering place form => exact .registering located r

/-! ## What all forms have in common

What holds of a form where it is opened holds of it in every stage, and so of every
registration and of every home page that comes of it.
-/

/-- The form a confirmed task is about. -/
def Task.form? : Task → Option OtpForm
  | .signingIn _ form _ | .naming _ form _ | .registering _ form => some form
  | .awaitingPhone _ | .verifying _ _ => none

structure FormsAll (Q : OtpForm → Prop) (w : App) : Prop where
  forms : ∀ form ∈ w.shared.forms, Q form
  confirmed : ∀ t ∈ w.tasks, ∀ form ∈ t.form?, Q form

/-- What is let out about a form is about one of these. -/
def Effect.About (Q : OtpForm → Prop) : Effect → Prop
  | .deviceRegister registration => ∃ form name, Q form ∧ registration = form.registration name
  | .openHome uuid email => ∃ form, Q form ∧ uuid = form.mobileId ∧ email = form.userId
  | _ => True

namespace FormsAll

variable {Q : OtpForm → Prop} {w : App}

theorem mono {Q' : OtpForm → Prop} (all : FormsAll Q w) (weaker : ∀ form, Q form → Q' form) :
    FormsAll Q' w where
  forms := fun form member => weaker form (all.forms form member)
  confirmed := fun t member form own => weaker form (all.confirmed t member form own)

theorem form? (all : FormsAll Q w) {place : Nat} {form : OtpForm}
    (there : w.shared.form? place = some form) : Q form :=
  all.forms form (List.mem_of_getElem? (form?_forms there))

/-- The tasks left when one is taken out, or replaced by one about such a form. -/
theorem replaced (all : FormsAll Q w) (k : Nat) {new : List Task}
    (own : ∀ t ∈ new, ∀ form ∈ t.form?, Q form) (s : State) (same : s.forms = w.shared.forms) :
    FormsAll Q ⟨s, replaceAt k new w.tasks⟩ where
  forms := by
    intro form member
    exact all.forms form (same ▸ member)
  confirmed := forall_mem_replaceAt all.confirmed own k

theorem added (all : FormsAll Q w) {new : Task} (own : ∀ form ∈ new.form?, Q form) :
    ∀ t ∈ w.tasks ++ [new], ∀ form ∈ t.form?, Q form :=
  forall_mem_started all.confirmed own

end FormsAll

theorem formsAll_step {Q : OtpForm → Prop} {w : App} {i : AppInput} (all : FormsAll Q w)
    (opened : ∀ form, i = .event (.opened form) → Q form) :
    FormsAll Q (otp.step w i).1 ∧ ∀ e ∈ (otp.step w i).2, e.About Q := by
  have turn := otpTurn w i
  generalize otp.step w i = next at turn
  cases turn with
  | idle => exact ⟨all, by simp⟩
  | @opens e form opens =>
      have own : Q form := by
        cases opens with
        | opened => exact opened form rfl
        | resend there => exact all.form? there
      refine ⟨⟨?_, all.added (by simp [Task.form?])⟩, by simp [Effect.About]⟩
      intro form' member
      rcases List.mem_append.mp member with old | new
      · exact all.forms form' old
      · rw [List.mem_singleton.mp new]
        exact own
  | confirms there =>
      have own := all.form? there
      refine ⟨⟨all.forms, all.added ?_⟩, by simp [Effect.About]⟩
      simpa [Task.form?] using own
  | pops => exact ⟨⟨all.forms, all.confirmed⟩, by simp⟩
  | asks located named =>
      exact ⟨all.replaced _ (by simp [Task.form?]) _ rfl, by simp [Effect.About]⟩
  | holds located => exact ⟨all.replaced _ (by simp) _ rfl, by simp⟩
  | signsIn located =>
      have own := all.confirmed _ (List.mem_of_getElem? located)
      refine ⟨all.replaced _ ?_ _ rfl, by simp⟩
      simpa [Task.form?] using own
  | @names k place form credential name located =>
      have own : Q form := all.confirmed _ (List.mem_of_getElem? located) _ rfl
      refine ⟨all.replaced _ ?_ _ rfl, ?_⟩
      · simpa [Task.form?] using own
      · intro e out
        rw [List.mem_singleton.mp out]
        exact ⟨form, name, own, rfl⟩
  | @registers k place form _ _ located =>
      have own : Q form := all.confirmed _ (List.mem_of_getElem? located) _ rfl
      refine ⟨all.replaced _ (by simp) _ rfl, ?_⟩
      intro e out
      rw [List.mem_singleton.mp out]
      exact ⟨form, own, rfl, rfl⟩
  | fails => exact ⟨all.replaced _ (by simp) _ rfl, by simp [Effect.About]⟩
  | ends => exact ⟨all.replaced _ (by simp) _ rfl, by simp⟩

end Edutopik.Otp

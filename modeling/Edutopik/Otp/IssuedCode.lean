import Edutopik.Library.History
import Edutopik.Otp.BoundAccount
import Edutopik.Otp.OtpTurns

/-! # Where an id comes from

A form signs in with the id held when it is confirmed, and all forms hold the same one.
Whichever form it was sent for, it has a history: a form was opened for an account, the
server named that account's phone, and a code was sent there. Until the first code is
sent the id is blank.
-/

namespace Edutopik.Otp

open Dart EventLoop Machine

/-! ## The traces -/

/-- A form was opened for the account, and asked for its phone. -/
def AskedPhone (userId : String) : List OtpFired → Prop :=
  Past fun f => ∃ e form, f.input = .event e ∧ OpensForm f.before.shared e form ∧
    form.userId = userId ∧ Effect.userInfo userId ∈ f.effects

/-- The answer for the account named a phone, and a code for it was asked for. -/
def VerifiesPhone (userId phone : String) : List OtpFired → Prop :=
  Past fun f => ∃ k reply, f.input = .resume k (.replied reply) ∧
    f.before.tasks[k]? = some (.awaitingPhone userId) ∧ NamesPhone phone reply ∧
      Effect.verifyPhoneNumber phone ∈ f.effects

/-- The code was sent, under this id. -/
def SentCode (userId phone id : String) : List OtpFired → Prop :=
  Past fun f => ∃ k, f.input = .resume k (.codeSent id) ∧
    f.before.tasks[k]? = some (.verifying userId phone)

/-- An account's phone is being verified. -/
def Verifying (userId phone : String) (past : List OtpFired) : Prop :=
  AskedPhone userId past ∧ VerifiesPhone userId phone past

/-- The id is still the blank one, or one that came with a code. -/
def Issued (id : String) (past : List OtpFired) : Prop :=
  id = "" ∨ ∃ userId phone, Verifying userId phone past ∧ SentCode userId phone id past

/-- A form has signed in with a credential of such an id. -/
def SignedInWith (place : Nat) (form : OtpForm) (credential : Credential) (past : List OtpFired) :
    Prop :=
  Issued credential.verificationId past ∧ Past (SignsIn place form credential) past

section More

variable {past : List OtpFired} {userId phone id : String}

theorem Verifying.more (verifying : Verifying userId phone past) (f : OtpFired) :
    Verifying userId phone (past ++ [f]) :=
  ⟨verifying.1.more f, verifying.2.more f⟩

theorem Issued.more (issued : Issued id past) (f : OtpFired) : Issued id (past ++ [f]) := by
  rcases issued with blank | ⟨userId, phone, verifying, sent⟩
  · exact .inl blank
  · exact .inr ⟨userId, phone, verifying.more f, sent.more f⟩

end More

/-! ## What is held and let out -/

def Task.Traced (past : List OtpFired) : Task → Prop
  | .awaitingPhone userId => AskedPhone userId past
  | .verifying userId phone => Verifying userId phone past
  | .signingIn _ _ credential => Issued credential.verificationId past
  | .naming place form credential => SignedInWith place form credential past
  | .registering _ _ => True

def Effect.Traced (past : List OtpFired) : Effect → Prop
  | .verifyPhoneNumber phone => ∃ userId, Verifying userId phone past
  | .signInWithCredential credential => Issued credential.verificationId past
  | .deviceRegister registration => ∃ place form credential name,
      SignedInWith place form credential past ∧ registration = form.registration name
  | _ => True

/-- All that a step lets out has come about so. -/
def TracesEffects (past : List OtpFired) (f : OtpFired) : Prop :=
  ∀ e ∈ f.effects, e.Traced (past ++ [f])

theorem Task.Traced.more {past : List OtpFired} {t : Task} (traced : t.Traced past) (f : OtpFired) :
    t.Traced (past ++ [f]) := by
  cases t with
  | awaitingPhone userId => exact Past.more traced f
  | verifying userId phone => exact Verifying.more traced f
  | signingIn place form credential => exact Issued.more traced f
  | naming place form credential => exact ⟨traced.1.more f, traced.2.more f⟩
  | registering place form => trivial

/-- The id held and every pending task have come about in the steps taken so far. -/
def Traced (past : List OtpFired) : App → Prop :=
  World.Holds (fun s => Issued s.verificationId1 past) (fun _ t => t.Traced past)

namespace Traced

variable {past : List OtpFired} {w : App}

theorem more (traced : Traced past w) (f : OtpFired) : Traced (past ++ [f]) w where
  shared := traced.shared.more f
  pending := fun t member => (traced.pending t member).more f

theorem added (traced : Traced past w) {new : Task} (own : new.Traced past) (s : State)
    (same : s.verificationId1 = w.shared.verificationId1) : Traced past ⟨s, w.tasks ++ [new]⟩ where
  shared := by
    simp only [same]
    exact traced.shared
  pending := forall_mem_started traced.pending own

theorem replaced (traced : Traced past w) (k : Nat) {new : List Task}
    (own : ∀ t ∈ new, t.Traced past) : Traced past ⟨w.shared, replaceAt k new w.tasks⟩ where
  shared := traced.shared
  pending := forall_mem_replaceAt traced.pending own k

end Traced

/-! ## Runs -/

/-- What a step newly holds and lets out has the step itself, or what was pending, to
    vouch for it. -/
theorem traced_step (past : List OtpFired) (w : App) (i : AppInput) (traced : Traced past w) :
    Traced (past ++ [fire otp.step w i]) (otp.step w i).1 ∧
      ∀ e ∈ (otp.step w i).2, e.Traced (past ++ [fire otp.step w i]) := by
  have turn := otpTurn w i
  have before : (fire otp.step w i).before = w := rfl
  have input : (fire otp.step w i).input = i := rfl
  have effects : (fire otp.step w i).effects = (otp.step w i).2 := rfl
  have kept := traced.more (fire otp.step w i)
  generalize fire otp.step w i = f at *
  generalize otp.step w i = next at turn effects
  have pending : ∀ {k : Nat} {t : Task}, w.tasks[k]? = some t → t.Traced (past ++ [f]) :=
    fun located => kept.pending _ (List.mem_of_getElem? located)
  cases turn with
  | idle => exact ⟨kept, by simp⟩
  | @opens e form opens =>
      have asked : (Task.awaitingPhone form.userId).Traced (past ++ [f]) :=
        Past.now ⟨e, form, input, before ▸ opens, rfl, by simp [effects]⟩
      exact ⟨kept.added asked _ rfl, by simp [Effect.Traced]⟩
  | @confirms place codes form there =>
      have issued : Issued w.shared.verificationId1 (past ++ [f]) := kept.shared
      have confirmed : (Task.signingIn place form ⟨w.shared.verificationId1, codes.code⟩).Traced
          (past ++ [f]) := issued
      refine ⟨kept.added confirmed _ rfl, ?_⟩
      intro e out
      rw [List.mem_singleton.mp out]
      exact issued
  | pops => exact ⟨⟨kept.shared, kept.pending⟩, by simp⟩
  | @asks k userId phone reply located named =>
      have verifies : VerifiesPhone userId phone (past ++ [f]) :=
        .now ⟨k, reply, input, before ▸ located, named, by simp [effects]⟩
      have verifying : Verifying userId phone (past ++ [f]) := ⟨pending located, verifies⟩
      refine ⟨kept.replaced k (List.forall_mem_singleton.mpr verifying), ?_⟩
      intro e out
      rw [List.mem_singleton.mp out]
      exact ⟨userId, verifying⟩
  | @holds k userId phone id located =>
      have sent : SentCode userId phone id (past ++ [f]) := .now ⟨k, input, before ▸ located⟩
      refine ⟨⟨.inr ⟨userId, phone, pending located, sent⟩, ?_⟩, by simp⟩
      exact (kept.replaced k (by simp)).pending
  | @signsIn k place form credential located =>
      have issued : Issued credential.verificationId (past ++ [f]) := pending located
      have signedIn : SignedInWith place form credential (past ++ [f]) :=
        ⟨issued, .now ⟨k, input, before ▸ located⟩⟩
      exact ⟨kept.replaced k (List.forall_mem_singleton.mpr signedIn), by simp⟩
  | @names k place form credential name located =>
      refine ⟨kept.replaced k (List.forall_mem_singleton.mpr trivial), ?_⟩
      intro e out
      rw [List.mem_singleton.mp out]
      exact ⟨place, form, credential, name, pending located, rfl⟩
  | @registers k place form statusCode body located =>
      exact ⟨kept.replaced k (by simp), by simp [Effect.Traced]⟩
  | @fails k r => exact ⟨kept.replaced k (by simp), by simp [Effect.Traced]⟩
  | @ends k r => exact ⟨kept.replaced k (by simp), by simp⟩

theorem traced_fresh : Traced [] ⟨{}, []⟩ := ⟨.inl rfl, by simp⟩

/-- In every run of the forms, a code is asked for only for a phone that the server named
    for an account with a form; a form signs in only with the blank id or one that came
    with such a code; and what is registered is so after such a sign-in of its form. -/
theorem effects_traced (front : List AppInput) (i : AppInput) :
    TracesEffects (run otp.step ⟨{}, []⟩ front) (fire otp.step (final otp.step ⟨{}, []⟩ front) i) := by
  have before : Traced (run otp.step ⟨{}, []⟩ front) (final otp.step ⟨{}, []⟩ front) :=
    history_of_kept (fun past w i traced => (traced_step past w i traced).1) traced_fresh front
  exact (traced_step _ _ i before).2

end Edutopik.Otp

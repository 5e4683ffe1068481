import Edutopik.Login.LoginScreen

/-! # The saved login

One storage key holds both fields as one value. Here is what becomes of it: when it
is read back, after a press that fails, and while the automatic login and the form
use it at the same time.
-/

namespace Edutopik.Login

open Dart EventLoop Machine

/-! ## The credential through the storage -/

/-- The automatic login reads both fields back and posts them as the button did. -/
structure RoundTrips (email password mobileId : String) : Prop where
  fields : readCredential (credential email password) = some (email, password)
  posts : output LoginScreen.step (LoginScreen.start (some (credential email password)))
      [.auto .done, .auto (.mobileId mobileId)] =
    (Body.identified ⟨none, email, password, 1⟩ mobileId).effects

theorem roundTrips_iff_fields (email password mobileId : String) :
    RoundTrips email password mobileId ↔
      readCredential (credential email password) = some (email, password) := by
  refine ⟨RoundTrips.fields, fun fields => ⟨fields, ?_⟩⟩
  simp [output_cons, LoginScreen.step, LoginScreen.resume, LoginScreen.start, LoginScreen.storage,
    fields, Body.identified]

/-- For every email the form accepts and every password: the automatic login gets
    both back, and posts them, exactly if the password has no space and the email has
    none between quotation marks, the only place where the pattern allows one. -/
theorem credential_roundTrips_iff {email : String} (accepted : hasMatch email = true)
    (password mobileId : String) :
    RoundTrips email password mobileId ↔
      (email.toList.head? = some '"' → ' ' ∉ email.toList) ∧ ' ' ∉ password.toList := by
  have unquoted : (email.toList.head? = some '"' → ' ' ∉ email.toList) ↔ ' ' ∉ email.toList :=
    ⟨fun quoted space => quoted (quoted_of_space accepted space) space, fun free _ => free⟩
  rw [roundTrips_iff_fields, readCredential_credential_iff, unquoted]

/-- A password with a space comes back cut off. -/
theorem spacedPassword_cut :
    hasMatch "kim@edutopik.com" = true ∧
      readCredential (credential "kim@edutopik.com" "open sesame") =
        some ("kim@edutopik.com", "open") := by
  decide

theorem credential_roundTrips_iff_sample :
    RoundTrips "kim@edutopik.com" "pw" "device-a" ↔
      ("kim@edutopik.com".toList.head? = some '"' → ' ' ∉ "kim@edutopik.com".toList) ∧
        ' ' ∉ "pw".toList :=
  credential_roundTrips_iff (by decide) "pw" "device-a"

/-! ## Presses that fail -/

/-- One press of LOGIN, from filling the fields in to building what it shows. -/
structure Attempt where
  email : String
  password : String
  mobileId : String
  reply : Reply

namespace Attempt

def inputs (a : Attempt) : List FormInput :=
  [.event (.editEmail a.email), .event (.editPassword a.password), .event .login, .resume 0 .done,
    .resume 0 (.mobileId a.mobileId), .resume 0 (.replied a.reply), .resume 0 .done]

def saves (a : Attempt) : String := credential a.email a.password

/-- The press was sent, and its reply said `IsLogin` `"true"`. -/
def succeeds (a : Attempt) : Bool :=
  hasMatch a.email &&
    match a.reply.object with
    | none => false
    | some res => (res.get "IsLogin").equals "true"

/-- A press of any outcome leaves its own texts behind, and nothing under way. -/
theorem final_inputs (s : Body) (a : Attempt) :
    final body.step ⟨s, []⟩ a.inputs = ⟨⟨some a.saves, a.email, a.password, 1⟩, []⟩ := by
  simp only [inputs, final_cons, final_nil, step_event, body_react, Body.react, Body.login,
    List.nil_append, step_lone, body_resume, Body.resume, Body.saved, saves]
  by_cases accepted : hasMatch a.email = true
  · by_cases kept : s.emailCheck = 1
    · cases decoded : a.reply.decode with
      | none => simp [accepted, kept, Body.resume, Body.identified, Body.answered, decoded, Body.idle]
      | some answer =>
          cases shown : loginRoute a.mobileId answer.1 answer.2 with
          | none =>
              simp [accepted, kept, Body.resume, Body.identified, Body.answered, decoded, shown,
                Body.idle]
          | some route =>
              simp [accepted, kept, Body.resume, Body.identified, Body.answered, decoded, shown,
                Body.built]
    · simp [accepted, kept, Body.resume, Body.built]
  · simp [accepted, Body.resume, Body.built]

end Attempt

/-- What the key should hold: the last success, or what it held to begin with. -/
def lastSuccess (initial : Option String) (attempts : List Attempt) : Option String :=
  match (attempts.filter Attempt.succeeds).getLast? with
  | none => initial
  | some a => some a.saves

/-- The form after the attempts, one after the other. -/
def afterAttempts (initial : Option String) (attempts : List Attempt) : Form :=
  final body.step ⟨{ storage := initial }, []⟩ (attempts.flatMap Attempt.inputs)

theorem final_attempts (s : Body) (attempts : List Attempt) :
    (final body.step ⟨s, []⟩ (attempts.flatMap Attempt.inputs)).shared.storage =
      match attempts.getLast? with
      | none => s.storage
      | some a => some a.saves := by
  induction attempts generalizing s with
  | nil => rfl
  | cons a rest ih =>
      rw [List.flatMap_cons, final_append, Attempt.final_inputs, ih]
      cases rest with
      | nil => rfl
      | cons b more => simp [List.getLast?_cons]

/-- A success is what the key should hold from then on; a failure changes nothing. -/
theorem lastSuccess_append (initial : Option String) (front : List Attempt) (a : Attempt) :
    lastSuccess initial (front ++ [a]) =
      if a.succeeds then some a.saves else lastSuccess initial front := by
  unfold lastSuccess
  rw [List.filter_append]
  by_cases success : a.succeeds = true
  · simp [success]
  · simp [success]

/-- For every initial content and every sequence of presses with any texts and any
    outcomes: the key ends with the last successful login exactly if the last press
    succeeded, or its texts happen to be those the key should hold anyway. -/
theorem failedLogin_keeps_iff (initial : Option String) (attempts : List Attempt) :
    (afterAttempts initial attempts).shared.storage = lastSuccess initial attempts ↔
      ∀ a ∈ attempts.getLast?,
        a.succeeds = true ∨ lastSuccess initial attempts.dropLast = some a.saves := by
  rw [afterAttempts, final_attempts]
  rcases List.eq_nil_or_concat attempts with rfl | ⟨front, a, rfl⟩
  · simp [lastSuccess]
  · rw [List.concat_eq_append, lastSuccess_append]
    simp only [List.getLast?_concat, List.dropLast_concat, Option.mem_some, forall_eq']
    by_cases success : a.succeeds = true
    · simp [success]
    · simp [success, eq_comm]

/-- A mistyped password replaces the saved login, and the next start uses it. -/
theorem mistypedPassword_saved :
    (afterAttempts (some "kim@edutopik.com pw")
        [⟨"kim@edutopik.com", "pq", "device-a",
          .answered 200 (some (.object [("IsLogin", .string "false")]))⟩]).shared.storage =
      some "kim@edutopik.com pq" ∧
    lastSuccess (some "kim@edutopik.com pw")
        [⟨"kim@edutopik.com", "pq", "device-a",
          .answered 200 (some (.object [("IsLogin", .string "false")]))⟩] =
      some "kim@edutopik.com pw" := by
  decide

/-! ## Both logins at once -/

namespace LoginScreen

/-- The automatic login was told so, and is still to read the storage again. -/
def loggingOut (s : LoginScreen) : Bool :=
  match s.auto with
  | .rereading _ _ res => saysUnregistered res
  | _ => false

/-- A delete removes nothing but the value its reply was about, and a device that is
    not registered is not let in. -/
structure KeepsSaved (f : Fired LoginScreen ScreenInput Effect) : Prop where
  deletes : ∀ value, Effect.deletes (some value) ∈ f.effects → f.before.deleting = some value
  stays : f.before.loggingOut = true → ∀ r, f.input = .auto r → ∀ screen, .opens screen ∉ f.effects

/-- A device that is not registered is told so with a status the app accepts and with
    the saved value as it was first read; until the delete has taken effect nothing but
    that value is written, from then until the second read nothing at all, and the
    second read comes after the delete. -/
def Exclusive (s : LoginScreen) : ScreenInput → Prop
  | .form (.resume k .done) => ∀ value, s.form.tasks[k]? = some (.saving value) →
      (s.deleting = none ∨ s.deleting = some value) ∧ (s.loggingOut = true → s.deleting ≠ none)
  | .auto (.replied reply) => ∀ userInfo request statusCode res,
      s.auto = .posting userInfo request → reply.decode = some (statusCode, res) →
        saysUnregistered res = true → statusAccepted statusCode = true ∧ s.storage = some userInfo
  | .auto .done => s.loggingOut = true → s.deleting = none
  | _ => True

/-- Before its reply the automatic login has deleted nothing, and what it read is there. -/
def Early (s : LoginScreen) : Prop :=
  match s.auto with
  | .reading => s.deleting = none
  | .identifying _ _ _ | .posting _ _ => s.deleting = none ∧ s.storage ≠ none
  | .rereading _ _ _ | .finished => True

structure Sound (s : LoginScreen) : Prop where
  early : s.Early
  pending : s.deleting = none ∨ s.storage = s.deleting
  cleared : s.loggingOut = true → s.deleting = none → s.storage = none

variable {s : LoginScreen}

@[simp] theorem finish_loggingOut (s : LoginScreen) : s.finish.loggingOut = false := rfl

theorem Sound.finish (sound : s.Sound) : s.finish.Sound where
  early := trivial
  pending := sound.pending
  cleared := fun out => absurd out (by simp)

/-- Before the reply, all that matters of the storage is that something is there. -/
theorem Early.of_held {t : LoginScreen} (early : s.Early) (sameAuto : t.auto = s.auto)
    (sameDeleting : t.deleting = s.deleting) (held : s.storage ≠ none → t.storage ≠ none) :
    t.Early := by
  unfold Early at early ⊢
  rw [sameAuto, sameDeleting]
  cases phase : s.auto with
  | reading =>
      simp only [phase] at early
      exact early
  | identifying userInfo userEmail userPassword =>
      simp only [phase] at early
      exact ⟨early.1, held early.2⟩
  | posting userInfo request =>
      simp only [phase] at early
      exact ⟨early.1, held early.2⟩
  | _ => trivial

/-- A form that keeps the storage keeps everything here; so does a write of `value`
    that no pending delete and no pending second read objects to. -/
theorem sound_form (sound : s.Sound) (i : FormInput) (exclusive : s.Exclusive (.form i)) :
    Sound { s with form := (body.step s.form i).1 } := by
  rcases storage_cases s.form i with same | ⟨k, value, rfl, located, written⟩
  · constructor
    · apply Early.of_held sound.early
      · rfl
      · rfl
      · simp only [storage, same]
        exact id
    · simp only [storage, same]
      exact sound.pending
    · simp only [storage, same]
      exact sound.cleared
  · obtain ⟨own, notCleared⟩ := exclusive value located
    constructor
    · apply Early.of_held sound.early
      · rfl
      · rfl
      · simp [storage, written]
    · simp only [storage, written]
      exact own.imp id Eq.symm
    · intro out none
      exact absurd none (notCleared out)

theorem sound_deletes (sound : s.Sound) : (step s .deletes).1.Sound := by
  simp only [step]
  split
  · exact sound
  · rename_i value pending
    constructor
    · have early := sound.early
      unfold Early at early ⊢
      cases phase : s.auto <;> simp [phase, pending, store] at early ⊢
    · exact .inl rfl
    · intro _ _
      rfl

theorem sound_auto (sound : s.Sound) (r : Result) (exclusive : s.Exclusive (.auto r)) :
    (s.resume r).1.Sound := by
  have early := sound.early
  generalize taken : s.resume r = next
  have turn : AutoTurn s r next := taken ▸ autoTurn_resume s r
  cases turn with
  | finish => exact sound.finish
  | opens _ _ => exact sound.finish
  | read phase there read =>
      simp only [Early, phase] at early
      have held : s.storage ≠ none := by
        rw [there]
        exact Option.some_ne_none _
      exact
        { early := ⟨early, held⟩
          pending := .inl early
          cleared := fun out => absurd out (by simp [loggingOut]) }
  | identified phase =>
      simp only [Early, phase] at early
      exact
        { early := early
          pending := sound.pending
          cleared := fun out => absurd out (by simp [loggingOut]) }
  | answered phase decoded =>
      rename_i userInfo request reply statusCode res
      simp only [Early, phase] at early
      have told := exclusive userInfo request statusCode res phase decoded
      refine ⟨trivial, ?_, ?_⟩
      · by_cases out : logsOut statusCode res = true
        · simp only [logsOut, Bool.and_eq_true] at out
          have held := (told out.2).2
          refine .inr ?_
          simp only [logsOut, out.1, out.2, Bool.and_self, if_true]
          exact held
        · simp [out, early.1]
      · intro unregistered none
        have accepted := (told unregistered).1
        simp only [loggingOut] at unregistered
        simp [logsOut, accepted, unregistered] at none

theorem sound_step (s : LoginScreen) (i : ScreenInput) (sound : s.Sound) (exclusive : s.Exclusive i) :
    (step s i).1.Sound := by
  cases i with
  | form i => exact sound_form sound i exclusive
  | auto r => exact sound_auto sound r exclusive
  | deletes => exact sound_deletes sound

theorem keepsSaved_of_exclusive (s : LoginScreen) (i : ScreenInput) (sound : s.Sound)
    (exclusive : s.Exclusive i) : KeepsSaved (fire step s i) := by
  cases i with
  | form i =>
      constructor
      · intro value deleted
        exact absurd deleted (not_deletes_of_form s.form i (some value))
      · intro _ r input
        cases input
  | auto r =>
      have turn := autoTurn_resume s r
      generalize taken : s.resume r = next at turn
      have effects : (fire step s (.auto r)).effects = next.2 := congrArg Prod.snd taken
      constructor
      · intro value deleted
        rw [effects] at deleted
        cases turn <;> simp at deleted
      · intro out r' _ screen opened
        rw [effects] at opened
        cases turn with
        | opens phase there =>
            rw [sound.cleared out (exclusive out)] at there
            cases there
        | _ => simp at opened
  | deletes =>
      constructor
      · intro value deleted
        simp only [fire_effects, fire_before, step] at deleted ⊢
        split at deleted
        · simp at deleted
        · rename_i about waiting
          have same : s.storage = some value := by simpa [eq_comm] using deleted
          rcases sound.pending with none | held
          · simp [none] at waiting
          · rw [← held, same]
      · intro _ r input
        cases input

/-! ### What comes of a violation -/

theorem deletes_idle (none : s.deleting = none) : step s .deletes = (s, []) := by
  simp only [step, none]

/-- A delete that finds another value than its own removes it. -/
theorem not_keepsSaved_deletes {about value : String} (waiting : s.deleting = some about)
    (held : s.storage = some value) (other : value ≠ about) :
    ¬ KeepsSaved (fire step s .deletes) := by
  intro keeps
  have removed : Effect.deletes (some value) ∈ (fire step s .deletes).effects := by
    simp [step, waiting, held]
  have own : s.deleting = some value := keeps.deletes value removed
  rw [waiting] at own
  exact other (Option.some.inj own).symm

/-- A second read that finds anything lets the device in. -/
theorem not_keepsSaved_rereads (out : s.loggingOut = true) (held : s.storage ≠ none) :
    ¬ KeepsSaved (fire step s (.auto .done)) := by
  intro keeps
  obtain ⟨value, there⟩ := Option.ne_none_iff_exists'.mp held
  cases phase : s.auto with
  | rereading request statusCode res =>
      apply keeps.stays out .done rfl (.home request.deviceId request.eMail)
      simp [step, resume, phase, there]
  | _ => simp [loggingOut, phase] at out

theorem exposes_deletes {i : ScreenInput} {about value : String}
    (waiting : (step s i).1.deleting = some about) (held : (step s i).1.storage = some value)
    (other : value ≠ about) :
    ∃ f ∈ run step s [i, .deletes, .auto .done], ¬ KeepsSaved f :=
  ⟨_, List.mem_cons_of_mem _ List.mem_cons_self, not_keepsSaved_deletes waiting held other⟩

theorem exposes_rereads {i : ScreenInput} (out : (step s i).1.loggingOut = true)
    (cleared : (step s i).1.deleting = none) (held : (step s i).1.storage ≠ none) :
    ∃ f ∈ run step s [i, .deletes, .auto .done], ¬ KeepsSaved f := by
  refine ⟨_, List.mem_cons_of_mem _ (List.mem_cons_of_mem _ List.mem_cons_self), ?_⟩
  rw [deletes_idle cleared]
  exact not_keepsSaved_rereads out held

/-- A write that some pending delete, or the second read, was not to find. -/
theorem exposes_write {k : Nat} {value : String}
    (located : s.form.tasks[k]? = some (.saving value))
    (clash : ¬ ((s.deleting = none ∨ s.deleting = some value) ∧
      (s.loggingOut = true → s.deleting ≠ none))) :
    ∃ f ∈ run step s [.form (.resume k .done), .deletes, .auto .done], ¬ KeepsSaved f := by
  have held : (step s (.form (.resume k .done))).1.storage = some value := storage_of_saving located
  rcases Classical.em (s.deleting = none) with cleared | waiting
  · have out : s.loggingOut = true := by
      by_contra notOut
      exact clash ⟨.inl cleared, fun out => absurd out notOut⟩
    apply exposes_rereads (i := .form (.resume k .done)) out cleared
    rw [held]
    exact Option.some_ne_none value
  · obtain ⟨about, waits⟩ := Option.ne_none_iff_exists'.mp waiting
    apply exposes_deletes (i := .form (.resume k .done)) waits held
    intro same
    exact clash ⟨.inr (same ▸ waits), fun _ => waiting⟩

/-- A device told that it is not registered, when its delete is not asked for or would
    find another value. -/
theorem exposes_reply (sound : s.Sound) {reply : Reply} {userInfo : String} {request : LoginRequest}
    {statusCode : Int} {res : JsonObject} (phase : s.auto = .posting userInfo request)
    (decoded : reply.decode = some (statusCode, res)) (unregistered : saysUnregistered res = true)
    (clash : ¬ (statusAccepted statusCode = true ∧ s.storage = some userInfo)) :
    ∃ f ∈ run step s [.auto (.replied reply), .deletes, .auto .done], ¬ KeepsSaved f := by
  have early := sound.early
  simp only [Early, phase] at early
  have after : (step s (.auto (.replied reply))).1 = { s with
      auto := .rereading request statusCode res
      deleting := if logsOut statusCode res then some userInfo else s.deleting } := by
    simp only [step, resume, phase, decoded]
  have held : (step s (.auto (.replied reply))).1.storage = s.storage := by
    rw [after]
    rfl
  by_cases accepted : statusAccepted statusCode = true
  · have waits : (step s (.auto (.replied reply))).1.deleting = some userInfo := by
      simp [after, logsOut, accepted, unregistered]
    obtain ⟨value, there⟩ := Option.ne_none_iff_exists'.mp early.2
    apply exposes_deletes waits (held.trans there)
    intro same
    exact clash ⟨accepted, same ▸ there⟩
  · have cleared : (step s (.auto (.replied reply))).1.deleting = none := by
      simp [after, logsOut, accepted, early.1]
    have out : (step s (.auto (.replied reply))).1.loggingOut = true := by
      rw [after]
      exact unregistered
    apply exposes_rereads out cleared
    rw [held]
    exact early.2

/-- A second read before the delete finds what is still to be deleted. -/
theorem exposes_early_read (sound : s.Sound) (out : s.loggingOut = true)
    (waiting : s.deleting ≠ none) :
    ∃ f ∈ run step s [.auto .done, .deletes, .auto .done], ¬ KeepsSaved f := by
  refine ⟨_, List.mem_cons_self, not_keepsSaved_rereads out ?_⟩
  cases sound.pending with
  | inl none => exact absurd none waiting
  | inr held =>
      rw [held]
      exact waiting

/-- Letting the delete take effect and then reading again brings any violation to light. -/
theorem exposes_shared (s : LoginScreen) (i : ScreenInput) (sound : s.Sound)
    (shared : ¬ s.Exclusive i) :
    ∃ f ∈ run step s [i, .deletes, .auto .done], ¬ KeepsSaved f := by
  unfold Exclusive at shared
  split at shared
  · simp only [Classical.not_forall] at shared
    obtain ⟨value, located, clash⟩ := shared
    exact exposes_write located clash
  · simp only [Classical.not_forall] at shared
    obtain ⟨userInfo, request, statusCode, res, phase, decoded, unregistered, clash⟩ := shared
    exact exposes_reply sound phase decoded unregistered clash
  · obtain ⟨out, waiting⟩ := Classical.not_imp.mp shared
    exact exposes_early_read sound out waiting
  · exact absurd trivial shared

/-- Beside any form, whatever is pressed and however all is interleaved: in every run,
    also if from any point on it only lets the delete take effect and then reads again,
    deletes and second reads keep to the value first read exactly if the two logins
    keep out of each other's way. -/
theorem savedLogin_kept_iff (form : Form) (is : List ScreenInput) :
    (∀ front, front <+: is →
        ∀ f ∈ run step { form := form } (front ++ [.deletes, .auto .done]), KeepsSaved f) ↔
      ∀ f ∈ run step { form := form } is, f.before.Exclusive f.input := by
  have start : Sound { form := form } :=
    { early := rfl
      pending := .inl rfl
      cleared := fun out => absurd out (by simp [loggingOut]) }
  have completion : ∀ s tail, Sound s → tail = [.deletes, .auto .done] →
      ∀ f ∈ run step s tail, f.before.Exclusive f.input := by
    intro s tail sound shape
    subst shape
    simp only [run_cons, run_nil, List.forall_mem_cons, fire_before, fire_input]
    refine ⟨trivial, fun _ => ?_, by simp⟩
    simp only [step]
    split
    · assumption
    · rfl
  have exact : GoodThroughout step (fun tail => tail = [.deletes, .auto .done]) KeepsSaved
      { form := form } is ↔ ∀ f ∈ run step { form := form } is, f.before.Exclusive f.input :=
    goodThroughout_iff_guarded sound_step keepsSaved_of_exclusive completion
      (fun s i sound shared => ⟨_, rfl, exposes_shared s i sound shared⟩) start is
  rw [← exact]
  simp only [GoodThroughout, forall_eq]

/-- Another account logs in by the button. -/
def pressOfOther : List ScreenInput :=
  [.form (.event (.editEmail "lee@edutopik.com")), .form (.event (.editPassword "pw2")),
    .form (.event .login), .form (.resume 0 .done)]

def unregistered : Reply := .answered 200 (some (.object [("IsRegister", .string "false")]))

/-- A press before the reply loses its login to the delete; a press after the delete
    opens the home page for the account that was to be logged out. -/
theorem overlap_loses_and_admits :
    Effect.deletes (some "lee@edutopik.com pw2") ∈
        output step (start (some "kim@edutopik.com pw"))
          ([.auto .done, .auto (.mobileId "device-a")] ++ pressOfOther ++
            [.auto (.replied unregistered), .deletes]) ∧
      Effect.opens (.home "device-a" "kim@edutopik.com") ∈
        output step (start (some "kim@edutopik.com pw"))
          ([.auto .done, .auto (.mobileId "device-a"), .auto (.replied unregistered), .deletes] ++
            pressOfOther ++ [.auto .done]) := by
  decide

end LoginScreen

end Edutopik.Login

import Edutopik.App.RouteStack
import Edutopik.Home.HomeTurns
import Edutopik.Library.Settling
import Edutopik.Login.FormTurns
import Edutopik.Media.LectureCount
import Edutopik.Otp.OtpTurns

/-! # The app comes to rest

A tap or a message of the site begins a call, and the call waits for one answer after
another: of the storage, the device, Firebase and the servers. No call begins another
one, but for the player that a list of lectures opens. So the app neither polls nor
retries: what it waits for is used up, and when all has been answered nothing happens
until the next tap.
-/

namespace Edutopik.App

open EventLoop Machine

/-! ## How many answers a call has due -/

/-- A press of LOGIN: the write, the device, the server and the first build. -/
def loginRank : Login.Task → Nat
  | .saving _ => 4
  | .identifying => 3
  | .posting _ => 2
  | .building _ => 1

def loginPrice : Login.Event → Nat
  | .login => 4
  | .editEmail _ | .editPassword _ => 0

/-- The automatic login: two reads, the device, the server, and a delete it may begin. -/
def autoRank : Login.AutoLogin → Nat
  | .reading => 5
  | .identifying _ _ _ => 4
  | .posting _ _ => 3
  | .rereading _ _ _ => 1
  | .finished => 0

/-- The dialog about two devices: what `select_device.asp` answers. -/
def Asking.rank : Asking → Nat
  | .selecting _ _ _ => 1
  | _ => 0

/-- A form's phone and code, and its confirmation: the sign-in, the device's name and the
    registration. -/
def otpRank : Otp.Task → Nat
  | .awaitingPhone _ => 2
  | .verifying _ _ => 1
  | .signingIn _ _ _ => 3
  | .naming _ _ _ => 2
  | .registering _ _ => 1

def otpPrice : Otp.Event → Nat
  | .opened _ | .resend _ => 2
  | .confirm _ _ => 3
  | .popped _ => 0

/-- The list of lectures, with the player it opens. -/
def homeRank : Home.Task → Nat
  | .awaitingList _ _ => 3

def homePrice : Home.Event → Nat
  | .message _ | .confirms => 3
  | .declines | .playerLeaves => 0

/-- The check of the log and the lookup after it. -/
def playerRank : Media.Task → Nat
  | .awaitingLog _ => 2
  | .awaitingTime _ => 1

def playerPrice : Media.Event → Nat
  | .previous | .next => 2
  | _ => 0

/-! ## Before the home page -/

theorem body_settles :
    Settles Login.body.step World.awaits (World.due loginRank) (fun _ => 0)
      (Input.cost loginPrice) := by
  apply Loop.settles
  · intro s e
    cases e <;> simp [Turn.due, Login.Body.react, Login.Body.login, loginRank, loginPrice]
  · intro s t r
    have turn := Login.Body.resumes s t r
    simp only [Login.body_resume]
    generalize s.resume t r = next at turn
    cases turn with
    | @saved value =>
        rcases Login.saved_tasks_cases s value with goesOn | ends
        · simp [Turn.due, goesOn, loginRank]
        · simp [Turn.due, ends, loginRank]
    | identified => simp [Turn.due, Login.Body.identified, loginRank]
    | shows => simp [Turn.due, loginRank]
    | built => simp [Turn.due, Login.Body.built, loginRank]
    | ends => cases t <;> simp [Turn.due, Login.Body.idle, loginRank]

/-- What the login screen has due: its presses, the automatic login and its delete. -/
def screenDue (s : Login.LoginScreen) : Nat :=
  s.form.due loginRank + autoRank s.auto + s.deleting.isSome.toNat

def screenAwaits (s : Login.LoginScreen) : Login.ScreenInput → Bool
  | .form i => s.form.awaits i
  | .auto _ => 0 < autoRank s.auto
  | .deletes => s.deleting.isSome

def screenPrice : Login.ScreenInput → Nat
  | .form i => i.cost loginPrice
  | .auto _ | .deletes => 0

theorem auto_settles {s : Login.LoginScreen} {r : Login.Result}
    {next : Login.LoginScreen × List Login.Effect} (turn : Login.AutoTurn s r next) :
    next.1.form = s.form ∧
      (decide (0 < autoRank s.auto)).toNat + autoRank next.1.auto + next.1.deleting.isSome.toNat ≤
        autoRank s.auto + s.deleting.isSome.toNat := by
  cases turn with
  | finish =>
      have one : ∀ n : Nat, (decide (0 < n)).toNat ≤ n := by
        intro n
        cases n <;> simp
      exact ⟨rfl, Nat.add_le_add_right (one (autoRank s.auto)) _⟩
  | @answered userInfo request reply statusCode res phase decoded =>
      refine ⟨rfl, ?_⟩
      have one := Bool.toNat_le
        (if Login.logsOut statusCode res then some userInfo else s.deleting).isSome
      simp only [phase, autoRank, Nat.zero_lt_succ, decide_true, Bool.toNat_true]
      omega
  | opens phase => simp [phase, Login.LoginScreen.finish, autoRank]
  | read phase => simp [phase, autoRank]
  | identified phase => simp [phase, autoRank]

theorem screen_settles :
    Settles Login.LoginScreen.step screenAwaits screenDue (fun _ => 0) screenPrice := by
  intro s i
  cases i with
  | form i =>
      have form := body_settles s.form i
      simp only [Login.LoginScreen.step, screenAwaits, screenDue, screenPrice]
      omega
  | auto r =>
      obtain ⟨form, settled⟩ := auto_settles (Login.autoTurn_resume s r)
      simp only [Login.LoginScreen.step, screenAwaits, screenDue, screenPrice, form]
      simp only [List.map_const', List.sum_replicate_nat]
      omega
  | deletes =>
      simp only [Login.LoginScreen.step, screenAwaits, screenPrice]
      cases deleting : s.deleting with
      | none => simp [screenDue, deleting]
      | some value =>
          have same : (s.store none).form.due loginRank = s.form.due loginRank := rfl
          simp only [screenDue, same, deleting]
          simp [Login.LoginScreen.store]
          omega

theorem otp_settles :
    Settles Otp.otp.step World.awaits (World.due otpRank) (fun _ => 0) (Input.cost otpPrice) := by
  apply Loop.settles
  · intro s e
    simp only [Otp.otp_react]
    cases e with
    | opened form => simp [Turn.due, Otp.State.react, Otp.State.openForm, otpRank, otpPrice]
    | resend place =>
        simp only [Otp.State.react]
        split <;> simp [Turn.due, Otp.State.idle, Otp.State.openForm, otpRank, otpPrice]
    | confirm place codes =>
        simp only [Otp.State.react]
        split <;> simp [Turn.due, Otp.State.idle, Otp.State.confirm, otpRank, otpPrice]
    | popped place => simp [Turn.due, Otp.State.react, otpPrice]
  · intro s t r
    have turn := Otp.resumes s t r
    simp only [Otp.otp_resume]
    generalize s.resume t r = next at turn
    cases turn with
    | ends same none => cases t <;> simp [Turn.due, none, otpRank]
    | _ => simp [Turn.due, Otp.State.named, otpRank]

/-- A dialog has its request due until that is answered. -/
def Asking.awaits : Asking → AskingInput → Bool
  | .selecting _ _ _, .replied _ _ => true
  | _, _ => false

def Asking.price : AskingInput → Nat
  | .ok => 2
  | _ => 0

/-- What a dialog's effect has due: the form it pushes asks for a phone. -/
def AskingEffect.due : AskingEffect → Nat
  | .selectDevice _ => 0
  | .pushes _ => 2

theorem asking_settles (asking : Asking) (i : AskingInput) :
    (asking.awaits i).toNat + (asking.step i).1.rank + ((asking.step i).2.map AskingEffect.due).getD 0 ≤
      asking.rank + Asking.price i := by
  cases asking with
  | overuse userId mobileId pass =>
      cases i <;> simp [Asking.step, Asking.rank, Asking.awaits, Asking.price, AskingEffect.due]
  | selecting userId mobileId pass =>
      cases i with
      | replied reply mounted =>
          simp only [Asking.step]
          split <;> simp [Asking.rank, Asking.awaits, Asking.price]
      | _ => simp [Asking.step, Asking.rank, Asking.awaits, Asking.price]
  | dialog dialog =>
      cases i with
      | ok =>
          simp only [Asking.step]
          cases dialog.ok <;> simp [Asking.rank, Asking.awaits, Asking.price, AskingEffect.due]
      | _ => simp [Asking.step, Asking.rank, Asking.awaits, Asking.price]
  | dismissed => cases i <;> simp [Asking.step, Asking.rank, Asking.awaits, Asking.price]

def entranceDue (s : Entrance) : Nat :=
  screenDue s.screen + (s.asking.map Asking.rank).sum + s.otp.due otpRank

def entranceAwaits (s : Entrance) : EntranceInput → Bool
  | .screen i => screenAwaits s.screen i
  | .asking k i => (s.asking[k]?).any (·.awaits i)
  | .otp i => s.otp.awaits i
  | _ => false

def entrancePrice : EntranceInput → Nat
  | .screen i => screenPrice i
  | .asking _ i => Asking.price i
  | .otp i => i.cost otpPrice
  | _ => 0

/-- A dialog as it is shown has nothing due yet. -/
theorem rank_of_shownBy {e : Login.Effect} {asking : Asking} (shown : asking ∈ Asking.shownBy e) :
    asking.rank = 0 := by
  cases e with
  | opens screen =>
      cases screen with
      | devOveruse userId mobileId pass => rw [List.mem_singleton.mp shown]; rfl
      | devNew userId mobileId pass uuid => rw [List.mem_singleton.mp shown]; rfl
      | _ => cases shown
  | _ => cases shown

theorem takeOtp_settles (s : Entrance) (i : Otp.AppInput) :
    (s.otp.awaits i).toNat + entranceDue (s.takeOtp i).1 ≤ entranceDue s + i.cost otpPrice := by
  have settled := otp_settles s.otp i
  simp only [entranceDue, Entrance.takeOtp]
  omega

theorem takeScreen_settles (s : Entrance) (i : Login.ScreenInput) :
    (screenAwaits s.screen i).toNat + entranceDue (s.takeScreen i).1 ≤
      entranceDue s + screenPrice i := by
  have settled := screen_settles s.screen i
  have fresh : ((((s.screen.step i).2.flatMap Asking.shownBy)).map Asking.rank).sum = 0 := by
    apply List.sum_eq_zero
    intro n member
    obtain ⟨asking, shown, rfl⟩ := List.mem_map.mp member
    obtain ⟨e, -, own⟩ := List.mem_flatMap.mp shown
    exact rank_of_shownBy own
  simp only [entranceDue, Entrance.takeScreen, List.map_append, List.sum_append, fresh]
  omega

theorem take_settles (s : Entrance) (e : Option AskingEffect) :
    entranceDue (s.take e).1 ≤ entranceDue s + (e.map AskingEffect.due).getD 0 := by
  cases e with
  | none => exact Nat.le_refl _
  | some e =>
      cases e with
      | selectDevice eMail => exact Nat.le_refl _
      | pushes form =>
          have opened := takeOtp_settles s (.event (.opened form))
          simp only [Input.cost, otpPrice] at opened
          exact Nat.le_trans (Nat.le_add_left _ _) opened

theorem entrance_settles (s : Entrance) (i : EntranceInput) :
    (entranceAwaits s i).toNat + entranceDue (s.step i).1 ≤ entranceDue s + entrancePrice i := by
  cases i with
  | screen i => exact takeScreen_settles s i
  | asking k i =>
      simp only [Entrance.step, entranceAwaits, entrancePrice]
      cases located : s.asking[k]? with
      | none => simp
      | some asking =>
          have turn := asking_settles asking i
          have sum := Colony.sum_set located Asking.rank (asking.step i).1
          have taken := take_settles { s with asking := s.asking.set k (asking.step i).1 } (asking.step i).2
          simp only [entranceDue, Option.any_some] at taken ⊢
          omega
  | otp i =>
      cases i with
      | event e =>
          cases e with
          | opened form => simp [Entrance.step, entranceAwaits, World.awaits]
          | resend place => exact takeOtp_settles s (.event (.resend place))
          | confirm place codes => exact takeOtp_settles s (.event (.confirm place codes))
          | popped place => exact takeOtp_settles s (.event (.popped place))
      | resume k r => exact takeOtp_settles s (.resume k r)
  | alreadyHaveAnAccountCheck => simp [Entrance.step, entranceAwaits]
  | noticeOk => simp [Entrance.step, entranceAwaits]
  | webViewLeft => simp [Entrance.step, entranceAwaits]

/-! ## The home page and the player -/

theorem skipPressed_due (s : Media.State) (count : Int)
    (skip : Media.DataManager → Media.DataManager × Media.Skip) :
    ((s.skipPressed count skip).tasks.map playerRank).sum ≤ 2 := by
  unfold Media.State.skipPressed
  dsimp only
  split <;> simp [Media.State.initPlayer, playerRank]

theorem player_settles :
    Settles Media.mediaControl.step World.awaits (World.due playerRank) (fun _ => 0)
      (Input.cost playerPrice) := by
  apply Loop.settles
  · intro s e
    simp only [Media.mediaControl, Turn.due_weightless]
    cases e with
    | previous | next =>
        simp only [Media.State.react, playerPrice]
        split
        · exact skipPressed_due s _ _
        · simp [Media.State.idle]
    | videoEnd =>
        simp only [Media.State.react, Media.State.onVideoEnd]
        split
        · split <;> simp
        · simp [Media.State.idle]
    | confirmAlert =>
        simp only [Media.State.react]
        split <;> simp [Media.State.idle]
    | speedDown | speedUp | back =>
        simp only [Media.State.react]
        split <;> simp [Media.State.idle, Media.State.speedDownTapped, Media.State.speedUpTapped,
          Media.State.setSpeed, Media.State.backTapped]
    | _ => simp [Media.State.react]
  · intro s t r
    have turn := Media.resumed s t r
    simp only [Media.mediaControl, Turn.due_weightless]
    generalize s.resume t r = next at turn
    cases turn with
    | unread => cases t <;> simp [Media.State.idle, playerRank]
    | asks => simp [playerRank]
    | _ => simp [Media.State.idle, playerRank]

/-- A player is opened with a check of its log pending. -/
theorem due_of_initState {urls titles : List String} {playTime : Media.PlayTime} {w : Media.Player}
    (opened : Media.Player.initState urls titles playTime = some w) : w.due playerRank = 2 := by
  obtain ⟨url, rfl⟩ := Media.initState_opens opened
  rfl

/-- What a list that has come has due: the player it opens, if its build does not raise. -/
def homeWeight : Home.Effect → Nat
  | .push urls titles playTime =>
      ((Media.Player.initState urls titles playTime).map (World.due playerRank)).getD 0
  | _ => 0

theorem homeWeight_le (e : Home.Effect) : homeWeight e ≤ 2 := by
  cases e with
  | push urls titles playTime =>
      simp only [homeWeight]
      cases opened : Media.Player.initState urls titles playTime with
      | none => simp
      | some w => simp [due_of_initState opened]
  | _ => simp [homeWeight]

theorem home_settles :
    Settles Home.homeScreen.step World.awaits (World.due homeRank) homeWeight
      (Input.cost homePrice) := by
  apply Loop.settles
  · intro home e
    simp only [Home.homeScreen]
    cases e with
    | message text =>
        simp only [Home.HomeScreen.react]
        split
        · simp [Turn.due, Home.HomeScreen.idle]
        · rename_i reached accepted
          cases reached with
          | startPlayer preUrl listUrl playTime =>
              simp [Turn.due, Home.HomeScreen.reach, Home.HomeScreen.startPlayer, homeRank, homeWeight,
                homePrice]
          | asyncConfirmDialog preUrl listUrl playTime =>
              simp [Turn.due, Home.HomeScreen.reach, Home.HomeScreen.asyncConfirmDialog, homeWeight]
    | declines =>
        simp only [Home.HomeScreen.react]
        split <;> simp [Turn.due, Home.HomeScreen.idle, homeWeight]
    | confirms =>
        simp only [Home.HomeScreen.react]
        split
        · simp [Turn.due, Home.HomeScreen.startPlayer, homeRank, homeWeight, homePrice]
        · simp [Turn.due, Home.HomeScreen.idle]
    | playerLeaves =>
        simp only [Home.HomeScreen.react]
        split <;> simp [Turn.due, Home.HomeScreen.idle]
  · intro home t reply
    obtain ⟨preUrl, playTime⟩ := t
    simp only [Home.homeScreen, Home.HomeScreen.resume]
    split
    · simp [Turn.due, Home.HomeScreen.idle, homeRank]
    · rename_i res answer
      simp only [Home.HomeScreen.listAnswered]
      split
      · simp [Turn.due, Home.HomeScreen.idle, homeRank]
      · rename_i urls titles made
        have player := homeWeight_le (.push urls titles playTime)
        simp only [Turn.due, List.map_nil, List.sum_nil, List.map_cons, List.sum_cons, homeRank]
        omega

/-! ## The app -/

def partDue : Part → Nat
  | .entrance s => entranceDue s
  | .home w => w.due homeRank
  | .player w => w.due playerRank

def partAwaits : Part → PartInput → Bool
  | .entrance s, .entrance i => entranceAwaits s i
  | .home w, .home i => w.awaits i
  | .player w, .player i => w.awaits i
  | _, _ => false

def PartInput.price : PartInput → Nat
  | .entrance i => entrancePrice i
  | .home i => i.cost homePrice
  | .player i => i.cost playerPrice
  | .systemBack => 0

/-- What is due in the screens that a step starts. -/
def startedDue (effects : List PartEffect) : Nat :=
  ((effects.flatMap Part.starts).map fun begun => partDue begun.1).sum

/-- A home page is opened with nothing pending. -/
theorem due_of_entrance (effects : List EntranceEffect) :
    startedDue (effects.map .entrance) = 0 := by
  apply List.sum_eq_zero
  intro n member
  obtain ⟨⟨part, out⟩, begun, rfl⟩ := List.mem_map.mp member
  obtain ⟨e, out, begins⟩ := List.mem_flatMap.mp begun
  obtain ⟨own, -, rfl⟩ := List.mem_map.mp out
  cases Part.begins begins with
  | home opens => rfl

theorem due_of_home (effects : List Home.Effect) :
    startedDue (effects.map .home) = (effects.map homeWeight).sum := by
  induction effects with
  | nil => rfl
  | cons e rest ih =>
      have here : startedDue [.home e] = homeWeight e := by
        cases e with
        | push urls titles playTime =>
            simp only [startedDue, Part.starts, homeWeight, Media.Player.initState,
              List.flatMap_singleton]
            cases Media.Player.firstBuild urls titles playTime <;> simp [partDue]
        | _ => rfl
      have split : startedDue ((e :: rest).map .home) =
          startedDue [.home e] + startedDue (rest.map .home) := by
        simp [startedDue]
      rw [split, here, ih, List.map_cons, List.sum_cons]

theorem due_of_player (effects : List Media.Effect) : startedDue (effects.map .player) = 0 := by
  rw [startedDue, starts_none]
  rfl

theorem part_settles (k : Nat) (routes : List Route) (part : Part) (i : PartInput) :
    (partAwaits part i).toNat + partDue (part.step k routes i).1.2 +
        startedDue (part.step k routes i).2 ≤ partDue part + i.price := by
  cases part with
  | entrance s =>
      cases i with
      | entrance i =>
          have settled := entrance_settles s i
          simp only [Part.step, partAwaits, partDue, due_of_entrance, PartInput.price]
          omega
      | _ => simp [Part.step, partAwaits, startedDue]
  | home w =>
      cases i with
      | home i =>
          have settled := home_settles (Part.homeSees k routes w) i
          simp only [Part.step, partAwaits, partDue, due_of_home, PartInput.price]
          exact settled
      | _ => simp [Part.step, partAwaits, startedDue]
  | player w =>
      cases i with
      | player i =>
          have settled := player_settles (Part.playerSees k routes w) i
          simp only [Part.step, partAwaits, partDue, due_of_player, PartInput.price]
          exact Nat.le_trans (Nat.add_le_add_left (by simp) _) settled
      | _ => simp [Part.step, partAwaits, startedDue]

theorem app_settles :
    Settles app.step (Colony.State.awaits partAwaits) (Colony.State.due partDue) (fun _ => 0)
      (fun i => i.2.price) :=
  Colony.settles part_settles

/-- However the app runs, the answers it has taken and those it has due are not more than
    the five of the automatic login and those of each tap and message it was given. -/
theorem answers_le (storage : Option String) (is : List AppInput) :
    (run app.step (opened storage) is).countP (fun f => f.before.awaits partAwaits f.input) +
        (final app.step (opened storage) is).due partDue ≤
      5 + (is.map fun i => i.2.price).sum :=
  app_settles.run (opened storage) is

/-- The automatic login may take all five: it finds the device unregistered, and deletes. -/
def loggedOut : List AppInput :=
  [(0, .entrance (.screen (.auto .done))),
    (0, .entrance (.screen (.auto (.mobileId "device-a")))),
    (0, .entrance (.screen (.auto (.replied (.answered 200
      (some (.object [("IsRegister", .string "false")]))))))),
    (0, .entrance (.screen .deletes)),
    (0, .entrance (.screen (.auto .done)))]

example : (run app.step (opened (some "kim 1234")) loggedOut).countP
    (fun f => f.before.awaits partAwaits f.input) = 5 := by
  rfl

end Edutopik.App

import Edutopik.App.RouteStack
import Edutopik.Home.HomeTurns
import Edutopik.Media.LectureCount
import Edutopik.Media.RouteStack

/-! # A player of the app is a player by itself

What is known of a player was shown of a player that has the route stack for itself. In
the app the stack is shared: a second home page, its dialog or another player may lie
above it or pop its route. As long as no other screen changes the stack while a route
of the player is on it, there is no difference.
-/

namespace Edutopik.App

open EventLoop Machine

/-! ## A player, and the same player by itself -/

/-- The player by itself, given what the app's screens are given: its own inputs, and the
    back button of the system. -/
def alone : Step Media.Player PartInput PartEffect
  | w, .player i => ((Media.mediaControl.step w i).1, (Media.mediaControl.step w i).2.map PartEffect.player)
  | w, .systemBack => (⟨w.shared.routed (Media.goBack w.shared.navigator), w.tasks⟩, [])
  | w, _ => (w, [])

/-- The screen at `k` is a player, with the stack as it sees it now like one by itself. -/
def Follows (s : AppState) (k : Nat) (v : Media.Player) : Prop :=
  ∃ w, s.members[k]? = some (.player w) ∧ Media.AlikePlayer (Part.playerSees k s.shared w) v

/-- A player's own effects do to its view of the stack what they do to the stack. -/
theorem seen_playerRoutes (k : Nat) (routes : List Route) (effects : List Media.Effect) :
    (effects.foldl (Part.playerRoutes k) routes).map (Route.seenByPlayer k) =
      effects.foldl Media.Effect.onStack (routes.map (Route.seenByPlayer k)) := by
  induction effects generalizing routes with
  | nil => rfl
  | cons e rest ih =>
      have here : (Part.playerRoutes k routes e).map (Route.seenByPlayer k) =
          e.onStack (routes.map (Route.seenByPlayer k)) := by
        cases e with
        | pop => exact List.map_tail
        | showDialog text => simp [Part.playerRoutes, Media.Effect.onStack, Route.seenByPlayer]
        | _ => rfl
      rw [List.foldl_cons, ih, here, List.foldl_cons]

/-- The back button does to the player's view of the stack what it does to the stack. -/
theorem seen_goBack (k : Nat) (w : Media.Player) (routes : List Route) :
    ((Part.player w).goBack k routes).map (Route.seenByPlayer k) =
      Media.goBack (routes.map (Route.seenByPlayer k)) := by
  cases routes with
  | nil => rfl
  | cons top below =>
      by_cases seen : top.seenByPlayer k = .home
      · simp [Part.goBack, Part.owns, seen, Media.goBack]
      · have gone : Media.goBack (top.seenByPlayer k :: below.map (Route.seenByPlayer k)) =
            below.map (Route.seenByPlayer k) := by
          unfold Media.goBack
          split
          · rename_i home
            exact absurd (List.cons.inj home).1 seen
          · rfl
        rw [List.map_cons, gone]
        simp [Part.goBack, Part.owns, seen]

/-- Its own inputs take the player where they take it by itself. -/
theorem follows_own {s : AppState} {k : Nat} {v : Media.Player} (i : PartInput)
    (follows : Follows s k v) :
    Follows (app.step s (k, i)).1 k (alone v i).1 ∧
      Colony.inputsOf k (app.step s (k, i)).2 = (alone v i).2 := by
  obtain ⟨w, located, alike⟩ := follows
  rw [Colony.outputOf_step_same located]
  cases i with
  | player i =>
      obtain ⟨moved, effects⟩ := Media.alike_step alike i
      refine ⟨⟨_, Colony.step_get_same located (PartInput.player i), ?_⟩, congrArg (List.map _) effects⟩
      rw [Colony.step_shared located (starts_none _)]
      refine ⟨moved.shared, moved.tasks, ?_⟩
      have view := moved.navigator
      rw [Media.navigator_step] at view
      have seen := seen_playerRoutes k s.shared
        (Media.mediaControl.step (Part.playerSees k s.shared w) i).2
      exact (congrArg (Media.SameAbove · _) seen).mpr view
  | systemBack =>
      refine ⟨⟨w, Colony.step_get_same located _, alike.shared, alike.tasks, ?_⟩, rfl⟩
      rw [Colony.step_shared located rfl]
      have seen := seen_goBack k w s.shared
      exact (congrArg (Media.SameAbove · _) seen).mpr alike.navigator.goBack
  | _ => exact ⟨⟨w, Colony.step_get_same located _, by
      rw [Colony.step_shared located rfl]
      exact alike⟩, rfl⟩

/-- The player's routes are below no other's. -/
theorem seen_home {routes : List Route} {k : Nat} (gone : ∀ r ∈ routes, r.place? ≠ some k) :
    ∀ r ∈ routes.map (Route.seenByPlayer k), r = .home := by
  intro r seen
  obtain ⟨route, member, rfl⟩ := List.mem_map.mp seen
  have other := gone route member
  cases route with
  | player j route =>
      have apart : j ≠ k := fun same => other (congrArg some same)
      simp [Route.seenByPlayer, apart]
  | _ => rfl

/-- The steps of the others change nothing for the player, as long as they leave the
    stack alone while a route of its own is there. -/
theorem follows_others {s : AppState} {j k : Nat} {v : Media.Player} {i : PartInput} (other : j ≠ k)
    (undisturbed : (∃ r ∈ s.shared, r.place? = some k) → (app.step s (j, i)).1.shared = s.shared)
    (follows : Follows s k v) :
    Follows (app.step s (j, i)).1 k v ∧ Colony.inputsOf k (app.step s (j, i)).2 = [] := by
  obtain ⟨w, located, alike⟩ := follows
  obtain ⟨inside, -⟩ := List.getElem?_eq_some_iff.mp located
  refine ⟨⟨w, Colony.step_get_other located other i, ?_⟩, Colony.outputOf_step_other inside other i⟩
  by_cases there : ∃ r ∈ s.shared, r.place? = some k
  · rw [undisturbed there]
    exact alike
  · have gone : ∀ r ∈ s.shared, r.place? ≠ some k := fun r member own => there ⟨r, member, own⟩
    have still : ∀ r ∈ (app.step s (j, i)).1.shared, r.place? ≠ some k := by
      intro r member own
      rcases place_of_step member with before | ⟨k', own', high, -⟩
      · exact gone r before own
      · rw [own'] at own
        cases own
        rcases high with same | beyond
        · exact other same.symm
        · omega
    obtain ⟨n, below⟩ := alike.navigator.all_home (seen_home gone)
    refine ⟨alike.shared, alike.tasks, ?_⟩
    rw [below]
    exact .of_all_home _ (seen_home still) n

/-! ## A player joins -/

/-- A step of a home page that starts a player lets out nothing else. -/
theorem effects_of_push {w : Home.HomeWorld} {i : Home.HomeInput} {urls titles : List String}
    {playTime : Media.PlayTime}
    (out : Home.Effect.push urls titles playTime ∈ (Home.homeScreen.step w i).2) :
    (Home.homeScreen.step w i).2 = [.push urls titles playTime] := by
  have turn := Home.homeTurn w i
  generalize Home.homeScreen.step w i = next at turn out
  cases turn with
  | pushes located answer made =>
      rw [List.mem_singleton.mp out]
  | _ => simp at out

theorem follows_top {s : AppState} {k : Nat} {w : Media.Player} {routes : List Route}
    (located : s.members[k]? = some (.player w)) (fresh : w.shared.navigator = [.player, .home])
    (top : s.shared = .player k .player :: routes) (gone : ∀ r ∈ routes, r.place? ≠ some k) :
    Follows s k w := by
  refine ⟨w, located, rfl, rfl, ?_⟩
  have view : (Part.playerSees k s.shared w).shared.navigator =
      .player :: routes.map (Route.seenByPlayer k) := by
    simp [Part.playerSees, top, Route.seenByPlayer]
  rw [view, fresh]
  exact .above _ (.of_all_home _ (seen_home gone) 1)

/-- A step of a page that starts a player leaves the stack to it, and starts nothing else. -/
theorem begun_of_push {s : AppState} {j : Nat} {page : Home.HomeWorld} {i : Home.HomeInput}
    {urls titles : List String} {playTime : Media.PlayTime} {w : Media.Player}
    (out : Home.Effect.push urls titles playTime ∈
      (Home.homeScreen.step (Part.homeSees j s.shared page) i).2)
    (initial : Media.Player.initState urls titles playTime = some w) :
    app.begun j s (.home page) (.home i) =
        [(.player w, [.player (.getLastLog w.shared.playTime.logQuery)])] ∧
      (app.member j s.shared (.home page) (.home i)).1.1 = s.shared := by
  have only := effects_of_push out
  have letOut : (app.member j s.shared (.home page) (.home i)).2 =
      [.home (.push urls titles playTime)] := congrArg (List.map PartEffect.home) only
  constructor
  · rw [Colony.begun, letOut, List.flatMap_singleton]
    exact Part.starts_push initial
  · simp only [app, Part.step]
    rw [only]
    simp [Part.homeRoutes, initial]

/-- The step in which a player joins. -/
theorem follows_joined {s : AppState} {j k : Nat} {i : PartInput} {w : Media.Player}
    (placed : Placed s.members.length s.shared) (absent : s.members[k]? = none)
    (joined : (app.step s (j, i)).1.members[k]? = some (.player w)) :
    Follows (app.step s (j, i)).1 k w := by
  rcases Colony.get_of_step joined with
    ⟨-, old⟩ | ⟨part, there, ⟨rfl, -⟩ | ⟨-, e, out, opening, begun⟩⟩
  · rw [absent] at old
    cases old
  · rw [absent] at there
    cases there
  · cases Part.begins begun with
    | @player urls titles playTime w initial =>
        cases part with
        | home page =>
            cases i with
            | home i =>
                obtain ⟨e, out, same⟩ := List.mem_map.mp out
                cases same
                obtain ⟨starts, stack⟩ := begun_of_push out initial
                have place : k = s.members.length := by
                  obtain ⟨inside, -⟩ := List.getElem?_eq_some_iff.mp joined
                  rw [Colony.members_of_step there, starts] at inside
                  have beyond := List.getElem?_eq_none_iff.mp absent
                  simp only [List.length_append, List.length_set, List.length_map,
                    List.length_singleton] at inside
                  omega
                subst place
                apply follows_top joined (Media.initState_route initial).1
                · rw [Colony.step_member there, starts]
                  simp [Colony.join, Colony.add, Colony.moved, stack]
                  rfl
                · intro r member own
                  exact Nat.lt_irrefl _ (placed r member _ own)
            | _ => cases out
        | _ => cases i <;> simp [app, Part.step] at out

/-! ## Runs -/

def PartInput.player? : PartInput → Option Media.PlayerInput
  | .player i => some i
  | _ => none

/-- What the player at `k` is given in a run of the app. -/
def playerInputs (k : Nat) (is : List AppInput) : List Media.PlayerInput :=
  (Colony.inputsOf k is).filterMap PartInput.player?

/-- Without the back button the player by itself is `mediaControl`. -/
theorem final_alone (w : Media.Player) {is : List PartInput} (notBack : .systemBack ∉ is) :
    final alone w is = final Media.mediaControl.step w (is.filterMap PartInput.player?) ∧
      output alone w is =
        (output Media.mediaControl.step w (is.filterMap PartInput.player?)).map PartEffect.player := by
  induction is generalizing w with
  | nil => exact ⟨rfl, rfl⟩
  | cons i rest ih =>
      have later : .systemBack ∉ rest := fun back => notBack (List.mem_cons_of_mem i back)
      cases i with
      | player i =>
          obtain ⟨last, out⟩ := ih (Media.mediaControl.step w i).1 later
          refine ⟨last, ?_⟩
          rw [output_cons, List.filterMap_cons_some (rfl : PartInput.player? (.player i) = some i),
            output_cons, List.map_append, ← out]
          rfl
      | systemBack => exact absurd List.mem_cons_self notBack
      | _ => exact ih w later

/-- No other screen changes the stack while a route of the one at `k` is on it. -/
def Undisturbed (k : Nat) (s : AppState) (input : AppInput) : Prop :=
  input.1 ≠ k → (∃ r ∈ s.shared, r.place? = some k) → (app.step s input).1.shared = s.shared

/-- From the step on in which it joins, and as long as it is not disturbed, a player of
    the app is where its own inputs take the same player by itself, and lets out the
    same. As long as the back button of the system is not used over it, that is where
    its inputs take `mediaControl`. -/
theorem player_as_alone {storage : Option String} {front back : List AppInput} {joins : AppInput}
    {k : Nat} {w : Media.Player}
    (absent : (final app.step (opened storage) front).members[k]? = none)
    (joined : (final app.step (opened storage) (front ++ [joins])).members[k]? = some (.player w))
    (undisturbed : ∀ f ∈ run app.step (final app.step (opened storage) (front ++ [joins])) back,
      Undisturbed k f.before f.input) :
    (Follows (final app.step (opened storage) (front ++ joins :: back)) k
        (final alone w (Colony.inputsOf k back)) ∧
      Colony.inputsOf k (output app.step (final app.step (opened storage) (front ++ [joins])) back) =
        output alone w (Colony.inputsOf k back)) ∧
    (.systemBack ∉ Colony.inputsOf k back →
      Follows (final app.step (opened storage) (front ++ joins :: back)) k
          (final Media.mediaControl.step w (playerInputs k back)) ∧
        Colony.inputsOf k (output app.step (final app.step (opened storage) (front ++ [joins])) back) =
          (output Media.mediaControl.step w (playerInputs k back)).map .player) := by
  obtain ⟨j, i⟩ := joins
  have start : Follows (final app.step (opened storage) (front ++ [(j, i)])) k w := by
    rw [final_append] at joined ⊢
    exact follows_joined (placed storage front) absent joined
  have own : ∀ (s : AppState) i v, Follows s k v → Undisturbed k s (k, i) →
      Follows (app.step s (k, i)).1 k (alone v i).1 ∧
        Colony.inputsOf k (app.step s (k, i)).2 = (alone v i).2 :=
    fun s i v follows _ => follows_own i follows
  have others : ∀ (s : AppState) j i v, j ≠ k → Follows s k v → Undisturbed k s (j, i) →
      Follows (app.step s (j, i)).1 k v ∧ Colony.inputsOf k (app.step s (j, i)).2 = [] :=
    fun s j i v other follows calm => follows_others other (calm other) follows
  have whole : front ++ (j, i) :: back = (front ++ [(j, i)]) ++ back := by simp
  rw [whole, final_append]
  have followed := Colony.follows_of_guarded own others start undisturbed
  refine ⟨followed, ?_⟩
  intro notBack
  obtain ⟨last, out⟩ := final_alone w notBack
  rw [playerInputs, ← last, ← out]
  exact followed

/-! ## A run -/

/-- The saved login opens a home page, which is told to open a player. -/
def sampleAsked : List AppInput :=
  [(0, .entrance (.screen (.auto .done))),
    (0, .entrance (.screen (.auto (.mobileId "device-a")))),
    (0, .entrance (.screen (.auto (.replied (.answered 200 (some (.object []))))))),
    (0, .entrance (.screen (.auto .done))),
    (1, .home (.event (.message "media&kim&play&O1&S1&K&1&40&v&list&get&send&log")))]

/-- The list of lectures comes. -/
def sampleJoins : AppInput :=
  (1, .home (.resume 0 (.answered 200 (some (.object
    [("data", .array [.string "1.mp4"]), ("title", .array [.string "1강"])])))))

/-- The page is told to open another while the first is watched and left. -/
def sampleWatched : List AppInput :=
  [(2, .player (.event .speedUp)),
    (1, .home (.event (.message "media&kim&play&O1&S1&K&1&40&v&list&get&send&log"))),
    (2, .player (.event .back))]

def samplePlayer : Media.Player :=
  let playTime : Media.PlayTime :=
    { getTimeUrl := "get", sendUrl := "send", uid := "kim", ocode := "O1", scode := "S1",
      lmNum := 1, lmTime := "40", uuid := "device-a", checkLogUrl := "log" }
  { shared :=
      { playTime
        dataManager := { urls := ["v/1.mp4"], titles := ["1강"], currentPlaying := 0 }
        flickManager := { current := { url := "v/1.mp4", index := 0 } }
        navigator := [.player, .home] }
    tasks := [.awaitingLog "device-a"] }

theorem player_as_alone_sample :
    Follows (final app.step (opened (some "kim 1234")) (sampleAsked ++ sampleJoins :: sampleWatched)) 2
        (final Media.mediaControl.step samplePlayer (playerInputs 2 sampleWatched)) ∧
      Colony.inputsOf 2 (output app.step
          (final app.step (opened (some "kim 1234")) (sampleAsked ++ [sampleJoins])) sampleWatched) =
        (output Media.mediaControl.step samplePlayer (playerInputs 2 sampleWatched)).map .player := by
  have undisturbed : ∀ f ∈ run app.step
      (final app.step (opened (some "kim 1234")) (sampleAsked ++ [sampleJoins])) sampleWatched,
      Undisturbed 2 f.before f.input := by
    intro f member
    simp only [sampleWatched, run_cons, run_nil, List.mem_cons, List.not_mem_nil, or_false] at member
    rcases member with rfl | rfl | rfl
    · exact fun other => absurd rfl other
    · exact fun _ _ => rfl
    · exact fun other => absurd rfl other
  have notBack : PartInput.systemBack ∉ Colony.inputsOf 2 sampleWatched := by
    simp [sampleWatched, Colony.inputsOf]
  exact (player_as_alone rfl rfl undisturbed).2 notBack

end Edutopik.App

import Edutopik.App.Entrance
import Edutopik.Home.HomeScreen
import Edutopik.Library.Colony
import Edutopik.Media.MediaControl

/-! # The app as a whole

The app is a colony. It starts as the login screen; a login or a confirmed form starts a
home page, and a message of the site, once its list of lectures is there, starts a
player. Several of each may be there at a time, and they take their steps in any order.

What they share is the route stack. A home page and a player look at its top before
they act on a tap, and a pop takes away whatever route is there. Of the screens before
the home page the login screen is at the bottom; its dialogs and the forms may come to
lie above a home page or a player, since a login goes on while another is answered.

The back button of the system takes the topmost route away without a word to its
screen. A page whose route is gone may here still be sent messages and be given its
list; the app's own runs are those in which it is not.
-/

namespace Edutopik.App

open EventLoop Machine

/-- A route, with the place of the screen that pushed it. -/
inductive Route where
  | login
  | entrance (k : Nat) (route : EntranceRoute)
  | home (k : Nat) (route : Home.Route)
  | player (k : Nat) (route : Media.Route)

def Route.place? : Route → Option Nat
  | .login => none
  | .entrance k _ | .home k _ | .player k _ => some k

/-- A route as the home page at `k` sees it: what is not its own is some other screen. -/
def Route.seenByHome (k : Nat) : Route → Home.Route
  | .home j route => if j = k then route else .home
  | _ => .home

/-- A route as the player at `k` sees it. -/
def Route.seenByPlayer (k : Nat) : Route → Media.Route
  | .player j route => if j = k then route else .home
  | _ => .home

inductive Part where
  | entrance (s : Entrance)
  | home (w : Home.HomeWorld)
  | player (w : Media.Player)

inductive PartInput where
  | entrance (i : EntranceInput)
  | home (i : Home.HomeInput)
  | player (i : Media.PlayerInput)
  /-- The back button of the system, over a route of a home page or of a player. What
      takes away a dialog or a form before the home page is an input of theirs. -/
  | systemBack

def PartInput.entrance? : PartInput → Option EntranceInput
  | .entrance i => some i
  | _ => none

inductive PartEffect where
  | entrance (e : EntranceEffect)
  | home (e : Home.Effect)
  | player (e : Media.Effect)
  /-- The web view of a home page loads its first page. -/
  | loads (url : String)

namespace Part

/-- A dialog or a form is left with its route on top, unless another's pop was first. -/
def leave (k : Nat) (left : EntranceRoute) : List Route → List Route
  | .entrance j route :: routes =>
      if j = k ∧ route = left then routes else .entrance j route :: routes
  | routes => routes

/-- What a step of the screens at `k` before the home page does to the route stack. -/
def entranceRoutes (k : Nat) (s : Entrance) (i : EntranceInput) (routes : List Route) :
    List Route :=
  let rest := match s.pops i with
    | none => routes
    | some left => leave k left routes
  (s.pushes i).map (.entrance k) ++ rest

/-- What an effect of the home page at `k` does to the route stack; `top` is the route it
    has pushed, if any. A player pushes its own route when it joins, and a screen whose
    first build raises stays a route of the page. -/
def homeRoutes (k : Nat) (top : Option Home.Route) (routes : List Route) :
    Home.Effect → List Route
  | .get _ => routes
  | .pop => routes.tail
  | .showDialog => (top.map (Route.home k)).toList ++ routes
  | .push urls titles playTime =>
      if (Media.Player.initState urls titles playTime).isSome then routes
      else (top.map (Route.home k)).toList ++ routes

def playerRoutes (k : Nat) (routes : List Route) : Media.Effect → List Route
  | .pop => routes.tail
  | .showDialog text => .player k (.alert text) :: routes
  | _ => routes

def homeSees (k : Nat) (routes : List Route) (w : Home.HomeWorld) : Home.HomeWorld :=
  { w with shared.navigator := routes.map (Route.seenByHome k) }

def playerSees (k : Nat) (routes : List Route) (w : Media.Player) : Media.Player :=
  { w with shared.navigator := routes.map (Route.seenByPlayer k) }

/-- The routes that the back button takes from the screen at `k`. A dialog or a form
    before the home page is left by an input of its own. -/
def owns (k : Nat) : Part → Route → Bool
  | .home _, .home j _ => j == k
  | .player _, route => route.seenByPlayer k != .home
  | _, _ => false

def goBack (k : Nat) (part : Part) : List Route → List Route
  | [] => []
  | top :: below => if part.owns k top then below else top :: below

/-- A screen's step, with the route stack as it is. -/
def step (k : Nat) (routes : List Route) : Part → PartInput → (List Route × Part) × List PartEffect
  | .entrance s, .entrance i =>
      ((entranceRoutes k s i routes, .entrance (s.step i).1), (s.step i).2.map .entrance)
  | .home w, .home i =>
      let next := Home.homeScreen.step (homeSees k routes w) i
      ((next.2.foldl (homeRoutes k next.1.shared.navigator.head?) routes, .home next.1),
        next.2.map .home)
  | .player w, .player i =>
      let next := Media.mediaControl.step (playerSees k routes w) i
      ((next.2.foldl (playerRoutes k) routes, .player next.1), next.2.map .player)
  | part, .systemBack => ((goBack k part routes, part), [])
  | part, _ => ((routes, part), [])

/-- The home page that an effect before it opens, by its device and email. -/
def opensHome : EntranceEffect → Option (String × String)
  | .screen (.opens (.home uuid email)) => some (uuid, email)
  | .otp (.openHome uuid email) => some (uuid, email)
  | _ => none

/-- A home page loads its page as it joins, and a player begins by checking the viewing
    log. A player whose first build raises is not there. -/
def starts : PartEffect → List (Part × List PartEffect)
  | .entrance e =>
      match opensHome e with
      | none => []
      | some (uuid, email) =>
          let opened := Home.HomeScreen.opened email uuid
          [(.home opened, [.loads opened.shared.initialUrl])]
  | .home (.push urls titles playTime) =>
      match Media.Player.firstBuild urls titles playTime with
      | none => []
      | some turn => [(.player ⟨turn.shared, turn.tasks⟩, turn.effects.map .player)]
  | _ => []

/-- A screen that joins lies on top. -/
def joins (k : Nat) (part : Part) (routes : List Route) : List Route :=
  match part with
  | .entrance _ => routes
  | .home _ => .home k .home :: routes
  | .player _ => .player k .player :: routes

end Part

def app : Colony (List Route) Part PartInput PartEffect where
  member := Part.step
  starts := Part.starts
  joins := Part.joins

abbrev AppState := Colony.State (List Route) Part

abbrev AppInput := Nat × PartInput

abbrev AppEffect := Nat × PartEffect

abbrev AppFired := Fired AppState AppInput AppEffect

/-- The app as it starts, with what earlier runs of it left in the storage. -/
def opened (storage : Option String) : AppState :=
  { shared := [.login], members := [.entrance (.start storage)] }

/-! ## What a screen's step can do -/

/-- A step is one of the screen's own kind, or the input passes it by. -/
inductive Part.Steps (k : Nat) (routes : List Route) :
    Part → PartInput → (List Route × Part) × List PartEffect → Prop where
  | entrance {s i} : Steps k routes (.entrance s) (.entrance i)
      ((entranceRoutes k s i routes, .entrance (s.step i).1), (s.step i).2.map .entrance)
  | home {w i} : Steps k routes (.home w) (.home i)
      (((Home.homeScreen.step (homeSees k routes w) i).2.foldl
          (homeRoutes k (Home.homeScreen.step (homeSees k routes w) i).1.shared.navigator.head?) routes,
        .home (Home.homeScreen.step (homeSees k routes w) i).1),
          (Home.homeScreen.step (homeSees k routes w) i).2.map .home)
  | player {w i} : Steps k routes (.player w) (.player i)
      (((Media.mediaControl.step (playerSees k routes w) i).2.foldl (playerRoutes k) routes,
        .player (Media.mediaControl.step (playerSees k routes w) i).1),
          (Media.mediaControl.step (playerSees k routes w) i).2.map .player)
  | back {part} : Steps k routes part .systemBack ((goBack k part routes, part), [])
  | passes {part i} : Steps k routes part i ((routes, part), [])

theorem Part.steps (k : Nat) (routes : List Route) (part : Part) (i : PartInput) :
    Part.Steps k routes part i (part.step k routes i) := by
  cases part with
  | entrance s =>
      cases i with
      | entrance i => exact .entrance
      | systemBack => exact .back
      | _ => exact .passes
  | home w =>
      cases i with
      | home i => exact .home
      | systemBack => exact .back
      | _ => exact .passes
  | player w =>
      cases i with
      | player i => exact .player
      | systemBack => exact .back
      | _ => exact .passes

/-- What is started is a home page that an effect before it opens, or the player of a
    list that has come; the one loads its page, the other asks for the viewing log. -/
inductive Part.Begins : PartEffect → Part → List PartEffect → Prop where
  | home {e uuid email} : opensHome e = some (uuid, email) →
      Begins (.entrance e) (.home (Home.HomeScreen.opened email uuid))
        [.loads (Home.HomeScreen.opened email uuid).shared.initialUrl]
  | player {urls titles playTime w} : Media.Player.initState urls titles playTime = some w →
      Begins (.home (.push urls titles playTime)) (.player w)
        [.player (.getLastLog w.shared.playTime.logQuery)]

theorem Part.starts_push {urls titles : List String} {playTime : Media.PlayTime} {w : Media.Player}
    (initial : Media.Player.initState urls titles playTime = some w) :
    Part.starts (.home (.push urls titles playTime)) =
      [(.player w, [.player (.getLastLog w.shared.playTime.logQuery)])] := by
  obtain ⟨turn, built, rfl⟩ := Option.map_eq_some_iff.mp initial
  simp only [Part.starts, built, Media.Player.firstBuild_effects built]
  rfl

theorem Part.begins {e : PartEffect} {part : Part} {out : List PartEffect}
    (begun : (part, out) ∈ Part.starts e) : Part.Begins e part out := by
  unfold starts at begun
  split at begun
  · split at begun
    · simp at begun
    · rename_i opens
      cases List.mem_singleton.mp begun
      exact .home opens
  · split at begun
    · simp at begun
    · rename_i turn built
      cases List.mem_singleton.mp begun
      rw [Media.Player.firstBuild_effects built]
      exact .player (by simp [Media.Player.initState, built])
  · simp at begun

end Edutopik.App

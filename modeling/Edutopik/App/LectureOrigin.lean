import Edutopik.App.Admissions
import Edutopik.Home.Messages
import Edutopik.Media.OnScreen

/-! # What stands behind a player

Between a login and a lecture there are a home page, a message of the site, perhaps a
question, and a list that was asked for. Other pages and players take their steps in
between and share the route stack. What one page does has a history of its own all the
same, and a player has all of it behind it: a page that was admitted, a message to that
page, the yes to its question, the request for the list and the reply to it. So has all
that the player asks the server and reports to it, from its opening on.
-/

namespace Edutopik.App

open Dart EventLoop Machine

variable {past : List AppFired}

/-! ## The steps of one page -/

/-- A step of the app as the page at `k` takes it, if it is that page's. -/
def homeStep? (k : Nat) (f : AppFired) : Option Home.HomeFired :=
  match f.input, f.before.members[k]? with
  | (j, .home i), some (.home w) =>
      if j = k then some (fire Home.homeScreen.step (Part.homeSees k f.before.shared w) i) else none
  | _, _ => none

/-- What the page at `k` has done, each step with the route stack as it was then. -/
def homeSteps (k : Nat) (past : List AppFired) : List Home.HomeFired :=
  past.filterMap (homeStep? k)

theorem homeSteps_append (k : Nat) (past : List AppFired) (f : AppFired) :
    homeSteps k (past ++ [f]) = homeSteps k past ++ (homeStep? k f).toList := by
  rw [homeSteps, List.filterMap_append, homeSteps]
  cases step : homeStep? k f <;> simp [step]

theorem homeStep?_own {s : AppState} {k : Nat} {w : Home.HomeWorld}
    (located : s.members[k]? = some (.home w)) (i : Home.HomeInput) :
    homeStep? k (fire app.step s (k, .home i)) =
      some (fire Home.homeScreen.step (Part.homeSees k s.shared w) i) := by
  simp [homeStep?, located]

theorem homeSteps_other {k : Nat} {input : AppInput} (apart : ∀ i, input ≠ (k, .home i))
    (past : List AppFired) (s : AppState) :
    homeSteps k (past ++ [fire app.step s input]) = homeSteps k past := by
  have passes : homeStep? k (fire app.step s input) = none := by
    unfold homeStep?
    split
    · rename_i j i w given located
      apply if_neg
      rintro rfl
      exact apart i given
    · rfl
  rw [homeSteps_append, passes]
  exact List.append_nil _

/-- The player at `j` joined in a step of the page at `k`, with this list and record, and
    the step was the answer to the page's message. -/
structure OpenedBy (k : Nat) (uuid : String) (past : List AppFired) (j : Nat)
    (urls titles : List String) (playTime : Media.PlayTime) (f : AppFired) (own : Home.HomeFired) :
    Prop where
  step : homeStep? k f = some own
  pushes : Home.Effect.push urls titles playTime ∈ own.effects
  answers : Home.AnswersWith uuid (homeSteps k past) own urls titles playTime
  absent : f.before.members[j]? = none
  joined : ∃ w, f.after.members[j]? = some (.player w) ∧
    Media.Player.initState urls titles playTime = some w

/-- One of the steps so far was that step. -/
def WasOpened (k : Nat) (uuid : String) (past : List AppFired) (j : Nat) (urls titles : List String)
    (playTime : Media.PlayTime) : Prop :=
  ∃ front f own back, past = front ++ f :: back ∧ OpenedBy k uuid front j urls titles playTime f own

theorem WasOpened.more {k j : Nat} {uuid : String} {urls titles : List String}
    {playTime : Media.PlayTime} (opened : WasOpened k uuid past j urls titles playTime) (f : AppFired) :
    WasOpened k uuid (past ++ [f]) j urls titles playTime := by
  obtain ⟨front, g, own, back, rfl, openedBy⟩ := opened
  exact ⟨front, g, own, back ++ [f], by simp, openedBy⟩

/-! ## The pages -/

/-- What the page at `k` holds, with the stack as it is, has come about in its own steps. -/
def PageVouched (past : List AppFired) (k : Nat) (routes : List Route) (w : Home.HomeWorld) : Prop :=
  Home.HomeScreen.Vouched w.shared.uuid (homeSteps k past) (Part.homeSees k routes w)

theorem confirm_seen_iff {k : Nat} {routes : List Route} {preUrl listUrl : String}
    {playTime : Media.PlayTime} :
    Home.Route.confirm preUrl listUrl playTime ∈ routes.map (Route.seenByHome k) ↔
      Route.home k (.confirm preUrl listUrl playTime) ∈ routes := by
  constructor
  · intro seen
    obtain ⟨route, member, same⟩ := List.mem_map.mp seen
    cases route with
    | home j own =>
        simp only [Route.seenByHome] at same
        split at same
        · rename_i here
          rw [← here, ← same]
          exact member
        · cases same
    | _ => cases same
  · intro member
    exact List.mem_map.mpr ⟨_, member, by simp [Route.seenByHome]⟩

/-- Where the questions of the page are among those it showed before, it is vouched for
    as before. -/
theorem PageVouched.of_routes {k : Nat} {routes routes' : List Route} {w : Home.HomeWorld}
    (vouched : PageVouched past k routes w)
    (fewer : ∀ own, Route.home k own ∈ routes' → own ≠ .home → Route.home k own ∈ routes) :
    PageVouched past k routes' w where
  device := rfl
  holds :=
    { lists := vouched.holds.lists
      questions := by
        intro preUrl listUrl playTime seen
        apply vouched.holds.questions
        exact confirm_seen_iff.mpr (fewer _ (confirm_seen_iff.mp seen) nofun) }

/-- A step that is not the page's adds nothing to its history. -/
theorem PageVouched.passed {k : Nat} {routes : List Route} {w : Home.HomeWorld} {input : AppInput}
    (vouched : PageVouched past k routes w) (apart : ∀ i, input ≠ (k, .home i)) (s : AppState) :
    PageVouched (past ++ [fire app.step s input]) k routes w := by
  unfold PageVouched
  rw [homeSteps_other apart]
  exact vouched

/-- The page's own step. -/
theorem pageVouched_step {s : AppState} {k : Nat} {w : Home.HomeWorld}
    (located : s.members[k]? = some (.home w)) (vouched : PageVouched past k s.shared w)
    (i : Home.HomeInput) :
    PageVouched (past ++ [fire app.step s (k, .home i)]) k
      ((Part.home w).step k s.shared (.home i)).1.1
        (Home.homeScreen.step (Part.homeSees k s.shared w) i).1 := by
  have device : (Home.homeScreen.step (Part.homeSees k s.shared w) i).1.shared.uuid = w.shared.uuid :=
    (Home.home_keeps (Part.homeSees k s.shared w) i).1
  have next := Home.vouched_step (homeSteps k past) (Part.homeSees k s.shared w) i vouched
  have kept := Home.holds_more vouched.holds
    (fire Home.homeScreen.step (Part.homeSees k s.shared w) i)
  unfold PageVouched
  rw [device, homeSteps_append, homeStep?_own located]
  refine ⟨device, ?_, next.holds.lists⟩
  intro preUrl listUrl playTime seen
  rcases mem_homeRoutes (confirm_seen_iff.mp seen) with before | ⟨own, top, same⟩
  · exact kept.questions _ _ _ (confirm_seen_iff.mpr before)
  · cases same
    exact next.holds.questions _ _ _ (List.mem_of_head? top)

/-! ## The app -/

/-- A page has opened the player at `j` for a message of its own: the player holds the
    record of that message and shows the list that was got for it. -/
def PlayerVouched (past : List AppFired) (members : List Part) (j : Nat) (w : Media.Player) : Prop :=
  ∃ k page urls titles playTime, members[k]? = some (.home page) ∧
    WasOpened k page.shared.uuid past j urls titles playTime ∧
      Media.HoldsRecord playTime w.shared ∧ w.shared.Shows urls titles

structure Behind (past : List AppFired) (s : AppState) : Prop where
  placed : Placed s.members.length s.shared
  pages : ∀ (k : Nat) (w : Home.HomeWorld), s.members[k]? = some (.home w) →
    PageVouched past k s.shared w
  players : ∀ (j : Nat) (w : Media.Player), s.members[j]? = some (.player w) →
    PlayerVouched past s.members j w

/-- A page is there after every step, for the same device and email. -/
theorem page_stays {s : AppState} {k : Nat} {page : Home.HomeWorld}
    (located : s.members[k]? = some (.home page)) (input : AppInput) :
    ∃ page', (app.step s input).1.members[k]? = some (.home page') ∧
      page'.shared.uuid = page.shared.uuid ∧ page'.shared.email = page.shared.email := by
  obtain ⟨j, i⟩ := input
  by_cases same : j = k
  · subst same
    have moved := Colony.step_get_same (c := app) located i
    cases i with
    | home i => exact ⟨_, moved, Home.home_keeps _ i⟩
    | _ => exact ⟨page, moved, rfl, rfl⟩
  · exact ⟨page, Colony.step_get_other located same i, rfl, rfl⟩

/-- The routes of another page are as they were. -/
theorem routes_of_other {s : AppState} {j k : Nat} {i : PartInput} {own : Home.Route}
    (other : j ≠ k) (inside : k < s.members.length)
    (there : Route.home k own ∈ (app.step s (j, i)).1.shared) : Route.home k own ∈ s.shared := by
  rcases place_of_step there with before | ⟨k', place, high, -⟩
  · exact before
  · cases place
    rcases high with same | beyond
    · exact absurd same.symm other
    · omega

/-- The page that has taken the step. -/
theorem page_moved {s : AppState} (behind : Behind past s) {k : Nat} {part : Part} {i : PartInput}
    {w : Home.HomeWorld} (there : s.members[k]? = some part)
    (moved : .home w = (part.step k s.shared i).1.2) :
    PageVouched (past ++ [fire app.step s (k, i)]) k (app.step s (k, i)).1.shared w := by
  have left : ∀ own, Route.home k own ∈ (app.step s (k, i)).1.shared → own ≠ .home →
      Route.home k own ∈ (part.step k s.shared i).1.1 := by
    intro own member apart
    rcases route_of_step there member with pushed | ⟨j, joins, -, -⟩
    · exact pushed
    · cases joins
      exact absurd rfl apart
  cases part with
  | home page =>
      have vouched := behind.pages k page there
      cases i with
      | home i =>
          cases moved
          exact (pageVouched_step there vouched i).of_routes left
      | systemBack =>
          cases moved
          apply (vouched.passed (by simp) s).of_routes
          intro own member apart
          exact (goBack_sublist k _ s.shared).subset (left own member apart)
      | _ =>
          cases moved
          exact (vouched.passed (by simp) s).of_routes left
  | entrance e => cases i <;> cases moved
  | player w => cases i <;> cases moved

/-- A page that joins holds nothing yet. -/
theorem page_begun {s : AppState} (behind : Behind past s) {j k : Nat} {part : Part} {i : PartInput}
    (there : s.members[j]? = some part) (beyond : s.members.length ≤ k) (email uuid : String)
    (steps : List AppFired) :
    PageVouched steps k (app.step s (j, i)).1.shared (Home.HomeScreen.opened email uuid) where
  device := rfl
  holds :=
    { lists := by simp [Part.homeSees, Home.HomeScreen.opened]
      questions := by
        intro preUrl listUrl playTime seen
        obtain ⟨inside, -⟩ := List.getElem?_eq_some_iff.mp there
        rcases route_of_step there (confirm_seen_iff.mp seen) with pushed | ⟨k', joins, -, -⟩
        · rcases place_of_pushed pushed with before | own
          · have placed := behind.placed _ before k rfl
            omega
          · cases own
            omega
        · cases joins }

theorem PlayerVouched.step {s : AppState} {j : Nat} {w w' : Media.Player}
    (vouched : PlayerVouched past s.members j w) (input : AppInput)
    (record : Media.HoldsRecord w.shared.playTime w'.shared)
    (list : ∀ urls titles, w.shared.Shows urls titles → w'.shared.Shows urls titles) :
    PlayerVouched (past ++ [fire app.step s input]) (app.step s input).1.members j w' := by
  obtain ⟨k, page, urls, titles, playTime, located, opened, held, shows⟩ := vouched
  obtain ⟨page', located', device, -⟩ := page_stays located input
  refine ⟨k, page', urls, titles, playTime, located', ?_, held.trans record, list urls titles shows⟩
  rw [device]
  exact opened.more _

/-- The player that has taken the step. -/
theorem player_moved {s : AppState} (behind : Behind past s) {j : Nat} {part : Part} {i : PartInput}
    {w : Media.Player} (there : s.members[j]? = some part)
    (moved : .player w = (part.step j s.shared i).1.2) :
    PlayerVouched (past ++ [fire app.step s (j, i)]) (app.step s (j, i)).1.members j w := by
  cases part with
  | player before =>
      have vouched := behind.players j before there
      cases i with
      | player i =>
          cases moved
          apply vouched.step
          · exact Media.holdsRecord_step (Part.playerSees j s.shared before) i (.of_same rfl)
          · intro urls titles shows
            apply Media.shows_step
            exact shows.elsewhere rfl ⟨rfl, rfl⟩ (List.Subset.refl _)
      | _ =>
          cases moved
          exact vouched.step _ (.of_same rfl) (fun _ _ shows => shows)
  | entrance e => cases i <;> cases moved
  | home w => cases i <;> cases moved

/-- A player that joins is the answer to what its page waited for. -/
theorem player_begun {s : AppState} (behind : Behind past s) {j k : Nat} {part : Part}
    {i : PartInput} {e : PartEffect} {w : Media.Player} {opening : List PartEffect}
    (there : s.members[k]? = some part) (out : e ∈ (part.step k s.shared i).2)
    (begun : Part.Begins e (.player w) opening) (beyond : s.members.length ≤ j)
    (joined : (app.step s (k, i)).1.members[j]? = some (.player w)) :
    PlayerVouched (past ++ [fire app.step s (k, i)]) (app.step s (k, i)).1.members j w := by
  cases begun with
  | @player urls titles playTime w initial =>
      have steps := Part.steps k s.shared part i
      generalize part.step k s.shared i = next at steps out
      cases steps with
      | @home page i =>
          obtain ⟨e', own, same⟩ := List.mem_map.mp out
          cases same
          have answers := Home.answersOwn_of_vouched (behind.pages k page there) i urls titles playTime own
          obtain ⟨page', located', device, -⟩ := page_stays there (k, .home i)
          refine ⟨k, page', urls, titles, playTime, located', ?_, ?_, Media.initState_shows initial⟩
          · rw [device]
            exact
              ⟨past, _, _, [], rfl,
                { step := homeStep?_own there i
                  pushes := own
                  answers := answers
                  absent := List.getElem?_eq_none beyond
                  joined := ⟨w, joined, initial⟩ }⟩
          · exact ⟨_, _, _, (Media.initState_shared initial).1⟩
      | entrance => simp at out
      | player => simp at out
      | _ => cases out

theorem behind_step (past : List AppFired) (s : AppState) (input : AppInput)
    (behind : Behind past s) : Behind (past ++ [fire app.step s input]) (app.step s input).1 where
  placed := placed_step s input behind.placed
  pages := by
    obtain ⟨k, i⟩ := input
    intro j w located
    rcases Colony.get_of_step located with
      ⟨other, old⟩ | ⟨part, there, ⟨rfl, moved⟩ | ⟨beyond, e, -, opening, begun⟩⟩
    · obtain ⟨inside, -⟩ := List.getElem?_eq_some_iff.mp old
      have apart : ∀ i', (k, i) ≠ (j, PartInput.home i') := by
        intro i' same
        cases same
        exact other rfl
      apply ((behind.pages j w old).passed apart s).of_routes
      exact fun own member _ => routes_of_other other inside member
    · exact page_moved behind there moved
    · cases Part.begins begun with
      | home opens => exact page_begun behind there beyond _ _ _
  players := by
    obtain ⟨k, i⟩ := input
    intro j w located
    rcases Colony.get_of_step located with
      ⟨-, old⟩ | ⟨part, there, ⟨rfl, moved⟩ | ⟨beyond, e, out, opening, begun⟩⟩
    · exact (behind.players j w old).step (k, i) (.of_same rfl) (fun _ _ shows => shows)
    · exact player_moved behind there moved
    · exact player_begun behind there out (Part.begins begun) beyond located

theorem behind_opened (storage : Option String) : Behind [] (opened storage) where
  placed := placed storage []
  pages := by
    intro k w located
    cases k with
    | zero => cases located
    | succ k => cases located
  players := by
    intro k w located
    cases k with
    | zero => cases located
    | succ k => cases located

theorem behind (storage : Option String) (is : List AppInput) :
    Behind (run app.step (opened storage) is) (final app.step (opened storage) is) :=
  history_of_kept behind_step (behind_opened storage) is

/-- In this run a page that was admitted has opened the player at `j`, with this list and
    record, for a message of its own: agreed to where it asked, requested, and answered by
    the reply to its own request. -/
def OpenedFor (storage : Option String) (is : List AppInput) (j : Nat) (urls titles : List String)
    (playTime : Media.PlayTime) : Prop :=
  ∃ k page, (final app.step (opened storage) is).members[k]? = some (.home page) ∧
    Admitted storage is page.shared.uuid page.shared.email ∧
      WasOpened k page.shared.uuid (run app.step (opened storage) is) j urls titles playTime

/-- The player at `j` was opened so, holds the record of its message and shows the list
    that was got for it. -/
def Vouches (storage : Option String) (is : List AppInput) (j : Nat) (w : Media.Player)
    (playTime : Media.PlayTime) : Prop :=
  ∃ urls titles, OpenedFor storage is j urls titles playTime ∧
    Media.HoldsRecord playTime w.shared ∧ w.shared.Shows urls titles

/-- All players there are have such a record. -/
def PlayersVouched (storage : Option String) (is : List AppInput) (s : AppState) : Prop :=
  ∀ (j : Nat) (w : Media.Player), s.members[j]? = some (.player w) →
    ∃ playTime, Vouches storage is j w playTime

theorem vouches_of_player {storage : Option String} {is : List AppInput} {j : Nat} {w : Media.Player}
    (located : (final app.step (opened storage) is).members[j]? = some (.player w)) :
    ∃ playTime, Vouches storage is j w playTime := by
  obtain ⟨k, page, urls, titles, playTime, there, opened, held, shows⟩ :=
    (behind storage is).players j w located
  have admitted := (accounted storage is).homes k page there
  exact ⟨playTime, urls, titles, ⟨k, page, there, admitted, opened⟩, held, shows⟩

/-- However the app runs, every player has a login, a page, a message, a request and its
    reply behind it. -/
theorem players_vouched (storage : Option String) (is : List AppInput) :
    PlayersVouched storage is (final app.step (opened storage) is) :=
  fun _ _ located => vouches_of_player located

/-! ## What the players ask -/

/-- What a player asks the server in the last step of a run is made from the record of the
    message it was opened for. -/
def RequestsVouched (storage : Option String) (is : List AppInput) (out : List AppEffect) : Prop :=
  ∀ j x, (j, PartEffect.player x) ∈ out → ∃ w playTime,
    (final app.step (opened storage) is).members[j]? = some (.player w) ∧
      Vouches storage is j w playTime ∧ Media.MadeFrom playTime x

/-- However the app runs, no player asks for or reports anything but the record of a
    message to an admitted page, however many players and pages there are. -/
theorem requests_vouched (storage : Option String) (is : List AppInput) (input : AppInput) :
    RequestsVouched storage (is ++ [input])
      (app.step (final app.step (opened storage) is) input).2 := by
  intro j x sent
  have after : final app.step (opened storage) (is ++ [input]) =
      (app.step (final app.step (opened storage) is) input).1 := final_append _ _ _ _
  cases Colony.letsOut_of_step sent with
  | @own part i there letOut =>
      have moved := @Colony.step_get_same _ _ _ _ app _ _ _ there i
      have steps := part.steps j (final app.step (opened storage) is).shared i
      rw [← after] at moved
      have own : .player x ∈ (part.step j (final app.step (opened storage) is).shared i).2 := letOut
      simp only [app] at moved
      generalize part.step j (final app.step (opened storage) is).shared i = next at steps own moved
      cases steps with
      | @player before i =>
          obtain ⟨x', stepped, same⟩ := List.mem_map.mp own
          cases same
          obtain ⟨playTime, urls, titles, openedFor, held, shows⟩ := vouches_of_player moved
          refine ⟨_, playTime, moved, ⟨urls, titles, openedFor, held, shows⟩, ?_⟩
          apply Media.madeFrom_of_step _ stepped
          exact held.before (Media.holdsRecord_step _ i (.of_same rfl))
      | entrance => simp at own
      | home => simp at own
      | _ => cases own
  | @joins k t i e m out there letOut begun opening beyond located =>
      -- The check that opens a player is let out in the step in which it joins.
      cases Part.begins begun with
      | home opens => cases List.mem_singleton.mp opening
      | @player _ _ _ w initial =>
          cases List.mem_singleton.mp opening
          rw [← after] at located
          obtain ⟨playTime, urls, titles, openedFor, held, shows⟩ := vouches_of_player located
          exact ⟨w, playTime, located, ⟨urls, titles, openedFor, held, shows⟩, held.check⟩

end Edutopik.App

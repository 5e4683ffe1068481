import Edutopik.App.RouteStack
import Edutopik.Home.HomeTurns
import Edutopik.Media.RouteStack

/-! # Whose routes a screen takes away

A pop takes the topmost route, whoever pushed it. A button is there to be tapped only on
top, so it takes a route of its own screen. A viewing-log check that is refused does not
look: it pops what is on top by the time it is answered. That is the one way in which a
screen of the app closes another, a dialog of the login, or the page it was opened from.
-/

namespace Edutopik.App

open EventLoop Machine

/-- The routes that are not of the screen at `k`. -/
def others (k : Nat) (routes : List Route) : List Route :=
  routes.filter fun route => route.place? != some k

/-- After the step all routes of other screens are there as before. -/
def KeepsOthers (f : AppFired) : Prop :=
  (others f.input.1 f.before.shared).Sublist f.after.shared

/-- A check that is refused finds a route of its own player on top. -/
def Considerate (s : AppState) : AppInput → Prop
  | (k, .player i) => ∀ w, s.members[k]? = some (.player w) → Media.RefusedCheck w i →
      ∀ top, s.shared.head? = some top → top.place? = some k
  | _ => True

/-! ## The stack without a screen's own routes -/

theorem others_sublist (k : Nat) (routes : List Route) : (others k routes).Sublist routes :=
  List.filter_sublist

theorem others_tail {k : Nat} {routes : List Route}
    (own : ∀ top, routes.head? = some top → top.place? = some k) :
    (others k routes).Sublist routes.tail := by
  cases routes with
  | nil => exact others_sublist k []
  | cons top rest =>
      have mine : (top.place? != some k) = false := by simp [own top rfl]
      rw [others, List.filter_cons, mine]
      exact others_sublist k rest

/-- With another's route gone from the top, one of them is missing. -/
theorem not_others_tail {k : Nat} {routes : List Route} {top route : Route}
    (there : routes.head? = some top) (other : top.place? ≠ some k) (own : route.place? = some k) :
    ¬ (others k routes).Sublist (route :: routes.tail) := by
  intro kept
  obtain ⟨rest, rfl⟩ : ∃ rest, routes = top :: rest := List.head?_eq_some_iff.mp there
  have counted := (kept.filter fun r => r.place? != some k).length_le
  have before : (others k (top :: rest)).length = (others k rest).length + 1 := by
    simp [others, other]
  have after : ((route :: rest).filter fun r => r.place? != some k) = others k rest := by
    simp [others, own]
  have same : (others k (top :: rest)).filter (fun r => r.place? != some k) = others k (top :: rest) := by
    simp [others]
  rw [same, List.tail_cons, after] at counted
  omega

/-! ## The screens -/

theorem others_entrance (k : Nat) (s : Entrance) (i : EntranceInput) (routes : List Route) :
    (others k routes).Sublist (Part.entranceRoutes k s i routes) := by
  have left : ∀ own, (others k routes).Sublist (Part.leave k own routes) := by
    intro own
    cases routes with
    | nil => exact others_sublist k []
    | cons top rest =>
        cases top with
        | entrance j route =>
            simp only [Part.leave]
            split
            · rename_i mine
              apply others_tail
              intro top there
              cases there
              exact congrArg some mine.1
            · exact others_sublist k _
        | _ => exact others_sublist k _
  apply List.Sublist.trans _ (List.sublist_append_right _ _)
  cases s.pops i with
  | none => exact others_sublist k routes
  | some own => exact left own

def Route.isQuestionOf (k : Nat) : Route → Bool
  | .home j (.confirm _ _ _) => j == k
  | _ => false

/-- A button of a page's dialog takes that dialog away, and nothing else goes. -/
theorem unasked_home (k : Nat) (routes : List Route) (w : Home.HomeWorld) (i : Home.HomeInput)
    (top : Option Home.Route) :
    (routes.filter fun route => !route.isQuestionOf k).Sublist
      ((Home.homeScreen.step (Part.homeSees k routes w) i).2.foldl (Part.homeRoutes k top) routes) := by
  have kept : (routes.filter fun route => !route.isQuestionOf k).Sublist routes := List.filter_sublist
  have more : ∀ new : List Route,
      (routes.filter fun route => !route.isQuestionOf k).Sublist (new ++ routes) :=
    fun new => kept.trans (List.sublist_append_right new routes)
  have confirmed : ∀ {preUrl listUrl : String} {playTime : Media.PlayTime} {rest : List Home.Route},
      (Part.homeSees k routes w).shared.navigator = .confirm preUrl listUrl playTime :: rest →
        (routes.filter fun route => !route.isQuestionOf k).Sublist routes.tail := by
    intro preUrl listUrl playTime rest shown
    cases routes with
    | nil => cases shown
    | cons route below =>
        have seen : route.seenByHome k = .confirm preUrl listUrl playTime := by
          simp only [Part.homeSees, List.map_cons, List.cons.injEq] at shown
          exact shown.1
        have question : route.isQuestionOf k = true := by
          cases route with
          | home j own =>
              simp only [Route.seenByHome] at seen
              split at seen
              · rename_i same
                subst seen
                simp [Route.isQuestionOf, same]
              · cases seen
          | _ => cases seen
        rw [List.filter_cons, question]
        exact List.filter_sublist
  have turn := Home.homeTurn (Part.homeSees k routes w) i
  generalize Home.homeScreen.step (Part.homeSees k routes w) i = next at turn
  cases turn with
  | questions => exact more _
  | declines shown => exact confirmed shown
  | confirms shown => exact confirmed shown
  | pushes =>
      simp only [List.foldl_cons, List.foldl_nil, Part.homeRoutes]
      split
      · exact kept
      · exact more _
  | _ => exact kept

theorem place_of_isQuestionOf {k : Nat} {route : Route} (question : route.isQuestionOf k = true) :
    route.place? = some k := by
  cases route with
  | home j own =>
      cases own with
      | confirm preUrl listUrl playTime => exact congrArg some (by simpa [Route.isQuestionOf] using question)
      | _ => cases question
  | _ => cases question

theorem others_home (k : Nat) (routes : List Route) (w : Home.HomeWorld) (i : Home.HomeInput)
    (top : Option Home.Route) :
    (others k routes).Sublist ((Home.homeScreen.step (Part.homeSees k routes w) i).2.foldl
      (Part.homeRoutes k top) routes) := by
  apply List.Sublist.trans _ (unasked_home k routes w i top)
  apply List.monotone_filter_right
  intro route other
  by_contra question
  simp only [Bool.not_eq_true', Bool.not_eq_false] at question
  simp [place_of_isQuestionOf question] at other

theorem foldl_playerRoutes_touches (k : Nat) (routes : List Route) (effects : List Media.Effect) :
    effects.foldl (Part.playerRoutes k) routes =
      (effects.filter Media.Effect.touches).foldl (Part.playerRoutes k) routes := by
  induction effects generalizing routes with
  | nil => rfl
  | cons e rest ih =>
      cases e with
      | pop => exact ih _
      | showDialog text => exact ih _
      | _ => exact ih routes

/-- A player keeps the others' routes unless a refused check finds one of them on top. -/
theorem others_player_iff (k : Nat) (routes : List Route) (w : Media.Player) (i : Media.PlayerInput) :
    (others k routes).Sublist ((Media.mediaControl.step (Part.playerSees k routes w) i).2.foldl
        (Part.playerRoutes k) routes) ↔
      (Media.RefusedCheck w i → ∀ top, routes.head? = some top → top.place? = some k) := by
  have refusal : Media.RefusedCheck (Part.playerSees k routes w) i ↔ Media.RefusedCheck w i := by
    cases i <;> exact Iff.rfl
  have touches := Media.touches_step (Part.playerSees k routes w) i
  rw [foldl_playerRoutes_touches]
  generalize (Media.mediaControl.step (Part.playerSees k routes w) i).2.filter Media.Effect.touches =
    effects at touches
  cases touches with
  | none unrefused =>
      exact iff_of_true (others_sublist k routes) (fun refused => absurd (refusal.mpr refused) unrefused)
  | own unrefused shown =>
      obtain ⟨route, notHome, there⟩ := shown
      refine iff_of_true (others_tail ?_) (fun refused => absurd (refusal.mpr refused) unrefused)
      intro top onTop
      have seen : top.seenByPlayer k = route := by
        simpa [Part.playerSees, onTop] using there
      cases top with
      | player j own =>
          simp only [Route.seenByPlayer] at seen
          split at seen
          · rename_i same
            exact congrArg some same
          · exact absurd seen.symm notHome
      | _ => exact absurd seen.symm notHome
  | closes text refused =>
      have mine : (Route.player k (.alert text)).place? = some k := rfl
      constructor
      · intro kept _ top there
        by_contra other
        exact not_others_tail there other mine kept
      · intro own
        exact (others_tail (own (refusal.mp refused))).cons _

theorem others_goBack (k : Nat) (part : Part) (routes : List Route) :
    (others k routes).Sublist (part.goBack k routes) := by
  rcases goBack_eq k part routes with same | ⟨top, there, own, gone⟩
  · rw [same]
    exact others_sublist k routes
  · rw [gone]
    apply others_tail
    intro top' there'
    cases there.symm.trans there'
    exact place_of_owns own

/-! ## The app -/

/-- Screens that join leave the stack below them. -/
theorem shared_sublist_join (s : AppState) (new : List (Part × List PartEffect)) :
    s.shared.Sublist (app.join s new).1.shared := by
  induction new generalizing s with
  | nil => exact List.Sublist.refl _
  | cons begun rest ih =>
      apply List.Sublist.trans _ (ih _)
      cases begun.1 with
      | entrance e => exact List.Sublist.refl _
      | home w => exact List.sublist_cons_self _ _
      | player w => exact List.sublist_cons_self _ _

/-- A step keeps the others' routes if its screen leaves them where they are. -/
theorem keepsOthers_of_member {s : AppState} {k : Nat} {part : Part} {i : PartInput}
    (located : s.members[k]? = some part)
    (kept : (others k s.shared).Sublist (part.step k s.shared i).1.1) :
    KeepsOthers (fire app.step s (k, i)) := by
  simp only [KeepsOthers, fire, Colony.step_member located]
  exact kept.trans (shared_sublist_join (app.moved k s part i) _)

/-- A step keeps the others' routes exactly if it is considerate. -/
theorem keepsOthers_iff (s : AppState) (input : AppInput) :
    KeepsOthers (fire app.step s input) ↔ Considerate s input := by
  obtain ⟨k, i⟩ := input
  have stays := others_sublist k s.shared
  cases located : s.members[k]? with
  | none =>
      refine iff_of_true ?_ ?_
      · simp only [KeepsOthers, fire, Colony.step_absent located]
        exact stays
      · cases i <;> simp [Considerate, located]
  | some part =>
      cases part with
      | entrance e =>
          refine iff_of_true (keepsOthers_of_member located ?_) ?_
          · cases i with
            | entrance i => exact others_entrance k e i s.shared
            | systemBack => exact others_goBack k _ s.shared
            | _ => exact stays
          · cases i <;> simp [Considerate, located]
      | home w =>
          refine iff_of_true (keepsOthers_of_member located ?_) ?_
          · cases i with
            | home i => exact others_home k s.shared w i _
            | systemBack => exact others_goBack k _ s.shared
            | _ => exact stays
          · cases i <;> simp [Considerate, located]
      | player w =>
          cases i with
          | player i =>
              have shared : (app.step s (k, .player i)).1.shared =
                  (Media.mediaControl.step (Part.playerSees k s.shared w) i).2.foldl
                    (Part.playerRoutes k) s.shared :=
                Colony.step_shared located (starts_none _)
              simp only [KeepsOthers, fire, shared, Considerate, located, Option.some.injEq,
                Part.player.injEq, forall_eq']
              exact others_player_iff k s.shared w i
          | systemBack =>
              have kept := others_goBack k (.player w) s.shared
              exact iff_of_true (keepsOthers_of_member located kept) trivial
          | _ => exact iff_of_true (keepsOthers_of_member located stays) trivial

/-- However the app runs, no screen takes away a route of another exactly if every check
    that is refused finds a route of its own player on top. -/
theorem others_kept_iff (storage : Option String) (is : List AppInput) :
    (∀ f ∈ run app.step (opened storage) is, KeepsOthers f) ↔
      ∀ f ∈ run app.step (opened storage) is, Considerate f.before f.input := by
  have each : ∀ f ∈ run app.step (opened storage) is,
      (KeepsOthers f ↔ Considerate f.before f.input) := by
    intro f member
    have exact := keepsOthers_iff f.before f.input
    rwa [← eq_fire_of_mem app.step member] at exact
  constructor
  · exact fun kept f member => (each f member).mp (kept f member)
  · exact fun considerate f member => (each f member).mpr (considerate f member)

/-! ## The pages below -/

/-- The route is of a screen of its kind. -/
def Route.Of (members : List Part) : Route → Prop
  | .login => True
  | .entrance k _ => ∃ s, members[k]? = some (.entrance s)
  | .home k _ => ∃ w, members[k]? = some (.home w)
  | .player k _ => ∃ w, members[k]? = some (.player w)

/-- The back button was used with the home page at `k` on top. -/
def WasLeft (k : Nat) : List AppFired → Prop :=
  Past fun f => f.input = (k, .systemBack) ∧ f.before.shared.head? = some (.home k .home)

/-- The login screen and every home page that was not left have their route on the stack. -/
structure Pages (past : List AppFired) (s : AppState) : Prop where
  kinds : ∀ route ∈ s.shared, route.Of s.members
  login : .login ∈ s.shared
  homes : ∀ (k : Nat) (w : Home.HomeWorld), s.members[k]? = some (.home w) →
    .home k .home ∈ s.shared ∨ WasLeft k past

theorem Route.Of.append {members : List Part} {route : Route} (own : route.Of members) (part : Part) :
    route.Of (members ++ [part]) := by
  have kept : ∀ {k : Nat} {old : Part}, members[k]? = some old → (members ++ [part])[k]? = some old := by
    intro k old there
    rw [List.getElem?_append_left (List.getElem?_eq_some_iff.mp there).1]
    exact there
  cases route with
  | login => trivial
  | entrance k r =>
      obtain ⟨s, there⟩ := own
      exact ⟨s, kept there⟩
  | home k r =>
      obtain ⟨w, there⟩ := own
      exact ⟨w, kept there⟩
  | player k r =>
      obtain ⟨w, there⟩ := own
      exact ⟨w, kept there⟩

theorem Pages.join {past : List AppFired} {s : AppState} (pages : Pages past s)
    (new : List (Part × List PartEffect)) : Pages past (app.join s new).1 := by
  induction new generalizing s with
  | nil => exact pages
  | cons begun rest ih =>
      obtain ⟨part, out⟩ := begun
      apply ih
      have last : (s.members ++ [part])[s.members.length]? = some part := by simp
      have old : ∀ {k : Nat} {w : Home.HomeWorld}, (s.members ++ [part])[k]? = some (.home w) →
          (.home k .home ∈ s.shared ∨ WasLeft k past) ∨ k = s.members.length ∧ part = .home w := by
        intro k w there
        rcases Nat.lt_trichotomy k s.members.length with inside | rfl | outside
        · rw [List.getElem?_append_left inside] at there
          exact .inl (pages.homes k w there)
        · exact .inr ⟨rfl, Option.some.inj (last.symm.trans there)⟩
        · rw [List.getElem?_eq_none (by simp; omega)] at there
          cases there
      cases part with
      | entrance e =>
          refine ⟨fun route member => (pages.kinds route member).append _, pages.login, ?_⟩
          intro k w there
          exact (old there).resolve_right (by simp)
      | home w' =>
          refine ⟨?_, List.mem_cons_of_mem _ pages.login, ?_⟩
          · intro route member
            rcases List.mem_cons.mp member with rfl | below
            · exact ⟨w', last⟩
            · exact (pages.kinds route below).append _
          · intro k w there
            rcases old there with before | ⟨rfl, -⟩
            · exact before.imp (List.mem_cons_of_mem _) id
            · exact .inl List.mem_cons_self
      | player w' =>
          refine ⟨?_, List.mem_cons_of_mem _ pages.login, ?_⟩
          · intro route member
            rcases List.mem_cons.mp member with rfl | below
            · exact ⟨w', last⟩
            · exact (pages.kinds route below).append _
          · intro k w there
            exact ((old there).resolve_right (by simp)).imp (List.mem_cons_of_mem _) id

/-- A screen stays one of its kind. -/
inductive Part.Alike : Part → Part → Prop where
  | entrance (s t : Entrance) : Alike (.entrance s) (.entrance t)
  | home (w v : Home.HomeWorld) : Alike (.home w) (.home v)
  | player (w v : Media.Player) : Alike (.player w) (.player v)

theorem Part.Alike.refl (part : Part) : part.Alike part := by
  cases part with
  | entrance s => exact .entrance s s
  | home w => exact .home w w
  | player w => exact .player w w

theorem Part.alike_step (k : Nat) (routes : List Route) (part : Part) (i : PartInput) :
    part.Alike (part.step k routes i).1.2 := by
  cases part with
  | entrance s => cases i <;> exact .entrance _ _
  | home w => cases i <;> exact .home _ _
  | player w => cases i <;> exact .player _ _

/-- With one screen moved, there is still one of the same kind at each place. -/
theorem alike_set {members : List Part} {k : Nat} {part part' : Part}
    (located : members[k]? = some part) (alike : part.Alike part') {j : Nat} {old : Part}
    (there : members[j]? = some old) :
    ∃ new, (members.set k part')[j]? = some new ∧ old.Alike new := by
  by_cases same : k = j
  · subst same
    cases located.symm.trans there
    have inside : k < members.length := (List.getElem?_eq_some_iff.mp located).1
    exact ⟨part', by simp [inside], alike⟩
  · exact ⟨old, (List.getElem?_set_ne same).trans there, .refl old⟩

theorem Route.Of.moved {members : List Part} {route : Route} (own : route.Of members) {k : Nat}
    {part part' : Part} (located : members[k]? = some part) (alike : part.Alike part') :
    route.Of (members.set k part') := by
  cases route with
  | login => trivial
  | entrance j r =>
      obtain ⟨s, there⟩ := own
      obtain ⟨new, there', same⟩ := alike_set located alike there
      cases same with
      | entrance _ t => exact ⟨t, there'⟩
  | home j r =>
      obtain ⟨w, there⟩ := own
      obtain ⟨new, there', same⟩ := alike_set located alike there
      cases same with
      | home _ v => exact ⟨v, there'⟩
  | player j r =>
      obtain ⟨w, there⟩ := own
      obtain ⟨new, there', same⟩ := alike_set located alike there
      cases same with
      | player _ v => exact ⟨v, there'⟩

/-- The login screen is kept, and so is every home page but one that is left now. -/
structure PagesKept (past : List AppFired) (before after : List Route) : Prop where
  login : .login ∈ before → .login ∈ after
  homes : ∀ j, .home j .home ∈ before → .home j .home ∈ after ∨ WasLeft j past

/-- The pages stay where a screen moves, pushes routes of its own and takes no page away. -/
theorem Pages.moved {past past' : List AppFired} {s : AppState} (pages : Pages past s)
    (left : ∀ {j}, WasLeft j past → WasLeft j past') {k : Nat} {part part' : Part}
    (located : s.members[k]? = some part) (alike : part.Alike part') {routes : List Route}
    (pushed : ∀ route ∈ routes, route ∈ s.shared ∨ route.Of s.members)
    (kept : PagesKept past' s.shared routes) :
    Pages past' ⟨routes, s.members.set k part'⟩ := by
  constructor
  · intro route member
    have own : route.Of s.members := (pushed route member).elim (pages.kinds route) id
    exact own.moved located alike
  · exact kept.login pages.login
  · intro j w there
    have inside : j < s.members.length := by
      simpa using (List.getElem?_eq_some_iff.mp there).1
    have before := List.getElem?_eq_getElem inside
    obtain ⟨new, there', same⟩ := alike_set located alike before
    cases there.symm.trans there'
    cases old : s.members[j] with
    | home v =>
        rw [old] at before
        exact (pages.homes j v before).elim (kept.homes j) (fun gone => .inr (left gone))
    | entrance e =>
        rw [old] at same
        cases same
    | player v =>
        rw [old] at same
        cases same

/-- A screen that is no home page keeps the pages if it keeps the others' routes. -/
theorem Pages.kept_of_others {past past' : List AppFired} {s : AppState} (pages : Pages past s)
    {k : Nat} {part : Part} (located : s.members[k]? = some part) (noPage : ∀ w, part ≠ .home w)
    {routes : List Route} (kept : (others k s.shared).Sublist routes) :
    PagesKept past' s.shared routes where
  login := by
    intro member
    exact kept.subset (List.mem_filter.mpr ⟨member, rfl⟩)
  homes := by
    intro j member
    have other : j ≠ k := by
      rintro rfl
      obtain ⟨w, there⟩ := pages.kinds _ member
      exact noPage w (Option.some.inj (located.symm.trans there))
    exact .inl (kept.subset (List.mem_filter.mpr ⟨member, by simp [Route.place?, other]⟩))

/-- The back button takes no page away but the one that is left with it. -/
theorem pagesKept_back (past : List AppFired) {k : Nat} (part : Part) {f : AppFired}
    (input : f.input = (k, .systemBack)) :
    PagesKept (past ++ [f]) f.before.shared (part.goBack k f.before.shared) := by
  rcases goBack_eq k part f.before.shared with same | ⟨top, there, own, gone⟩
  · rw [same]
    exact ⟨id, fun j => .inl⟩
  · obtain ⟨below, shape⟩ := List.head?_eq_some_iff.mp there
    have mine := place_of_owns own
    rw [gone, shape, List.tail_cons]
    constructor
    · intro member
      apply List.mem_of_ne_of_mem _ member
      rintro rfl
      cases mine
    · intro j member
      rcases List.mem_cons.mp member with rfl | kept
      · cases mine
        exact .inr (.now ⟨input, there⟩)
      · exact .inl kept

theorem pages_step (past : List AppFired) (s : AppState) (input : AppInput) (pages : Pages past s)
    (considerate : Considerate s input) :
    Pages (past ++ [fire app.step s input]) (app.step s input).1 := by
  obtain ⟨k, i⟩ := input
  have before : (fire app.step s (k, i)).before = s := rfl
  have taken : (fire app.step s (k, i)).input = (k, i) := rfl
  have left : ∀ {j}, WasLeft j past → WasLeft j (past ++ [fire app.step s (k, i)]) :=
    fun gone => gone.more _
  generalize fire app.step s (k, i) = f at before taken left
  cases located : s.members[k]? with
  | none =>
      rw [Colony.step_absent located]
      exact ⟨pages.kinds, pages.login, fun j w there => (pages.homes j w there).imp id left⟩
  | some part =>
      rw [Colony.step_member located]
      apply Pages.join
      have alike := part.alike_step k s.shared i
      have steps := part.steps k s.shared i
      simp only [app, Colony.moved]
      generalize part.step k s.shared i = next at alike steps
      cases steps with
      | @entrance e i =>
          apply pages.moved left located alike
          · intro route member
            refine (mem_entranceRoutes member).imp id ?_
            rintro ⟨own, rfl⟩
            exact ⟨e, located⟩
          · exact pages.kept_of_others located (by simp) (others_entrance k e i s.shared)
      | @home w i =>
          apply pages.moved left located alike
          · intro route member
            refine (mem_homeRoutes member).imp id ?_
            rintro ⟨own, -, rfl⟩
            exact ⟨w, located⟩
          · have unasked := (unasked_home k s.shared w i
              (Home.homeScreen.step (Part.homeSees k s.shared w) i).1.shared.navigator.head?).subset
            exact ⟨fun member => unasked (List.mem_filter.mpr ⟨member, rfl⟩),
              fun j member => .inl (unasked (List.mem_filter.mpr ⟨member, rfl⟩))⟩
      | @player w i =>
          apply pages.moved left located alike
          · intro route member
            refine (mem_playerRoutes member).imp id ?_
            rintro ⟨own, rfl⟩
            exact ⟨w, located⟩
          · have refused := considerate w located
            exact pages.kept_of_others located (by simp)
              ((others_player_iff k s.shared w i).mpr refused)
      | back =>
          apply pages.moved left located alike
          · exact fun route member => .inl ((goBack_sublist k part s.shared).subset member)
          · rw [← before]
            exact pagesKept_back past part taken
      | passes => exact pages.moved left located alike (fun _ member => .inl member) ⟨id, fun _ => .inl⟩

/-- As long as no refused check finds another screen on top, the login screen and every
    home page that is not left keep their place on the stack. -/
theorem pages_stay {storage : Option String} {is : List AppInput}
    (considerate : ∀ f ∈ run app.step (opened storage) is, Considerate f.before f.input) :
    Pages (run app.step (opened storage) is) (final app.step (opened storage) is) := by
  apply history_of_guarded pages_step _ considerate
  constructor
  · simp [opened, Route.Of]
  · simp [opened]
  · intro k w there
    cases k with
    | zero => cases there
    | succ k => cases there

/-- A check refused while the player is on top; then the alert and the page are left. -/
def sampleRefused : List AppInput :=
  [(0, .entrance (.screen (.auto .done))),
    (0, .entrance (.screen (.auto (.mobileId "device-a")))),
    (0, .entrance (.screen (.auto (.replied (.answered 200 (some (.object []))))))),
    (0, .entrance (.screen (.auto .done))),
    (1, .home (.event (.message "media&kim&play&O1&S1&K&1&40&v&list&get&send&log"))),
    (1, .home (.resume 0 (.answered 200 (some (.object
      [("data", .array [.string "1.mp4"]), ("title", .array [.string "1강"])]))))),
    (2, .player (.resume 0 (.answered 200 (some (.object
      [("CurrentState", .string "play"), ("UUID", .string "device-b")]))))),
    (2, .systemBack),
    (1, .systemBack)]

theorem pages_stay_sample :
    Pages (run app.step (opened (some "kim 1234")) sampleRefused)
      (final app.step (opened (some "kim 1234")) sampleRefused) := by
  apply pages_stay
  intro f member
  simp only [sampleRefused, run_cons, run_nil, List.mem_cons, List.not_mem_nil, or_false] at member
  rcases member with rfl | rfl | rfl | rfl | rfl | rfl | rfl | rfl | rfl
  · trivial
  · trivial
  · trivial
  · trivial
  · trivial
  · trivial
  · intro w located refused top there
    cases there
    rfl
  · trivial
  · trivial

example : (final app.step (opened (some "kim 1234")) (sampleRefused.take 7)).shared =
    [.player 2 (.alert "중복시청이 감지되었습니다."), .home 1 .home, .login] := by
  rfl

example : (final app.step (opened (some "kim 1234")) sampleRefused).shared = [.login] := by
  rfl

end Edutopik.App

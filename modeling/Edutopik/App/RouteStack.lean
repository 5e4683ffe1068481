import Edutopik.App.Screens

/-! # Where the routes come from

Only the screen that takes a step pushes a route, and a screen that joins brings its
own. A route on the stack therefore names the screen that pushed it, and that screen is
one of those there are.
-/

namespace Edutopik.App

open EventLoop Machine

/-! ## What an effect pushes -/

theorem leave_sublist (k : Nat) (left : EntranceRoute) (routes : List Route) :
    (Part.leave k left routes).Sublist routes := by
  unfold Part.leave
  split
  · split
    · exact List.sublist_cons_self _ _
    · exact List.Sublist.refl _
  · exact List.Sublist.refl _

theorem mem_entranceRoutes {k : Nat} {s : Entrance} {i : EntranceInput} {routes : List Route}
    {route : Route} (there : route ∈ Part.entranceRoutes k s i routes) :
    route ∈ routes ∨ ∃ own, route = .entrance k own := by
  rcases List.mem_append.mp there with new | old
  · obtain ⟨own, -, same⟩ := List.mem_map.mp new
    exact .inr ⟨own, same.symm⟩
  · left
    split at old
    · exact old
    · exact (leave_sublist k _ routes).subset old

/-- A home page pushes the route it has on top. -/
theorem mem_homeRoutes {k : Nat} {top : Option Home.Route} {routes : List Route}
    {effects : List Home.Effect} {route : Route}
    (there : route ∈ effects.foldl (Part.homeRoutes k top) routes) :
    route ∈ routes ∨ ∃ own, top = some own ∧ route = .home k own := by
  have pushed : ∀ {routes : List Route}, route ∈ (top.map (Route.home k)).toList ++ routes →
      route ∈ routes ∨ ∃ own, top = some own ∧ route = .home k own := by
    intro routes there
    rcases List.mem_append.mp there with new | old
    · obtain ⟨own, same, rfl⟩ := Option.map_eq_some_iff.mp (Option.mem_toList.mp new)
      exact .inr ⟨own, same, rfl⟩
    · exact .inl old
  induction effects generalizing routes with
  | nil => exact .inl there
  | cons e rest ih =>
      rcases ih there with before | own
      · cases e with
        | get request => exact .inl before
        | pop => exact .inl (List.mem_of_mem_tail before)
        | showDialog => exact pushed before
        | push urls titles playTime =>
            simp only [Part.homeRoutes] at before
            split at before
            · exact .inl before
            · exact pushed before
      · exact .inr own

/-- A player pushes alerts. -/
theorem mem_playerRoutes {k : Nat} {routes : List Route} {effects : List Media.Effect}
    {route : Route} (there : route ∈ effects.foldl (Part.playerRoutes k) routes) :
    route ∈ routes ∨ ∃ own, route = .player k own := by
  induction effects generalizing routes with
  | nil => exact .inl there
  | cons e rest ih =>
      rcases ih there with before | own
      · cases e with
        | pop => exact .inl (List.mem_of_mem_tail before)
        | showDialog text => exact (List.mem_cons.mp before).symm.imp id (fun new => ⟨_, new⟩)
        | _ => exact .inl before
      · exact .inr own

theorem place_of_owns {k : Nat} {part : Part} {route : Route} (own : part.owns k route = true) :
    route.place? = some k := by
  cases part with
  | entrance s => cases own
  | home w =>
      cases route with
      | home j route => exact congrArg some (beq_iff_eq.mp own)
      | _ => cases own
  | player w =>
      cases route with
      | player j route =>
          by_cases here : j = k
          · exact congrArg some here
          · simp [Part.owns, Route.seenByPlayer, here] at own
      | _ => cases own

/-- The back button takes away the topmost route or none. -/
theorem goBack_eq (k : Nat) (part : Part) (routes : List Route) :
    part.goBack k routes = routes ∨
      ∃ top, routes.head? = some top ∧ part.owns k top = true ∧ part.goBack k routes = routes.tail := by
  cases routes with
  | nil => exact .inl rfl
  | cons top below =>
      cases own : part.owns k top with
      | true => exact .inr ⟨top, rfl, own, if_pos own⟩
      | false => exact .inl (if_neg (by simp [own]))

theorem goBack_sublist (k : Nat) (part : Part) (routes : List Route) :
    (part.goBack k routes).Sublist routes := by
  rcases goBack_eq k part routes with same | ⟨top, -, -, gone⟩
  · rw [same]
  · rw [gone]
    exact List.tail_sublist routes

theorem place_of_pushed {k : Nat} {routes : List Route} {part : Part} {i : PartInput}
    {route : Route} (there : route ∈ (part.step k routes i).1.1) :
    route ∈ routes ∨ route.place? = some k := by
  have steps := Part.steps k routes part i
  generalize part.step k routes i = next at steps there
  cases steps with
  | entrance =>
      refine (mem_entranceRoutes there).imp id ?_
      rintro ⟨own, rfl⟩
      rfl
  | home =>
      refine (mem_homeRoutes there).imp id ?_
      rintro ⟨own, -, rfl⟩
      rfl
  | player =>
      refine (mem_playerRoutes there).imp id ?_
      rintro ⟨own, rfl⟩
      rfl
  | back => exact .inl ((goBack_sublist k _ routes).subset there)
  | passes => exact .inl there

/-- A player starts no screen. -/
theorem starts_none (effects : List Media.Effect) :
    (effects.map PartEffect.player).flatMap Part.starts = [] := by
  rw [List.flatMap_eq_nil_iff]
  intro e out
  obtain ⟨e', -, rfl⟩ := List.mem_map.mp out
  rfl

/-- The route a screen brings when it joins at `k`. -/
inductive Route.Joins (k : Nat) : Route → Prop where
  | home : Joins k (.home k .home)
  | player : Joins k (.player k .player)

theorem mem_joined {s : AppState} {new : List (Part × List PartEffect)} {route : Route}
    (there : route ∈ (app.join s new).1.shared) :
    route ∈ s.shared ∨ ∃ k, route.Joins k ∧ s.members.length ≤ k ∧
      k < s.members.length + new.length := by
  induction new generalizing s with
  | nil => exact .inl there
  | cons begun rest ih =>
      obtain ⟨part, out⟩ := begun
      rcases ih there with before | ⟨k, own, low, high⟩
      · cases part with
        | entrance e => exact .inl before
        | home w =>
            rcases List.mem_cons.mp before with rfl | old
            · exact .inr ⟨_, .home, Nat.le_refl _, by simp⟩
            · exact .inl old
        | player w =>
            rcases List.mem_cons.mp before with rfl | old
            · exact .inr ⟨_, .player, Nat.le_refl _, by simp⟩
            · exact .inl old
      · simp only [Colony.add, List.length_append, List.length_cons, List.length_nil] at low high
        exact .inr ⟨k, own, by omega, by simp only [List.length_cons]; omega⟩

/-! ## One step -/

theorem length_step (s : AppState) (input : AppInput) :
    s.members.length ≤ (app.step s input).1.members.length := by
  obtain ⟨j, i⟩ := input
  cases located : s.members[j]? with
  | none => rw [Colony.step_absent located]
  | some part =>
      rw [Colony.members_of_step located, List.length_append, List.length_set]
      exact Nat.le_add_right _ _

/-- A route on the stack after a step is left there by the screen that stepped, or has
    come with one that has joined. -/
theorem route_of_step {s : AppState} {j : Nat} {part : Part} {i : PartInput} {route : Route}
    (located : s.members[j]? = some part) (there : route ∈ (app.step s (j, i)).1.shared) :
    route ∈ (part.step j s.shared i).1.1 ∨
      ∃ k, route.Joins k ∧ s.members.length ≤ k ∧ k < (app.step s (j, i)).1.members.length := by
  rw [Colony.step_member located] at there
  rcases mem_joined there with before | ⟨k, own, low, high⟩
  · exact .inl before
  · rw [Colony.moved_length] at low high
    refine .inr ⟨k, own, low, ?_⟩
    rw [Colony.members_of_step located, List.length_append, List.length_set, List.length_map]
    exact high

/-- A route that has come in a step is of the screen that stepped or of one that joined. -/
theorem place_of_step {s : AppState} {j : Nat} {i : PartInput} {route : Route}
    (there : route ∈ (app.step s (j, i)).1.shared) :
    route ∈ s.shared ∨ ∃ k, route.place? = some k ∧ (k = j ∨ s.members.length ≤ k) ∧
      k < (app.step s (j, i)).1.members.length := by
  cases located : s.members[j]? with
  | none =>
      rw [Colony.step_absent located] at there
      exact .inl there
  | some part =>
      rcases route_of_step located there with pushed | ⟨k, own, low, high⟩
      · obtain ⟨inside, -⟩ := List.getElem?_eq_some_iff.mp located
        have more := length_step s (j, i)
        exact (place_of_pushed pushed).imp id (fun own => ⟨j, own, .inl rfl, by omega⟩)
      · cases own with
        | home => exact .inr ⟨k, rfl, .inr low, high⟩
        | player => exact .inr ⟨k, rfl, .inr low, high⟩

/-- Each route has been pushed by a screen that is there. -/
def Placed (count : Nat) (routes : List Route) : Prop :=
  ∀ route ∈ routes, ∀ k, route.place? = some k → k < count

theorem placed_step (s : AppState) (input : AppInput)
    (placed : Placed s.members.length s.shared) :
    Placed (app.step s input).1.members.length (app.step s input).1.shared := by
  obtain ⟨j, i⟩ := input
  intro route there k own
  rcases place_of_step there with before | ⟨k', own', -, inside⟩
  · exact Nat.lt_of_lt_of_le (placed route before k own) (length_step s (j, i))
  · rw [own'] at own
    cases own
    exact inside

theorem placed (storage : Option String) (is : List AppInput) :
    Placed (final app.step (opened storage) is).members.length
      (final app.step (opened storage) is).shared := by
  apply final_of_kept placed_step
  intro route there k own
  rw [List.mem_singleton.mp there] at own
  cases own

end Edutopik.App

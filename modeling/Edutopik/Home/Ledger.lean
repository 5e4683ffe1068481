import Mathlib.Data.List.Forall2
import Edutopik.Home.HomeTurns
import Edutopik.Library.History

/-! # Where the messages are

A message that is accepted is one of four things at any time: a question on the stack,
a list that is waited for, a player that was opened, or over. The ledger follows each
message, by its number, from step to step of a run. The questions on the stack, the
pending lists and the players opened are those of its messages one by one, and each
number stands in it once. So no message is forgotten, and none opens two players.
-/

namespace Edutopik.Home

open Dart EventLoop Machine Media

/-! ## What a step says -/

def Reached.preUrl : Reached → String
  | .startPlayer preUrl _ _ | .asyncConfirmDialog preUrl _ _ => preUrl

/-- The message a step takes in, by what it leads to. -/
def received? (f : HomeFired) : Option Reached :=
  match f.input with
  | .event (.message text) => onMessageReceived f.before.shared.uuid text
  | _ => none

/-- The messages accepted so far, in order. -/
def received (past : List HomeFired) : List Reached := past.filterMap received?

def Route.isQuestion : Route → Bool
  | .confirm _ _ _ => true
  | _ => false

/-- A button of the dialog finds a question on top. -/
def questioned (f : HomeFired) : Bool := f.before.shared.navigator.head?.any Route.isQuestion

/-- The list a step is given, for the task that it resumes. -/
def listed? (f : HomeFired) : Option (List String × List String) :=
  match f.input with
  | .resume k reply =>
      match f.before.tasks[k]? with
      | some (.awaitingList preUrl _) => reply.object.bind (makeUrlList preUrl)
      | none => none
  | _ => none

def Effect.opened? : Effect → Option PlayTime
  | .push _ _ playTime => some playTime
  | _ => none

/-- The records of the players opened, in order. -/
def players (effects : List Effect) : List PlayTime := effects.filterMap Effect.opened?

/-! ## The ledger -/

/-- Where the messages are, each under its number in the order in which they came. -/
structure Ledger where
  next : Nat := 0
  /-- Those of the questions on the stack, topmost first. -/
  asked : List Nat := []
  /-- Those of the pending tasks, in their order. -/
  awaited : List Nat := []
  /-- Those that have opened a player, once for each player. -/
  opened : List Nat := []
  /-- Those answered with no, or with what is no list. -/
  ended : List Nat := []

namespace Ledger

/-- A message that comes in gets the next number. -/
def comes (l : Ledger) : Reached → Ledger
  | .startPlayer _ _ _ => { l with next := l.next + 1, awaited := l.awaited ++ [l.next] }
  | .asyncConfirmDialog _ _ _ => { l with next := l.next + 1, asked := l.next :: l.asked }

def book (l : Ledger) (f : HomeFired) : Ledger :=
  match f.input with
  | .event (.message _) => (received? f).elim l l.comes
  | .event .declines =>
      if questioned f then
        { l with asked := l.asked.tail, ended := l.ended ++ l.asked.head?.toList }
      else l
  | .event .confirms =>
      if questioned f then
        { l with asked := l.asked.tail, awaited := l.awaited ++ l.asked.head?.toList }
      else l
  | .event .playerLeaves => l
  | .resume k _ =>
      match l.awaited[k]? with
      | none => l
      | some n =>
          { l with
            awaited := replaceAt k [] l.awaited
            opened := l.opened ++ (players f.effects).map fun _ => n
            ended := l.ended ++ if (listed? f).isSome then [] else [n] }

/-- What is booked of the steps so far. -/
def of (past : List HomeFired) : Ledger := past.foldl book {}

end Ledger

/-- The question is that of the message. -/
def AskedBy (messages : List Reached) (n : Nat) (route : Route) : Prop :=
  ∃ preUrl listUrl playTime, messages[n]? = some (.asyncConfirmDialog preUrl listUrl playTime) ∧
    route = .confirm preUrl listUrl playTime

def AwaitedBy (messages : List Reached) (n : Nat) (task : Task) : Prop :=
  ∃ reached, messages[n]? = some reached ∧ task = .awaitingList reached.preUrl reached.playTime

def OpenedBy (messages : List Reached) (n : Nat) (playTime : PlayTime) : Prop :=
  ∃ reached, messages[n]? = some reached ∧ playTime = reached.playTime

/-- The ledger is right: each message stands in it once, and what it says of the page and
    of what was let out is so. -/
structure Ledger.Right (past : List HomeFired) (w : HomeWorld) (l : Ledger) : Prop where
  next : l.next = (received past).length
  once : (l.asked ++ l.awaited ++ l.opened ++ l.ended).Perm (List.range l.next)
  asked : List.Forall₂ (AskedBy (received past)) l.asked (w.shared.navigator.filter Route.isQuestion)
  awaited : List.Forall₂ (AwaitedBy (received past)) l.awaited w.tasks
  opened : List.Forall₂ (OpenedBy (received past)) l.opened (players (past.flatMap Fired.effects))

/-! ## One step -/

section Steps

variable {messages : List Reached} {past : List HomeFired} {w : HomeWorld} {l : Ledger} {f : HomeFired}

theorem received_append (past : List HomeFired) (f : HomeFired) :
    received (past ++ [f]) = received past ++ (received? f).toList := by
  rw [received, List.filterMap_append]
  cases same : received? f <;> simp [received, same]

theorem players_append (past : List HomeFired) (f : HomeFired) :
    players ((past ++ [f]).flatMap Fired.effects) =
      players (past.flatMap Fired.effects) ++ players f.effects := by
  simp [players, List.filterMap_append]

theorem getElem?_more {n : Nat} {reached : Reached} (known : messages[n]? = some reached)
    (new : List Reached) : (messages ++ new)[n]? = some reached :=
  (List.getElem?_append_left (List.getElem?_eq_some_iff.mp known).1).trans known

theorem AskedBy.more {n : Nat} {route : Route} (asked : AskedBy messages n route) (new : List Reached) :
    AskedBy (messages ++ new) n route := by
  obtain ⟨preUrl, listUrl, playTime, known, same⟩ := asked
  exact ⟨preUrl, listUrl, playTime, getElem?_more known new, same⟩

theorem AwaitedBy.more {n : Nat} {task : Task} (awaited : AwaitedBy messages n task)
    (new : List Reached) : AwaitedBy (messages ++ new) n task := by
  obtain ⟨reached, known, same⟩ := awaited
  exact ⟨reached, getElem?_more known new, same⟩

theorem OpenedBy.more {n : Nat} {playTime : PlayTime} (opened : OpenedBy messages n playTime)
    (new : List Reached) : OpenedBy (messages ++ new) n playTime := by
  obtain ⟨reached, known, same⟩ := opened
  exact ⟨reached, getElem?_more known new, same⟩

/-- What stands at a place on one side stands there for its match on the other. -/
theorem exists_matched {α β : Type} {R : α → β → Prop} {xs : List α} {ys : List β}
    (matched : List.Forall₂ R xs ys) {k : Nat} {y : β} (located : ys[k]? = some y) :
    ∃ x, xs[k]? = some x ∧ R x y := by
  induction matched generalizing k with
  | nil => simp at located
  | @cons x y' xs ys related _ ih =>
      cases k with
      | zero =>
          cases located
          exact ⟨x, rfl, related⟩
      | succ k => exact ih located

theorem forall₂_replaceAt_nil {α β : Type} {R : α → β → Prop} {xs : List α} {ys : List β}
    (matched : List.Forall₂ R xs ys) (k : Nat) :
    List.Forall₂ R (replaceAt k [] xs) (replaceAt k [] ys) := by
  simp only [replaceAt, List.append_nil]
  exact List.rel_append (List.forall₂_take k matched) (List.forall₂_drop (k + 1) matched)

theorem count_replaceAt_nil {k n : Nat} {numbers : List Nat} (located : numbers[k]? = some n) (m : Nat) :
    (replaceAt k [] numbers).count m + [n].count m = numbers.count m := by
  obtain ⟨front, back, rfl, -, replaced⟩ := exists_split located
  simp only [replaced, List.count_append, List.count_cons, List.count_nil]
  omega

/-- A step that takes in no message and opens no player leaves the messages as they are. -/
theorem Ledger.Right.quiet (right : l.Right past w) {w' : HomeWorld} {l' : Ledger}
    (unheard : received? f = none) (silent : players f.effects = []) (next : l'.next = l.next)
    (opened : l'.opened = l.opened)
    (moved : (l'.asked ++ l'.awaited ++ l'.ended).Perm (l.asked ++ l.awaited ++ l.ended))
    (asked : List.Forall₂ (AskedBy (received past)) l'.asked
      (w'.shared.navigator.filter Route.isQuestion))
    (awaited : List.Forall₂ (AwaitedBy (received past)) l'.awaited w'.tasks) :
    l'.Right (past ++ [f]) w' := by
  have messages : received (past ++ [f]) = received past := by simp [received_append, unheard]
  refine ⟨?_, ?_, messages ▸ asked, messages ▸ awaited, ?_⟩
  · rw [next, messages]
    exact right.next
  · rw [next]
    apply List.Perm.trans _ right.once
    rw [opened]
    apply List.perm_iff_count.mpr
    intro m
    have same := List.perm_iff_count.mp moved m
    simp only [List.count_append] at same ⊢
    omega
  · rw [players_append, silent, List.append_nil, opened, messages]
    exact right.opened

/-- A message comes in, and stands for what it leads to. -/
theorem Ledger.Right.comes (right : l.Right past w) {w' : HomeWorld} {reached : Reached}
    (heard : received? f = some reached) (silent : players f.effects = [])
    (asked : List.Forall₂ (AskedBy (received past ++ [reached])) (l.comes reached).asked
      (w'.shared.navigator.filter Route.isQuestion))
    (awaited : List.Forall₂ (AwaitedBy (received past ++ [reached])) (l.comes reached).awaited w'.tasks) :
    (l.comes reached).Right (past ++ [f]) w' := by
  have messages : received (past ++ [f]) = received past ++ [reached] := by
    simp [received_append, heard]
  refine ⟨?_, ?_, messages ▸ asked, messages ▸ awaited, ?_⟩
  · rw [messages, List.length_append, List.length_singleton, ← right.next]
    cases reached <;> rfl
  · apply List.perm_iff_count.mpr
    intro m
    have before := List.perm_iff_count.mp right.once m
    cases reached with
    | startPlayer preUrl listUrl playTime =>
        simp only [Ledger.comes, List.range_succ, List.count_append, List.count_cons,
          List.count_nil] at before ⊢
        omega
    | asyncConfirmDialog preUrl listUrl playTime =>
        simp only [Ledger.comes, List.range_succ, List.count_append, List.count_cons,
          List.count_nil] at before ⊢
        omega
  · rw [players_append, silent, List.append_nil, messages]
    have opened := right.opened.imp fun _ _ own => OpenedBy.more own [reached]
    cases reached <;> exact opened

/-- A reply is taken by the message whose task it resumes. -/
theorem Ledger.Right.answered (right : l.Right past w) {w' : HomeWorld} {k : Nat} {reply : Reply}
    {task : Task} (input : f.input = .resume k reply) (located : w.tasks[k]? = some task)
    {pushed : Option PlayTime} (letOut : players f.effects = pushed.toList)
    (listed : (listed? f).isSome = pushed.isSome)
    (own : ∀ playTime, pushed = some playTime → ∃ preUrl, task = .awaitingList preUrl playTime)
    (navigator : w'.shared.navigator.filter Route.isQuestion =
      w.shared.navigator.filter Route.isQuestion)
    (tasks : w'.tasks = replaceAt k [] w.tasks) : (l.book f).Right (past ++ [f]) w' := by
  obtain ⟨n, place, reached, known, awaits⟩ := exists_matched right.awaited located
  have unheard : received? f = none := by simp [received?, input]
  have messages : received (past ++ [f]) = received past := by simp [received_append, unheard]
  have booked : l.book f =
      { l with
        awaited := replaceAt k [] l.awaited
        opened := l.opened ++ pushed.toList.map fun _ => n
        ended := l.ended ++ if pushed.isSome then [] else [n] } := by
    simp [Ledger.book, input, place, letOut, listed]
  rw [booked]
  refine ⟨?_, ?_, ?_, ?_, ?_⟩
  · rw [messages]
    exact right.next
  · apply List.perm_iff_count.mpr
    intro m
    have before := List.perm_iff_count.mp right.once m
    have removed := count_replaceAt_nil place m
    cases pushed with
    | none =>
        simp only [List.count_append, Option.toList_none, List.map_nil, List.count_nil,
          Option.isSome_none, Bool.false_eq_true, if_false] at before ⊢
        omega
    | some playTime =>
        simp only [List.count_append, Option.toList_some, List.map_cons, List.map_nil, List.count_nil,
          Option.isSome_some, if_true] at before ⊢
        omega
  · rw [messages, navigator]
    exact right.asked
  · rw [messages, tasks]
    exact forall₂_replaceAt_nil right.awaited k
  · rw [messages, players_append, letOut]
    apply List.rel_append right.opened
    cases pushed with
    | none => exact .nil
    | some playTime =>
        obtain ⟨preUrl, same⟩ := own playTime rfl
        rw [same, Task.awaitingList.injEq] at awaits
        exact .cons ⟨reached, known, awaits.2⟩ .nil

/-- A step that does nothing is not booked. -/
theorem book_idle (right : l.Right past w) (before : f.before = w) (unheard : received? f = none)
    (noQuestion : ∀ preUrl listUrl playTime rest,
      w.shared.navigator = .confirm preUrl listUrl playTime :: rest →
        f.input ≠ .event .declines ∧ f.input ≠ .event .confirms)
    (nothing : ∀ k reply, f.input = .resume k reply → w.tasks[k]? = none) : l.book f = l := by
  have unasked : f.input = .event .declines ∨ f.input = .event .confirms → questioned f = false := by
    intro button
    rw [questioned, before]
    cases top : w.shared.navigator with
    | nil => rfl
    | cons route rest =>
        cases route with
        | confirm preUrl listUrl playTime =>
            have other := noQuestion preUrl listUrl playTime rest top
            exact absurd button (not_or.mpr other)
        | _ => rfl
  unfold Ledger.book
  split
  · rw [unheard, Option.elim_none]
  · rename_i button
    simp [unasked (.inl button)]
  · rename_i button
    simp [unasked (.inr button)]
  · rfl
  · rename_i k reply input
    have beyond := List.getElem?_eq_none_iff.mp (nothing k reply input)
    rw [← right.awaited.length_eq] at beyond
    rw [List.getElem?_eq_none beyond]

/-- A question that is answered hands its message on. -/
theorem exists_asked (right : l.Right past w) {preUrl listUrl : String} {playTime : PlayTime}
    {rest : List Route} (top : w.shared.navigator = .confirm preUrl listUrl playTime :: rest) :
    ∃ n asked, l.asked = n :: asked ∧
      (received past)[n]? = some (.asyncConfirmDialog preUrl listUrl playTime) ∧
        List.Forall₂ (AskedBy (received past)) asked (rest.filter Route.isQuestion) := by
  have shown := right.asked
  rw [top, List.filter_cons_of_pos rfl] at shown
  generalize l.asked = numbers at shown
  cases shown with
  | @cons n _ asked _ first later =>
      obtain ⟨preUrl', listUrl', playTime', known, same⟩ := first
      cases same
      exact ⟨n, asked, rfl, known, later⟩

end Steps

/-- What is booked of a step is right after it. -/
theorem ledger_step (past : List HomeFired) (w : HomeWorld) (i : HomeInput) (l : Ledger)
    (right : l.Right past w) :
    (l.book (fire homeScreen.step w i)).Right (past ++ [fire homeScreen.step w i])
      (homeScreen.step w i).1 := by
  have turn := homeTurn w i
  have before : (fire homeScreen.step w i).before = w := rfl
  have input : (fire homeScreen.step w i).input = i := rfl
  have effects : (fire homeScreen.step w i).effects = (homeScreen.step w i).2 := rfl
  generalize fire homeScreen.step w i = f at *
  generalize homeScreen.step w i = next at turn effects
  cases turn with
  | idle raises noQuestion nothing =>
      have unheard : received? f = none := by
        unfold received?
        split
        · rename_i text same
          rw [before]
          exact raises text (input.symm.trans same)
        · rfl
      rw [← input] at noQuestion nothing
      rw [book_idle right before unheard noQuestion nothing]
      exact right.quiet unheard (by simp [effects, players]) rfl rfl (List.Perm.refl _) right.asked
        right.awaited
  | @asks text preUrl listUrl playTime accepted =>
      have heard : received? f = some (.startPlayer preUrl listUrl playTime) := by
        simp only [received?, input, before, accepted]
      have booked : l.book f = l.comes (.startPlayer preUrl listUrl playTime) := by
        simp [Ledger.book, input, heard]
      have known : (received past ++ [Reached.startPlayer preUrl listUrl playTime])[l.next]? =
          some (.startPlayer preUrl listUrl playTime) := by simp [right.next]
      rw [booked]
      apply right.comes heard (by simp [effects, players, Effect.opened?])
      · exact right.asked.imp fun _ _ own => own.more _
      · apply List.rel_append (right.awaited.imp fun _ _ own => own.more _)
        exact .cons ⟨_, known, rfl⟩ .nil
  | @questions text preUrl listUrl playTime accepted =>
      have heard : received? f = some (.asyncConfirmDialog preUrl listUrl playTime) := by
        simp only [received?, input, before, accepted]
      have booked : l.book f = l.comes (.asyncConfirmDialog preUrl listUrl playTime) := by
        simp [Ledger.book, input, heard]
      have known : (received past ++ [Reached.asyncConfirmDialog preUrl listUrl playTime])[l.next]? =
          some (.asyncConfirmDialog preUrl listUrl playTime) := by simp [right.next]
      rw [booked]
      apply right.comes heard (by simp [effects, players, Effect.opened?])
      · exact .cons ⟨_, _, _, known, rfl⟩ (right.asked.imp fun _ _ own => own.more _)
      · exact right.awaited.imp fun _ _ own => own.more _
  | @declines preUrl listUrl playTime rest top =>
      obtain ⟨n, asked, numbers, -, later⟩ := exists_asked right top
      have booked : l.book f = { l with asked := asked, ended := l.ended ++ [n] } := by
        simp [Ledger.book, input, questioned, before, top, Route.isQuestion, numbers]
      have unheard : received? f = none := by simp [received?, input]
      have silent : players f.effects = [] := by simp [effects, players, Effect.opened?]
      rw [booked]
      refine right.quiet unheard silent rfl rfl ?_ later right.awaited
      rw [numbers]
      apply List.perm_iff_count.mpr
      intro m
      simp only [List.count_append, List.count_cons, List.count_nil]
      omega
  | @confirms preUrl listUrl playTime rest top =>
      obtain ⟨n, asked, numbers, known, later⟩ := exists_asked right top
      have booked : l.book f = { l with asked := asked, awaited := l.awaited ++ [n] } := by
        simp [Ledger.book, input, questioned, before, top, Route.isQuestion, numbers]
      have unheard : received? f = none := by simp [received?, input]
      have silent : players f.effects = [] := by simp [effects, players, Effect.opened?]
      have waits := List.rel_append right.awaited (.cons ⟨_, known, rfl⟩ .nil)
      rw [booked]
      refine right.quiet unheard silent rfl rfl ?_ later waits
      rw [numbers]
      apply List.perm_iff_count.mpr
      intro m
      simp only [List.count_append, List.count_cons, List.count_nil]
      omega
  | @leaves urls titles playTime rest top =>
      have booked : l.book f = l := by simp [Ledger.book, input]
      have unheard : received? f = none := by simp [received?, input]
      have silent : players f.effects = [] := by simp [effects, players]
      have shown := right.asked
      rw [top, List.filter_cons_of_neg (by simp [Route.isQuestion])] at shown
      rw [booked]
      exact right.quiet unheard silent rfl rfl (List.Perm.refl _) shown right.awaited
  | @drops k reply preUrl playTime located unlisted =>
      have noList : listed? f = none := by simp [listed?, input, before, located, unlisted]
      have letOut : players f.effects = (none : Option PlayTime).toList := by simp [effects, players]
      apply right.answered input located letOut
      · rw [noList]
        rfl
      · exact nofun
      · rfl
      · rfl
  | @pushes k reply res preUrl urls titles playTime located answer made =>
      have lists : listed? f = some (urls, titles) := by
        simp [listed?, input, before, located, answer, made]
      have letOut : players f.effects = (some playTime).toList := by
        simp [effects, players, Effect.opened?]
      apply right.answered input located letOut
      · rw [lists]
        rfl
      · intro playTime' same
        cases same
        exact ⟨preUrl, rfl⟩
      · simp [HomeScreen.routed, Route.isQuestion]
      · rfl

/-- In every run of a home page the ledger is right: every message accepted is a question
    on the stack, a list waited for, one player opened, or over, and only one of them. -/
theorem messages_accounted (email uuid : String) (is : List HomeInput) :
    (Ledger.of (run homeScreen.step (HomeScreen.opened email uuid) is)).Right
      (run homeScreen.step (HomeScreen.opened email uuid) is)
        (final homeScreen.step (HomeScreen.opened email uuid) is) := by
  have start : (Ledger.of []).Right [] (HomeScreen.opened email uuid) :=
    ⟨rfl, List.Perm.refl _, .nil, .nil, .nil⟩
  have keeps : ∀ past w i, (Ledger.of past).Right past w →
      (Ledger.of (past ++ [fire homeScreen.step w i])).Right (past ++ [fire homeScreen.step w i])
        (homeScreen.step w i).1 := by
    intro past w i right
    rw [Ledger.of, List.foldl_append]
    exact ledger_step past w i _ right
  exact @history_of_kept _ _ _ _ (fun past w => (Ledger.of past).Right past w) keeps _ start is

end Edutopik.Home

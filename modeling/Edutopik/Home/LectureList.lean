import Edutopik.Home.ChannelMessage
import Edutopik.Media.LectureCount

/-! # The lecture asked for and the lectures listed

The number of the lecture comes with the page's message, the lectures and their
titles come with the server's reply, and the lengths are never compared. A player
finds its video and its titles, now and after any run, exactly if the number is
one of the list and there are titles enough.
-/

namespace Edutopik.Home

open Dart EventLoop Machine Media

/-- A player opened with these lists shows a video and a title, and it shows one
    after everything that can happen to it. -/
structure Opens (urls titles : List String) (playTime : PlayTime) : Prop where
  video : (Dart.index urls (playTime.lmNum - 1)).isSome
  title : (Dart.index titles (playTime.lmNum - 1)).isSome
  opened : ∃ w, Player.initState urls titles playTime = some w ∧
    ∀ is, (final mediaControl.step w is).shared.dataManager.getTitle.isSome

/-- A step opens no player that would raise. -/
def PushesOpen (f : Fired HomeWorld HomeInput Effect) : Prop :=
  ∀ urls titles playTime, Effect.push urls titles playTime ∈ f.effects → Opens urls titles playTime

/-- The lecture is one of the list, and there is a title for each: asked only of a
    reply whose two fields are lists of strings. -/
def Fits (playTime : PlayTime) (res : JsonObject) : Prop :=
  ∀ data title : List String, res.get "data" = .array (data.map .string) →
    res.get "title" = .array (title.map .string) →
      1 ≤ playTime.lmNum ∧ playTime.lmNum ≤ data.length ∧ data.length ≤ title.length

def ListFits (w : HomeWorld) : HomeInput → Prop
  | .event _ => True
  | .resume k reply => ∀ preUrl playTime res,
      w.tasks[k]? = some (.awaitingList preUrl playTime) → reply.object = some res → Fits playTime res

/-! ## The reply -/

theorem mapM_toText_iff {β : Type} (write : String → β) (values : List Json) (written : List β) :
    (values.mapM fun value => value.toText.map write) = some written ↔
      ∃ texts : List String, values = texts.map .string ∧ written = texts.map write := by
  induction values generalizing written with
  | nil =>
      simp only [List.mapM_nil, Option.pure_def, Option.some.injEq]
      constructor
      · intro same
        exact ⟨[], rfl, same.symm⟩
      · intro shape
        obtain ⟨texts, none, rfl⟩ := shape
        rw [List.map_eq_nil_iff.mp none.symm]
        rfl
  | cons value rest ih =>
      simp only [List.mapM_cons, Option.bind_eq_bind, Option.bind_eq_some_iff,
        Option.map_eq_some_iff, Json.toText_eq_some_iff]
      constructor
      · intro read
        obtain ⟨_, ⟨text, isText, rfl⟩, later, readRest, same⟩ := read
        obtain ⟨texts, restShape, rfl⟩ := (ih later).mp readRest
        refine ⟨text :: texts, by rw [isText, restShape]; rfl, ?_⟩
        simpa using same.symm
      · intro shape
        obtain ⟨texts, valuesShape, rfl⟩ := shape
        cases texts with
        | nil => simp at valuesShape
        | cons text texts =>
            simp only [List.map_cons, List.cons.injEq] at valuesShape
            obtain ⟨isText, restShape⟩ := valuesShape
            exact ⟨_, ⟨text, isText, rfl⟩, texts.map write, (ih _).mpr ⟨texts, restShape, rfl⟩, rfl⟩

/-- What `makeUrlList` makes of two lists of strings, and of nothing else. -/
theorem makeUrlList_eq_some_iff {preUrl : String} {res : JsonObject} {urls titles : List String} :
    makeUrlList preUrl res = some (urls, titles) ↔
      ∃ data : List String, res.get "data" = .array (data.map .string) ∧
        res.get "title" = .array (titles.map .string) ∧
          urls = data.map (preUrl ++ "/" ++ ·) := by
  have titlesRead : ∀ values : List Json, values.mapM Json.toText = some titles ↔
      values = titles.map .string := by
    intro values
    have read := mapM_toText_iff id values titles
    simp only [Option.map_id_fun, id_eq, List.map_id_fun] at read
    rw [read]
    constructor
    · intro shape
      obtain ⟨texts, rfl, rfl⟩ := shape
      rfl
    · intro shape
      exact ⟨titles, shape, rfl⟩
  constructor
  · intro made
    unfold makeUrlList at made
    split at made
    · rename_i data title dataField titleField
      simp only [Option.bind_eq_bind, Option.bind_eq_some_iff, mapM_toText_iff] at made
      obtain ⟨_, ⟨texts, rfl, rfl⟩, _, titlesShape, same⟩ := made
      cases same
      exact ⟨texts, dataField, by rw [titleField, (titlesRead title).mp titlesShape], rfl⟩
    · contradiction
  · intro shape
    obtain ⟨data, dataField, titleField, rfl⟩ := shape
    have urlsRead := (mapM_toText_iff (preUrl ++ "/" ++ ·) _ _).mpr ⟨data, rfl, rfl⟩
    simp only [makeUrlList, dataField, titleField, urlsRead, (titlesRead _).mpr rfl,
      Option.bind_eq_bind, Option.bind_some]

/-! ## The player's lists

No turn changes them, and the button for the next lecture leads to the last one. -/

/-- The lists a skip leaves. -/
theorem skipToNextVideo_lists (dm : DataManager) (duration : Option Duration) :
    (dm.skipToNextVideo duration).1.urls = dm.urls ∧
      (dm.skipToNextVideo duration).1.titles = dm.titles := by
  unfold DataManager.skipToNextVideo
  split
  · split <;> exact ⟨rfl, rfl⟩
  · exact ⟨rfl, rfl⟩

theorem skipToPreviousVideo_lists (dm : DataManager) :
    dm.skipToPreviousVideo.1.urls = dm.urls ∧ dm.skipToPreviousVideo.1.titles = dm.titles := by
  unfold DataManager.skipToPreviousVideo
  split
  · dsimp only
    split <;> exact ⟨rfl, rfl⟩
  · exact ⟨rfl, rfl⟩

theorem lists_step (w : Player) (i : PlayerInput) :
    (mediaControl.step w i).1.shared.dataManager.urls = w.shared.dataManager.urls ∧
      (mediaControl.step w i).1.shared.dataManager.titles = w.shared.dataManager.titles := by
  obtain ⟨turn, tasks, taken, -, kind⟩ := exists_playerTurn w i
  rw [taken]
  cases kind with
  | quiet _ quiet => simp only [quiet.dataManager, and_self]
  | previous _ =>
      rw [State.previousPressed, State.skipPressed_dataManager]
      exact skipToPreviousVideo_lists _
  | next _ =>
      rw [State.nextPressed, State.skipPressed_dataManager]
      exact skipToNextVideo_lists _ none
  | videoEnd _ =>
      rw [State.onVideoEnd_dataManager]
      exact skipToNextVideo_lists _ _

/-- The index is one of the urls, and there are at least as many titles. -/
structure Titled (w : Player) : Prop where
  located : w.shared.Located
  enough : w.shared.dataManager.urls.length ≤ w.shared.dataManager.titles.length

theorem titled_step (w : Player) (i : PlayerInput) (titled : Titled w) :
    Titled (mediaControl.step w i).1 := by
  obtain ⟨sameUrls, sameTitles⟩ := lists_step w i
  refine ⟨located_step w i titled.located, ?_⟩
  rw [sameUrls, sameTitles]
  exact titled.enough

theorem Titled.getTitle {w : Player} (titled : Titled w) : w.shared.dataManager.getTitle.isSome := by
  obtain ⟨n, c, here⟩ := titled.located
  have enough := titled.enough
  have inRange := c.inRange
  rw [DataManager.getTitle, index_isSome_iff, here.place]
  have length := here.length
  omega

/-- The button for the next lecture, where there is one. -/
theorem next_step {w : Player} {n : Nat} {c : Cursor n} (here : w.shared.dataManager.At c)
    (onTop : w.shared.onTop = true) :
    (mediaControl.step w (.event .next)).1.shared.dataManager.At c.next ∧
      (mediaControl.step w (.event .next)).1.shared.onTop = true := by
  have reached : w.shared.react .next = w.shared.nextPressed := if_pos onTop
  have sameRoutes : w.shared.nextPressed.shared.navigator = w.shared.navigator :=
    (State.skipPressed_place w.shared 1 _).1
  rw [step_event]
  simp only [mediaControl, reached]
  constructor
  · rw [State.nextPressed, State.skipPressed_dataManager]
    exact DataManager.skipToNextVideo_at here none
  · rw [State.onTop, sameRoutes]
    exact onTop

/-- Every later lecture is reached by pressing on. -/
theorem exists_reaches {w : Player} {n : Nat} {c : Cursor n} (here : w.shared.dataManager.At c)
    (onTop : w.shared.onTop = true) (ahead : Nat) (inside : c.place + ahead < n) :
    ∃ is, (final mediaControl.step w is).shared.dataManager.currentPlaying = c.place + ahead ∧
      (final mediaControl.step w is).shared.dataManager.titles = w.shared.dataManager.titles := by
  induction ahead generalizing w c with
  | zero => exact ⟨[], by simpa using here.place, rfl⟩
  | succ k ih =>
      have more : c.HasNext := by
        unfold Cursor.HasNext
        omega
      have place := Cursor.next_place more
      obtain ⟨there, stillOnTop⟩ := next_step here onTop
      obtain ⟨is, reached, sameTitles⟩ := ih there stillOnTop (by omega)
      refine ⟨.event .next :: is, ?_, ?_⟩
      · rw [final_cons, reached]
        omega
      · rw [final_cons, sameTitles]
        exact (lists_step w (.event .next)).2

theorem opens_iff (urls titles : List String) (playTime : PlayTime) :
    Opens urls titles playTime ↔
      1 ≤ playTime.lmNum ∧ playTime.lmNum ≤ urls.length ∧ urls.length ≤ titles.length := by
  constructor
  · intro opens
    obtain ⟨w, opened, titled⟩ := opens.opened
    have bounds := initState_eq_some_iff.mp (Option.isSome_of_eq_some opened)
    obtain ⟨n, c, here⟩ := (initState_counts opened).located
    obtain ⟨record, list, -⟩ := initState_shared opened
    have route := (initState_route opened).1
    have length : urls.length = n := by
      have same := here.length
      rw [list] at same
      exact same
    have inRange := c.inRange
    have last : c.place + (n - 1 - c.place) < n := by omega
    obtain ⟨is, reached, sameTitles⟩ := exists_reaches here (by simp [State.onTop, route]) _ last
    have shown := (index_isSome_iff _ _).mp (titled is)
    rw [reached, sameTitles, list] at shown
    have ending : (c.place : Int) + (n - 1 - c.place : Nat) < titles.length := shown.2
    omega
  · intro bounds
    have succeeds : (Player.initState urls titles playTime).isSome :=
      initState_eq_some_iff.mpr ⟨bounds.1, bounds.2.1⟩
    obtain ⟨w, opened⟩ := Option.isSome_iff_exists.mp succeeds
    obtain ⟨record, list, -⟩ := initState_shared opened
    have start : Titled w := ⟨(initState_counts opened).located, by rw [list]; exact bounds.2.2⟩
    have always := final_of_kept titled_step start
    exact
      { video := (index_isSome_iff _ _).mpr (by omega)
        title := (index_isSome_iff _ _).mpr (by omega)
        opened := ⟨w, opened, fun is => (always is).getTitle⟩ }

/-! ## Runs of the home screen -/

/-- Only the reply with the list of lectures opens a player. -/
theorem push_mem_iff {w : HomeWorld} {k : Nat} {reply : Reply} {urls titles : List String}
    {playTime : PlayTime} :
    Effect.push urls titles playTime ∈ (homeScreen.step w (.resume k reply)).2 ↔
      ∃ preUrl res, w.tasks[k]? = some (.awaitingList preUrl playTime) ∧ reply.object = some res ∧
        makeUrlList preUrl res = some (urls, titles) := by
  cases located : w.tasks[k]? with
  | none => simp [step_idle homeScreen located]
  | some task =>
      obtain ⟨preUrl, asked⟩ := task
      rw [step_resume homeScreen located]
      cases answer : reply.object with
      | none => simp [homeScreen, HomeScreen.resume, answer, HomeScreen.idle]
      | some res =>
          simp only [homeScreen, HomeScreen.resume, answer, HomeScreen.listAnswered]
          cases made : makeUrlList preUrl res with
          | none =>
              simp only [HomeScreen.idle, List.not_mem_nil, false_iff]
              intro shape
              obtain ⟨preUrl', res', same, sameRes, made'⟩ := shape
              cases same
              cases sameRes
              rw [made] at made'
              contradiction
          | some lists =>
              obtain ⟨urls', titles'⟩ := lists
              simp only [List.mem_singleton, Effect.push.injEq]
              constructor
              · intro same
                obtain ⟨rfl, rfl, rfl⟩ := same
                exact ⟨preUrl, res, rfl, rfl, made⟩
              · intro shape
                obtain ⟨preUrl', res', same, sameRes, made'⟩ := shape
                cases same
                cases sameRes
                rw [made] at made'
                cases made'
                exact ⟨rfl, rfl, rfl⟩

theorem not_push_of_react (home : HomeScreen) (e : Event) (urls titles : List String)
    (playTime : PlayTime) : Effect.push urls titles playTime ∉ (home.react e).effects := by
  cases e with
  | message text =>
      simp only [HomeScreen.react]
      split
      · simp [HomeScreen.idle]
      · rename_i reached _
        cases reached <;> simp [HomeScreen.reach, HomeScreen.startPlayer, HomeScreen.asyncConfirmDialog]
  | declines =>
      simp only [HomeScreen.react]
      split <;> simp [HomeScreen.idle]
  | confirms =>
      simp only [HomeScreen.react]
      split <;> simp [HomeScreen.idle, HomeScreen.startPlayer]
  | playerLeaves =>
      simp only [HomeScreen.react]
      split <;> simp [HomeScreen.idle]

/-- A reply fits exactly if every list made of it opens a player that never raises. -/
theorem fits_iff (preUrl : String) (playTime : PlayTime) (res : JsonObject) :
    Fits playTime res ↔ ∀ urls titles, makeUrlList preUrl res = some (urls, titles) →
      Opens urls titles playTime := by
  constructor
  · intro fits urls titles made
    obtain ⟨data, dataField, titleField, rfl⟩ := makeUrlList_eq_some_iff.mp made
    rw [opens_iff, List.length_map]
    exact fits data titles dataField titleField
  · intro opens data title dataField titleField
    have made : makeUrlList preUrl res = some (data.map (preUrl ++ "/" ++ ·), title) :=
      makeUrlList_eq_some_iff.mpr ⟨data, dataField, titleField, rfl⟩
    have bounds := (opens_iff _ _ _).mp (opens _ _ made)
    rw [List.length_map] at bounds
    exact bounds

theorem pushesOpen_iff_listFits (w : HomeWorld) (i : HomeInput) :
    PushesOpen (fire homeScreen.step w i) ↔ ListFits w i := by
  cases i with
  | event e =>
      apply iff_of_true _ trivial
      intro urls titles playTime pushed
      exact absurd pushed (not_push_of_react w.shared e urls titles playTime)
  | resume k reply =>
      constructor
      · intro opens preUrl playTime res pending answer
        rw [fits_iff preUrl]
        intro urls titles made
        exact opens urls titles playTime (push_mem_iff.mpr ⟨preUrl, res, pending, answer, made⟩)
      · intro fits urls titles playTime pushed
        obtain ⟨preUrl, res, pending, answer, made⟩ := push_mem_iff.mp pushed
        exact (fits_iff preUrl playTime res).mp (fits preUrl playTime res pending answer) urls titles made

/-- In every run of the home screen, whatever the messages and the replies are, each
    player it opens has its video and a title, and has one after any run of its own,
    exactly if every list that arrives has a place for the lecture asked for and a
    title for each lecture. -/
theorem players_open_iff (email uuid : String) (is : List HomeInput) :
    (∀ f ∈ run homeScreen.step (HomeScreen.opened email uuid) is, PushesOpen f) ↔
      ∀ f ∈ run homeScreen.step (HomeScreen.opened email uuid) is, ListFits f.before f.input := by
  apply forall₂_congr
  intro f member
  rw [eq_fire_of_mem _ member]
  exact pushesOpen_iff_listFits f.before f.input

/-- A list of one lecture. -/
def oneLecture : Reply :=
  .answered 200 (some (.object
    [("data", .array [.string "1.mp4"]), ("title", .array [.string "1강"])]))

/-- The page asks for the ninth lecture, and the server lists one. -/
theorem ninthOfOne_pushed :
    ∃ f ∈ run homeScreen.step (HomeScreen.opened "kim@edutopik.com" "device-a")
        [.event (.message (String.intercalate "&" sampleFields)), .resume 0 oneLecture],
      ∃ urls titles playTime, Effect.push urls titles playTime ∈ f.effects ∧
        Player.initState urls titles playTime = none := by
  have asked : (homeScreen.step (HomeScreen.opened "kim@edutopik.com" "device-a")
      (.event (.message (String.intercalate "&" sampleFields)))).1.tasks =
        [.awaitingList "https://v.edutopik2.com" ninthRecord] := by
    rw [step_event, react_message (HomeScreen.opened "kim@edutopik.com" "device-a").shared
      sampleFields_reached]
    rfl
  have made : makeUrlList "https://v.edutopik2.com"
      [("data", .array [.string "1.mp4"]), ("title", .array [.string "1강"])] =
        some (["https://v.edutopik2.com" ++ "/" ++ "1.mp4"], ["1강"]) := rfl
  refine ⟨_, List.mem_cons_of_mem _ List.mem_cons_self,
    ["https://v.edutopik2.com" ++ "/" ++ "1.mp4"], ["1강"], ninthRecord, ?_, rfl⟩
  rw [fire_effects, push_mem_iff, asked]
  exact ⟨_, _, rfl, rfl, made⟩

end Edutopik.Home

import Edutopik.Home.HomeScreen

/-! # The format of a channel message

A message is in the format if it has thirteen fields and the seventh is a number;
then every field is read from its place, and otherwise nothing at all happens.
-/

namespace Edutopik.Home

open Dart EventLoop Media

def InFormat (text : String) : Prop :=
  13 ≤ (split '&' text).length ∧ ∃ lmNum, ((split '&' text)[6]?).bind parseInt = some lmNum

/-- The record made of the fields of a message. -/
def recordOf (uuid : String) (fields : List String) (long : 13 ≤ fields.length) (lmNum : Int) :
    PlayTime :=
  { getTimeUrl := fields[10]
    sendUrl := fields[11]
    uid := fields[1]
    ocode := fields[3]
    scode := fields[4]
    lmNum := lmNum
    lmTime := fields[7]
    uuid := uuid
    checkLogUrl := fields[12] }

/-- Where the fields of a message lead. -/
def reachedOf (uuid : String) (fields : List String) (long : 13 ≤ fields.length) (lmNum : Int) :
    Reached :=
  if fields[2] = "overload" then
    .asyncConfirmDialog fields[8] fields[9] (recordOf uuid fields long lmNum)
  else .startPlayer fields[8] fields[9] (recordOf uuid fields long lmNum)

theorem reachedOf_playTime (uuid : String) {fields : List String} (long : 13 ≤ fields.length)
    (lmNum : Int) : (reachedOf uuid fields long lmNum).playTime = recordOf uuid fields long lmNum := by
  unfold reachedOf
  split <;> rfl

theorem reachedOf_listUrl (uuid : String) {fields : List String} (long : 13 ≤ fields.length)
    (lmNum : Int) : (reachedOf uuid fields long lmNum).listUrl = fields[9] := by
  unfold reachedOf
  split <;> rfl

/-- The handler does what the fields say where they are in the format, and raises
    before it does anything where they are not. -/
structure HandlesFormat (home : HomeScreen) : Prop where
  accepts_iff : ∀ text, (∃ reached, onMessageReceived home.uuid text = some reached) ↔ InFormat text
  accepts : ∀ text reached, onMessageReceived home.uuid text = some reached →
    home.react (.message text) = home.reach reached
  refuses : ∀ text, ¬ InFormat text → home.react (.message text) = home.idle
  reads : ∀ (fields : List String) (long : 13 ≤ fields.length) (lmNum : Int),
    (∀ field ∈ fields, '&' ∉ field.toList) → parseInt fields[6] = some lmNum →
      onMessageReceived home.uuid (String.intercalate "&" fields) =
        some (reachedOf home.uuid fields long lmNum)

theorem index_field {fields : List String} (long : 13 ≤ fields.length) (n : Nat) (_ : n < 13) :
    Dart.index fields n = some fields[n] := by
  rw [index_ofNat, List.getElem?_eq_getElem (by omega)]

/-- Splitting undoes joining. -/
theorem split_intercalate {fields : List String} (nonempty : fields ≠ [])
    (free : ∀ field ∈ fields, '&' ∉ field.toList) :
    split '&' (String.intercalate "&" fields) = fields := by
  have pieces : ∀ piece ∈ fields.map String.toList, '&' ∉ piece := by
    simpa using free
  have joined : (String.intercalate "&" fields).toList =
      ['&'].intercalate (fields.map String.toList) := String.toList_intercalate
  rw [split, joined, List.splitOn_intercalate '&' pieces (by simpa using nonempty)]
  simp

/-- Thirteen fields, the seventh of them a number, are all read. -/
theorem onMessageReceived_of_fields (uuid : String) {text : String} {fields : List String}
    (same : split '&' text = fields) (long : 13 ≤ fields.length) {lmNum : Int}
    (number : parseInt fields[6] = some lmNum) :
    onMessageReceived uuid text = some (reachedOf uuid fields long lmNum) := by
  have read := index_field long
  have at1 : Dart.index fields 1 = some fields[1] := read 1 (by decide)
  have at2 : Dart.index fields 2 = some fields[2] := read 2 (by decide)
  have at3 : Dart.index fields 3 = some fields[3] := read 3 (by decide)
  have at4 : Dart.index fields 4 = some fields[4] := read 4 (by decide)
  have at6 : Dart.index fields 6 = some fields[6] := read 6 (by decide)
  have at7 : Dart.index fields 7 = some fields[7] := read 7 (by decide)
  have at8 : Dart.index fields 8 = some fields[8] := read 8 (by decide)
  have at9 : Dart.index fields 9 = some fields[9] := read 9 (by decide)
  have at10 : Dart.index fields 10 = some fields[10] := read 10 (by decide)
  have at11 : Dart.index fields 11 = some fields[11] := read 11 (by decide)
  have at12 : Dart.index fields 12 = some fields[12] := read 12 (by decide)
  simp only [onMessageReceived, same, at1, at2, at3, at4, at6, at7, at8, at9, at10, at11, at12,
    number, Option.bind_eq_bind, Option.bind_some, reachedOf, recordOf]
  split <;> rfl

/-- A message that is accepted has a field at the last place read, and a number. -/
theorem inFormat_of_accepted {uuid text : String} {reached : Reached}
    (accepted : onMessageReceived uuid text = some reached) : InFormat text := by
  simp only [onMessageReceived, Option.bind_eq_bind, Option.bind_eq_some_iff] at accepted
  obtain ⟨_, -, _, -, _, -, _, -, _, -, lmNum, number, _, -, _, last, -⟩ := accepted
  have bounds := (index_isSome_iff _ _).mp (Option.isSome_of_eq_some last)
  refine ⟨by omega, lmNum, ?_⟩
  rw [← index_ofNat, Option.bind_eq_some_iff]
  exact number

theorem onMessageReceived_of_inFormat (uuid : String) {text : String} (format : InFormat text) :
    ∃ reached, onMessageReceived uuid text = some reached := by
  obtain ⟨long, lmNum, number⟩ := format
  rw [List.getElem?_eq_getElem (by omega), Option.bind_some] at number
  exact ⟨_, onMessageReceived_of_fields uuid rfl long number⟩

/-- An accepted message leads where its fields say. -/
theorem reached_of_accepted {uuid text : String} {reached : Reached}
    (accepted : onMessageReceived uuid text = some reached) :
    ∃ (long : 13 ≤ (split '&' text).length) (lmNum : Int),
      reached = reachedOf uuid (split '&' text) long lmNum := by
  obtain ⟨long, lmNum, number⟩ := inFormat_of_accepted accepted
  rw [List.getElem?_eq_getElem (by omega), Option.bind_some] at number
  rw [onMessageReceived_of_fields uuid rfl long number, Option.some.injEq] at accepted
  exact ⟨long, lmNum, accepted.symm⟩

theorem react_message (home : HomeScreen) {text : String} {reached : Reached}
    (accepted : onMessageReceived home.uuid text = some reached) :
    homeScreen.react home (.message text) = home.reach reached := by
  simp only [homeScreen, HomeScreen.react, accepted]

/-- The handler's format, for every message, and the place of every field in it. -/
theorem handlesFormat (home : HomeScreen) : HandlesFormat home where
  accepts_iff := by
    intro text
    constructor
    · intro accepted
      obtain ⟨reached, accepted⟩ := accepted
      exact inFormat_of_accepted accepted
    · exact onMessageReceived_of_inFormat home.uuid
  accepts := by
    intro text reached accepted
    exact react_message home accepted
  refuses := by
    intro text other
    have raises : onMessageReceived home.uuid text = none := by
      cases result : onMessageReceived home.uuid text with
      | none => rfl
      | some reached => exact absurd (inFormat_of_accepted result) other
    simp only [HomeScreen.react, raises]
  reads := by
    intro fields long lmNum free number
    have nonempty : fields ≠ [] := List.ne_nil_of_length_pos (by omega)
    exact onMessageReceived_of_fields home.uuid (split_intercalate nonempty free) long number

/-- The fields of the message that opens the ninth lecture of a chapter. -/
def sampleFields : List String :=
  ["media", "kim@edutopik.com", "play", "O1", "S1", "K", "9", "40", "https://v.edutopik2.com",
    "https://www.edutopik2.com/list.asp", "https://www.edutopik2.com/get_time.asp",
    "https://www.edutopik2.com/send_time.asp", "https://www.edutopik2.com/last_log.asp"]

def ninthRecord : PlayTime := recordOf "device-a" sampleFields (by decide) 9

theorem sampleFields_free : ∀ field ∈ sampleFields, '&' ∉ field.toList := by decide

theorem sampleFields_reached :
    onMessageReceived "device-a" (String.intercalate "&" sampleFields) =
      some (.startPlayer "https://v.edutopik2.com" "https://www.edutopik2.com/list.asp" ninthRecord) :=
  onMessageReceived_of_fields "device-a" (split_intercalate (by decide) sampleFields_free) (by decide)
    (by decide)

theorem handlesFormat_sample :
    onMessageReceived "device-a" (String.intercalate "&" sampleFields) =
      some (reachedOf "device-a" sampleFields (by decide) 9) :=
  (handlesFormat { uuid := "device-a", email := "kim@edutopik.com" }).reads sampleFields (by decide) 9
    sampleFields_free (by decide)

end Edutopik.Home

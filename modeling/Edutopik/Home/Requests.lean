import Edutopik.Library.Query
import Edutopik.Home.ChannelMessage
import Edutopik.Login.EmailPattern
import Edutopik.Media.Record

/-! # What the requests say

Every request is a url made by writing values behind names as they are. The values
are the page's, so nothing keeps a `#`, a `+` or an escape out of them, and the
address typed in at the login may hold an `&` as well. The server reads what was
meant exactly where the values are literal.
-/

namespace Edutopik.Home

open Dart Media Query

/-- The four requests made for a message are read to name the account, the order, the
    chapter and the device it is about, and a report is read under the key its lecture
    is looked up by. -/
structure RequestsRead (uid ocode scode uuid listUrl : String) (held : PlayTime) : Prop where
  list : Reads (listRequest listUrl held) [("scode", scode), ("uid", uid), ("uuid", uuid)]
  log : Reads held.logQuery.getLastLog [("uid", uid)]
  lookup : Reads held.resumeQuery.getPlayTime
    [("uid", uid), ("ocode", ocode), ("scode", scode), ("lm_num", toString held.lmNum)]
  report : ∀ fin ∈ ["N", "Y"], ∃ minute : Int, held.currentTime = some minute ∧
    Reads (held.report fin).sendPlayTime
      [("uid", uid), ("ocode", ocode), ("scode", scode), ("lm_num", toString held.lmNum),
        ("uuid", uuid), ("current_time", toString minute), ("fin", fin)]
  sameKey : ∀ fin ∈ ["N", "Y"], ∀ sent asked,
    parameters (held.report fin).sendPlayTime = some sent →
      parameters held.resumeQuery.getPlayTime = some asked →
        (sent.filter fun p => p.1 ∈ ["uid", "ocode", "scode", "lm_num"]).Perm asked

/-! ## The urls are written queries -/

@[simp] theorem toString_text (text : String) : toString text = text := rfl

theorem listRequest_eq (listUrl : String) (p : PlayTime) :
    listRequest listUrl p =
      listUrl ++ "?" ++ render [("scode", p.scode), ("uid", p.uid), ("uuid", p.uuid)] := by
  apply String.toList_injective
  simp [listRequest, render, String.intercalate_cons_cons]

theorem getLastLog_eq (p : PlayTime) :
    p.logQuery.getLastLog = p.checkLogUrl ++ "?" ++ render [("uid", p.uid)] := by
  apply String.toList_injective
  simp [LogQuery.getLastLog, PlayTime.logQuery, render]

theorem getPlayTime_eq (p : PlayTime) :
    p.resumeQuery.getPlayTime = p.getTimeUrl ++ "?" ++
      render [("uid", p.uid), ("ocode", p.ocode), ("scode", p.scode), ("lm_num", toString p.lmNum)] := by
  apply String.toList_injective
  simp [ResumeQuery.getPlayTime, PlayTime.resumeQuery, render, String.intercalate_cons_cons]

theorem sendPlayTime_eq (p : PlayTime) (fin : String) :
    (p.report fin).sendPlayTime = p.sendUrl ++ "?" ++
      render [("uid", p.uid), ("ocode", p.ocode), ("scode", p.scode), ("lm_num", toString p.lmNum),
        ("uuid", p.uuid), ("current_time", interpolate p.currentTime), ("fin", fin)] := by
  apply String.toList_injective
  simp [Report.sendPlayTime, PlayTime.report, render, String.intercalate_cons_cons]

theorem initialUrl_eq (home : HomeScreen) :
    home.initialUrl =
      HomeScreen.autoLogin ++ "?" ++ render [("uid", home.email), ("uuid", home.uuid)] := by
  apply String.toList_injective
  simp [HomeScreen.initialUrl, render, String.intercalate_cons_cons]

/-! ## Values that are always literal -/

theorem literal_of_chars {value : String}
    (plain : ∀ c ∈ value.toList, c ≠ '&' ∧ c ≠ '#' ∧ c ≠ '+' ∧ c ≠ '%') : Literal value := by
  constructor
  · intro c member
    exact ⟨(plain c member).1, (plain c member).2.1, (plain c member).2.2.1⟩
  · exact hasEscape_of_not_mem fun member => (plain '%' member).2.2.2 rfl

/-- Letters, digits and the hyphen. -/
theorem literal_of_alphanum {value : String}
    (plain : ∀ c ∈ value.toList, c.isAlphanum = true ∨ c = '-') : Literal value := by
  apply literal_of_chars
  intro c member
  refine ⟨?_, ?_, ?_, ?_⟩
  all_goals
    intro same
    subst same
    exact absurd (plain _ member) (by decide)

/-- A number is written in digits. -/
theorem literal_repr (n : Int) : Literal n.repr := by
  have natural : ∀ m : Nat, ∀ c ∈ m.repr.toList, c.isAlphanum = true ∨ c = '-' := by
    intro m c member
    rw [Nat.toList_repr] at member
    have digit : c.isDigit = true :=
      Nat.isDigit_of_mem_toDigits (b := 10) (n := m) (by decide) (by decide) member
    simp [Char.isAlphanum, digit]
  apply literal_of_alphanum
  rw [Int.repr_eq_if]
  split
  · exact natural n.toNat
  · intro c member
    rw [String.toList_append] at member
    rcases List.mem_append.mp member with sign | digits
    · exact .inr (by simpa using sign)
    · exact natural _ c digits

/-! ## Each request -/

theorem reads_listRequest_iff {listUrl : String} (isBase : IsBase listUrl) (p : PlayTime) :
    Reads (listRequest listUrl p) [("scode", p.scode), ("uid", p.uid), ("uuid", p.uuid)] ↔
      Literal p.scode ∧ Literal p.uid ∧ Literal p.uuid := by
  have names : ∀ name ∈ ["scode", "uid", "uuid"], IsName name := by decide
  rw [listRequest_eq, reads_iff_literal isBase (by simpa using names) (by simp)]
  simp

theorem reads_getLastLog_iff {p : PlayTime} (isBase : IsBase p.checkLogUrl) :
    Reads p.logQuery.getLastLog [("uid", p.uid)] ↔ Literal p.uid := by
  have names : ∀ name ∈ ["uid"], IsName name := by decide
  rw [getLastLog_eq, reads_iff_literal isBase (by simpa using names) (by simp)]
  simp

theorem reads_getPlayTime_iff {p : PlayTime} (isBase : IsBase p.getTimeUrl) :
    Reads p.resumeQuery.getPlayTime
        [("uid", p.uid), ("ocode", p.ocode), ("scode", p.scode), ("lm_num", toString p.lmNum)] ↔
      Literal p.uid ∧ Literal p.ocode ∧ Literal p.scode := by
  have names : ∀ name ∈ ["uid", "ocode", "scode", "lm_num"], IsName name := by decide
  rw [getPlayTime_eq, reads_iff_literal isBase (by simpa using names) (by simp)]
  simp [literal_repr]

/-- A report of a known minute. -/
theorem reads_sendPlayTime_iff {p : PlayTime} (isBase : IsBase p.sendUrl) {minute : Int}
    (known : p.currentTime = some minute) {fin : String} (literal : Literal fin) :
    Reads (p.report fin).sendPlayTime
        [("uid", p.uid), ("ocode", p.ocode), ("scode", p.scode), ("lm_num", toString p.lmNum),
          ("uuid", p.uuid), ("current_time", toString minute), ("fin", fin)] ↔
      Literal p.uid ∧ Literal p.ocode ∧ Literal p.scode ∧ Literal p.uuid := by
  have names : ∀ name ∈ ["uid", "ocode", "scode", "lm_num", "uuid", "current_time", "fin"],
      IsName name := by decide
  have written : interpolate p.currentTime = toString minute := by rw [known]; rfl
  rw [sendPlayTime_eq, written, reads_iff_literal isBase (by simpa using names) (by simp)]
  simp [literal_repr, literal]

/-- A report that is read as it was meant has the key of the lookup in it. -/
theorem sameKey_of_reads {uid ocode scode uuid fin report lookup : String} {lmNum minute : Int}
    (reported : Reads report
      [("uid", uid), ("ocode", ocode), ("scode", scode), ("lm_num", toString lmNum),
        ("uuid", uuid), ("current_time", toString minute), ("fin", fin)])
    (lookedUp : Reads lookup
      [("uid", uid), ("ocode", ocode), ("scode", scode), ("lm_num", toString lmNum)])
    {sent asked : List (String × String)} (readReport : parameters report = some sent)
    (readLookup : parameters lookup = some asked) :
    (sent.filter fun p => p.1 ∈ ["uid", "ocode", "scode", "lm_num"]).Perm asked := by
  obtain ⟨sent', found, sentSame⟩ := reported
  obtain ⟨asked', found', askedSame⟩ := lookedUp
  rw [readReport] at found
  rw [readLookup] at found'
  cases found
  cases found'
  have key := sentSame.filter fun p => p.1 ∈ ["uid", "ocode", "scode", "lm_num"]
  exact key.trans askedSame.symm

/-! ## All four -/

theorem requestsRead_iff {listUrl : String} {held : PlayTime} (listBase : IsBase listUrl)
    (timeBase : IsBase held.getTimeUrl) (sendBase : IsBase held.sendUrl)
    (logBase : IsBase held.checkLogUrl) :
    RequestsRead held.uid held.ocode held.scode held.uuid listUrl held ↔
      Literal held.uid ∧ Literal held.ocode ∧ Literal held.scode ∧ Literal held.uuid ∧
        held.currentTime ≠ none := by
  constructor
  · intro requests
    obtain ⟨scode, uid, uuid⟩ := (reads_listRequest_iff listBase held).mp requests.list
    obtain ⟨-, ocode, -⟩ := (reads_getPlayTime_iff timeBase).mp requests.lookup
    obtain ⟨minute, known, -⟩ := requests.report "N" (by decide)
    exact ⟨uid, ocode, scode, uuid, by simp [known]⟩
  · intro literal
    obtain ⟨uid, ocode, scode, uuid, some⟩ := literal
    obtain ⟨minute, known⟩ := Option.ne_none_iff_exists'.mp some
    have lookup := (reads_getPlayTime_iff timeBase).mpr ⟨uid, ocode, scode⟩
    have report : ∀ fin ∈ ["N", "Y"], Reads (held.report fin).sendPlayTime
        [("uid", held.uid), ("ocode", held.ocode), ("scode", held.scode),
          ("lm_num", toString held.lmNum), ("uuid", held.uuid), ("current_time", toString minute),
          ("fin", fin)] := by
      intro fin member
      have literalFin : Literal fin := (by decide : ∀ fin ∈ ["N", "Y"], Literal fin) fin member
      exact (reads_sendPlayTime_iff sendBase known literalFin).mpr ⟨uid, ocode, scode, uuid⟩
    exact
      { list := (reads_listRequest_iff listBase held).mpr ⟨scode, uid, uuid⟩
        log := (reads_getLastLog_iff logBase).mpr uid
        lookup := lookup
        report := fun fin member => ⟨minute, known, report fin member⟩
        sameKey := fun fin member sent asked readReport readLookup =>
          sameKey_of_reads (report fin member) lookup readReport readLookup }

/-- A request of the player is read to name what the record names. -/
def ReadFrom (p : PlayTime) : Media.Effect → Prop
  | .sendPlayTime report => ∃ (lmNum minute : Int), ∃ fin ∈ ["N", "Y"], Reads report.sendPlayTime
      [("uid", p.uid), ("ocode", p.ocode), ("scode", p.scode), ("lm_num", toString lmNum),
        ("uuid", p.uuid), ("current_time", toString minute), ("fin", fin)]
  | .getPlayTime query => ∃ lmNum : Int, Reads query.getPlayTime
      [("uid", p.uid), ("ocode", p.ocode), ("scode", p.scode), ("lm_num", toString lmNum)]
  | .getLastLog query => Reads query.getLastLog [("uid", p.uid)]
  | _ => True

/-- In every run of a player opened with a literal record, each request is read to name
    what the record names. -/
theorem readFrom_of_run {urls titles : List String} {p : PlayTime} {w : Player}
    (opened : Player.initState urls titles p = some w) (timeBase : IsBase p.getTimeUrl)
    (sendBase : IsBase p.sendUrl) (logBase : IsBase p.checkLogUrl) (uid : Literal p.uid)
    (ocode : Literal p.ocode) (scode : Literal p.scode) (uuid : Literal p.uuid)
    (is : List PlayerInput) :
    ∀ f ∈ Machine.run mediaControl.step w is, ∀ x ∈ f.effects, ReadFrom p x := by
  intro f member x letOut
  have made := madeFrom_of_run opened is f member x letOut
  cases x with
  | sendPlayTime report =>
      obtain ⟨lmNum, minute, fin, marked, rfl⟩ := made
      have literalFin : Literal fin := (by decide : ∀ fin ∈ ["N", "Y"], Literal fin) fin marked
      let held : PlayTime := { p with lmNum := lmNum, currentTime := some minute }
      have read := (reads_sendPlayTime_iff (p := held) sendBase rfl literalFin).mpr
        ⟨uid, ocode, scode, uuid⟩
      exact ⟨lmNum, minute, fin, marked, read⟩
  | getPlayTime query =>
      obtain ⟨lmNum, rfl⟩ := made
      let held : PlayTime := { p with lmNum := lmNum }
      exact ⟨lmNum, (reads_getPlayTime_iff (p := held) timeBase).mpr ⟨uid, ocode, scode⟩⟩
  | getLastLog query =>
      cases made
      exact (reads_getLastLog_iff logBase).mpr uid
  | _ => trivial

/-- Whatever an accepted message says, and whatever lecture and minute its record
    holds by then, the four requests made from it are read as they were meant exactly
    if the account, the order, the chapter and the device are literal and the minute
    is known. -/
theorem requests_read_iff {uuid message : String} {reached : Reached}
    (accepted : onMessageReceived uuid message = some reached) {uid ocode scode : String}
    (uidField : Dart.index (split '&' message) 1 = some uid)
    (ocodeField : Dart.index (split '&' message) 3 = some ocode)
    (scodeField : Dart.index (split '&' message) 4 = some scode)
    (bases : ∀ i ∈ [9, 10, 11, 12], ∀ base, Dart.index (split '&' message) i = some base → IsBase base)
    (lmNum : Int) (currentTime : Option Int) :
    RequestsRead uid ocode scode uuid reached.listUrl
        { reached.playTime with lmNum := lmNum, currentTime := currentTime } ↔
      Literal uid ∧ Literal ocode ∧ Literal scode ∧ Literal uuid ∧ currentTime ≠ none := by
  obtain ⟨long, number, rfl⟩ := reached_of_accepted accepted
  have read := index_field long
  have isUid : (split '&' message)[1] = uid := Option.some.inj ((read 1 (by decide)).symm.trans uidField)
  have isOcode : (split '&' message)[3] = ocode :=
    Option.some.inj ((read 3 (by decide)).symm.trans ocodeField)
  have isScode : (split '&' message)[4] = scode :=
    Option.some.inj ((read 4 (by decide)).symm.trans scodeField)
  subst isUid isOcode isScode
  have listBase : IsBase (split '&' message)[9] := bases 9 (by decide) _ (read 9 (by decide))
  have timeBase : IsBase (split '&' message)[10] := bases 10 (by decide) _ (read 10 (by decide))
  have sendBase : IsBase (split '&' message)[11] := bases 11 (by decide) _ (read 11 (by decide))
  have logBase : IsBase (split '&' message)[12] := bases 12 (by decide) _ (read 12 (by decide))
  rw [reachedOf_listUrl, reachedOf_playTime]
  let held : PlayTime := { recordOf uuid (split '&' message) long number with
    lmNum := lmNum, currentTime := currentTime }
  have whole : RequestsRead held.uid held.ocode held.scode held.uuid (split '&' message)[9] held ↔ _ :=
    requestsRead_iff listBase timeBase sendBase logBase
  exact whole

/-- The message of an account whose address has a plus sign. -/
def plusFields : List String := sampleFields.set 1 "kim+topik@edutopik.com"

/-- The address is asked about as one with a space in it. -/
theorem plusAddress_misread :
    onMessageReceived "device-a" (String.intercalate "&" plusFields) =
        some (reachedOf "device-a" plusFields (by decide) 9) ∧
      ¬ Reads (recordOf "device-a" plusFields (by decide) 9).logQuery.getLastLog
        [("uid", "kim+topik@edutopik.com")] ∧
      decode "kim+topik@edutopik.com".toList = some "kim topik@edutopik.com" := by
  have free : ∀ field ∈ plusFields, '&' ∉ field.toList := by
    intro field member
    rcases List.mem_or_eq_of_mem_set member with inside | rfl
    · exact sampleFields_free field inside
    · decide
  refine ⟨?_, ?_, ?_⟩
  · exact onMessageReceived_of_fields "device-a" (split_intercalate (by decide) free) (by decide)
      (by decide)
  · intro reads
    have literal := (reads_getLastLog_iff (p := recordOf "device-a" plusFields (by decide) 9)
      (by decide)).mp reads
    exact absurd literal (by decide)
  · exact decode_of_unescaped (by decide)

theorem requests_read_iff_sample :
    RequestsRead "kim@edutopik.com" "O1" "S1" "device-a" "https://www.edutopik2.com/list.asp"
        { ninthRecord with lmNum := 9, currentTime := some 12 } ↔
      Literal "kim@edutopik.com" ∧ Literal "O1" ∧ Literal "S1" ∧ Literal "device-a" ∧
        some (12 : Int) ≠ none := by
  have fields : split '&' (String.intercalate "&" sampleFields) = sampleFields :=
    split_intercalate (by decide) sampleFields_free
  have bases : ∀ i ∈ [9, 10, 11, 12], ∀ base, Dart.index sampleFields i = some base → IsBase base := by
    decide
  exact requests_read_iff sampleFields_reached (by rw [fields]; rfl) (by rw [fields]; rfl)
    (by rw [fields]; rfl) (by rw [fields]; exact bases) 9 (some 12)

/-! ## The automatic login of the web page -/

/-- The page is opened for exactly the address that was typed in and for this device
    if and only if the address is literal. -/
theorem initialUrl_reads_iff (email : String) {uuid : String}
    (device : ∀ c ∈ uuid.toList, c.isAlphanum = true ∨ c = '-') :
    Reads (HomeScreen.initialUrl { uuid := uuid, email := email }) [("uid", email), ("uuid", uuid)] ↔
      Literal email := by
  have names : ∀ name ∈ ["uid", "uuid"], IsName name := by decide
  have isBase : IsBase HomeScreen.autoLogin := by decide
  rw [initialUrl_eq, reads_iff_literal isBase (by simpa using names) (by simp)]
  simp [literal_of_alphanum device]

/-- An address the login form accepts that opens the page for another account and
    adds a device of its own. -/
theorem forgedAddress_read :
    Login.hasMatch "kim&uuid=evil@edutopik.com" = true ∧
      parameters (HomeScreen.initialUrl { uuid := "device-a", email := "kim&uuid=evil@edutopik.com" }) =
        some [("uid", "kim"), ("uuid", "evil@edutopik.com"), ("uuid", "device-a")] := by
  have isBase : IsBase HomeScreen.autoLogin := by decide
  have same : render [("uid", "kim&uuid=evil@edutopik.com"), ("uuid", "device-a")] =
      render [("uid", "kim"), ("uuid", "evil@edutopik.com"), ("uuid", "device-a")] := by decide
  refine ⟨by decide, ?_⟩
  rw [initialUrl_eq]
  simp only [same]
  rw [parameters_render isBase]
  exact read_literal (by decide) (by decide)

theorem initialUrl_reads_iff_sample :
    Reads (HomeScreen.initialUrl { uuid := "0f8a-77", email := "kim@edutopik.com" })
      [("uid", "kim@edutopik.com"), ("uuid", "0f8a-77")] ↔ Literal "kim@edutopik.com" :=
  initialUrl_reads_iff "kim@edutopik.com" (by simp)

end Edutopik.Home

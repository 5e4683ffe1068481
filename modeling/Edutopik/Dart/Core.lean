import Edutopik.Library.Numeral

/-! # The parts of Dart's core library the app relies on

Strings are sequences of characters, `int` is `Int`, and an operation that
raises returns `none`. Only what the modelled functions call is here.
-/

namespace Dart

/-- `list[i]`: a negative or too large index raises a `RangeError`. -/
def index {α : Type*} (xs : List α) (i : Int) : Option α :=
  if 0 ≤ i then xs[i.toNat]? else none

theorem index_ofNat {α : Type*} (xs : List α) (n : Nat) : index xs n = xs[n]? := by
  simp [index]

theorem index_isSome_iff {α : Type*} (xs : List α) (i : Int) :
    (index xs i).isSome ↔ 0 ≤ i ∧ i < xs.length := by
  by_cases nonneg : 0 ≤ i
  · have bound : i.toNat < xs.length ↔ i < xs.length := by omega
    simp [index, nonneg, bound]
  · simp [index, nonneg]

/-- `text.split(separator)` for a one-character separator. -/
def split (separator : Char) (text : String) : List String :=
  (text.toList.splitOn separator).map String.ofList

theorem split_of_not_mem {separator : Char} {text : String} (free : separator ∉ text.toList) :
    split separator text = [text] := by
  simp [split, List.splitOn_eq_singleton free]

theorem split_append (separator : Char) (first second : String) :
    split separator (first ++ String.singleton separator ++ second) =
      split separator first ++ split separator second := by
  have whole : (first ++ String.singleton separator ++ second).toList =
      first.toList ++ separator :: second.toList := by simp
  simp only [split, whole, List.splitOn_append_cons_self, List.map_append]

/-- No field holds the separator. -/
theorem not_mem_of_mem_splitOn {α : Type*} [BEq α] [LawfulBEq α] {a : α} {xs field : List α}
    (member : field ∈ xs.splitOn a) : a ∉ field := by
  induction xs generalizing field with
  | nil =>
      have same : field = [] := by simpa using member
      simp [same]
  | cons x rest ih =>
      rw [List.splitOn_cons_eq_if_modifyHead] at member
      by_cases separates : x == a
      · simp only [separates, if_true, List.mem_cons] at member
        rcases member with rfl | later
        · simp
        · exact ih later
      · simp only [separates, if_false, Bool.false_eq_true] at member
        cases fields : rest.splitOn a with
        | nil => exact absurd fields (List.splitOn_ne_nil a rest)
        | cons head tail =>
            simp only [fields, List.modifyHead_cons, List.mem_cons] at member
            rcases member with rfl | later
            · have headFree : a ∉ head := ih (by rw [fields]; exact List.mem_cons_self)
              have different : a ≠ x := fun same => separates (by simp [same])
              simp [different, headFree]
            · exact ih (by rw [fields]; exact List.mem_cons_of_mem _ later)

theorem not_mem_of_mem_split {separator : Char} {text field : String}
    (member : field ∈ split separator text) : separator ∉ field.toList := by
  obtain ⟨piece, inside, rfl⟩ := List.mem_map.mp member
  simpa using not_mem_of_mem_splitOn inside

/-! ## `int.parse` -/

/-- The characters `int.parse` skips around its literal. -/
def isWhitespace (c : Char) : Bool :=
  let n := c.toNat
  (0x9 ≤ n && n ≤ 0xD) || n == 0x20 || n == 0x85 || n == 0xA0 || n == 0x1680 ||
    (0x2000 ≤ n && n ≤ 0x200A) || n == 0x2028 || n == 0x2029 || n == 0x202F || n == 0x205F ||
    n == 0x3000 || n == 0xFEFF

def trim (cs : List Char) : List Char :=
  ((cs.dropWhile isWhitespace).reverse.dropWhile isWhitespace).reverse

/-- A decimal literal outside the 64-bit range is refused. -/
def signed (negative : Bool) (magnitude : Nat) : Option Int :=
  let value : Int := if negative then -magnitude else magnitude
  if -9223372036854775808 ≤ value ∧ value ≤ 9223372036854775807 then some value else none

/-- A hexadecimal literal without a minus sign may use all 64 bits, and then
    wraps around. -/
def hexadecimal (negative : Bool) (magnitude : Nat) : Option Int :=
  if ¬ negative ∧ 0x8000000000000000 ≤ magnitude ∧ magnitude ≤ 0xFFFFFFFFFFFFFFFF then
    some ((magnitude : Int) - 0x10000000000000000)
  else signed negative magnitude

def parseUnsigned (negative : Bool) : List Char → Option Int
  | '0' :: 'x' :: rest | '0' :: 'X' :: rest => (Numeral.digits 16 rest).bind (hexadecimal negative)
  | cs => (Numeral.digits 10 cs).bind (signed negative)

/-- `int.parse(text)`, with a `FormatException` as `none`. -/
def parseInt (text : String) : Option Int :=
  match trim text.toList with
  | '-' :: rest => parseUnsigned true rest
  | '+' :: rest => parseUnsigned false rest
  | cs => parseUnsigned false cs

example : parseInt " -17 " = some (-17) := by decide

example : parseInt "12분" = none := by decide

/-! ## `Duration` -/

/-- A `Duration` is a whole number of microseconds. -/
structure Duration where
  inMicroseconds : Int
  deriving DecidableEq, Repr

namespace Duration

def zero : Duration := ⟨0⟩

def microsecondsPerMinute : Int := 60000000

def microsecondsPerHour : Int := 3600000000

/-- `Duration(hours: hours, minutes: minutes)`. -/
def ofHoursMinutes (hours minutes : Int) : Duration :=
  ⟨hours * microsecondsPerHour + minutes * microsecondsPerMinute⟩

def ofSeconds (seconds : Int) : Duration := ⟨seconds * 1000000⟩

/-- `inMinutes`, which truncates towards zero. -/
def inMinutes (d : Duration) : Int := d.inMicroseconds.tdiv microsecondsPerMinute

end Duration

/-! ## Decoded JSON -/

/-- What `json.decode` returns. A number is kept as `mantissa * 10 ^ (-exponent)`. -/
inductive Json where
  | null
  | bool (value : Bool)
  | number (mantissa : Int) (exponent : Nat)
  | string (value : String)
  | array (values : List Json)
  | object (fields : List (String × Json))

/-- A `Map<String, dynamic>`. -/
abbrev JsonObject := List (String × Json)

/-- `map[key]`, which is `null` for a key that is absent. -/
def JsonObject.get (res : JsonObject) (key : String) : Json :=
  (List.lookup key res).getD .null

theorem JsonObject.get_cons (field : String) (value : Json) (res : JsonObject) (key : String) :
    JsonObject.get ((field, value) :: res) key = if key = field then value else res.get key := by
  by_cases same : key = field
  · subst same
    simp [get]
  · have differ : (key == field) = false := by simpa using same
    simp [get, List.lookup_cons, same, differ]

/-- `value == text`. -/
def Json.equals : Json → String → Bool
  | .string value, text => value == text
  | _, _ => false

@[simp] theorem Json.equals_iff (value : Json) (text : String) :
    value.equals text = true ↔ value = .string text := by
  cases value <;> simp [Json.equals]

/-- Assigning a dynamic value to a `String` raises unless it is one. -/
def Json.toText : Json → Option String
  | .string value => some value
  | _ => none

theorem Json.toText_eq_some_iff {value : Json} {text : String} :
    value.toText = some text ↔ value = .string text := by
  cases value <;> simp [Json.toText]

/-- What awaiting an http request ends in: it raises, or is answered with a status
    code and a body, which need not decode as JSON. -/
inductive Reply where
  | failed
  | answered (statusCode : Int) (body : Option Json)

/-- `final Map<String, dynamic> res = json.decode(utf8.decode(response.bodyBytes))`
    together with the status code; every way to raise is `none`. -/
def Reply.decode : Reply → Option (Int × JsonObject)
  | .answered statusCode (some (.object fields)) => some (statusCode, fields)
  | _ => none

/-- As `decode`, for a caller that ignores the status code. -/
def Reply.object (reply : Reply) : Option JsonObject := reply.decode.map Prod.snd

@[simp] theorem Reply.decode_answered (statusCode : Int) (fields : JsonObject) :
    (Reply.answered statusCode (some (.object fields))).decode = some (statusCode, fields) := rfl

@[simp] theorem Reply.object_answered (statusCode : Int) (fields : JsonObject) :
    (Reply.answered statusCode (some (.object fields))).object = some fields := rfl

end Dart

import Mathlib.Data.List.Basic
import Mathlib.Data.List.Perm.Basic
import Mathlib.Data.List.TakeWhile
import Edutopik.Library.Numeral

/-! # Query strings

A url's query is a list of `name=value` pairs joined by `&`. Whoever reads it drops
the fragment, splits at every `&` and at the first `=` of each piece, and decodes
names and values: `+` is a space, `%` and two hexadecimal digits are a byte, and the
bytes are UTF-8.

Values that were put in as they are come out as they were exactly if they are
literal (`reads_iff_literal`).
-/

namespace Query

open Numeral

/-! ## Decoding -/

/-- `+` is written for a space. -/
def spaced (c : Char) : Char := if c = '+' then ' ' else c

/-- The bytes a text stands for. A `%` that starts no escape stands for itself. -/
def bytes : List Char → List UInt8
  | [] => []
  | '%' :: high :: low :: rest =>
      match digit high, digit low with
      | some h, some l => UInt8.ofNat (16 * h + l) :: bytes rest
      | _, _ => String.utf8EncodeChar '%' ++ bytes (high :: low :: rest)
  | c :: rest => String.utf8EncodeChar (spaced c) ++ bytes rest

/-- The text as it is read; bytes that are no UTF-8 are refused. -/
def decode (text : List Char) : Option String := String.fromUTF8? (bytes text).toByteArray

/-- Whether an escape occurs in a text. -/
def hasEscape : List Char → Bool
  | [] => false
  | '%' :: high :: low :: rest =>
      (digit high).isSome && (digit low).isSome || hasEscape (high :: low :: rest)
  | _ :: rest => hasEscape rest

def withoutFragment (url : List Char) : List Char := url.takeWhile (· ≠ '#')

/-- What follows the first `?`. -/
def query (url : List Char) : List Char := (url.dropWhile (· ≠ '?')).drop 1

/-- The pieces between the `&`s; empty ones are skipped. -/
def fields (query : List Char) : List (List Char) := (query.splitOn '&').filter (· ≠ [])

/-- A piece is a name and a value. -/
def pair (field : List Char) : Option (String × String) :=
  match decode (field.takeWhile (· ≠ '=')), decode ((field.dropWhile (· ≠ '=')).drop 1) with
  | some name, some value => some (name, value)
  | _, _ => none

/-- The parameters a url is read to have. -/
def parameters (url : String) : Option (List (String × String)) :=
  (fields (query (withoutFragment url.toList))).mapM pair

/-! ## Writing -/

/-- Names and values put in as they are. -/
def render (params : List (String × String)) : String :=
  String.intercalate "&" (params.map fun p => p.1 ++ "=" ++ p.2)

/-- A text that is read as it is written. -/
structure Literal (text : String) : Prop where
  plain : ∀ c ∈ text.toList, c ≠ '&' ∧ c ≠ '#' ∧ c ≠ '+'
  unescaped : hasEscape text.toList = false

-- The texts' own characters are tried, not all there are.
instance (text : String) : Decidable (Literal text) :=
  @decidable_of_iff (Literal text)
    ((∀ c ∈ text.toList, c ≠ '&' ∧ c ≠ '#' ∧ c ≠ '+') ∧ hasEscape text.toList = false)
    ⟨fun both => ⟨both.1, both.2⟩, fun literal => ⟨literal.plain, literal.unescaped⟩⟩
    (@instDecidableAnd _ _ (List.decidableBAll _ _) inferInstance)

/-! ## What decoding does to a text -/

/-- The number of bytes a text takes up. -/
def size : List Char → Nat
  | [] => 0
  | c :: text => c.utf8Size + size text

@[simp] theorem size_cons (c : Char) (text : List Char) : size (c :: text) = c.utf8Size + size text := rfl

theorem length_utf8 (text : List Char) :
    (text.flatMap String.utf8EncodeChar).length = size text := by
  induction text with
  | nil => rfl
  | cons c text ih => simp [ih]

theorem utf8Size_spaced (c : Char) : (spaced c).utf8Size ≤ c.utf8Size := by
  unfold spaced
  split
  · rename_i plus
    subst plus
    decide
  · exact Nat.le_refl _

/-- Without escapes a text stands for itself, its `+` for spaces. -/
theorem bytes_of_unescaped {text : List Char} (unescaped : hasEscape text = false) :
    bytes text = (text.map spaced).flatMap String.utf8EncodeChar := by
  fun_induction bytes text with
  | case1 => rfl
  | case2 high low rest h l isLow isHigh ih => simp [hasEscape, isLow, isHigh] at unescaped
  | case3 high low rest noByte ih =>
      have later : hasEscape (high :: low :: rest) = false := by
        simp only [hasEscape, Bool.or_eq_false_iff] at unescaped
        exact unescaped.2
      simp [ih later, spaced]
  | case4 c rest noEscape ih =>
      have later : hasEscape rest = false := by
        rwa [hasEscape.eq_3 c rest noEscape] at unescaped
      simp [ih later]

/-- Decoding takes up no more room. -/
theorem length_bytes_le (text : List Char) : (bytes text).length ≤ size text := by
  fun_induction bytes text with
  | case1 => simp
  | case2 high low rest h l isLow isHigh ih =>
      have percent : '%'.utf8Size = 1 := rfl
      simp only [List.length_cons, size_cons, percent]
      omega
  | case3 high low rest noByte ih =>
      simp only [List.length_append, String.length_utf8EncodeChar, size_cons] at ih ⊢
      omega
  | case4 c rest noEscape ih =>
      have fewer := utf8Size_spaced c
      simp only [List.length_append, String.length_utf8EncodeChar, size_cons]
      omega

/-- An escape takes up three bytes and stands for one. -/
theorem length_bytes_lt {text : List Char} (escaped : hasEscape text = true) :
    (bytes text).length < size text := by
  fun_induction bytes text with
  | case1 => simp [hasEscape] at escaped
  | case2 high low rest h l isLow isHigh ih =>
      have percent : '%'.utf8Size = 1 := rfl
      have highPos := high.utf8Size_pos
      have fewer := length_bytes_le rest
      simp only [List.length_cons, size_cons, percent]
      omega
  | case3 high low rest noByte ih =>
      have later : hasEscape (high :: low :: rest) = true := by
        simp only [hasEscape, Bool.or_eq_true, Bool.and_eq_true, Option.isSome_iff_exists] at escaped
        rcases escaped with ⟨⟨h, isHigh⟩, ⟨l, isLow⟩⟩ | later
        · exact absurd isLow (noByte h l isHigh)
        · exact later
      have shorter := ih later
      simp only [List.length_append, String.length_utf8EncodeChar, size_cons] at shorter ⊢
      omega
  | case4 c rest noEscape ih =>
      have later : hasEscape rest = true := by
        rwa [hasEscape.eq_3 c rest noEscape] at escaped
      have shorter := ih later
      have fewer := utf8Size_spaced c
      simp only [List.length_append, String.length_utf8EncodeChar, size_cons]
      omega

/-! ## Texts read as they are -/

theorem decode_eq_some_iff {text : List Char} {read : String} :
    decode text = some read ↔ bytes text = read.toList.flatMap String.utf8EncodeChar := by
  have encoded : read.toByteArray = (read.toList.flatMap String.utf8EncodeChar).toByteArray := by
    rw [← String.ofList_toList (s := read), String.toByteArray_ofList, String.toList_ofList]
    rfl
  rw [← List.toByteArray_inj, ← encoded, decode, String.fromUTF8?]
  split
  · rw [Option.some.injEq, ← String.toByteArray_inj]
    rfl
  · rename_i invalid
    apply iff_of_false (by simp)
    intro same
    exact invalid (same ▸ read.isValidUTF8)

theorem decode_of_unescaped {text : List Char} (unescaped : hasEscape text = false) :
    decode text = some (String.ofList (text.map spaced)) := by
  rw [decode_eq_some_iff, String.toList_ofList]
  exact bytes_of_unescaped unescaped

theorem size_decode_le {text : List Char} {read : String} (decoded : decode text = some read) :
    size read.toList ≤ size text := by
  have room := length_bytes_le text
  rwa [decode_eq_some_iff.mp decoded, length_utf8] at room

/-- A text that is read as itself has no escape and no `+`. -/
theorem decode_eq_self_iff (text : List Char) :
    decode text = some (String.ofList text) ↔ hasEscape text = false ∧ '+' ∉ text := by
  constructor
  · intro decoded
    have unescaped : hasEscape text = false := by
      rw [Bool.eq_false_iff]
      intro escaped
      have shorter := length_bytes_lt escaped
      rw [decode_eq_some_iff.mp decoded, length_utf8, String.toList_ofList] at shorter
      exact absurd shorter (Nat.lt_irrefl _)
    refine ⟨unescaped, ?_⟩
    rw [decode_of_unescaped unescaped, Option.some.injEq, String.ofList_inj] at decoded
    intro plus
    have spacedPlus : ' ' ∈ text.map spaced := List.mem_map.mpr ⟨'+', plus, rfl⟩
    have noPlus : '+' ∉ text.map spaced := by
      intro member
      obtain ⟨c, _, same⟩ := List.mem_map.mp member
      unfold spaced at same
      split at same
      · exact absurd same (by decide)
      · contradiction
    rw [decoded] at noPlus
    exact noPlus plus
  · intro plain
    obtain ⟨unescaped, noPlus⟩ := plain
    have same : text.map spaced = text := by
      calc text.map spaced = text.map id := by
            apply List.map_congr_left
            intro c member
            have notPlus : c ≠ '+' := fun plus => noPlus (plus ▸ member)
            simp only [spaced, notPlus, if_false, id_eq]
        _ = text := List.map_id text
    rw [decode_of_unescaped unescaped, same]

theorem hasEscape_of_not_mem {text : List Char} (plain : '%' ∉ text) : hasEscape text = false := by
  fun_induction hasEscape text with
  | case1 => rfl
  | case2 high low rest ih => simp at plain
  | case3 c rest noEscape ih => exact ih fun member => plain (List.mem_cons_of_mem c member)

/-! ## Splitting -/

/-- Characters that end neither a piece nor the query. -/
def inside (c : Char) : Bool := c ≠ '&' && c ≠ '#'

/-- The pieces of a text with whatever fragment it has. -/
def pieces (text : List Char) : List (List Char) := fields (withoutFragment text)

theorem withoutFragment_append {front : List Char} (plain : ∀ c ∈ front, inside c = true)
    (rest : List Char) : withoutFragment (front ++ rest) = front ++ withoutFragment rest := by
  apply List.takeWhile_append_of_pos
  intro c member
  have here := plain c member
  simp only [inside, Bool.and_eq_true] at here
  exact here.2

theorem not_mem_of_inside {front : List Char} (plain : ∀ c ∈ front, inside c = true) : '&' ∉ front := by
  intro member
  exact absurd (plain '&' member) (by decide)

/-- A piece runs to the next `&`, to the fragment, or to the end. -/
theorem pieces_and {front : List Char} (plain : ∀ c ∈ front, inside c = true) (some : front ≠ [])
    (rest : List Char) : pieces (front ++ '&' :: rest) = front :: pieces rest := by
  have cut : withoutFragment (front ++ '&' :: rest) = front ++ '&' :: withoutFragment rest := by
    rw [withoutFragment_append plain]
    rfl
  rw [pieces, cut, fields, List.splitOn_append_cons_self_of_not_mem (not_mem_of_inside plain),
    List.filter_cons_of_pos (by simpa using some)]
  rfl

theorem pieces_fragment {front : List Char} (plain : ∀ c ∈ front, inside c = true) (some : front ≠ [])
    (rest : List Char) : pieces (front ++ '#' :: rest) = [front] := by
  have cut : withoutFragment (front ++ '#' :: rest) = front := by
    rw [withoutFragment_append plain]
    simp [withoutFragment]
  rw [pieces, cut, fields, List.splitOn_eq_singleton (not_mem_of_inside plain)]
  simpa using some

theorem pieces_end {front : List Char} (plain : ∀ c ∈ front, inside c = true) (some : front ≠ []) :
    pieces front = [front] := by
  have cut : withoutFragment front = front := by
    have whole := withoutFragment_append plain []
    simpa [withoutFragment] using whole
  rw [pieces, cut, fields, List.splitOn_eq_singleton (not_mem_of_inside plain)]
  simpa using some

/-! ## Names and values -/

/-- A name that is read as it is written, wherever it stands. -/
def IsName (name : String) : Prop :=
  name ≠ "" ∧ ∀ c ∈ name.toList, c ≠ '&' ∧ c ≠ '#' ∧ c ≠ '+' ∧ c ≠ '%' ∧ c ≠ '='

instance (name : String) : Decidable (IsName name) :=
  @instDecidableAnd _ _ inferInstance (List.decidableBAll _ _)

def written (name : String) (value : List Char) : List Char := name.toList ++ '=' :: value

theorem IsName.decode {name : String} (isName : IsName name) :
    decode name.toList = some name := by
  have read := (decode_eq_self_iff name.toList).mpr
    ⟨hasEscape_of_not_mem fun member => (isName.2 _ member).2.2.2.1 rfl,
      fun member => (isName.2 _ member).2.2.1 rfl⟩
  rwa [String.ofList_toList] at read

theorem pair_written {name : String} (isName : IsName name) (value : List Char) :
    pair (written name value) = (Query.decode value).map fun read => (name, read) := by
  have plain : ∀ c ∈ name.toList, decide (c ≠ '=') = true := by
    intro c member
    simpa using (isName.2 c member).2.2.2.2
  rw [pair, written, List.takeWhile_append_of_pos plain, List.dropWhile_append_of_pos plain]
  simp only [ne_eq, not_true_eq_false, decide_false, Bool.false_eq_true, not_false_eq_true,
    List.takeWhile_cons_of_neg, List.append_nil, List.dropWhile_cons_of_neg, List.drop_one,
    List.tail_cons, isName.decode]
  cases Query.decode value <;> rfl

theorem inside_written {name : String} (isName : IsName name) {value : List Char}
    (plain : ∀ c ∈ value, inside c = true) : ∀ c ∈ written name value, inside c = true := by
  intro c member
  rw [written, List.mem_append, List.mem_cons] at member
  rcases member with inName | rfl | inValue
  · have here := isName.2 c inName
    simp [inside, here.1, here.2.1]
  · decide
  · exact plain c inValue

/-- The characters of a written query. -/
def text (params : List (String × String)) : List Char := (render params).toList

theorem text_single (name value : String) : text [(name, value)] = written name value.toList := by
  simp [text, render, written]

theorem text_cons (name value : String) (next : String × String) (rest : List (String × String)) :
    text ((name, value) :: next :: rest) = written name value.toList ++ '&' :: text (next :: rest) := by
  simp [text, render, written, String.intercalate_cons_cons]

theorem exists_text_eq (name value : String) (rest : List (String × String)) :
    ∃ after, text ((name, value) :: rest) = written name value.toList ++ after := by
  cases rest with
  | nil => exact ⟨[], by rw [text_single, List.append_nil]⟩
  | cons next rest => exact ⟨_, text_cons name value next rest⟩

/-- How the first parameter of a written query is read: its value up to the first
    character that ends it, and the other parameters only where there is none. -/
theorem pieces_text {name : String} (isName : IsName name) (value : String)
    (rest : List (String × String)) :
    ∃ front back other, value.toList = front ++ back ∧
      (back = [] → (∀ c ∈ value.toList, inside c = true) ∧ other = text rest) ∧
        (back ≠ [] → ¬ ∀ c ∈ value.toList, inside c = true) ∧
          pieces (text ((name, value) :: rest)) = written name front :: pieces other := by
  have nonempty : ∀ front, written name front ≠ [] := by simp [written]
  have halves := List.takeWhile_append_dropWhile (p := inside) (l := value.toList)
  have plainFront : ∀ c ∈ value.toList.takeWhile inside, inside c = true :=
    fun c member => List.mem_takeWhile_imp member
  have plain := inside_written isName plainFront
  have first := List.head?_dropWhile_not inside value.toList
  generalize value.toList.takeWhile inside = front at halves plainFront plain
  cases ending : value.toList.dropWhile inside with
  | nil =>
      rw [ending, List.append_nil] at halves
      rw [halves] at plainFront plain
      refine ⟨value.toList, [], text rest, by simp, fun _ => ⟨plainFront, rfl⟩, by simp, ?_⟩
      cases rest with
      | nil =>
          rw [text_single, pieces_end plain (nonempty _)]
          rfl
      | cons next rest => rw [text_cons, pieces_and plain (nonempty _)]
  | cons c back =>
      rw [ending] at halves first
      have ends : inside c = false := first
      have notPlain : ¬ ∀ c ∈ value.toList, inside c = true := by
        intro all
        have here := all c (by rw [← halves]; simp)
        rw [ends] at here
        contradiction
      obtain ⟨after, whole⟩ := exists_text_eq name value rest
      have cut : written name value.toList ++ after = written name front ++ c :: (back ++ after) := by
        rw [← halves]
        simp [written]
      rw [whole, cut]
      by_cases isAnd : c = '&'
      · subst isAnd
        exact ⟨_, '&' :: back, back ++ after, halves.symm, by simp, fun _ => notPlain,
          pieces_and plain (nonempty _) _⟩
      · have isHash : c = '#' := by simpa [inside, isAnd] using ends
        subst isHash
        exact ⟨_, '#' :: back, [], halves.symm, by simp, fun _ => notPlain,
          pieces_fragment plain (nonempty _) _⟩

/-! ## Reading back what was written -/

theorem literal_iff (value : String) :
    Literal value ↔ (∀ c ∈ value.toList, inside c = true) ∧ decode value.toList = some value := by
  have read := decode_eq_self_iff value.toList
  rw [String.ofList_toList] at read
  rw [read]
  constructor
  · intro literal
    refine ⟨?_, literal.unescaped, fun plus => (literal.plain _ plus).2.2 rfl⟩
    intro c member
    have here := literal.plain c member
    simp [inside, here.1, here.2.1]
  · intro both
    obtain ⟨plain, unescaped, noPlus⟩ := both
    refine ⟨?_, unescaped⟩
    intro c member
    have here := plain c member
    simp only [inside, Bool.and_eq_true, decide_eq_true_eq] at here
    exact ⟨here.1, here.2, fun plus => noPlus (plus ▸ member)⟩

/-- Reading what is left of a url after its `?`. -/
def read (text : List Char) : Option (List (String × String)) := (pieces text).mapM pair

theorem size_append (front back : List Char) : size (front ++ back) = size front + size back := by
  induction front with
  | nil => simp [size]
  | cons c front ih =>
      simp only [List.cons_append, size_cons, ih]
      omega

/-- A value cut short is read as a smaller one. -/
theorem decode_front_ne {value : String} {front back : List Char} (halves : value.toList = front ++ back)
    (cut : back ≠ []) : decode front ≠ some value := by
  intro decoded
  obtain ⟨c, rest, rfl⟩ := List.exists_cons_of_ne_nil cut
  have room := size_decode_le decoded
  have positive := c.utf8Size_pos
  rw [halves, size_append, size_cons] at room
  omega

theorem read_literal {params : List (String × String)} (names : ∀ p ∈ params, IsName p.1)
    (literal : ∀ p ∈ params, Literal p.2) : read (text params) = some params := by
  induction params with
  | nil => rfl
  | cons p rest ih =>
      obtain ⟨name, value⟩ := p
      have isName : IsName name := names (name, value) List.mem_cons_self
      obtain ⟨plain, decoded⟩ := (literal_iff value).mp (literal (name, value) List.mem_cons_self)
      obtain ⟨front, back, other, halves, ends, cut, shape⟩ := pieces_text isName value rest
      have noBack : back = [] := by
        by_contra more
        exact cut more plain
      obtain ⟨_, rfl⟩ := ends noBack
      have whole : front = value.toList := by
        rw [halves, noBack, List.append_nil]
      have later : read (text rest) = some rest :=
        ih (fun p member => names p (List.mem_cons_of_mem _ member))
          (fun p member => literal p (List.mem_cons_of_mem _ member))
      rw [read, shape, List.mapM_cons, pair_written isName, whole, decoded]
      rw [read] at later
      simp only [Option.map_some, Option.bind_eq_bind, Option.bind_some, later]
      rfl

theorem literal_of_read {params found : List (String × String)} (names : ∀ p ∈ params, IsName p.1)
    (distinct : (params.map Prod.fst).Nodup) (reads : read (text params) = some found)
    (same : found.Perm params) : ∀ p ∈ params, Literal p.2 := by
  induction params generalizing found with
  | nil => simp
  | cons p rest ih =>
      obtain ⟨name, value⟩ := p
      have isName : IsName name := names (name, value) List.mem_cons_self
      obtain ⟨front, back, other, halves, ends, cut, shape⟩ := pieces_text isName value rest
      simp only [read, shape, List.mapM_cons, pair_written isName, Option.bind_eq_bind,
        Option.bind_eq_some_iff, Option.map_eq_some_iff, Option.pure_def, Option.some.injEq] at reads
      obtain ⟨_, ⟨found, decoded, rfl⟩, later, readLater, rfl⟩ := reads
      simp only [List.map_cons, List.nodup_cons] at distinct
      have own : found = value := by
        rcases List.mem_cons.mp (same.subset List.mem_cons_self) with first | other
        · exact (Prod.mk.inj first).2
        · exact absurd (List.mem_map_of_mem other) distinct.1
      subst own
      have noBack : back = [] := by
        by_contra more
        exact decode_front_ne halves more decoded
      obtain ⟨plain, rfl⟩ := ends noBack
      have whole : front = found.toList := by
        rw [halves, noBack, List.append_nil]
      rw [whole] at decoded
      have restLiteral : ∀ p ∈ rest, Literal p.2 :=
        ih (fun p member => names p (List.mem_cons_of_mem _ member)) distinct.2 readLater
          (List.Perm.cons_inv same)
      intro p member
      rcases List.mem_cons.mp member with rfl | inRest
      · exact (literal_iff found).mpr ⟨plain, decoded⟩
      · exact restLiteral p inRest

/-- The parameters of a url are exactly these, in any order. -/
def Reads (url : String) (params : List (String × String)) : Prop :=
  ∃ found, parameters url = some found ∧ found.Perm params

/-- An address without a query or a fragment of its own. -/
def IsBase (base : String) : Prop := ∀ c ∈ base.toList, c ≠ '?' ∧ c ≠ '#'

instance (base : String) : Decidable (IsBase base) := List.decidableBAll _ _

theorem parameters_render {base : String} (isBase : IsBase base) (params : List (String × String)) :
    parameters (base ++ "?" ++ render params) = read (text params) := by
  have noFragment : ∀ c ∈ base.toList, decide (c ≠ '#') = true := by
    intro c member
    simpa using (isBase c member).2
  have noQuery : ∀ c ∈ base.toList, decide (c ≠ '?') = true := by
    intro c member
    simpa using (isBase c member).1
  have cut : withoutFragment (base ++ "?" ++ render params).toList =
      base.toList ++ '?' :: withoutFragment (text params) := by
    simp only [String.toList_append, List.append_assoc, withoutFragment]
    rw [List.takeWhile_append_of_pos noFragment]
    rfl
  have rest : query (base.toList ++ '?' :: withoutFragment (text params)) =
      withoutFragment (text params) := by
    rw [query, List.dropWhile_append_of_pos noQuery]
    rfl
  rw [parameters, cut, rest]
  rfl

/-- A url whose query was written from names and values that were put in as they are
    is read to have exactly these if and only if all the values are literal. -/
theorem reads_iff_literal {base : String} (isBase : IsBase base) {params : List (String × String)}
    (names : ∀ p ∈ params, IsName p.1) (distinct : (params.map Prod.fst).Nodup) :
    Reads (base ++ "?" ++ render params) params ↔ ∀ p ∈ params, Literal p.2 := by
  rw [Reads, parameters_render isBase]
  constructor
  · intro reads
    obtain ⟨found, reads, same⟩ := reads
    exact literal_of_read names distinct reads same
  · intro literal
    exact ⟨params, read_literal names literal, List.Perm.refl params⟩

end Query

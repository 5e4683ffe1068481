import Mathlib.Algebra.GroupWithZero.Nat
import Edutopik.Library.Machine
import Edutopik.Otp.OtpForm

/-! # The six fields of a code

A field that comes to hold one character hands the focus to the next, and the last one
keeps it. Characters are typed and deleted at the end of the field in focus; a tap moves
the focus to any field. Nothing limits what a field may hold.

To whoever types, the six are one field. They behave as one until a character is
deleted that the focus has already left behind.
-/

namespace Edutopik.Otp

open Machine

/-- The UTF-16 code units of a character, which `length` counts. -/
def codeUnits (c : Char) : Nat := if c.toNat < 0x10000 then 1 else 2

def length (value : List Char) : Nat := (value.map codeUnits).sum

structure CodeFields where
  /-- What the controllers hold, in order. -/
  texts : List (List Char)
  focus : Nat
  six : texts.length = 6
  onField : focus < 6

inductive Key where
  | type (c : Char)
  | backspace

namespace CodeFields

def fresh : CodeFields :=
  { texts := List.replicate 6 [], focus := 0, six := rfl, onField := by decide }

def focused (s : CodeFields) : List Char :=
  s.texts.get ⟨s.focus, by rw [s.six]; exact s.onField⟩

/-- `onChanged` of the first five fields; the sixth's does nothing. -/
def nextField (s : CodeFields) (value : List Char) : CodeFields :=
  if next : length value = 1 ∧ s.focus + 1 < 6 then { s with focus := s.focus + 1, onField := next.2 }
  else s

/-- The text in focus is changed. -/
def change (s : CodeFields) (value : List Char) : CodeFields :=
  nextField { s with texts := s.texts.set s.focus value, six := by simp [s.six] } value

/-- There is nothing to delete in an empty field, and so no change. -/
def press (s : CodeFields) : Key → CodeFields
  | .type c => s.change (s.focused ++ [c])
  | .backspace => if s.focused = [] then s else s.change s.focused.dropLast

def tap (s : CodeFields) (place : Fin 6) : CodeFields :=
  { s with focus := place, onField := place.isLt }

def typed (s : CodeFields) : List Char := s.texts.flatten

def codes (s : CodeFields) : Codes :=
  let text (place : Nat) : String := String.ofList (s.texts.getD place [])
  { code1 := text 0, code2 := text 1, code3 := text 2, code4 := text 3, code5 := text 4
    code6 := text 5 }

/-- Pressing keys, with no taps in between. -/
def pressing : Step CodeFields Key Empty := fun s key => (s.press key, [])

end CodeFields

/-- What a key does to a single field. -/
def Key.onText (text : List Char) : Key → List Char
  | .type c => text ++ [c]
  | .backspace => text.dropLast

namespace CodeFields

variable {s : CodeFields}

/-- The code that is confirmed is what the fields hold. -/
theorem codes_code (s : CodeFields) : s.codes.code = String.ofList s.typed := by
  obtain ⟨texts, focus, six, onField⟩ := s
  match texts, six with
  | [_, _, _, _, _, _], _ => simp [codes, Codes.code, typed, String.ofList_append, String.append_assoc]

/-! ## While the focus has only moved on -/

/-- Every field before the focus holds something, and those after it nothing. -/
structure Ahead (s : CodeFields) : Prop where
  before : ∀ text ∈ s.texts.take s.focus, text ≠ []
  after : ∀ text ∈ s.texts.drop (s.focus + 1), text = []

/-- What the fields before the focus hold. -/
def behind (s : CodeFields) : List Char := (s.texts.take s.focus).flatten

theorem typed_eq (ahead : s.Ahead) : s.typed = s.behind ++ s.focused := by
  have inside : s.focus < s.texts.length := by
    rw [s.six]
    exact s.onField
  have rest : (s.texts.drop (s.focus + 1)).flatten = [] := List.flatten_eq_nil_iff.mpr ahead.after
  have cut : s.texts = s.texts.take s.focus ++ s.focused :: s.texts.drop (s.focus + 1) := by
    rw [focused, List.get_eq_getElem, ← List.drop_eq_getElem_cons inside, List.take_append_drop]
  rw [typed, cut, List.flatten_append, List.flatten_cons, rest, List.append_nil, behind]

theorem set_eq (s : CodeFields) (value : List Char) :
    s.texts.set s.focus value = s.texts.take s.focus ++ value :: s.texts.drop (s.focus + 1) := by
  rw [List.set_eq_take_append_cons_drop, if_pos (by rw [s.six]; exact s.onField)]

theorem change_texts (s : CodeFields) (value : List Char) :
    (s.change value).texts = s.texts.set s.focus value := by
  unfold change nextField
  split <;> rfl

theorem typed_change (ahead : s.Ahead) (value : List Char) :
    (s.change value).typed = s.behind ++ value := by
  have rest : (s.texts.drop (s.focus + 1)).flatten = [] := List.flatten_eq_nil_iff.mpr ahead.after
  rw [typed, change_texts, set_eq, List.flatten_append, List.flatten_cons, rest, List.append_nil, behind]

/-- The focus moves past a field that holds something, or stays. -/
theorem ahead_change (ahead : s.Ahead) (value : List Char) : (s.change value).Ahead := by
  have inside : s.focus ≤ s.texts.length := by
    rw [s.six]
    exact Nat.le_of_lt s.onField
  have front : (s.texts.take s.focus).length = s.focus := by
    rw [List.length_take, Nat.min_eq_left inside]
  have upTo : (s.texts.take s.focus ++ [value]).length = s.focus + 1 := by
    rw [List.length_append, front, List.length_singleton]
  have whole : (s.change value).texts =
      s.texts.take s.focus ++ [value] ++ s.texts.drop (s.focus + 1) := by
    rw [change_texts, set_eq, List.append_assoc, List.singleton_append]
  by_cases next : length value = 1 ∧ s.focus + 1 < 6
  · have focus : (s.change value).focus = s.focus + 1 := by
      unfold change nextField
      rw [dif_pos next]
    have some : value ≠ [] := by
      rintro rfl
      exact absurd next.1 (by decide)
    constructor
    · intro text member
      rw [whole, focus, List.take_left' upTo] at member
      rcases List.mem_append.mp member with old | new
      · exact ahead.before text old
      · rw [List.mem_singleton.mp new]
        exact some
    · intro text member
      rw [whole, focus, ← List.drop_drop, List.drop_left' upTo] at member
      exact ahead.after text (List.mem_of_mem_drop member)
  · have focus : (s.change value).focus = s.focus := by
      unfold change nextField
      rw [dif_neg next]
    constructor
    · intro text member
      rw [whole, focus, List.append_assoc, List.take_left' front] at member
      exact ahead.before text member
    · intro text member
      rw [whole, focus, List.drop_left' upTo] at member
      exact ahead.after text member

theorem ahead_press (ahead : s.Ahead) (key : Key) : (s.press key).Ahead := by
  cases key with
  | type c => exact ahead_change ahead _
  | backspace =>
      simp only [press]
      split
      · exact ahead
      · exact ahead_change ahead _

/-- Before the focus there is something, unless it is on the first field. -/
theorem behind_eq_nil_iff (ahead : s.Ahead) : s.behind = [] ↔ s.focus = 0 := by
  rw [behind, List.flatten_eq_nil_iff]
  constructor
  · intro empty
    cases front : s.texts.take s.focus with
    | nil =>
        have count := congrArg List.length front
        have inside := s.onField
        rw [List.length_take, s.six, List.length_nil] at count
        omega
    | cons text rest =>
        have member : text ∈ s.texts.take s.focus := by
          rw [front]
          exact List.mem_cons_self
        exact absurd (empty text member) (ahead.before text member)
  · intro first
    simp [first]

/-! ## The focus -/

/-- The field in focus takes the key, and the focus stays on it or goes to the next. -/
structure MovesOn (f : Fired CodeFields Key Empty) : Prop where
  takes : f.after.texts = f.before.texts.set f.before.focus (f.input.onText f.before.focused)
  forward : f.before.focus ≤ f.after.focus ∧ f.after.focus ≤ f.before.focus + 1

/-- The keys all go to the last field. -/
structure TakesRest (s : CodeFields) (keys : List Key) : Prop where
  focus : (final pressing s keys).focus = 5
  texts : (final pressing s keys).texts = s.texts.set 5 (keys.foldl Key.onText s.focused)

theorem focus_change (s : CodeFields) (value : List Char) :
    s.focus ≤ (s.change value).focus ∧ (s.change value).focus ≤ s.focus + 1 := by
  unfold change nextField
  split <;> simp

theorem set_focused (s : CodeFields) : s.texts.set s.focus s.focused = s.texts :=
  List.set_getElem_self _

theorem movesOn_press (s : CodeFields) (key : Key) : MovesOn (fire pressing s key) := by
  cases key with
  | type c => exact ⟨change_texts s _, focus_change s _⟩
  | backspace =>
      by_cases empty : s.focused = []
      · have stays : s.press .backspace = s := by rw [press, if_pos empty]
        constructor
        · simp only [fire, pressing, stays, Key.onText]
          rw [show s.focused.dropLast = s.focused by simp [empty], set_focused]
        · simp only [fire, pressing, stays]
          omega
      · have changes : s.press .backspace = s.change s.focused.dropLast := by rw [press, if_neg empty]
        constructor
        · simp only [fire, pressing, changes, Key.onText]
          exact change_texts s _
        · simp only [fire, pressing, changes]
          exact focus_change s _

/-- There is no field after the last, so it keeps the focus. -/
theorem takesRest_of_last (last : s.focus = 5) (keys : List Key) : s.TakesRest keys := by
  induction keys generalizing s with
  | nil =>
      refine ⟨last, ?_⟩
      rw [final_nil, List.foldl_nil, ← last, set_focused]
  | cons key rest ih =>
      have moved := movesOn_press s key
      have stays : (s.press key).focus = 5 := by
        have forward := moved.forward.1
        have onField := (s.press key).onField
        simp only [fire, pressing] at forward
        omega
      have takes : (s.press key).texts = s.texts.set 5 (key.onText s.focused) := last ▸ moved.takes
      have focused : (s.press key).focused = key.onText s.focused := by
        simp [CodeFields.focused, takes, stays]
      have later := ih stays
      refine ⟨later.focus, ?_⟩
      calc (final pressing (s.press key) rest).texts
          = (s.press key).texts.set 5 (rest.foldl Key.onText (s.press key).focused) := later.texts
        _ = s.texts.set 5 (rest.foldl Key.onText (key.onText s.focused)) := by
            rw [takes, focused, List.set_set]

/-! ## Six fields as one -/

/-- The key did to the code what it does to a single field. -/
def AsOneField (f : Fired CodeFields Key Empty) : Prop :=
  f.after.codes.code.toList = f.input.onText f.before.codes.code.toList

/-- Nothing is deleted from an empty field, but from the first. -/
def DeletesWithin (s : CodeFields) (key : Key) : Prop :=
  key = .backspace → s.focused = [] → s.focus = 0

theorem asOneField_step (ahead : s.Ahead) (key : Key) :
    AsOneField (fire pressing s key) ↔ s.DeletesWithin key := by
  have whole := typed_eq ahead
  simp only [AsOneField, fire_after, fire_before, fire_input, pressing, codes_code,
    String.toList_ofList]
  cases key with
  | type c =>
      have same : (s.press (.type c)).typed = s.typed ++ [c] := by
        rw [press, typed_change ahead, whole, List.append_assoc]
      exact iff_of_true same nofun
  | backspace =>
      by_cases empty : s.focused = []
      · have stays : s.press .backspace = s := by rw [press, if_pos empty]
        rw [stays, Key.onText, whole, empty, List.append_nil, DeletesWithin]
        simp only [empty, true_imp_iff, ← behind_eq_nil_iff ahead]
        constructor
        · intro same
          have count := congrArg List.length same
          rw [List.length_dropLast] at count
          exact List.length_eq_zero_iff.mp (by omega)
        · intro none
          rw [none]
          rfl
      · have same : (s.press .backspace).typed = s.typed.dropLast := by
          rw [press, if_neg empty, typed_change ahead, whole, List.dropLast_append_of_ne_nil empty]
        exact iff_of_true same (fun _ gone => absurd gone empty)

theorem ahead_fresh : fresh.Ahead := ⟨by decide, by decide⟩

/-- Typing and deleting, with no taps, act on the code as on one field exactly if nothing
    is deleted on a field that is still empty, the first one apart. The focus only moves
    forward, and from when it is on the last field that field takes the rest. -/
theorem six_as_one_iff (keys : List Key) :
    ((∀ f ∈ run pressing fresh keys, AsOneField f) ↔
      ∀ f ∈ run pressing fresh keys, f.before.DeletesWithin f.input) ∧
    (∀ f ∈ run pressing fresh keys, MovesOn f) ∧
    ∀ front back, keys = front ++ back → (final pressing fresh front).focus = 5 →
      (final pressing fresh front).TakesRest back := by
  refine ⟨?_, ?_, fun _ back _ last => takesRest_of_last last back⟩
  · exact good_iff_guarded (fun _ key ahead _ => ahead_press ahead key)
      (fun _ key ahead within => (asOneField_step ahead key).mpr within)
      (fun _ key ahead outside good => outside ((asOneField_step ahead key).mp good)) ahead_fresh keys
  · intro f member
    rw [eq_fire_of_mem pressing member]
    exact movesOn_press f.before f.input

/-- What is typed is the code, whatever is typed and however much of it. -/
theorem code_of_typing (cs : List Char) :
    (final pressing fresh (cs.map .type)).codes.code = String.ofList cs := by
  have typing : ∀ (cs : List Char) (s : CodeFields), s.Ahead →
      (final pressing s (cs.map .type)).typed = s.typed ++ cs := by
    intro cs
    induction cs with
    | nil => simp
    | cons c rest ih =>
        intro s ahead
        have one : (s.press (.type c)).typed = s.typed ++ [c] := by
          rw [press, typed_change ahead, typed_eq ahead, List.append_assoc]
        have later := ih (s.press (.type c)) (ahead_press ahead (.type c))
        rw [one, List.append_assoc] at later
        exact later
  rw [codes_code, typing cs fresh ahead_fresh]
  rfl

/-- The first of two digits has been left behind, and cannot be deleted. -/
example : (final pressing fresh [.type '1', .backspace]).codes.code = "1" := by decide

/-- A character that has been left behind is put right by a tap on its field. -/
theorem press_corrects (s : CodeFields) (place : Fin 6) {old c : Char}
    (single : s.texts[place.val]? = some [old]) :
    (((s.tap place).press .backspace).press (.type c)).texts = s.texts.set place [c] := by
  obtain ⟨inside, there⟩ := List.getElem?_eq_some_iff.mp single
  have focused : (s.tap place).focused = [old] := there
  have cleared : (s.tap place).press .backspace =
      { texts := s.texts.set place [], focus := place, six := by simp [s.six], onField := place.isLt } := by
    rw [press, if_neg (by simp [focused]), focused, change, nextField, dif_neg (by simp [length])]
    rfl
  rw [cleared, press, change_texts]
  simp [CodeFields.focused]

end CodeFields

end Edutopik.Otp

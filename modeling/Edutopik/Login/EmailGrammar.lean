import Edutopik.Library.RegexWords
import Edutopik.Login.EmailPattern

/-! # What the email pattern accepts

An address is a local part and a domain. The local part is dotted atoms or a quoted
text; the domain is the four numbers of an IP address between brackets, or host labels
and a top level domain. The pattern accepts the texts of addresses and no others, and
each such text is the text of one address only.
-/

namespace Edutopik.Login

open Regex EmailPattern

/-- A text of one letter at least, all of one class. -/
structure Token (letters : Char → Bool) where
  text : List Char
  nonempty : text ≠ []
  within : ∀ c ∈ text, letters c = true

/-- A number of an IP address, of three digits at most. -/
structure Octet extends Token isDigit where
  short : text.length ≤ 3

/-- A top level domain, of two letters at least. -/
structure TopLevel extends Token isLetter where
  long : 2 ≤ text.length

inductive LocalPart where
  | dotted (first : Token isAtomLetter) (rest : List (Token isAtomLetter))
  | quoted (text : Token isDot)

inductive Domain where
  | address (first second third fourth : Octet)
  | host (first : Token isLabelLetter) (rest : List (Token isLabelLetter)) (top : TopLevel)

structure Email where
  localPart : LocalPart
  domain : Domain

def LocalPart.text : LocalPart → List Char
  | .dotted first rest => ['.'].intercalate (first.text :: rest.map Token.text)
  | .quoted text => '"' :: text.text ++ ['"']

def Domain.text : Domain → List Char
  | .address first second third fourth =>
      '[' :: ['.'].intercalate [first.text, second.text, third.text, fourth.text] ++ [']']
  | .host first rest top => ['.'].intercalate (first.text :: rest.map Token.text ++ [top.text])

def Email.text (email : Email) : List Char := email.localPart.text ++ '@' :: email.domain.text

/-! ## Accepted texts -/

theorem mem_token {letters : Char → Bool} {w : List Char} :
    w ∈ (oneOrMore (one letters)).language ↔ ∃ token : Token letters, token.text = w := by
  rw [mem_oneOrMore_one]
  constructor
  · intro run
    exact ⟨⟨w, run.1, run.2⟩, rfl⟩
  · intro token
    obtain ⟨token, rfl⟩ := token
    exact ⟨token.nonempty, token.within⟩

theorem mem_octet {w : List Char} : w ∈ octet.language ↔ ∃ number : Octet, number.text = w := by
  simp only [octet, mem_seq, mem_one, mem_atMost_one]
  constructor
  · intro cut
    obtain ⟨_, ⟨c, digit, rfl⟩, rest, ⟨short, within⟩, rfl⟩ := cut
    exact ⟨⟨⟨c :: rest, List.cons_ne_nil c rest, List.forall_mem_cons.mpr ⟨digit, within⟩⟩,
      Nat.succ_le_succ short⟩, rfl⟩
  · intro number
    obtain ⟨⟨⟨text, nonempty, within⟩, short⟩, rfl⟩ := number
    cases text with
    | nil => exact absurd rfl nonempty
    | cons c rest =>
        obtain ⟨digit, later⟩ := List.forall_mem_cons.mp within
        exact ⟨[c], ⟨c, digit, rfl⟩, rest, ⟨Nat.le_of_succ_le_succ short, later⟩, rfl⟩

theorem mem_topLevel {w : List Char} :
    w ∈ (atLeast (one isLetter) 2).language ↔ ∃ top : TopLevel, top.text = w := by
  rw [mem_atLeast_one]
  constructor
  · intro run
    have nonempty : w ≠ [] := List.ne_nil_of_length_pos (by omega)
    exact ⟨⟨⟨w, nonempty, run.2⟩, run.1⟩, rfl⟩
  · intro top
    obtain ⟨top, rfl⟩ := top
    exact ⟨top.long, top.within⟩

/-- Texts of tokens are the texts of a list of tokens. -/
theorem forall_token_iff {letters : Char → Bool} {us : List (List Char)} :
    (∀ u ∈ us, ∃ token : Token letters, token.text = u) ↔
      ∃ tokens : List (Token letters), tokens.map Token.text = us := by
  constructor
  · intro each
    have read : ∀ u ∈ us, ∃ token : Token letters, True ∧ token.text = u := by
      intro u member
      obtain ⟨token, same⟩ := each u member
      exact ⟨token, trivial, same⟩
    obtain ⟨tokens, -, same⟩ := exists_map_eq read
    exact ⟨tokens, same⟩
  · intro tokens
    obtain ⟨tokens, rfl⟩ := tokens
    intro u member
    obtain ⟨token, -, rfl⟩ := List.mem_map.mp member
    exact ⟨token, rfl⟩

theorem mem_localPart {w : List Char} :
    w ∈ (either dotted quoted).language ↔ ∃ part : LocalPart, part.text = w := by
  rw [mem_either, dotted, atom, mem_separated]
  rw [quoted, mem_char_seq]
  simp only [mem_seq, mem_char, mem_token, forall_token_iff]
  constructor
  · intro form
    rcases form with ⟨_, _, ⟨first, rfl⟩, ⟨rest, rfl⟩, rfl⟩ | ⟨_, ⟨_, ⟨text, rfl⟩, _, rfl, rfl⟩, rfl⟩
    · exact ⟨.dotted first rest, rfl⟩
    · exact ⟨.quoted text, rfl⟩
  · intro part
    obtain ⟨part, rfl⟩ := part
    cases part with
    | dotted first rest => exact .inl ⟨_, _, ⟨first, rfl⟩, ⟨rest, rfl⟩, rfl⟩
    | quoted text => exact .inr ⟨_, ⟨_, ⟨text, rfl⟩, _, rfl, rfl⟩, rfl⟩

theorem mem_octet_seq {s : Regex Char} {w : List Char} : w ∈ (seq octet s).language ↔
    ∃ number : Octet, ∃ v ∈ s.language, number.text ++ v = w := by
  simp only [mem_seq, mem_octet]
  constructor
  · intro cut
    obtain ⟨_, ⟨number, rfl⟩, v, inside, rfl⟩ := cut
    exact ⟨number, v, inside, rfl⟩
  · intro cut
    obtain ⟨number, v, inside, rfl⟩ := cut
    exact ⟨_, ⟨number, rfl⟩, v, inside, rfl⟩

theorem mem_address {w : List Char} : w ∈ address.language ↔
    ∃ first second third fourth : Octet, (Domain.address first second third fourth).text = w := by
  simp only [address, mem_char_seq, mem_octet_seq, mem_char]
  constructor
  · intro cut
    obtain ⟨_, ⟨first, _, ⟨_, ⟨second, _, ⟨_, ⟨third, _, ⟨_, ⟨fourth, _, rfl, rfl⟩, rfl⟩, rfl⟩, rfl⟩,
      rfl⟩, rfl⟩, rfl⟩, rfl⟩ := cut
    exact ⟨first, second, third, fourth, by simp [Domain.text]⟩
  · intro numbers
    obtain ⟨first, second, third, fourth, rfl⟩ := numbers
    refine ⟨_, ⟨first, _, ⟨_, ⟨second, _, ⟨_, ⟨third, _, ⟨_, ⟨fourth, _, rfl, rfl⟩, rfl⟩, rfl⟩, rfl⟩,
      rfl⟩, rfl⟩, rfl⟩, ?_⟩
    simp [Domain.text]

theorem mem_host {w : List Char} : w ∈ host.language ↔
    ∃ (first : Token isLabelLetter) (rest : List (Token isLabelLetter)) (top : TopLevel),
      (Domain.host first rest top).text = w := by
  simp only [host, mem_seq, mem_terminated, mem_token, forall_token_iff, mem_topLevel]
  constructor
  · intro cut
    obtain ⟨_, ⟨_, nonempty, ⟨labels, rfl⟩, rfl⟩, _, ⟨top, rfl⟩, rfl⟩ := cut
    cases labels with
    | nil => exact absurd rfl nonempty
    | cons first rest => exact ⟨first, rest, top, (flatMap_append_eq_intercalate '.' _ _).symm⟩
  · intro labels
    obtain ⟨first, rest, top, rfl⟩ := labels
    exact ⟨_, ⟨_, List.cons_ne_nil _ _, ⟨first :: rest, rfl⟩, rfl⟩, _, ⟨top, rfl⟩,
      flatMap_append_eq_intercalate '.' _ _⟩

theorem mem_domain {w : List Char} :
    w ∈ (either address host).language ↔ ∃ domain : Domain, domain.text = w := by
  rw [mem_either, mem_address, mem_host]
  constructor
  · intro form
    rcases form with ⟨first, second, third, fourth, same⟩ | ⟨first, rest, top, same⟩
    · exact ⟨.address first second third fourth, same⟩
    · exact ⟨.host first rest top, same⟩
  · intro domain
    obtain ⟨domain, same⟩ := domain
    cases domain with
    | address first second third fourth => exact .inl ⟨first, second, third, fourth, same⟩
    | host first rest top => exact .inr ⟨first, rest, top, same⟩

theorem hasMatch_iff {text : String} :
    hasMatch text = true ↔ ∃ email : Email, email.text = text.toList := by
  rw [hasMatch, accepts_iff, pattern, mem_seq]
  simp only [mem_localPart, mem_char_seq, mem_domain]
  constructor
  · intro cut
    obtain ⟨_, ⟨localPart, rfl⟩, _, ⟨_, ⟨domain, rfl⟩, rfl⟩, whole⟩ := cut
    exact ⟨⟨localPart, domain⟩, whole⟩
  · intro email
    obtain ⟨email, whole⟩ := email
    exact ⟨_, ⟨email.localPart, rfl⟩, _, ⟨_, ⟨email.domain, rfl⟩, rfl⟩, whole⟩

/-! ## One address only -/

theorem Token.text_inj {letters : Char → Bool} {first second : Token letters}
    (same : first.text = second.text) : first = second := by
  cases first
  cases second
  cases same
  rfl

theorem Octet.text_inj {first second : Octet} (same : first.text = second.text) : first = second := by
  cases first
  cases second
  cases Token.text_inj same
  rfl

theorem TopLevel.text_inj {first second : TopLevel} (same : first.text = second.text) :
    first = second := by
  cases first
  cases second
  cases Token.text_inj same
  rfl

theorem Token.texts_inj {letters : Char → Bool} {first second : List (Token letters)}
    (same : first.map Token.text = second.map Token.text) : first = second :=
  List.map_injective_iff.mpr (fun _ _ => Token.text_inj) same

theorem Token.free {letters : Char → Bool} (token : Token letters) {mark : Char}
    (excluded : letters mark = false) : mark ∉ token.text := by
  intro inside
  have letter := token.within mark inside
  rw [excluded] at letter
  cases letter

theorem Token.texts_free {letters : Char → Bool} (tokens : List (Token letters)) (mark : Char)
    (excluded : letters mark = false) : ∀ u ∈ tokens.map Token.text, mark ∉ u := by
  intro u member
  obtain ⟨token, -, rfl⟩ := List.mem_map.mp member
  exact token.free excluded

/-- A letter that neither separates nor occurs in the parts does not occur. -/
theorem free_of_parts {mark separator : Char} {us : List (List Char)} (apart : mark ≠ separator)
    (free : ∀ u ∈ us, mark ∉ u) : mark ∉ [separator].intercalate us := by
  intro inside
  rcases mem_intercalate inside with same | ⟨u, member, there⟩
  · exact apart same
  · exact free u member there

/-- Dotted atoms have no quotation mark, which a quoted text starts with. -/
theorem unquoted (first : Token isAtomLetter) (rest : List (Token isAtomLetter)) :
    '"' ∉ (LocalPart.dotted first rest).text :=
  free_of_parts (by decide) (Token.texts_free (first :: rest) '"' (by decide))

theorem LocalPart.text_inj {first second : LocalPart} (same : first.text = second.text) :
    first = second := by
  cases first with
  | dotted atom rest =>
      cases second with
      | dotted atom' rest' =>
          have free := Token.texts_free (atom :: rest) '.' (by decide)
          have free' := Token.texts_free (atom' :: rest') '.' (by decide)
          have parts : (atom :: rest).map Token.text = (atom' :: rest').map Token.text :=
            intercalate_inj (List.cons_ne_nil _ _) (List.cons_ne_nil _ _) free free' same
          cases Token.texts_inj parts
          rfl
      | quoted text =>
          have marked : '"' ∈ (LocalPart.quoted text).text := List.mem_cons_self
          rw [← same] at marked
          exact absurd marked (unquoted atom rest)
  | quoted text =>
      cases second with
      | dotted atom rest =>
          have marked : '"' ∈ (LocalPart.quoted text).text := List.mem_cons_self
          rw [same] at marked
          exact absurd marked (unquoted atom rest)
      | quoted text' =>
          have inner := (List.cons.inj same).2
          cases Token.text_inj (List.append_cancel_right inner)
          rfl

theorem numbers_free (a b c d : Octet) (mark : Char) (excluded : isDigit mark = false) :
    ∀ u ∈ [a.text, b.text, c.text, d.text], mark ∉ u := by
  have free : ∀ number : Octet, mark ∉ number.text := fun number => number.free excluded
  simp [free]

theorem labels_free (first : Token isLabelLetter) (rest : List (Token isLabelLetter)) (top : TopLevel)
    (mark : Char) (excluded : isLabelLetter mark = false) :
    ∀ u ∈ (first :: rest).map Token.text ++ [top.text], mark ∉ u := by
  intro u member
  rcases List.mem_append.mp member with label | last
  · exact Token.texts_free (first :: rest) mark excluded u label
  · rw [List.mem_singleton.mp last]
    apply top.free
    simp only [isLabelLetter, Bool.or_eq_false_iff] at excluded
    exact excluded.1.1

/-- A host has no bracket, which an address starts with. -/
theorem unbracketed (first : Token isLabelLetter) (rest : List (Token isLabelLetter))
    (top : TopLevel) : '[' ∉ (Domain.host first rest top).text :=
  free_of_parts (by decide) (labels_free first rest top '[' (by decide))

theorem Domain.text_inj {first second : Domain} (same : first.text = second.text) :
    first = second := by
  cases first with
  | address a b c d =>
      have bracket : '[' ∈ (Domain.address a b c d).text := List.mem_cons_self
      cases second with
      | address a' b' c' d' =>
          have inner := (List.cons.inj (List.append_cancel_right same)).2
          have free := numbers_free a b c d '.' (by decide)
          have free' := numbers_free a' b' c' d' '.' (by decide)
          have parts := intercalate_inj (List.cons_ne_nil _ _) (List.cons_ne_nil _ _) free free' inner
          simp only [List.cons.injEq, and_true] at parts
          obtain ⟨sameA, sameB, sameC, sameD⟩ := parts
          rw [Octet.text_inj sameA, Octet.text_inj sameB, Octet.text_inj sameC, Octet.text_inj sameD]
      | host label rest top =>
          rw [same] at bracket
          exact absurd bracket (unbracketed label rest top)
  | host label rest top =>
      cases second with
      | address a b c d =>
          have bracket : '[' ∈ (Domain.address a b c d).text := List.mem_cons_self
          rw [← same] at bracket
          exact absurd bracket (unbracketed label rest top)
      | host label' rest' top' =>
          have free := labels_free label rest top '.' (by decide)
          have free' := labels_free label' rest' top' '.' (by decide)
          have parts : (label :: rest).map Token.text ++ [top.text] =
              (label' :: rest').map Token.text ++ [top'.text] :=
            intercalate_inj (List.cons_ne_nil _ _) (List.cons_ne_nil _ _) free free' same
          obtain ⟨labels, tops⟩ := List.append_inj' parts rfl
          cases Token.texts_inj labels
          rw [TopLevel.text_inj (List.singleton_inj.mp tops)]

/-- Nothing in a domain could be taken for the `@` before it. -/
theorem Domain.free (domain : Domain) : '@' ∉ domain.text := by
  cases domain with
  | address a b c d =>
      have inner : '@' ∉ ['.'].intercalate [a.text, b.text, c.text, d.text] :=
        free_of_parts (by decide) (numbers_free a b c d '@' (by decide))
      simpa [Domain.text] using inner
  | host first rest top => exact free_of_parts (by decide) (labels_free first rest top '@' (by decide))

theorem Email.text_inj {first second : Email} (same : first.text = second.text) : first = second := by
  obtain ⟨localPart, domain⟩ := first
  obtain ⟨localPart', domain'⟩ := second
  obtain ⟨before, after⟩ := append_cons_inj domain.free domain'.free same
  cases LocalPart.text_inj before
  cases Domain.text_inj after
  rfl

/-- The pattern accepts a text exactly if it is the text of an address, and then of one
    address only. -/
theorem hasMatch_iff_existsUnique (text : String) :
    hasMatch text = true ↔ ∃! email : Email, email.text = text.toList := by
  rw [hasMatch_iff]
  constructor
  · intro read
    obtain ⟨email, whole⟩ := read
    refine ⟨email, whole, ?_⟩
    intro other whole'
    exact Email.text_inj (whole'.trans whole.symm)
  · intro read
    obtain ⟨email, whole, -⟩ := read
    exact ⟨email, whole⟩

end Edutopik.Login

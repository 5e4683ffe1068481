import Edutopik.Library.Regex

/-! # The email pattern of the login form

The pattern is anchored at both ends, so `hasMatch` asks for a match of the whole
text. A local part is either dotted atoms, whose class excludes white space, or
anything between two quotation marks.
-/

namespace Edutopik.Login

open Regex

/-- `\s` -/
def isSpace (c : Char) : Bool :=
  let n := c.toNat
  (0x9 ≤ n && n ≤ 0xD) || n == 0x20 || n == 0xA0 || n == 0x1680 || (0x2000 ≤ n && n ≤ 0x200A) ||
    n == 0x2028 || n == 0x2029 || n == 0x202F || n == 0x205F || n == 0x3000 || n == 0xFEFF

/-- `[^<>()[\]\\.,;:\s@\"]` -/
def isAtomLetter (c : Char) : Bool :=
  !(['<', '>', '(', ')', '[', ']', '\\', '.', ',', ';', ':', '@', '"'].contains c || isSpace c)

/-- `.` matches everything but the line terminators. -/
def isDot (c : Char) : Bool :=
  let n := c.toNat
  !(n == 0xA || n == 0xD || n == 0x2028 || n == 0x2029)

/-- `[0-9]` -/
def isDigit (c : Char) : Bool := '0' ≤ c && c ≤ '9'

/-- `[a-zA-Z]` -/
def isLetter (c : Char) : Bool := ('a' ≤ c && c ≤ 'z') || ('A' ≤ c && c ≤ 'Z')

/-- `[a-zA-Z\-0-9]` -/
def isLabelLetter (c : Char) : Bool := isLetter c || c == '-' || isDigit c

namespace EmailPattern

def atom : Regex Char := oneOrMore (one isAtomLetter)

/-- `[^…]+(\.[^…]+)*` -/
def dotted : Regex Char := seq atom (many (seq (char '.') atom))

/-- `\".+\"` -/
def quoted : Regex Char := seq (char '"') (seq (oneOrMore (one isDot)) (char '"'))

/-- `[0-9]{1,3}` -/
def octet : Regex Char := seq (one isDigit) (atMost (one isDigit) 2)

/-- `\[[0-9]{1,3}\.[0-9]{1,3}\.[0-9]{1,3}\.[0-9]{1,3}\]` -/
def address : Regex Char :=
  seq (char '[') (seq octet (seq (char '.') (seq octet (seq (char '.')
    (seq octet (seq (char '.') (seq octet (char ']'))))))))

/-- `([a-zA-Z\-0-9]+\.)+[a-zA-Z]{2,}` -/
def host : Regex Char :=
  seq (oneOrMore (seq (oneOrMore (one isLabelLetter)) (char '.'))) (atLeast (one isLetter) 2)

def pattern : Regex Char :=
  seq (either dotted quoted) (seq (char '@') (either address host))

/-! ## Spaces in an accepted email -/

/-- A letter of the pattern outside the quotation marks. -/
def Plain (c : Char) : Prop := c ≠ ' '

theorem within_class {letters : Char → Bool} (spaceless : letters ' ' = false) :
    (one letters).Within Plain := by
  intro a inClass same
  rw [same, spaceless] at inClass
  cases inClass

theorem within_dotted : dotted.Within Plain := by
  have letter : (one isAtomLetter).Within Plain := within_class (by decide)
  have dot : (char '.').Within Plain := within_class (by decide)
  exact ⟨⟨letter, letter⟩, dot, letter, letter⟩

theorem within_address : address.Within Plain := by
  have digit : (one isDigit).Within Plain := within_class (by decide)
  have number : octet.Within Plain := ⟨digit, within_atMost digit 2⟩
  have dot : (char '.').Within Plain := within_class (by decide)
  have opening : (char '[').Within Plain := within_class (by decide)
  have closing : (char ']').Within Plain := within_class (by decide)
  exact ⟨opening, number, dot, number, dot, number, dot, number, closing⟩

theorem within_host : host.Within Plain := by
  have labelLetter : (one isLabelLetter).Within Plain := within_class (by decide)
  have dot : (char '.').Within Plain := within_class (by decide)
  have letter : (one isLetter).Within Plain := within_class (by decide)
  exact ⟨⟨⟨⟨labelLetter, labelLetter⟩, dot⟩, ⟨labelLetter, labelLetter⟩, dot⟩,
    within_atLeast letter 2⟩

/-- Everything from the `@` on. -/
theorem within_domain : (seq (char '@') (either address host)).Within Plain :=
  ⟨within_class (by decide), within_address, within_host⟩

end EmailPattern

open EmailPattern

/-- `regExp.hasMatch(text)` -/
def hasMatch (text : String) : Bool := pattern.accepts text.toList

/-- Only the quoted form of the local part admits a space. -/
theorem quoted_of_space {text : String} (accepted : hasMatch text = true)
    (space : ' ' ∈ text.toList) : text.toList.head? = some '"' := by
  have member : text.toList ∈ pattern.language := (accepts_iff _ _).mp accepted
  obtain ⟨localPart, inLocal, domain, inDomain, whole⟩ := Language.mem_mul.mp member
  have domainPlain := forall_mem_of_within within_domain inDomain
  rcases (Language.mem_add _ _ _).mp inLocal with inDotted | inQuoted
  · have localPlain := forall_mem_of_within within_dotted inDotted
    rw [← whole] at space
    rcases List.mem_append.mp space with inFront | inBack
    · exact absurd rfl (localPlain ' ' inFront)
    · exact absurd rfl (domainPlain ' ' inBack)
  · obtain ⟨mark, inMark, rest, -, rfl⟩ := Language.mem_mul.mp inQuoted
    obtain ⟨c, isMark, rfl⟩ := inMark
    have same : c = '"' := by simpa using isMark
    rw [← whole, same]
    rfl

example : hasMatch "kim@edutopik.com" = true := by decide

example : hasMatch "kim lee@edutopik.com" = false := by decide

end Edutopik.Login

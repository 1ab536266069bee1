import Colloquy.Text

/-!
# Tokens of the script notation

A script is written as nested lists of symbols and numbers:

    (SORRY ((0) (PLEASE DON'T APOLOGIZE) (APOLOGIES ARE NOT NECESSARY)))

Blanks separate tokens, and a semicolon opens a comment that runs to the end of the line.

* `Token.read?`: the first token of a text and what follows it.
* `tokens`: all tokens of a text.
* `Token.text`: how a token is written.
-/

namespace Colloquy

open Text

/-- A token of the script notation. -/
inductive Token where
  /-- An opening parenthesis. -/
  | lparen
  /-- A closing parenthesis. -/
  | rparen
  /-- A word such as `MOTHER`, `DON'T` or `*SAD`, or one of the signs `=`, `,` and `.`. -/
  | symbol (text : String)
  /-- A decimal number below `Token.numberBound`. -/
  | number (value : Nat)
deriving DecidableEq, Repr

namespace Token

/-- How a token is written. -/
def text : Token → String
  | lparen => "("
  | rparen => ")"
  | symbol s => s
  | number n => n.repr

/-- Whether a token is the symbol written `s`. -/
def isSymbol (t : Token) (s : String) : Bool := t == symbol s

/-! ## Characters -/

/-- Numbers are below this bound; a longer run of digits is a symbol. -/
def numberBound : Nat := Nat.pow 2 64

/-- The signs that are symbols by themselves. -/
def isSign (c : Char) : Bool := c == '=' || c == ',' || c == '.'

/-- Whether a character ends a symbol. -/
def isDelimiter (c : Char) : Bool :=
  isBlank c || c == '(' || c == ')' || c == ';' || isSign c

/-! ## Reading -/

/-- The text without the blanks and comments it begins with. `comment` says that the text
begins inside a comment. -/
def skipIgnored (comment : Bool) : List Char → List Char
  | [] => []
  | c :: cs =>
    if comment then skipIgnored (c != '\n') cs
    else if isBlank c then skipIgnored false cs
    else if c == ';' then skipIgnored true cs
    else c :: cs

/-- The token that a run of digits stands for. -/
def ofDigits (digits : List Char) : Token :=
  let value := Nat.ofDigitChars 10 digits 0
  if value < numberBound then number value else symbol (.ofList digits)

/-- The token that begins with `c`, and what follows it in `cs`. -/
def readFrom (c : Char) (cs : List Char) : Token × List Char :=
  if c == '(' then (lparen, cs)
  else if c == ')' then (rparen, cs)
  else if isSign c then (symbol (.singleton c), cs)
  else if c.isDigit then (ofDigits (c :: cs.takeWhile Char.isDigit), cs.dropWhile Char.isDigit)
  else (symbol (.ofList (c :: cs.takeWhile (!isDelimiter ·))), cs.dropWhile (!isDelimiter ·))

/-- The first token of a text and what follows it, or `none` where only blanks and comments
are left. -/
def read? (cs : List Char) : Option (Token × List Char) :=
  match skipIgnored false cs with
  | [] => none
  | c :: cs => some (readFrom c cs)

theorem length_skipIgnored_le (comment : Bool) (cs : List Char) :
    (skipIgnored comment cs).length ≤ cs.length := by
  induction cs generalizing comment with
  | nil => simp [skipIgnored]
  | cons c cs ih =>
    unfold skipIgnored
    split
    · exact Nat.le_succ_of_le (ih _)
    · split
      · exact Nat.le_succ_of_le (ih _)
      · split
        · exact Nat.le_succ_of_le (ih _)
        · exact Nat.le_refl _

theorem length_readFrom_le (c : Char) (cs : List Char) :
    (readFrom c cs).2.length ≤ cs.length := by
  have drop_le (p : Char → Bool) : (cs.dropWhile p).length ≤ cs.length :=
    (List.dropWhile_suffix p).length_le
  unfold readFrom
  split
  · exact Nat.le_refl _
  · split
    · exact Nat.le_refl _
    · split
      · exact Nat.le_refl _
      · split
        · exact drop_le _
        · exact drop_le _

/-- Reading a token uses up at least one character. -/
theorem length_lt_of_read? {cs rest : List Char} {t : Token} (h : read? cs = some (t, rest)) :
    rest.length < cs.length := by
  unfold read? at h
  split at h
  · contradiction
  · rename_i c cs' hskip
    have hle := length_skipIgnored_le false cs
    have hread := length_readFrom_le c cs'
    rw [Option.some.inj h] at hread
    rw [hskip, List.length_cons] at hle
    exact Nat.lt_of_le_of_lt hread hle

/-- The tokens of a list of characters. -/
def all (cs : List Char) : List Token :=
  match _h : read? cs with
  | none => []
  | some (t, rest) => t :: all rest
termination_by cs.length
decreasing_by exact length_lt_of_read? _h

theorem all_eq_nil {cs : List Char} (h : read? cs = none) : all cs = [] := by
  unfold all
  split
  · rfl
  · simp_all

theorem all_eq_cons {cs rest : List Char} {t : Token} (h : read? cs = some (t, rest)) :
    all cs = t :: all rest := by
  rw [all]
  split
  · simp_all
  · simp_all

end Token

/-- The tokens of a text. -/
def tokens (text : String) : List Token := Token.all text.toList

end Colloquy

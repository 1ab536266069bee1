import Colloquy.Text.Case
import Colloquy.Text.CharClass

/-!
# Texts, words and sentences

What is typed is put into a canonical form and cut into words. Words are put together again and
shown as a sentence.

* `fields`: the maximal blank-free runs of a text, in order.
* `words`: the words of a text; each comma and full stop is a word of its own.
* `joined`: words with single spaces between them, a comma or full stop directly after the word
  before it.
* `canonical`: typed text in the form that rules are written in, in capitals with plain quotes.
* `sentence`: a text in lower case with single spaces, with a capital at the start of each
  sentence and in the pronoun "I".
-/

namespace Colloquy.Text

/-! ## Blanks -/

/-- Whether a character has the `White_Space` property. -/
def isBlank (c : Char) : Bool :=
  ('\u0009' ≤ c && c ≤ '\u000d') || c == ' ' || c == '\u0085' || c == '\u00a0' || c == '\u1680' ||
  ('\u2000' ≤ c && c ≤ '\u200a') || c == '\u2028' || c == '\u2029' || c == '\u202f' ||
  c == '\u205f' || c == '\u3000'

/-- The maximal blank-free runs of a list of characters, in order. -/
def fieldsOf (cs : List Char) : List (List Char) := (cs.splitOnP isBlank).filter (· ≠ [])

@[simp] theorem fieldsOf_nil : fieldsOf [] = [] := by
  simp [fieldsOf, List.splitOnP_nil]

/-- A blank divides the runs into those on either side of it. -/
theorem fieldsOf_append_blank {c : Char} (h : isBlank c = true) (xs ys : List Char) :
    fieldsOf (xs ++ c :: ys) = fieldsOf xs ++ fieldsOf ys := by
  unfold fieldsOf
  rw [List.splitOnP_append_cons xs ys h, List.filter_append]

/-- What has no blank in it is one run. -/
theorem fieldsOf_eq_singleton {cs : List Char} (hne : cs ≠ []) (h : ∀ c ∈ cs, isBlank c = false) :
    fieldsOf cs = [cs] := by
  rw [fieldsOf, List.splitOnP_eq_singleton h]
  simp [hne]

/-- The maximal blank-free runs of a text, in order. -/
def fields (text : String) : List String := (fieldsOf text.toList).map .ofList

/-- A text without the blanks it begins with. -/
def trimStart (cs : List Char) : List Char := cs.dropWhile isBlank

/-! ## Words -/

/-- The characters that end a clause and are words of their own. -/
def isMark (c : Char) : Bool := c == ',' || c == '.'

/-- Whether a word is a comma or a full stop. -/
def isMarkWord (word : String) : Bool := word == "," || word == "."

/-- A character as it is written before the text is cut at blanks: marks are set off. -/
def setOff (c : Char) : List Char := if isMark c then [' ', c, ' '] else [c]

/-- The words of a list of characters: its marks and, between them, its blank-free runs. -/
def wordsOf (cs : List Char) : List (List Char) := fieldsOf (cs.flatMap setOff)

/-- The words of a text. -/
def words (text : String) : List String := (wordsOf text.toList).map .ofList

/-- A text without the blanks that stand directly before a mark. -/
def attachMarks (cs : List Char) : List Char :=
  cs.foldr (fun c rest => if isBlank c && rest.head?.any isMark then rest else c :: rest) []

theorem attachMarks_cons (c : Char) (cs : List Char) :
    attachMarks (c :: cs) =
      if isBlank c && (attachMarks cs).head?.any isMark then attachMarks cs
      else c :: attachMarks cs := by
  rw [attachMarks, List.foldr_cons]
  rfl

/-- The text of a list of words. -/
def joined (ws : List String) : String := .ofList (attachMarks (" ".intercalate ws).toList)

/-! ## The canonical form of what is typed -/

/-- Marks that open a Spanish question or exclamation. -/
def invertedMarks : List Char := ['\u00a1', '\u00bf']

/-- Single quotation marks and accents. -/
def singleQuotes : List Char := ['\u2018', '\u2019', '\u201a', '\u201b', '\u00b4', '\u0060']

/-- Double quotation marks, curved, low and angled. -/
def doubleQuotes : List Char :=
  ['\u201c', '\u201d', '\u201e', '\u201f', '\u00ab', '\u00bb', '\u2039', '\u203a']

/-- Marks other than the full stop that end a sentence. -/
def sentenceMarks : List Char := ['!', '?']

/-- Marks other than the comma that separate clauses. -/
def clauseMarks : List Char := [';', ':', '\u2013', '\u2014']

/-- The plain character that stands for `c`, or `none` if `c` is dropped. -/
def plainChar? (c : Char) : Option Char :=
  if c ∈ invertedMarks then none
  else if c ∈ singleQuotes then some '\u0027'
  else if c ∈ doubleQuotes then some '\u0022'
  else if c ∈ sentenceMarks then some '.'
  else if c ∈ clauseMarks then some ','
  else some c

/-- Typed text in the form that rules are written in: quotation marks and accents are plain, what
ends a sentence is a full stop and what separates clauses a comma, and all is in upper case. -/
def canonical (text : String) : String := upper (.ofList (text.toList.filterMap plainChar?))

/-! ## Sentence case -/

/-- Whether a character ends a sentence. -/
def endsSentence (c : Char) : Bool := c == '.' || c == '!' || c == '?'

/-- Gives a capital to each lowercase letter that opens a sentence. `opening` says that the
first character would: nothing, or only blanks after the end of a sentence, stands before it. -/
def capitalize (opening : Bool) : List Char → List Char
  | [] => []
  | c :: cs =>
    if opening && isLowercase c then upperChar c ++ capitalize false cs
    else c :: capitalize (endsSentence c || opening && isBlank c) cs

/-- Gives a capital to each "i" with no word character directly before or after it, so also
to the one of "i'm". `inWord` says that a word character stands before the first character. -/
def capitalizePronoun (inWord : Bool) : List Char → List Char
  | [] => []
  | c :: cs =>
    (if c == 'i' && !inWord && !cs.head?.any isWordChar then 'I' else c) ::
      capitalizePronoun (isWordChar c) cs

/-- A text with single spaces between its words and none around them. -/
def spaced (text : String) : String := " ".intercalate (fields text)

/-- A text in sentence case. -/
def sentence (text : String) : String :=
  .ofList (capitalizePronoun false (capitalize true (lower (spaced text)).toList))

/-- A list of words as a sentence. -/
def spoken (ws : List String) : String := sentence (joined ws)

end Colloquy.Text

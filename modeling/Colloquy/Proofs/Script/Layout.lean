import Colloquy.Proofs.Script.Lexing
import Mathlib

/-!
# Layout of tokens

Tokens may be written with any blanks and comments between them. A gap keeps the tokens on either
side of it apart, and nothing that a comment says is read.

* `Filler`: a blank or a comment; a gap is a list of them.
* `laidOut`: the text of tokens with a gap behind each.
* `Lexes.gap`, `Trails.gap`: a gap is passed over, and ends the token before it.
* `tokens_laidOut`: tokens that are laid out are read back.
-/

namespace Colloquy

open Text

/-! ## Gaps -/

/-- What may stand between two tokens: a blank, or a comment with the line break that ends it. -/
inductive Filler where
  | blank (c : Char) (isBlank_eq : isBlank c = true)
  | comment (body : List Char) (not_mem : '\n' ∉ body)

def Filler.text : Filler → String
  | blank c _ => .singleton c
  | comment body _ => .ofList (';' :: (body ++ ['\n']))

abbrev Gap := List Filler

def Gap.text (gap : Gap) : String := .join (gap.map Filler.text)

/-- Tokens as they are written with a gap in front of them and one behind each. -/
def laidOut (front : Gap) (rows : List (Token × Gap)) : String :=
  front.text ++ .join (rows.map fun (t, gap) => t.text ++ gap.text)

/-! ## Reading over gaps -/

namespace Token

/-- A comment is passed over up to the end of its line. -/
theorem skipIgnored_comment {body : List Char} (h : '\n' ∉ body) (cs : List Char) :
    skipIgnored true (body ++ '\n' :: cs) = skipIgnored false cs := by
  induction body with
  | nil => rfl
  | cons c body ih =>
    obtain ⟨hc, hbody⟩ := not_or.1 (List.mem_cons.not.1 h)
    rw [List.cons_append, skipIgnored, if_pos rfl, bne_iff_ne.2 (Ne.symm hc)]
    exact ih hbody

end Token

section Gaps

variable {a : String} {ts : List Token}

/-- A piece of text after a comment. -/
theorem Lexes.comment {body : List Char} (h : '\n' ∉ body) (ha : Lexes a ts) :
    Trails (.ofList (';' :: (body ++ ['\n'])) ++ a) ts where
  lexes rest hrest := by
    rw [String.toList_append, String.toList_ofList, List.append_assoc, List.cons_append,
      List.append_assoc, List.singleton_append, ← ha rest hrest]
    exact Token.all_eq_of_skipIgnored_eq (Token.skipIgnored_comment h _)
  ends rest hrest := by
    rw [String.toList_append, String.toList_ofList, List.append_assoc, List.cons_append]
    exact Token.Ends.cons rfl _

theorem Lexes.filler (x : Filler) (ha : Lexes a ts) : Trails (x.text ++ a) ts := by
  cases x with
  | blank c h => exact ha.blank h
  | comment body h => exact ha.comment h

theorem Gap.text_cons (x : Filler) (gap : Gap) : Gap.text (x :: gap) = x.text ++ gap.text := by
  rw [text, List.map_cons, String.join_cons, text]

/-- A gap is passed over. -/
theorem Lexes.gap (gap : Gap) (ha : Lexes a ts) : Lexes (gap.text ++ a) ts := by
  induction gap with
  | nil => exact ha
  | cons x gap ih =>
    rw [Gap.text_cons, String.append_assoc]
    exact (ih.filler x).lexes

/-- A gap ends the token before it, unless there is nothing in it. -/
theorem Trails.gap {gap : Gap} (hne : gap ≠ []) (ha : Lexes a ts) : Trails (gap.text ++ a) ts := by
  cases gap with
  | nil => exact absurd rfl hne
  | cons x gap =>
    rw [Gap.text_cons, String.append_assoc]
    exact (ha.gap gap).filler x

theorem Gap.trails (gap : Gap) : Trails gap.text [] := by
  cases gap with
  | nil => exact Trails.nil
  | cons x gap =>
    have htrails := Trails.gap (List.cons_ne_nil x gap) Trails.nil.lexes
    rwa [String.append_empty] at htrails

end Gaps

/-! ## Laid out tokens -/

/-- Tokens are read back from rows of a token and a gap, since a token is only followed by a gap
that ends it or by the end of the text. -/
theorem Lexes.rows {rows : List (Token × Gap)} (hwell : ∀ row ∈ rows, row.1.WellFormed)
    (hgaps : ∀ row ∈ rows.dropLast, row.2 ≠ []) :
    Lexes (.join (rows.map fun (t, gap) => t.text ++ gap.text)) (rows.map Prod.fst) := by
  induction rows with
  | nil => exact Trails.nil.lexes
  | cons row rows ih =>
    obtain ⟨hrow, hrest⟩ := List.forall_mem_cons.1 hwell
    rw [List.map_cons, String.join_cons, List.map_cons]
    cases rows with
    | nil =>
      have hlast : Lexes (row.1.text ++ row.2.text) [row.1] :=
        (Lexes.of_token hrow).append row.2.trails
      rwa [List.map_nil, String.join_nil, String.append_empty]
    | cons next rows =>
      rw [List.dropLast_cons_cons, List.forall_mem_cons] at hgaps
      have hafter : Lexes _ ((next :: rows).map Prod.fst) := ih hrest hgaps.2
      rw [String.append_assoc]
      exact (Lexes.of_token hrow).append (Trails.gap hgaps.1 hafter)

/-- Every token of a text is well-formed, and well-formed tokens are read back as they are from
any text that lays them out with something between any two of them. -/
theorem tokens_laidOut : (∀ text, ∀ t ∈ tokens text, t.WellFormed) ∧
    ∀ front rows, (∀ row ∈ rows, row.1.WellFormed) → (∀ row ∈ rows.dropLast, row.2 ≠ []) →
      tokens (laidOut front rows) = rows.map Prod.fst := by
  refine ⟨fun text t ht => Token.wellFormed_of_mem_all ht, fun front rows hwell hgaps => ?_⟩
  exact ((Lexes.rows hwell hgaps).gap front).tokens_eq

theorem tokens_laidOut_comment :
    tokens (laidOut [.comment ['=', '1'] (by decide)] [(.number 12, [.blank ' ' rfl]),
      (.symbol "B2", [.comment [')', '('] (by decide), .blank '\t' rfl]),
      (.lparen, [.blank '\n' rfl]), (.symbol "18446744073709551616", [])]) =
      [.number 12, .symbol "B2", .lparen, .symbol "18446744073709551616"] := by
  refine tokens_laidOut.2 _ _ ?_ ?_
  · have hlong : Token.IsSymbol "18446744073709551616".toList :=
      .digits (by simp) (by simp) (by decide +kernel)
    have hnumber : 12 < Token.numberBound := by decide
    simp only [List.forall_mem_cons]
    exact ⟨hnumber, .of_all rfl rfl, trivial, hlong, nofun⟩
  · simp

end Colloquy

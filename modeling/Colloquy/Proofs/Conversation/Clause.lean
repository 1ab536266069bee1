import Colloquy.Proofs.Conversation.Stack

/-!
# Which clause is found

Marks cut an input into clauses. The search for a clause goes through them one by one, and it
passes over a clause without keywords only if more follows. So it finds the first clause with a
keyword, or else the last clause, and no keyword is missed: the stack of an input is empty only
if no word of it is an applicable keyword.

* `Rulebook.firstClause_eq`: the clause that is found.
* `Rulebook.stack_clause_eq_nil_iff`: the inputs without keywords.
-/

namespace Colloquy.Rulebook

open Text

/-! ## The clause that is answered -/

/-- The words up to the first mark, and those from it on. -/
theorem any_takeWhile_or_any_dropWhile (chosen : String → Bool) (words : List String) :
    words.any (fun word => !isMarkWord word && chosen word) =
      ((words.takeWhile (!isMarkWord ·)).any chosen ||
        (words.dropWhile (!isMarkWord ·)).any fun word => !isMarkWord word && chosen word) := by
  induction words with
  | nil => rfl
  | cons word words ih =>
    cases hmark : isMarkWord word with
    | true => simp [hmark]
    | false => simp [hmark, ih, Bool.or_assoc]

/-- The words from a mark on begin with the mark. -/
theorem isMarkWord_of_dropWhile_eq_cons {words rest : List String} {mark : String}
    (h : words.dropWhile (!isMarkWord ·) = mark :: rest) : isMarkWord mark = true := by
  have hhead := List.head_dropWhile_not (p := (!isMarkWord ·)) (l := words)
  simp only [h] at hhead
  simpa using hhead (List.cons_ne_nil _ _)

/-- A clause with a chosen word is found if there is one. -/
theorem any_firstClause (chosen : String → Bool) (words : List String) :
    (firstClause chosen words).any chosen =
      words.any fun word => !isMarkWord word && chosen word := by
  fun_induction firstClause chosen words with
  | case1 words clause hrest =>
    rw [any_takeWhile_or_any_dropWhile, hrest]
    exact (Bool.or_false _).symm
  | case2 words clause mark rest hrest hany =>
    rw [any_takeWhile_or_any_dropWhile]
    show clause.any chosen = (clause.any chosen || _)
    rw [hany, Bool.true_or]
  -- The first clause is passed over, and the mark behind it is never chosen.
  | case3 words clause mark rest hrest hany ih =>
    have hmark := isMarkWord_of_dropWhile_eq_cons hrest
    rw [any_takeWhile_or_any_dropWhile, hrest, ih]
    show _ = (clause.any chosen || _)
    rw [Bool.not_eq_true] at hany
    rw [hany, Bool.false_or, List.any_cons, hmark]
    rfl

/-- The clause that is found consists of words that follow each other. -/
theorem firstClause_infix (chosen : String → Bool) (words : List String) :
    firstClause chosen words <:+: words := by
  fun_induction firstClause chosen words with
  | case1 words clause hrest => exact (List.takeWhile_prefix _).isInfix
  | case2 words clause mark rest hrest hany => exact (List.takeWhile_prefix _).isInfix
  | case3 words clause mark rest hrest hany ih =>
    have hsuffix : mark :: rest <:+ words := hrest ▸ List.dropWhile_suffix _
    exact ih.trans ((List.suffix_cons mark rest).trans hsuffix).isInfix

/-! ## Clauses as pieces -/

/-- There is no mark among the words before the first. -/
theorem splitOnP_takeWhile (words : List String) :
    (words.takeWhile (!isMarkWord ·)).splitOnP isMarkWord = [words.takeWhile (!isMarkWord ·)] :=
  List.splitOnP_eq_singleton fun word hword => by simpa using List.mem_takeWhile_imp hword

/-- Words without a mark are one clause. -/
theorem splitOnP_of_dropWhile_eq_nil {words : List String}
    (h : words.dropWhile (!isMarkWord ·) = []) :
    words.splitOnP isMarkWord = [words.takeWhile (!isMarkWord ·)] := by
  have hwords := List.takeWhile_append_dropWhile (p := (!isMarkWord ·)) (l := words)
  rw [h, List.append_nil] at hwords
  have hsplit := splitOnP_takeWhile words
  rwa [hwords] at hsplit ⊢

/-- The first mark ends the first clause. -/
theorem splitOnP_of_dropWhile_eq_cons {words rest : List String} {mark : String}
    (h : words.dropWhile (!isMarkWord ·) = mark :: rest) :
    words.splitOnP isMarkWord = words.takeWhile (!isMarkWord ·) :: rest.splitOnP isMarkWord := by
  have hwords := List.takeWhile_append_dropWhile (p := (!isMarkWord ·)) (l := words)
  rw [h] at hwords
  have hsplit := List.splitOnP_append_cons (words.takeWhile (!isMarkWord ·)) rest
    (isMarkWord_of_dropWhile_eq_cons h)
  rwa [hwords, splitOnP_takeWhile] at hsplit

/-- The clause that is found is the first with a chosen word, or the last if there is none. -/
theorem firstClause_eq (chosen : String → Bool) (words : List String) :
    some (firstClause chosen words) = ((words.splitOnP isMarkWord).find? (·.any chosen)).or
      (words.splitOnP isMarkWord).getLast? := by
  fun_induction firstClause chosen words with
  | case1 words clause hrest =>
    rw [splitOnP_of_dropWhile_eq_nil hrest]
    show some clause = ([clause].find? (·.any chosen)).or (some clause)
    cases hany : clause.any chosen <;> simp [hany]
  | case2 words clause mark rest hrest hany =>
    have hfind : (clause :: rest.splitOnP isMarkWord).find? (·.any chosen) = some clause :=
      List.find?_cons_of_pos hany
    rw [splitOnP_of_dropWhile_eq_cons hrest]
    exact (congrArg (Option.or · _) hfind).symm
  | case3 words clause mark rest hrest hany ih =>
    have hfind : (clause :: rest.splitOnP isMarkWord).find? (·.any chosen) =
        (rest.splitOnP isMarkWord).find? (·.any chosen) := List.find?_cons_of_neg hany
    rw [splitOnP_of_dropWhile_eq_cons hrest,
      List.getLast?_cons_of_ne_nil (List.splitOnP_ne_nil _ _), ih]
    exact (congrArg (Option.or · _) hfind).symm

/-! ## The stack -/

/-- There is nothing on the stack of an input only if none of its words, marks apart, has an
applicable rule. -/
theorem stack_clause_eq_nil_iff (book : Rulebook) (words : List String) :
    book.stack (book.clause words) = [] ↔
      ∀ word ∈ words, isMarkWord word = false → book.answers word = false := by
  rw [← List.length_eq_zero_iff, (book.stack_perm _).length_eq, List.length_eq_zero_iff,
    List.filter_eq_nil_iff, ← List.any_eq_false, clause, any_firstClause, List.any_eq_false]
  simp

end Colloquy.Rulebook

import Colloquy.Proofs.Conversation.History
import Colloquy.Proofs.Script.RoundTrip
import Colloquy.Proofs.Text.Canonical

/-!
# Keywords that are typed as they are spelled

Of a keyword in a script only the case is made canonical; what is typed also loses its curved
quotes, accents and most marks. So a keyword is heard where it is typed as it is spelled, unless
it is spelled with a character that typed text loses. Then no input at all has the keyword in it.

* `Text.lostChars`: the characters that canonical text does not have.
* `Text.not_mem_lostChars_of_mem_heard`: no word of an input has them.
* `heard_eq_singleton_iff`: the symbols that are heard as they are spelled.
* `Interlocutor.stack_dispatch_spelling`: the keywords that are, for the scripts that are read.
-/

namespace Colloquy

open Text

namespace Text

/-! ## Characters -/

/-- The characters that are dropped from typed text or replaced by plain ones. -/
def lostChars : List Char :=
  invertedMarks ++ singleQuotes ++ doubleQuotes ++ sentenceMarks ++ clauseMarks

theorem not_mem_lostChars {c : Char} : c ∉ lostChars ↔ c ∉ invertedMarks ∧ c ∉ singleQuotes ∧
    c ∉ doubleQuotes ∧ c ∉ sentenceMarks ∧ c ∉ clauseMarks := by
  simp only [lostChars, List.mem_append, not_or, and_assoc]

theorem plainChar?_of_not_mem {c : Char} (h : c ∉ lostChars) : plainChar? c = some c := by
  obtain ⟨hinverted, hsingle, hdouble, hsentence, hclause⟩ := not_mem_lostChars.1 h
  simp only [plainChar?, hinverted, hsingle, hdouble, hsentence, hclause, if_false]

/-- What takes the place of a character is not lost itself. -/
theorem not_mem_lostChars_of_plainChar? {c d : Char} (h : plainChar? c = some d) :
    d ∉ lostChars := by
  unfold plainChar? at h
  split at h
  · cases h
  · split at h
    · cases h
      decide
    · split at h
      · cases h
        decide
      · split at h
        · cases h
          decide
        · split at h
          · cases h
            decide
          · cases h
            exact not_mem_lostChars.2 ⟨‹_›, ‹_›, ‹_›, ‹_›, ‹_›⟩

/-- Such characters have no upper case and are not the upper case of others. -/
theorem bits_lostChars : bits (lostChars.map Char.toNat) &&&
    bits (sources upperExpansions upperRuns ++ capitals.map Char.toNat) = 0 := by
  decide +kernel

theorem upperChar_of_mem_lostChars {c : Char} (h : c ∈ lostChars) : upperChar c = [c] := by
  have hcode := not_mem_of_bits bits_lostChars (List.mem_map_of_mem h)
  rw [List.mem_append, not_or] at hcode
  rw [upperChar_eq_mapped, mapped_of_not_mem_sources hcode.1]

theorem not_mem_capitals_of_mem_lostChars {c : Char} (h : c ∈ lostChars) : c ∉ capitals := by
  have hcode := not_mem_of_bits bits_lostChars (List.mem_map_of_mem h)
  rw [List.mem_append, not_or] at hcode
  exact fun hcapital => hcode.2 (List.mem_map_of_mem hcapital)

theorem not_mem_lostChars_of_mem_upperChar {c d : Char} (hc : c ∉ lostChars)
    (hd : d ∈ upperChar c) : d ∉ lostChars := by
  rcases eq_or_subset_capitals c with heq | ⟨-, hsubset⟩
  · rw [heq, List.mem_singleton] at hd
    rwa [hd]
  · exact fun hlost => not_mem_capitals_of_mem_lostChars hlost (hsubset hd)

/-! ## Texts -/

/-- There are no such characters in canonical text. -/
theorem not_mem_lostChars_of_mem_canonical {text : String} {c : Char}
    (hc : c ∈ (canonical text).toList) : c ∉ lostChars := by
  rw [toList_canonical] at hc
  obtain ⟨d, -, hc⟩ := List.mem_flatMap.1 hc
  obtain ⟨plain, hplain, hc⟩ := List.mem_flatMap.1 hc
  exact not_mem_lostChars_of_mem_upperChar
    (not_mem_lostChars_of_plainChar? (Option.mem_toList.1 hplain)) hc

theorem not_mem_lostChars_of_mem_heard {input word : String} (hword : word ∈ heard input)
    {c : Char} (hc : c ∈ word.toList) : c ∉ lostChars :=
  forall_mem_of_mem_words (by decide) (fun _ => not_mem_lostChars_of_mem_canonical) word hword c hc

/-- Without such characters, only the case of a text changes. -/
theorem canonical_of_not_mem {text : String} (h : ∀ c ∈ text.toList, c ∉ lostChars) :
    canonical text = upper text := by
  rw [canonical, List.filterMap_congr fun c hc => plainChar?_of_not_mem (h c hc),
    List.filterMap_some, String.ofList_toList]

/-- Upper case keeps such characters. -/
theorem mem_upper_of_mem_lostChars {text : String} {c : Char} (hc : c ∈ text.toList)
    (hlost : c ∈ lostChars) : c ∈ (upper text).toList := by
  rw [toList_upper]
  refine List.mem_flatMap.2 ⟨c, hc, ?_⟩
  rw [upperChar_of_mem_lostChars hlost]
  exact List.mem_singleton_self c

/-- If the upper case of a text is heard in any input, the text has no such characters. -/
theorem not_mem_lostChars_of_mem_heard_upper {input text : String} (h : upper text ∈ heard input) :
    ∀ c ∈ text.toList, c ∉ lostChars := fun _ hc hlost =>
  not_mem_lostChars_of_mem_heard h (mem_upper_of_mem_lostChars hc hlost) hlost

end Text

/-! ## Symbols -/

section Symbols

variable {word : String}

/-- A symbol that is no mark has none in upper case either, and no blanks. -/
theorem cutsWord_of_mem_upper (h : (Token.symbol word).WellFormed)
    (hmark : isMarkWord word = false) : ∀ c ∈ (upper word).toList, cutsWord c = false := by
  rw [toList_upper]
  rcases Token.IsSymbol.sign_or_forall h with ⟨c, hc, hsign⟩ | hall
  · have hword : word = .singleton c := by
      rw [← String.toList_inj, hc, String.toList_singleton]
    simp only [Token.isSign, Bool.or_eq_true, beq_iff_eq] at hsign
    rw [hc, Token.upperChars_sign (by simp [Token.isSign, hsign])]
    rcases hsign with (rfl | rfl) | rfl
    · simp [cutsWord, isBlank, isMark]
    · rw [hword] at hmark
      cases hmark
    · rw [hword] at hmark
      cases hmark
  · intro c hc
    obtain ⟨hblank, -, -, -, hsign⟩ :=
      Token.isDelimiter_eq_false.1 (Token.isDelimiter_of_mem_upperChars hall c hc)
    simp only [Token.isSign, Bool.or_eq_false_iff] at hsign
    rw [cutsWord, isMark, hblank, hsign.1.2, hsign.2]
    rfl

theorem isWord_upper (h : (Token.symbol word).WellFormed) (hmark : isMarkWord word = false) :
    IsWord (upper word) :=
  .inr ⟨h.upper.text_ne, cutsWord_of_mem_upper h hmark⟩

theorem isMarkWord_upper (h : (Token.symbol word).WellFormed) (hmark : isMarkWord word = false) :
    isMarkWord (upper word) = false := by
  by_contra hupper
  rw [Bool.not_eq_false, isMarkWord, Bool.or_eq_true, beq_iff_eq, beq_iff_eq] at hupper
  have hcuts := cutsWord_of_mem_upper h hmark
  rcases hupper with hupper | hupper
  · rw [hupper] at hcuts
    exact absurd (hcuts ',' (by decide)) (by decide)
  · rw [hupper] at hcuts
    exact absurd (hcuts '.' (by decide)) (by decide)

/-- A symbol is heard as itself, in upper case, if and only if no character of it is lost. -/
theorem heard_eq_singleton_iff (h : (Token.symbol word).WellFormed)
    (hmark : isMarkWord word = false) :
    heard word = [upper word] ↔ ∀ c ∈ word.toList, c ∉ lostChars := by
  constructor
  · intro hheard
    exact not_mem_lostChars_of_mem_heard_upper (by rw [hheard]; exact List.mem_singleton_self _)
  · intro hall
    rw [heard, canonical_of_not_mem hall, words_of_isWord (isWord_upper h hmark)]

end Symbols

/-! ## Rules -/

/-- The keywords of a script are spelled as symbols. -/
theorem wellFormed_spelling {text : String} {script : Script} (h : Script.read text = .ok script)
    {rule : Rule} (hrule : rule ∈ script.rules) : (Token.symbol rule.spelling).WellFormed := by
  obtain ⟨src⟩ := Phrase.nonempty_source h
  obtain ⟨e, hwell, rfl⟩ := src.exists_entry (List.mem_append_left _ hrule)
  have hspelling : e.value.spelling = e.spelling := by rw [Phrase.Entry.value_eq]
  rw [hspelling]
  exact (Phrase.allWellFormed_cons.1 hwell.listed).1

namespace Rulebook

variable {book : Rulebook}

theorem clause_singleton {word : String} (h : isMarkWord word = false) :
    book.clause [word] = [word] := by
  have hrest : [word].dropWhile (!isMarkWord ·) = [] := by simp [h]
  have hclause : [word].takeWhile (!isMarkWord ·) = [word] := by simp [h]
  rw [clause, firstClause]
  split
  · exact hclause
  · rename_i hcons
    rw [hrest] at hcons
    cases hcons

/-- A keyword that is said alone is the only one on the stack. -/
theorem stack_singleton {word : String} (h : book.answers word = true) :
    book.stack [word] = [word] := by
  have hperm := book.stack_perm [word]
  rw [List.filter_singleton, h, cond_true] at hperm
  exact List.perm_singleton.1 hperm

theorem mem_of_mem_stack_clause {words : List String} {keyword : String}
    (h : keyword ∈ book.stack (book.clause words)) : keyword ∈ words := by
  have hconsecutive := firstClause_infix book.answers words
  exact hconsecutive.subset
    (List.mem_of_mem_filter ((book.stack_perm (book.clause words)).mem_iff.1 h))

end Rulebook

namespace Interlocutor

variable {text : String} {script : Script}

/-- A keyword of a script that is read is heard where it is typed as it is spelled, and is then the
whole stack if its rule is applicable, if and only if no character of it is lost. -/
theorem stack_dispatch_spelling (h : Script.read text = .ok script) {rule : Rule}
    (hrule : rule ∈ script.rules) (hmark : isMarkWord rule.spelling = false) :
    ∃ keyword, rule.name = .keyword keyword ∧
      (heard rule.spelling = [keyword] ↔ ∀ c ∈ rule.spelling.toList, c ∉ lostChars) ∧
      (rule.isApplicable = true → ∀ settings state,
        ((ofScript script settings).dispatch state rule.spelling).stack = [keyword] ↔
          ∀ c ∈ rule.spelling.toList, c ∉ lostChars) := by
  have hs := Script.sound_of_read h
  have hwell := wellFormed_spelling h hrule
  have hname := Rule.name_eq_keyword (hs.rules_name rule hrule)
  have hheard := heard_eq_singleton_iff hwell hmark
  refine ⟨upper rule.spelling, hname, hheard, fun happlicable settings state => ?_⟩
  have hanswers : (Rulebook.ofScript script).answers (upper rule.spelling) = true := by
    rw [Rulebook.answers_ofScript hs, Script.answers_eq_true_iff hs.distinct]
    exact ⟨rule, hrule, by rw [hname, RuleName.word?], happlicable⟩
  show (Rulebook.ofScript script).stack ((Rulebook.ofScript script).clause (heard rule.spelling)) =
    _ ↔ _
  constructor
  · intro hstack
    have hmem : upper rule.spelling ∈ heard rule.spelling :=
      Rulebook.mem_of_mem_stack_clause (by rw [hstack]; exact List.mem_singleton_self _)
    exact not_mem_lostChars_of_mem_heard_upper hmem
  · intro hall
    rw [hheard.2 hall, Rulebook.clause_singleton (isMarkWord_upper hwell hmark),
      Rulebook.stack_singleton hanswers]

/-- A script with keywords in small letters, one of which becomes longer in upper case, and one
with a mark. -/
def streetText : String :=
  "(HI) (straße ((0) (WHERE))) (HI! ((0) (HELLO))) (NONE ((0) (SO))) " ++
    "(MEMORY M (0 = A) (0 = B) (0 = C) (0 = D))"

def streetScript : Script where
  greeting := ["HI"]
  rules :=
    [{ spelling := "straße", transformations := [⟨[.count 0], [.reply [.word "WHERE"]]⟩] },
     { spelling := "HI!", transformations := [⟨[.count 0], [.reply [.word "HELLO"]]⟩] }]
  fallback := { spelling := "NONE", transformations := [⟨[.count 0], [.reply [.word "SO"]]⟩] }
  memory := .letters "M"

/-- The first keyword is heard where it is typed as it is spelled. -/
theorem stack_dispatch_spelling_street : Script.read streetText = .ok streetScript ∧
    ((ofScript streetScript {}).dispatch {} "straße").stack = ["STRASSE"] := by
  have h : Script.read streetText = .ok streetScript := by decide +kernel
  refine ⟨h, ?_⟩
  obtain ⟨keyword, hname, -, hstack⟩ := stack_dispatch_spelling h List.mem_cons_self (by decide)
  have hstrasse : RuleName.keyword keyword = .keyword "STRASSE" :=
    hname.symm.trans (by decide +kernel)
  cases hstrasse
  have hall : "straße".toList.all (· ∉ lostChars) = true := by decide +kernel
  exact (hstack (by decide) {} {}).2 fun c hc => by simpa using List.all_eq_true.1 hall c hc

/-- The second keyword is not heard: the mark ends a sentence. -/
theorem stack_dispatch_spelling_mark : Script.read streetText = .ok streetScript ∧
    ∃ rule ∈ streetScript.rules, rule.spelling = "HI!" ∧ isMarkWord rule.spelling = false ∧
      rule.name = .keyword "HI!" ∧ rule.isApplicable = true ∧
      heard rule.spelling = ["HI", "."] ∧
      ((ofScript streetScript {}).dispatch {} rule.spelling).stack = [] := by
  decide +kernel

end Interlocutor

end Colloquy

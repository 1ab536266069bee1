import Colloquy.Conversation.Dispatch
import Mathlib

/-!
# The order of the stack

The keywords of a clause are put on the stack one by one: in front if the precedence exceeds all
before, else at the end. So those that do stand first, the last of them at the top, and then all
others as they were said.

* `leads`: the keywords of a list that go to the front.
* `ranked`: the keywords of a list, each with its place, in the order of the stack.
* `Rulebook.stack_eq`, `Rulebook.stack_perm`: the stack of a clause.
-/

namespace Colloquy

/-! ## Ranking -/

section

variable (precedence : String → Nat)

/-- Whether the precedence of a keyword, given with its place in a list of keywords, is positive
and exceeds that of every keyword before it. -/
def leads (keywords : List String) (place : String × Nat) : Bool :=
  0 < precedence place.1 && (keywords.take place.2).all (precedence · < precedence place.1)

/-- Keywords with their places, those that lead from the last to the first and then the others
from the first to the last. -/
def ranked (keywords : List String) : List (String × Nat) :=
  (keywords.zipIdx.filter (leads precedence keywords)).reverse ++
    keywords.zipIdx.filter (!leads precedence keywords ·)

theorem leads_iff {keywords : List String} {place : String × Nat} :
    leads precedence keywords place = true ↔ 0 < precedence place.1 ∧
      ∀ keyword ∈ keywords.take place.2, precedence keyword < precedence place.1 := by
  simp [leads]

/-- What follows does not matter to a keyword. -/
theorem leads_concat {keywords : List String} {place : String × Nat}
    (h : place ∈ keywords.zipIdx) (keyword : String) :
    leads precedence (keywords ++ [keyword]) place = leads precedence keywords place := by
  have hlt := List.snd_lt_of_mem_zipIdx h
  rw [leads, List.take_append_of_le_length (Nat.le_of_lt hlt), leads]

theorem leads_last (keywords : List String) (keyword : String) :
    leads precedence (keywords ++ [keyword]) (keyword, keywords.length) = true ↔
      0 < precedence keyword ∧ ∀ earlier ∈ keywords, precedence earlier < precedence keyword := by
  rw [leads_iff, List.take_left]

/-- One more keyword goes to the front or to the end. -/
theorem ranked_concat (keywords : List String) (keyword : String) :
    ranked precedence (keywords ++ [keyword]) =
      if leads precedence (keywords ++ [keyword]) (keyword, keywords.length) then
        (keyword, keywords.length) :: ranked precedence keywords
      else ranked precedence keywords ++ [(keyword, keywords.length)] := by
  have hzip : (keywords ++ [keyword]).zipIdx = keywords.zipIdx ++ [(keyword, keywords.length)] := by
    rw [List.zipIdx_append, List.zipIdx_singleton, Nat.zero_add]
  have hfilter : keywords.zipIdx.filter (leads precedence (keywords ++ [keyword])) =
      keywords.zipIdx.filter (leads precedence keywords) :=
    List.filter_congr fun place hplace => leads_concat precedence hplace keyword
  have hfilterNot : keywords.zipIdx.filter (!leads precedence (keywords ++ [keyword]) ·) =
      keywords.zipIdx.filter (!leads precedence keywords ·) :=
    List.filter_congr fun place hplace => by rw [leads_concat precedence hplace keyword]
  rw [ranked, hzip, List.filter_append, List.filter_append, hfilter, hfilterNot, ranked]
  cases hleads : leads precedence (keywords ++ [keyword]) (keyword, keywords.length) with
  | true => simp [hleads]
  | false => simp [hleads]

/-- Every keyword is ranked once. -/
theorem ranked_perm (keywords : List String) :
    (ranked precedence keywords).Perm keywords.zipIdx :=
  ((List.reverse_perm _).append_right _).trans (List.filter_append_perm _ _)

/-- The first is the leftmost keyword of greatest precedence. -/
theorem exists_head?_ranked {keywords : List String} (h : keywords ≠ []) :
    ∃ before keyword after, keywords = before ++ keyword :: after ∧
      (∀ other ∈ keywords, precedence other ≤ precedence keyword) ∧
      (∀ earlier ∈ before, precedence earlier < precedence keyword) ∧
      (ranked precedence keywords).head? = some (keyword, before.length) := by
  induction keywords using List.reverseRecOn with
  | nil => exact absurd rfl h
  | append_singleton keywords last ih =>
    rw [ranked_concat]
    split
    · rename_i hleads
      obtain ⟨-, hless⟩ := (leads_last precedence keywords last).1 hleads
      refine ⟨keywords, last, [], rfl, ?_, hless, rfl⟩
      exact List.forall_mem_append.2
        ⟨fun other hother => Nat.le_of_lt (hless other hother), by simp⟩
    · rename_i hleads
      rw [leads_last] at hleads
      by_cases hnil : keywords = []
      · subst hnil
        exact ⟨[], last, [], rfl, by simp, nofun, rfl⟩
      · obtain ⟨before, keyword, after, hkeywords, hle, hbefore, hhead⟩ := ih hnil
        have hlast : precedence last ≤ precedence keyword := by
          by_contra hlt
          rw [Nat.not_le] at hlt
          exact hleads ⟨Nat.zero_lt_of_lt hlt, fun other hother =>
            Nat.lt_of_le_of_lt (hle other hother) hlt⟩
        refine ⟨before, keyword, after ++ [last], ?_, ?_, hbefore, ?_⟩
        · rw [hkeywords, List.append_assoc, List.cons_append]
        · exact List.forall_mem_append.2 ⟨hle, List.forall_mem_singleton.2 hlast⟩
        · rw [List.head?_append, hhead, Option.some_or]

end

/-! ## The stack of a clause -/

namespace Rulebook

theorem answers_iff {book : Rulebook} {word : String} : book.answers word = true ↔
    ∃ rule, book.rule? word = some rule ∧ rule.isApplicable = true := by
  rw [answers, Option.any_eq_true]

variable (book : Rulebook)

/-- The precedence of the rule of a word, or 0 if it has none. -/
def precedence (word : String) : Nat := (book.rule? word).elim 0 Rule.precedence

theorem push_of_answers_eq_false {word : String} (h : book.answers word = false) (stack : Stack) :
    book.push stack word = stack := by
  cases hrule : book.rule? word with
  | none => simp [push, hrule]
  | some rule =>
    rw [answers, hrule, Option.any_some] at h
    simp [push, hrule, h]

theorem push_of_answers {word : String} (h : book.answers word = true) (stack : Stack) :
    book.push stack word =
      if stack.top < book.precedence word then ⟨word :: stack.keywords, book.precedence word⟩
      else { stack with keywords := stack.keywords ++ [word] } := by
  obtain ⟨rule, hrule, happlicable⟩ := answers_iff.1 h
  simp [push, precedence, hrule, happlicable]

/-- Whether a stack is that of some keywords. Its top is the greatest precedence among them. -/
structure Holds (keywords : List String) (stack : Stack) : Prop where
  keywords_eq : stack.keywords = (ranked book.precedence keywords).map Prod.fst
  top_lt_iff : ∀ n, stack.top < n ↔ 0 < n ∧ ∀ keyword ∈ keywords, book.precedence keyword < n

theorem holds_nil : book.Holds [] {} := ⟨rfl, fun n => by simp⟩

variable {book}

/-- A keyword goes to the front of the stack if and only if it leads. -/
theorem Holds.top_lt_iff_leads {keywords : List String} {stack : Stack}
    (h : book.Holds keywords stack) (word : String) : stack.top < book.precedence word ↔
      leads book.precedence (keywords ++ [word]) (word, keywords.length) = true := by
  rw [h.top_lt_iff, leads_last]

theorem Holds.push {keywords : List String} {stack : Stack} (h : book.Holds keywords stack)
    {word : String} (hword : book.answers word = true) :
    book.Holds (keywords ++ [word]) (book.push stack word) := by
  rw [push_of_answers book hword]
  refine ⟨?_, fun n => ?_⟩
  · rw [ranked_concat]
    simp only [h.top_lt_iff_leads]
    split <;> simp [h.keywords_eq]
  · simp only [List.forall_mem_append, List.forall_mem_singleton]
    split
    · rename_i htop
      obtain ⟨-, hless⟩ := (h.top_lt_iff _).1 htop
      refine ⟨fun hn => ⟨Nat.zero_lt_of_lt hn, fun keyword hkeyword => ?_, hn⟩, fun hn => hn.2.2⟩
      exact (hless keyword hkeyword).trans hn
    · rename_i htop
      refine ⟨fun hn => ?_, fun hn => (h.top_lt_iff n).2 ⟨hn.1, hn.2.1⟩⟩
      obtain ⟨hpos, hless⟩ := (h.top_lt_iff n).1 hn
      exact ⟨hpos, hless, Nat.lt_of_le_of_lt (Nat.le_of_not_lt htop) hn⟩

theorem holds_foldl_push (clause : List String) :
    book.Holds (clause.filter book.answers) (clause.foldl book.push {}) := by
  induction clause using List.reverseRecOn with
  | nil => exact book.holds_nil
  | append_singleton clause word ih =>
    rw [List.foldl_concat, List.filter_append]
    cases hword : book.answers word with
    | true =>
      rw [List.filter_singleton, hword, cond_true]
      exact ih.push hword
    | false =>
      rw [List.filter_singleton, hword, cond_false, List.append_nil,
        push_of_answers_eq_false book hword]
      exact ih

/-- The stack of a clause are its keywords, ranked. -/
theorem stack_eq (clause : List String) : book.stack clause =
    (ranked book.precedence (clause.filter book.answers)).map Prod.fst :=
  (holds_foldl_push clause).keywords_eq

/-- Each keyword of a clause is on the stack, as often as it is said. -/
theorem stack_perm (book : Rulebook) (clause : List String) :
    (book.stack clause).Perm (clause.filter book.answers) := by
  have hperm := (ranked_perm book.precedence (clause.filter book.answers)).map Prod.fst
  rwa [List.zipIdx_map_fst, ← stack_eq] at hperm

/-- Only keywords with applicable rules are put on the stack of a clause. -/
theorem answers_of_mem_stack {clause : List String} {keyword : String}
    (h : keyword ∈ book.stack clause) : book.answers keyword = true :=
  (List.mem_filter.1 ((book.stack_perm clause).mem_iff.1 h)).2

end Rulebook

end Colloquy

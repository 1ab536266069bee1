import Colloquy.Proofs.Script.Acceptance
import Mathlib

/-!
# Nesting of lists

A text is refused as unbalanced where it ends inside a list or closes a list that was not opened.
Every reader knows in how many lists it stands, so this fault is found only in texts whose
parentheses do not match, and a text that is read as a script closes all its lists.

* `nesting?`: how many lists are open behind some tokens.
* `Balanced`: the tokens whose parentheses match.
* `Nests`: what a reader does to the lists that are open, with one lemma for each reader.
* `Script.balance_of_read`: the parentheses of texts that are read and of those that are refused
  as unbalanced.
-/

namespace Colloquy

open Reading Phrase

/-! ## Open lists -/

/-- How many lists are open behind some tokens, where `depth` are open before them. There is no
answer if a list is closed that was not opened. -/
def nesting? (depth : Nat) : List Token → Option Nat
  | [] => some depth
  | .lparen :: ts => nesting? (depth + 1) ts
  | .rparen :: ts =>
    match depth with
    | 0 => none
    | depth + 1 => nesting? depth ts
  | .symbol _ :: ts => nesting? depth ts
  | .number _ :: ts => nesting? depth ts

section

variable (depth : Nat) (ts : List Token)

@[simp] theorem nesting?_nil : nesting? depth [] = some depth := rfl

@[simp] theorem nesting?_lparen : nesting? depth (.lparen :: ts) = nesting? (depth + 1) ts := rfl

@[simp] theorem nesting?_rparen_zero : nesting? 0 (.rparen :: ts) = none := rfl

@[simp] theorem nesting?_rparen : nesting? (depth + 1) (.rparen :: ts) = nesting? depth ts := rfl

@[simp] theorem nesting?_symbol (s : String) :
    nesting? depth (.symbol s :: ts) = nesting? depth ts := rfl

@[simp] theorem nesting?_number (n : Nat) :
    nesting? depth (.number n :: ts) = nesting? depth ts := rfl

end

/-- What holds of all parts of a list from its front on. -/
theorem forall_front_cons_iff {P : List Token → Prop} {t : Token} {ts : List Token} :
    (∀ front, front <+: t :: ts → P front) ↔ P [] ∧ ∀ front, front <+: ts → P (t :: front) := by
  constructor
  · intro h
    exact ⟨h [] List.nil_prefix, fun front hfront => h _ (List.cons_prefix_cons.2 ⟨rfl, hfront⟩)⟩
  · rintro ⟨hnil, hcons⟩ front hfront
    cases front with
    | nil => exact hnil
    | cons t' front =>
      obtain ⟨rfl, hts⟩ := List.cons_prefix_cons.1 hfront
      exact hcons front hts

/-- The number of open lists is what it was, and what was opened less what was closed, if no more
is closed at any point than is open there. -/
theorem nesting?_eq_some_iff {depth depth' : Nat} {ts : List Token} :
    nesting? depth ts = some depth' ↔
      (∀ front, front <+: ts → front.count .rparen ≤ depth + front.count .lparen) ∧
        depth + ts.count .lparen = depth' + ts.count .rparen := by
  induction ts generalizing depth with
  | nil => simp
  | cons t ts ih =>
    rw [forall_front_cons_iff]
    cases t with
    | lparen => simp [ih, ← Nat.add_assoc, Nat.add_right_comm]
    | rparen =>
      cases depth with
      | zero =>
        -- With nothing open, the parenthesis by itself closes more than is open.
        have hnot : ¬∀ front, front <+: ts →
            (Token.rparen :: front).count .rparen ≤ 0 + (Token.rparen :: front).count .lparen :=
          fun h => absurd (h [] List.nil_prefix) (by decide)
        simp only [nesting?_rparen_zero, hnot, and_false, false_and, reduceCtorEq]
      | succ depth => simp [ih, ← Nat.add_assoc, Nat.add_right_comm]
    | symbol s => simp [ih]
    | number n => simp [ih]

/-- The tokens whose parentheses match: from the front on no more are closed than are opened, and
all that are opened are closed. -/
structure Balanced (ts : List Token) : Prop where
  front_le : ∀ front, front <+: ts → front.count .rparen ≤ front.count .lparen
  total_eq : ts.count .lparen = ts.count .rparen

theorem balanced_iff {ts : List Token} : Balanced ts ↔ nesting? 0 ts = some 0 := by
  rw [nesting?_eq_some_iff]
  simp only [Nat.zero_add]
  exact ⟨fun h => ⟨h.front_le, h.total_eq⟩, fun h => ⟨h.1, h.2⟩⟩

/-- Parentheses that do not match are closed too early or not at all. -/
theorem not_balanced_iff {ts : List Token} : ¬Balanced ts ↔
    (∃ front, front <+: ts ∧ front.count .lparen < front.count .rparen) ∨
      ts.count .rparen < ts.count .lparen := by
  constructor
  · intro h
    by_contra hnot
    push Not at hnot
    exact h ⟨hnot.1, Nat.le_antisymm hnot.2 (hnot.1 ts List.prefix_rfl)⟩
  · rintro (⟨front, hfront, hlt⟩ | hlt) h
    · exact Nat.not_le_of_lt hlt (h.front_le front hfront)
    · exact Nat.ne_of_gt hlt h.total_eq

/-! ## Readers -/

/-- What reading does to the lists that are open. It begins in `depth` lists and, if it succeeds,
ends in `depth'`. If it finds the text unbalanced, the text does not end with all lists closed. -/
structure Nests {α : Type} (depth depth' : Nat) (ts : List Token)
    (r : Except ScriptError (α × List Token)) : Prop where
  ok : ∀ {a rest}, r = .ok (a, rest) → nesting? depth ts = nesting? depth' rest
  unbalanced : r = .error .unbalanced → nesting? depth ts ≠ some 0

namespace Nests

variable {α β : Type} {depth depth' depth'' : Nat} {ts : List Token}
  {r : Except ScriptError (α × List Token)}

theorem pure (a : α) (ts : List Token) : Nests depth depth ts (.ok (a, ts)) :=
  ⟨fun h => by cases h; rfl, nofun⟩

theorem error {e : ScriptError} (h : e ≠ .unbalanced) :
    Nests (α := α) depth depth' ts (.error e) :=
  ⟨nofun, fun he => absurd (Except.error.inj he) h⟩

theorem expected (what : Expectation) (t : Token) :
    Nests (α := α) depth depth' ts (.error (.expected what t)) :=
  error (by simp)

theorem unclosed (h : nesting? depth ts ≠ some 0) :
    Nests (α := α) depth depth' ts (.error .unbalanced) :=
  ⟨nofun, fun _ => h⟩

/-- At the end of a text all lists that are open stay so. -/
theorem unexpected (what : Expectation) (ts : List Token) :
    Nests (α := α) (depth + 1) depth' ts (.error (.unexpected what ts)) := by
  cases ts with
  | nil => exact unclosed (by simp)
  | cons t ts => exact expected what t

/-- A fault that ends the reading of something larger. -/
theorem fault {e : ScriptError} (h : Nests depth depth' ts r) (hr : r = .error e) :
    Nests (α := β) depth depth'' ts (.error e) := by
  refine ⟨nofun, fun he => h.unbalanced ?_⟩
  rw [hr, Except.error.inj he]

/-- Tokens that have been passed before reading begins. -/
theorem after {us : List Token} (heq : nesting? depth us = nesting? depth' ts)
    (h : Nests depth' depth'' ts r) : Nests depth depth'' us r :=
  ⟨fun hok => heq.trans (h.ok hok), fun he => heq ▸ h.unbalanced he⟩

theorem mapFst (h : Nests depth depth' ts r) (f : α → β) :
    Nests depth depth' ts (Reading.mapFst f r) := by
  cases r with
  | error e => exact fault h rfl
  | ok q => exact after (h.ok rfl) (pure (f q.1) q.2)

/-- Of two steps, the second begins in the lists that the first leaves open. -/
theorem bind {f : α × List Token → Except ScriptError (β × List Token)}
    (h : Nests depth depth' ts r) (hf : ∀ a rest, Nests depth' depth'' rest (f (a, rest))) :
    Nests depth depth'' ts (r >>= f) := by
  cases r with
  | error e => exact fault h rfl
  | ok q => exact after (h.ok rfl) (hf q.1 q.2)

/-- A given token, and what is read behind it. -/
theorem token {t : Token} {f : List Token → Except ScriptError (α × List Token)}
    (ht : ∀ rest, nesting? (depth + 1) (t :: rest) = nesting? depth' rest)
    (hf : ∀ rest, Nests depth' depth'' rest (f rest)) :
    Nests (depth + 1) depth'' ts (readToken t ts >>= f) := by
  unfold readToken
  split
  · exact unexpected (.token t) []
  · rename_i t' rest
    split
    · rename_i heq
      rw [heq]
      exact after (ht rest) (hf rest)
    · exact expected _ t'

end Nests

/-! ## Lists -/

/-- A reader of items inside a list leaves open what was open before the item. -/
def ItemReader.Nests {α : Type} (item : ItemReader α) : Prop :=
  ∀ depth t ts, Colloquy.Nests (depth + 1) (depth + 1) (t :: ts) (item.read t ts)

section Lists

variable {α : Type} {item : ItemReader α}

/-- Reading items up to a token leaves open what this token does. -/
theorem nests_readUntil (h : item.Nests) {stop : Token} {depth depth' : Nat}
    (hstop : ∀ ts, nesting? (depth + 1) (stop :: ts) = nesting? depth' ts) (ts : List Token) :
    Nests (depth + 1) depth' ts (readUntil stop item ts) := by
  fun_induction readUntil stop item ts with
  | case1 => exact .unclosed (by simp)
  | case2 ts => exact .after (hstop ts) (.pure [] ts)
  | case3 t ts ht e hread => exact .fault (h depth t ts) hread
  | case4 t ts ht a rest hread ih => exact .after ((h depth t ts).ok hread) (ih.mapFst _)

theorem nests_readList (h : item.Nests) (depth : Nat) (ts : List Token) :
    Nests (depth + 1) depth ts (readList item ts) :=
  nests_readUntil h (nesting?_rparen depth) ts

/-- Items of one token each open and close no list. -/
theorem nests_single {item? : Token → Option α} (what : Expectation)
    (hlparen : item? .lparen = none) (hrparen : item? .rparen = none) :
    (ItemReader.single item? what).Nests := by
  intro depth t ts
  simp only [ItemReader.single]
  split
  · rename_i a ha
    refine .after ?_ (.pure a ts)
    cases t with
    | lparen => rw [hlparen] at ha; cases ha
    | rparen => rw [hrparen] at ha; cases ha
    | symbol s => rfl
    | number n => rfl
  · exact .expected what t

end Lists

/-! ## Patterns and responses -/

theorem nests_word (what : Expectation) : (ItemReader.single Token.word? what).Nests :=
  nests_single what rfl rfl

section Rules

variable (depth : Nat) (ts : List Token)

theorem nests_readTemplate : Nests (depth + 1) depth ts (readTemplate ts) :=
  nests_readList (nests_single .templateWord rfl rfl) depth ts

theorem nests_patternItem : patternItem.Nests := by
  intro depth t ts
  simp only [patternItem]
  split
  · rename_i s
    exact .after (nesting?_symbol _ ts s) (.pure _ ts)
  · rename_i n
    exact .after (nesting?_number _ ts n) (.pure _ ts)
  · exact .after (nesting?_lparen _ ts) ((nests_readList (nests_word .groupMember) _ ts).mapFst _)
  · exact .expected _ _

theorem nests_readTarget : Nests (depth + 1) depth ts (readTarget ts) := by
  unfold readTarget
  split
  · rename_i keyword ts
    exact .after (nesting?_symbol _ ts keyword) (.token (nesting?_rparen depth) (.pure _))
  · exact .unexpected _ ts

/-- Of the lists that are opened behind `PRE` none stays open, and the one that `PRE` stands in is
closed. -/
theorem nests_readRecast : Nests (depth + 1) depth ts (readRecast ts) := by
  refine .token (nesting?_lparen _) fun ts => ?_
  refine .bind (nests_readTemplate _ ts) fun _ ts => ?_
  refine .token (nesting?_lparen _) fun ts => ?_
  refine .token (fun ts => nesting?_symbol _ ts "=") fun ts => ?_
  refine .bind (nests_readTarget _ ts) fun _ ts => ?_
  exact .token (nesting?_rparen depth) (.pure _)

theorem nests_readResponse : Nests (depth + 1) depth ts (readResponse ts) := by
  unfold readResponse
  split
  · rename_i ts
    exact .after (nesting?_symbol _ ts "PRE") (nests_readRecast depth ts)
  · rename_i ts
    exact .after (nesting?_symbol _ ts "=") ((nests_readTarget depth ts).mapFst _)
  · exact (nests_readTemplate depth ts).mapFst _

theorem nests_responseItem : responseItem.Nests := by
  intro depth t ts
  simp only [responseItem]
  split
  · exact .after (nesting?_lparen _ ts) (nests_readResponse (depth + 1) ts)
  · exact .expected _ t

/-- The list of the pattern is closed, and then the one of the transformation. -/
theorem nests_readTransformation : Nests (depth + 2) depth ts (readTransformation ts) := by
  refine .bind (nests_readList nests_patternItem _ ts) fun _ ts => ?_
  refine .bind (nests_readList nests_responseItem _ ts) fun _ ts => ?_
  exact .pure _ ts

/-! ## Rules -/

theorem nests_readTags : Nests (depth + 1) (depth + 1) ts (readTags ts) := by
  refine .token (nesting?_lparen _) fun ts => ?_
  refine .bind (nests_readList (nests_single .tagName rfl rfl) _ ts) fun _ ts => ?_
  exact .pure _ ts

theorem nests_readSubstitute : Nests (depth + 1) (depth + 1) ts (readSubstitute ts) := by
  unfold readSubstitute
  split
  · rename_i word ts
    exact .after (nesting?_symbol _ ts word) (.pure _ ts)
  · exact .unexpected _ ts

theorem nests_readBodyList : Nests (depth + 1) depth ts (readBodyList ts) := by
  unfold readBodyList
  split
  · rename_i ts
    exact .after (nesting?_lparen _ ts) ((nests_readTransformation depth ts).mapFst _)
  · rename_i ts
    exact .after (nesting?_symbol _ ts "=") ((nests_readTarget depth ts).mapFst _)
  · exact .unexpected _ ts

theorem nests_clauseItem : clauseItem.Nests := by
  intro depth t ts
  simp only [clauseItem]
  split
  · rename_i n
    exact .after (nesting?_number _ ts n) (.pure _ ts)
  · exact .after (nesting?_symbol _ ts "=") ((nests_readSubstitute depth ts).mapFst _)
  · exact .after (nesting?_symbol _ ts "DLIST") ((nests_readTags depth ts).mapFst _)
  · exact .after (nesting?_lparen _ ts) (nests_readBodyList (depth + 1) ts)
  · exact .expected _ t

theorem nests_readRule (spelling : String) : Nests (depth + 1) depth ts (readRule spelling ts) :=
  (nests_readList nests_clauseItem depth ts).mapFst _

/-! ## The memory rule -/

/-- The pattern of a recollection ends inside of its list, the template at the end of it. -/
theorem nests_readRecollection : Nests (depth + 1) depth ts (readRecollection ts) := by
  refine .bind (nests_readUntil nests_patternItem (fun ts => nesting?_symbol _ ts "=") ts)
    fun _ ts => ?_
  refine .bind (nests_readTemplate depth ts) fun _ ts => ?_
  exact .pure _ ts

theorem nests_recollectionItem : recollectionItem.Nests := by
  intro depth t ts
  simp only [recollectionItem]
  split
  · exact .after (nesting?_lparen _ ts) (nests_readRecollection (depth + 1) ts)
  · exact .expected _ t

theorem nests_readMemory : Nests (depth + 1) depth ts (readMemory ts) := by
  unfold readMemory
  split
  · rename_i trigger ts
    refine .after (nesting?_symbol _ ts trigger) ?_
    refine .bind (nests_readList nests_recollectionItem depth ts) fun recollections ts => ?_
    -- The number of recollections has nothing to do with the lists.
    dsimp only
    unfold MemoryRule.of
    split
    · exact .pure _ ts
    · exact .error (by simp)
  · exact .unexpected _ ts

end Rules

/-! ## Scripts -/

theorem nests_readGreeting (ts : List Token) : Nests 0 0 ts (readGreeting ts) := by
  unfold readGreeting
  split
  · rename_i ts
    exact .after (nesting?_lparen _ ts) (nests_readList (nests_word .greetingWord) 0 ts)
  · exact .error (by simp)

theorem nesting?_skipStart (ts : List Token) : nesting? 0 (skipStart ts) = nesting? 0 ts := by
  unfold skipStart
  split
  · rfl
  · rfl

theorem Draft.add_ne_unbalanced (draft : Draft) (rule : Rule) :
    draft.add rule ≠ .error .unbalanced := by
  unfold add
  split
  · nofun
  · split <;> nofun

theorem Draft.finish_ne_unbalanced (draft : Draft) (greeting : List String) :
    draft.finish greeting ≠ .error .unbalanced := by
  unfold finish
  split
  · nofun
  · nofun
  · dsimp only
    split <;> nofun

/-- Between the lists of a script no list is open. -/
theorem Draft.nests_read (draft : Draft) (ts : List Token) :
    Nests 0 0 ts ((draft.read ts).map (·, [])) := by
  have hopened (s : String) (ts : List Token) :
      nesting? 0 (.lparen :: .symbol s :: ts) = nesting? 1 ts := rfl
  have hmemory (ts : List Token) :
      Nests 0 0 (.lparen :: .symbol "MEMORY" :: ts) (readMemory ts) :=
    .after (hopened "MEMORY" ts) (nests_readMemory 0 ts)
  have hrule (spelling : String) (ts : List Token) :
      Nests 0 0 (.lparen :: .symbol spelling :: ts) (readRule spelling ts) :=
    .after (hopened spelling ts) (nests_readRule 0 ts spelling)
  fun_induction read draft ts with
  | case1 draft => exact .pure draft []
  | case2 draft ts ih => exact .after (nesting?_rparen 0 ts) ih
  | case3 => exact .error (by simp)
  | case4 draft ts hnone e hread => exact .fault (hmemory ts) hread
  | case5 draft ts hnone memory rest hread ih => exact .after ((hmemory ts).ok hread) ih
  | case6 draft spelling ts hne e hread => exact .fault (hrule spelling ts) hread
  | case7 draft spelling ts hne rule rest hread e hadd =>
    refine .error ?_
    rintro rfl
    exact draft.add_ne_unbalanced rule hadd
  | case8 draft spelling ts hne rule rest hread draft' hadd ih =>
    exact .after ((hrule spelling ts).ok hread) ih
  | case9 draft ts => exact .after (nesting?_lparen 0 ts) (.unexpected .keyword ts)
  | case10 draft ts => exact .unclosed (by simp)
  | case11 => exact .expected _ _

/-- What is read as a script leaves no list open. -/
theorem Script.nests_ofTokens (ts : List Token) :
    Nests 0 0 ts ((Script.ofTokens ts).map (·, [])) := by
  have hgreeting := nests_readGreeting ts
  unfold Script.ofTokens
  cases hr : readGreeting ts with
  | error e => exact .fault hgreeting hr
  | ok q =>
    obtain ⟨greeting, rest⟩ := q
    have hread := Draft.nests_read {} (skipStart rest)
    rw [ok_bind]
    dsimp only
    refine .after (hgreeting.ok hr) (.after (nesting?_skipStart rest).symm ?_)
    cases hdraft : Draft.read {} (skipStart rest) with
    | error e => exact .fault hread (by rw [hdraft]; rfl)
    | ok draft =>
      rw [ok_bind]
      refine .after (hread.ok (by rw [hdraft]; rfl)) ?_
      cases hfinish : draft.finish greeting with
      | error e =>
        refine .error ?_
        rintro rfl
        exact draft.finish_ne_unbalanced greeting hfinish
      | ok script => exact .pure script []

/-- The parentheses of a text that is read as a script match, and those of a text that is refused
as unbalanced do not: they are closed too early or not at all. -/
theorem Script.balance_of_read (text : String) :
    (∀ script, Script.read text = .ok script → Balanced (tokens text)) ∧
    (Script.read text = .error .unbalanced →
      (∃ front, front <+: tokens text ∧ front.count .lparen < front.count .rparen) ∨
        (tokens text).count .rparen < (tokens text).count .lparen) := by
  have h := Script.nests_ofTokens (tokens text)
  refine ⟨fun script hread => ?_, fun hread => ?_⟩
  · rw [Script.read] at hread
    have hnesting : nesting? 0 (tokens text) = nesting? 0 [] := h.ok (by rw [hread]; rfl)
    exact balanced_iff.2 hnesting
  · rw [Script.read] at hread
    rw [← not_balanced_iff, balanced_iff]
    exact h.unbalanced (by rw [hread]; rfl)

/-- A script whose last list is not closed. -/
def openText : String := "(HI) (NONE ((0) (SO))) (MEMORY A (0 = A) (0 = B) (0 = C) (0 = D)"

def closedScript : Script where
  greeting := ["HI"]
  rules := []
  fallback := { spelling := "NONE", transformations := [⟨[.count 0], [.reply [.word "SO"]]⟩] }
  memory := .letters "A"

/-- The text is a script with one more parenthesis, and is unbalanced without it and with two. -/
theorem Script.balance_of_openText :
    (Script.read openText = .error .unbalanced ∧ ¬Balanced (tokens openText)) ∧
    (Script.read (openText ++ ")") = .ok closedScript ∧ Balanced (tokens (openText ++ ")"))) ∧
    (Script.read (openText ++ "))") = .error .unbalanced ∧
      ¬Balanced (tokens (openText ++ "))"))) := by
  have hopen : Script.read openText = .error .unbalanced := by decide +kernel
  have hclosed : Script.read (openText ++ ")") = .ok closedScript := by decide +kernel
  have hmore : Script.read (openText ++ "))") = .error .unbalanced := by decide +kernel
  exact ⟨⟨hopen, not_balanced_iff.2 ((balance_of_read _).2 hopen)⟩,
    ⟨hclosed, (balance_of_read _).1 _ hclosed⟩,
    ⟨hmore, not_balanced_iff.2 ((balance_of_read _).2 hmore)⟩⟩

end Colloquy

import Colloquy.Script.Reader.Rule

/-!
# Readers and the grammar: lists

The contract of a reader of items, and what it gives for the lists that the items make up.

* `ItemReader.Reads`: a reader takes exactly the phrases of one kind. A phrase is read whatever
  follows it, and whatever is read is a phrase.
* `readUntil_append`: phrases in front of a list are its first items.
* `exists_of_readUntil`: a list that is read is phrases up to the token that ends it.
-/

namespace Colloquy

open Reading

/-! ## Steps -/

namespace Reading

variable {α β : Type}

@[simp] theorem mapFst_ok (f : α → β) (a : α) (ts : List Token) :
    mapFst f (.ok (a, ts)) = .ok (f a, ts) := rfl

@[simp] theorem mapFst_error (f : α → β) (e : ScriptError) : mapFst f (.error e) = .error e := rfl

@[simp] theorem ok_bind {ε : Type} (a : α) (f : α → Except ε β) :
    (Except.ok a >>= f) = f a := rfl

end Reading

/-! ## Lists -/

/-- `item` reads exactly the phrases of a type, none of which begins with `stop`: a phrase is
read as its value, whatever follows it, and what is read begins with a phrase. -/
structure ItemReader.Reads {α τ : Type} (item : ItemReader α) (stop : Token)
    (tokens : τ → List Token) (value : τ → α) : Prop where
  read_tokens : ∀ x, ∃ t ts, tokens x = t :: ts ∧ t ≠ stop ∧
    ∀ rest, item.read t (ts ++ rest) = .ok (value x, rest)
  exists_of_read : ∀ {t ts a rest}, item.read t ts = .ok (a, rest) → t ≠ stop →
    ∃ x, t :: ts = tokens x ++ rest

section Lists

variable {α τ : Type} {item : ItemReader α} {stop : Token} {tokens : τ → List Token}
  {value : τ → α}

theorem readUntil_stop (rest : List Token) :
    readUntil stop item (stop :: rest) = .ok ([], rest) := by
  rw [readUntil, if_pos rfl]

theorem readUntil_cons {t : Token} {ts rest : List Token} {a : α} (ht : t ≠ stop)
    (h : item.read t ts = .ok (a, rest)) :
    readUntil stop item (t :: ts) = mapFst (a :: ·) (readUntil stop item rest) := by
  rw [readUntil, if_neg ht]
  split <;> simp_all

theorem readUntil_error {t : Token} {ts : List Token} {e : ScriptError} (ht : t ≠ stop)
    (h : item.read t ts = .error e) : readUntil stop item (t :: ts) = .error e := by
  rw [readUntil, if_neg ht]
  split <;> simp_all

/-- Phrases in front of a list are read as its first items. -/
theorem readUntil_append (hr : item.Reads stop tokens value) (xs : List τ) (ts : List Token) :
    readUntil stop item (xs.flatMap tokens ++ ts) =
      mapFst (xs.map value ++ ·) (readUntil stop item ts) := by
  induction xs with
  | nil =>
    rw [List.flatMap_nil, List.nil_append]
    cases readUntil stop item ts <;> rfl
  | cons x xs ih =>
    obtain ⟨t, ts', hx, ht, hread⟩ := hr.read_tokens x
    rw [List.flatMap_cons, List.append_assoc, hx, List.cons_append, readUntil_cons ht (hread _), ih]
    cases readUntil stop item ts <;> rfl

theorem readUntil_tokens (hr : item.Reads stop tokens value) (xs : List τ) (rest : List Token) :
    readUntil stop item (xs.flatMap tokens ++ stop :: rest) = .ok (xs.map value, rest) := by
  rw [readUntil_append hr, readUntil_stop, mapFst_ok, List.append_nil]

/-- What is read as a list is phrases, one for each item, and the token that ends it. -/
theorem exists_of_readUntil (hr : item.Reads stop tokens value) {ts rest : List Token}
    {as : List α} (h : readUntil stop item ts = .ok (as, rest)) :
    ∃ xs : List τ, ts = xs.flatMap tokens ++ stop :: rest := by
  fun_induction readUntil stop item ts generalizing as with
  | case1 => cases h
  | case2 ts => cases h; exact ⟨[], rfl⟩
  | case3 => cases h
  | case4 t ts ht a rest' hread ih =>
    obtain ⟨as', hrest, -⟩ := of_mapFst_eq_ok h
    obtain ⟨xs, hxs⟩ := ih hrest
    obtain ⟨x, hx⟩ := hr.exists_of_read hread ht
    exact ⟨x :: xs, by rw [hx, hxs, List.flatMap_cons, List.append_assoc]⟩

theorem readList_listed (hr : item.Reads .rparen tokens value) (xs : List τ) (rest : List Token) :
    readList item (xs.flatMap tokens ++ .rparen :: rest) = .ok (xs.map value, rest) :=
  readUntil_tokens hr xs rest

end Lists

/-- Items of one token each: the phrases are the tokens themselves. -/
theorem reads_single {α τ : Type} {item? : Token → Option α} {what : Expectation} {stop : Token}
    {token : τ → Token} {value : τ → α} (hvalue : ∀ x, item? (token x) = some (value x))
    (hstop : item? stop = none) (htoken : ∀ {t a}, item? t = some a → ∃ x, token x = t) :
    (ItemReader.single item? what).Reads stop (fun x => [token x]) value where
  read_tokens x := by
    refine ⟨token x, [], rfl, fun h => ?_, fun rest => ?_⟩
    · rw [← h, hvalue] at hstop; cases hstop
    · simp [ItemReader.single, hvalue]
  exists_of_read := by
    intro t ts a rest h _
    simp only [ItemReader.single] at h
    split at h
    · rename_i ha
      obtain ⟨x, rfl⟩ := htoken ha
      cases h
      exact ⟨x, rfl⟩
    · cases h

end Colloquy

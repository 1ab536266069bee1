import Colloquy.Script.Error

/-!
# Reading lists of the script notation

A step takes tokens from the front of a list and gives what it read with the tokens after it, or
the first fault. Every list of the notation is read by `readUntil`, which hands each item, by its
first token, to an `ItemReader`.

* `readUntil`: the items up to a given token.
* `length_lt_of_readUntil`: a list uses up at least the token that ends it.
-/

namespace Colloquy

/-! ## Steps -/

namespace Reading

variable {α β : Type}

/-- Applies `f` to what was read. -/
def mapFst (f : α → β) (r : Except ScriptError (α × List Token)) :
    Except ScriptError (β × List Token) :=
  r.map fun (a, ts) => (f a, ts)

theorem of_mapFst_eq_ok {f : α → β} {r : Except ScriptError (α × List Token)} {b : β}
    {ts : List Token} (h : mapFst f r = .ok (b, ts)) : ∃ a, r = .ok (a, ts) ∧ f a = b := by
  cases r with
  | error e => cases h
  | ok q => cases h; exact ⟨q.1, rfl, rfl⟩

/-- A sequence of two steps succeeds only if both do. -/
theorem of_bind_eq_ok {ε : Type} {x : Except ε α} {f : α → Except ε β} {b : β}
    (h : (x >>= f) = .ok b) : ∃ a, x = .ok a ∧ f a = .ok b := by
  cases x with
  | error e => cases h
  | ok a => exact ⟨a, rfl, h⟩

end Reading

open Reading

/-! ## Lists -/

/-- Reads one item of a list, given its first token, and never gives tokens back. -/
structure ItemReader (α : Type) where
  read : Token → List Token → Except ScriptError (α × List Token)
  length_le : ∀ {t ts a rest}, read t ts = .ok (a, rest) → rest.length ≤ ts.length

/-- Reads items up to the token `stop`. -/
def readUntil {α : Type} (stop : Token) (item : ItemReader α) :
    List Token → Except ScriptError (List α × List Token)
  | [] => .error .unbalanced
  | t :: ts =>
    if t = stop then .ok ([], ts)
    else match _h : item.read t ts with
      | .error e => .error e
      | .ok (a, rest) => mapFst (a :: ·) (readUntil stop item rest)
termination_by ts => ts.length
decreasing_by exact Nat.lt_succ_of_le (item.length_le _h)

/-- Reads items up to the closing parenthesis. -/
def readList {α : Type} (item : ItemReader α) :
    List Token → Except ScriptError (List α × List Token) :=
  readUntil .rparen item

/-- A list uses up at least the token that ends it. -/
theorem length_lt_of_readUntil {α : Type} {stop : Token} {item : ItemReader α}
    {ts rest : List Token} {as : List α} (h : readUntil stop item ts = .ok (as, rest)) :
    rest.length < ts.length := by
  fun_induction readUntil stop item ts generalizing as with
  | case1 => cases h
  | case2 ts => cases h; exact Nat.lt_succ_self _
  | case3 => cases h
  | case4 t ts _ a rest hread ih =>
    obtain ⟨as, hrest, -⟩ := of_mapFst_eq_ok h
    exact Nat.lt_succ_of_lt (Nat.lt_of_lt_of_le (ih hrest) (item.length_le hread))

/-- Takes one given token. -/
def readToken (t : Token) (ts : List Token) : Except ScriptError (List Token) :=
  match ts with
  | [] => .error .unbalanced
  | t' :: rest => if t' = t then .ok rest else .error (.expected (.token t) t')

theorem length_le_of_readToken {t : Token} {ts rest : List Token}
    (h : readToken t ts = .ok rest) : rest.length ≤ ts.length := by
  unfold readToken at h
  split at h
  · cases h
  · split at h
    · cases h; exact Nat.le_succ _
    · cases h

end Colloquy

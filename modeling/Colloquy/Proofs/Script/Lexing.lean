import Colloquy.Proofs.Script.Phrase
import Colloquy.Proofs.Text.Case
import Colloquy.Script.Printer
import Colloquy.Script.Token

/-!
# Reading back what is written

A token that is read from a text is read again where its text is written, provided that what
follows does not prolong it. Texts that are put together from tokens, blanks and parentheses are
read piece by piece.

* `Token.WellFormed`: the tokens that are read from texts.
* `Token.read?_text_append`: the text of a token is read as the token.
* `Lexes`, `Trails`: a piece of text is read as given tokens, whatever follows it that does not
  prolong its last token, or whatever stands before it.
-/

namespace Colloquy

open Text

/-! ## Tokens of a text -/

namespace Token

/-- Whether a list of characters is read as one symbol: a sign, a run of other characters that
does not begin with a digit, or a run of digits that is too long for a number. -/
inductive IsSymbol : List Char → Prop
  | sign {c : Char} (h : isSign c = true) : IsSymbol [c]
  | word {c : Char} {cs : List Char} (hc : c.isDigit = false)
      (h : ∀ d ∈ c :: cs, isDelimiter d = false) : IsSymbol (c :: cs)
  | digits {cs : List Char} (hne : cs ≠ []) (h : ∀ d ∈ cs, d.isDigit = true)
      (hbound : numberBound ≤ Nat.ofDigitChars 10 cs 0) : IsSymbol cs

/-- A word by its look, which is quick to compute. -/
theorem IsSymbol.of_all {c : Char} {cs : List Char} (hc : c.isDigit = false)
    (h : (c :: cs).all (!isDelimiter ·) = true) : IsSymbol (c :: cs) :=
  .word hc fun d hd => by simpa using List.all_eq_true.1 h d hd

/-- Whether a token can be read from a text. -/
def WellFormed : Token → Prop
  | lparen => True
  | rparen => True
  | symbol s => IsSymbol s.toList
  | number n => n < numberBound

/-- Whether what follows a token does not prolong it. -/
def Ends (rest : List Char) : Prop := ∀ c ∈ rest.head?, isDelimiter c = true

theorem isDelimiter_digit : ∀ k < 10, isDelimiter (.ofNat (0x30 + k)) = false := by
  decide

theorem isDelimiter_of_isDigit {c : Char} (h : c.isDigit = true) : isDelimiter c = false := by
  have hrange : 0x30 ≤ c.toNat ∧ c.toNat ≤ 0x39 := Char.isDigit_iff_toNat.1 h
  have hdelimiter := isDelimiter_digit (c.toNat - 0x30) (by omega)
  rwa [Nat.add_sub_cancel' hrange.1, Char.ofNat_toNat] at hdelimiter

theorem isDelimiter_eq_false {c : Char} : isDelimiter c = false ↔
    isBlank c = false ∧ c ≠ '(' ∧ c ≠ ')' ∧ c ≠ ';' ∧ isSign c = false := by
  simp [isDelimiter, and_assoc]

theorem skipIgnored_eq_cons {comment : Bool} {cs cs' : List Char} {c : Char}
    (h : skipIgnored comment cs = c :: cs') : isBlank c = false ∧ c ≠ ';' := by
  induction cs generalizing comment with
  | nil => cases h
  | cons d ds ih =>
    unfold skipIgnored at h
    split at h
    · exact ih h
    · split at h
      · exact ih h
      · split at h
        · exact ih h
        · rename_i hblank hcomment
          cases h
          exact ⟨by simpa using hblank, by simpa using hcomment⟩

theorem ofDigits_wellFormed {cs : List Char} (hne : cs ≠ []) (h : ∀ d ∈ cs, d.isDigit = true) :
    (ofDigits cs).WellFormed := by
  simp only [ofDigits]
  split
  · assumption
  · rename_i hbound
    refine .digits ?_ ?_ ?_ <;> rw [String.toList_ofList]
    · exact hne
    · exact h
    · exact Nat.le_of_not_lt hbound

theorem readFrom_wellFormed {c : Char} (hblank : isBlank c = false) (hcomment : c ≠ ';')
    (cs : List Char) : (readFrom c cs).1.WellFormed := by
  unfold readFrom
  split
  · exact trivial
  · split
    · exact trivial
    · split
      · rename_i hsign
        show IsSymbol (String.singleton c).toList
        rw [String.toList_singleton]
        exact .sign hsign
      · split
        · rename_i hdigit
          refine ofDigits_wellFormed (List.cons_ne_nil _ _) (List.forall_mem_cons.2 ⟨hdigit, ?_⟩)
          exact fun d hd => List.mem_takeWhile_imp hd
        · rename_i hlparen hrparen hsign hdigit
          show IsSymbol (String.ofList _).toList
          rw [String.toList_ofList]
          refine .word (by simpa using hdigit) (List.forall_mem_cons.2 ⟨?_, fun d hd => ?_⟩)
          · exact isDelimiter_eq_false.2 (by simp_all)
          · simpa using List.mem_takeWhile_imp hd

theorem wellFormed_of_read? {cs rest : List Char} {t : Token} (h : read? cs = some (t, rest)) :
    t.WellFormed := by
  unfold read? at h
  split at h
  · cases h
  · rename_i c cs' hskip
    obtain ⟨hblank, hcomment⟩ := skipIgnored_eq_cons hskip
    have hread := readFrom_wellFormed hblank hcomment cs'
    rwa [Option.some.inj h] at hread

theorem wellFormed_of_mem_all {cs : List Char} {t : Token} (h : t ∈ all cs) : t.WellFormed := by
  fun_induction all cs with
  | case1 => cases h
  | case2 cs t' rest hread ih =>
    rcases List.mem_cons.1 h with rfl | h
    · exact wellFormed_of_read? hread
    · exact ih h

/-! ## Reading a token back -/

theorem Ends.nil : Ends [] := nofun

theorem Ends.cons {c : Char} (h : isDelimiter c = true) (cs : List Char) : Ends (c :: cs) := by
  intro d hd
  cases hd
  exact h

theorem takeWhile_append_of_head {p : Char → Bool} {cs rest : List Char}
    (h : ∀ d ∈ cs, p d = true) (hrest : ∀ d ∈ rest.head?, p d = false) :
    (cs ++ rest).takeWhile p = cs ∧ (cs ++ rest).dropWhile p = rest := by
  rw [List.takeWhile_append_of_pos h, List.dropWhile_append_of_pos h]
  cases rest with
  | nil => exact ⟨List.append_nil cs, rfl⟩
  | cons d rest =>
    have hd := hrest d rfl
    rw [List.takeWhile_cons_of_neg (by simp [hd]), List.dropWhile_cons_of_neg (by simp [hd]),
      List.append_nil]
    exact ⟨rfl, rfl⟩

theorem read?_cons {c : Char} (hblank : isBlank c = false) (hcomment : c ≠ ';') (cs : List Char) :
    read? (c :: cs) = some (readFrom c cs) := by
  simp [read?, skipIgnored, hblank, hcomment]

theorem read?_sign {c : Char} (h : isSign c = true) (rest : List Char) :
    read? (c :: rest) = some (symbol (.singleton c), rest) := by
  have hc : c = '=' ∨ c = ',' ∨ c = '.' := by simpa [isSign, or_assoc] using h
  rcases hc with rfl | rfl | rfl <;> rfl

/-- Digits are read up to the first character that is no digit. -/
theorem read?_digits {c : Char} {cs rest : List Char} (h : ∀ d ∈ c :: cs, d.isDigit = true)
    (hrest : ∀ d ∈ rest.head?, d.isDigit = false) :
    read? (c :: cs ++ rest) = some (ofDigits (c :: cs), rest) := by
  obtain ⟨hc, hcs⟩ := List.forall_mem_cons.1 h
  obtain ⟨hblank, hlparen, hrparen, hcomment, hsign⟩ :=
    isDelimiter_eq_false.1 (isDelimiter_of_isDigit hc)
  obtain ⟨htake, hdrop⟩ := takeWhile_append_of_head hcs hrest
  rw [List.cons_append, read?_cons hblank hcomment, readFrom, htake, hdrop]
  simp [hlparen, hrparen, hsign, hc]

/-- A word is read up to the first delimiter. -/
theorem read?_word {c : Char} {cs rest : List Char} (hc : c.isDigit = false)
    (h : ∀ d ∈ c :: cs, isDelimiter d = false) (hrest : Ends rest) :
    read? (c :: cs ++ rest) = some (symbol (.ofList (c :: cs)), rest) := by
  obtain ⟨hdelimiter, hcs⟩ := List.forall_mem_cons.1 h
  obtain ⟨hblank, hlparen, hrparen, hcomment, hsign⟩ := isDelimiter_eq_false.1 hdelimiter
  have hcs' : ∀ d ∈ cs, (!isDelimiter d) = true := fun d hd => by rw [hcs d hd]; rfl
  have hrest' : ∀ d ∈ rest.head?, (!isDelimiter d) = false := fun d hd => by rw [hrest d hd]; rfl
  obtain ⟨htake, hdrop⟩ := takeWhile_append_of_head hcs' hrest'
  rw [List.cons_append, read?_cons hblank hcomment, readFrom, htake, hdrop]
  simp [hlparen, hrparen, hsign, hc]

theorem Ends.not_digit {rest : List Char} (h : Ends rest) :
    ∀ d ∈ rest.head?, d.isDigit = false := by
  intro d hd
  by_contra hdigit
  rw [Bool.not_eq_false] at hdigit
  have hdelimiter := h d hd
  rw [isDelimiter_of_isDigit hdigit] at hdelimiter
  cases hdelimiter

theorem read?_repr {n : Nat} (hn : n < numberBound) {rest : List Char} (h : Ends rest) :
    read? (n.repr.toList ++ rest) = some (number n, rest) := by
  have hdigits : ∀ d ∈ Nat.toDigits 10 n, d.isDigit = true := fun d hd =>
    Nat.isDigit_of_mem_toDigits (by decide) (Nat.le_refl 10) hd
  have hvalue : Nat.ofDigitChars 10 (Nat.toDigits 10 n) 0 = n := Nat.ofDigitChars_ten_toDigits
  have hne : Nat.toDigits 10 n ≠ [] := List.ne_nil_of_length_pos Nat.length_toDigits_pos
  rw [Nat.toList_repr]
  obtain ⟨c, cs, hcs⟩ := List.exists_cons_of_ne_nil hne
  rw [hcs] at hdigits hvalue ⊢
  rw [read?_digits hdigits h.not_digit, ofDigits, hvalue]
  simp [hn]

/-- A token is read where its text is written. -/
theorem read?_text_append {t : Token} (ht : t.WellFormed) {rest : List Char} (h : Ends rest) :
    read? (t.text.toList ++ rest) = some (t, rest) := by
  cases t with
  | lparen => rfl
  | rparen => rfl
  | number n => exact read?_repr ht h
  | symbol s =>
    rw [Token.text, ← String.ofList_toList (s := s)]
    generalize hcs : s.toList = cs
    rw [WellFormed, hcs] at ht
    rw [String.toList_ofList]
    cases ht with
    | sign hsign => exact read?_sign hsign rest
    | word hc hword => exact read?_word hc hword h
    | digits hne hdigits hbound =>
      obtain ⟨c, cs, rfl⟩ := List.exists_cons_of_ne_nil hne
      rw [read?_digits hdigits h.not_digit, ofDigits]
      simp [Nat.not_lt_of_le hbound]

theorem IsSymbol.sign_or_forall {cs : List Char} (h : IsSymbol cs) :
    (∃ c, cs = [c] ∧ isSign c = true) ∨ ∀ d ∈ cs, isDelimiter d = false := by
  cases h with
  | sign hsign => exact .inl ⟨_, rfl, hsign⟩
  | word _ hword => exact .inr hword
  | digits _ hdigits _ => exact .inr fun d hd => isDelimiter_of_isDigit (hdigits d hd)

/-- There are no blanks in a token. -/
theorem WellFormed.isBlank_eq_false {t : Token} (ht : t.WellFormed) :
    ∀ c ∈ t.text.toList, isBlank c = false := by
  cases t with
  | lparen => simp [text, isBlank]
  | rparen => simp [text, isBlank]
  | number n =>
    intro c hc
    rw [text, Nat.toList_repr] at hc
    have hdigit : c.isDigit = true := Nat.isDigit_of_mem_toDigits (by decide) (Nat.le_refl 10) hc
    exact (isDelimiter_eq_false.1 (isDelimiter_of_isDigit hdigit)).1
  | symbol s =>
    rcases IsSymbol.sign_or_forall ht with ⟨c, hc, hsign⟩ | hall
    · rw [text, hc, List.forall_mem_singleton]
      simp only [isSign, Bool.or_eq_true, beq_iff_eq] at hsign
      rcases hsign with (rfl | rfl) | rfl <;> rfl
    · exact fun c hc => (isDelimiter_eq_false.1 (hall c hc)).1

theorem WellFormed.text_ne {t : Token} (ht : t.WellFormed) : t.text ≠ "" := by
  intro heq
  have hread := read?_text_append ht Ends.nil
  rw [heq] at hread
  cases hread

end Token

/-! ## Upper case -/

namespace Token

theorem isDelimiter_capital : ∀ k < 26, isDelimiter (.ofNat (0x41 + k)) = false := by
  decide

theorem isDelimiter_of_isCapital {c : Char} (h : IsCapital c) : isDelimiter c = false := by
  rcases h with ⟨hfirst, hlast⟩ | ⟨hlarge, hblank⟩
  · have hdelimiter := isDelimiter_capital (c.toNat - 0x41) (by omega)
    rwa [Nat.add_sub_cancel' hfirst, Char.ofNat_toNat] at hdelimiter
  · have hsmall {d : Char} (hd : d.toNat < 0x80) : c ≠ d := by
      rintro rfl
      omega
    refine isDelimiter_eq_false.2 ⟨hblank, hsmall (by decide), hsmall (by decide),
      hsmall (by decide), ?_⟩
    simp [isSign, hsmall (d := '=') (by decide), hsmall (d := ',') (by decide),
      hsmall (d := '.') (by decide)]

theorem isDigit_of_isCapital {c : Char} (h : IsCapital c) : c.isDigit = false := by
  by_contra hdigit
  rw [Bool.not_eq_false, Char.isDigit_iff_toNat] at hdigit
  simp only [Char.reduceToNat] at hdigit
  rcases h with ⟨hfirst, -⟩ | ⟨hlarge, -⟩ <;> omega

theorem isDelimiter_of_mem_upperChar {c d : Char} (hc : isDelimiter c = false)
    (hd : d ∈ upperChar c) : isDelimiter d = false := by
  rcases eq_or_isCapital_of_mem_upperChar hd with rfl | hcapital
  · exact hc
  · exact isDelimiter_of_isCapital hcapital

theorem isDelimiter_of_mem_upperChars {cs : List Char} (h : ∀ c ∈ cs, isDelimiter c = false) :
    ∀ d ∈ upperChars cs, isDelimiter d = false := by
  intro d hd
  obtain ⟨c, hc, hd⟩ := List.mem_flatMap.1 hd
  exact isDelimiter_of_mem_upperChar (h c hc) hd

theorem upperChars_sign {c : Char} (h : isSign c = true) : upperChars [c] = [c] := by
  have hc : c = '=' ∨ c = ',' ∨ c = '.' := by simpa [isSign, or_assoc] using h
  rw [upperChars, List.flatMap_singleton, upperChar_of_lt]
  rcases hc with rfl | rfl | rfl <;> decide

theorem upperChars_digits {ds : List Char} (h : ∀ d ∈ ds, d.isDigit = true) :
    upperChars ds = ds := by
  rw [upperChars, List.flatMap_congr fun d hd => upperChar_of_lt ?_, List.flatMap_singleton']
  have hrange := Char.isDigit_iff_toNat.1 (h d hd)
  simp only [Char.reduceToNat] at hrange
  omega

/-- A symbol in upper case is a symbol. -/
theorem IsSymbol.upper {cs : List Char} (h : IsSymbol cs) : IsSymbol (upperChars cs) := by
  cases h with
  | @sign c hsign =>
    rw [upperChars_sign hsign]
    exact .sign hsign
  | @word c cs hc hword =>
    obtain ⟨d, ds, hd⟩ := List.exists_cons_of_ne_nil (upperChar_ne_nil c)
    have hdelimiter := isDelimiter_of_mem_upperChars hword
    rw [upperChars, List.flatMap_cons, hd] at hdelimiter ⊢
    refine .word ?_ hdelimiter
    rcases eq_or_isCapital_of_mem_upperChar (by rw [hd]; exact List.mem_cons_self) with rfl | hcap
    · exact hc
    · exact isDigit_of_isCapital hcap
  | digits hne hdigits hbound =>
    rw [upperChars_digits hdigits]
    exact .digits hne hdigits hbound

theorem WellFormed.upper {s : String} (h : (symbol s).WellFormed) :
    (symbol (Text.upper s)).WellFormed := by
  show IsSymbol (Text.upper s).toList
  rw [toList_upper]
  exact IsSymbol.upper h

end Token

/-! ## Pieces of text -/

/-- A piece of text is read as `ts`, if what follows does not prolong its last token. -/
def Lexes (text : String) (ts : List Token) : Prop :=
  ∀ rest, Token.Ends rest → Token.all (text.toList ++ rest) = ts ++ Token.all rest

/-- A piece of text that moreover does not prolong the token before it. -/
structure Trails (text : String) (ts : List Token) : Prop where
  lexes : Lexes text ts
  ends : ∀ rest, Token.Ends rest → Token.Ends (text.toList ++ rest)

section Pieces

variable {a b : String} {ts us : List Token}

theorem Lexes.tokens_eq (h : Lexes a ts) : tokens a = ts := by
  have hnil : Token.all [] = [] := Token.all_eq_nil rfl
  have hall := h [] Token.Ends.nil
  rwa [List.append_nil, hnil, List.append_nil] at hall

theorem Lexes.of_token {t : Token} (ht : t.WellFormed) : Lexes t.text [t] := fun _ hrest =>
  Token.all_eq_cons (Token.read?_text_append ht hrest)

theorem Lexes.of_symbol {s : String} (h : (Token.symbol s).WellFormed) : Lexes s [.symbol s] :=
  of_token h

theorem Trails.nil : Trails "" [] := ⟨fun _ _ => rfl, fun _ hrest => hrest⟩

theorem Lexes.append (ha : Lexes a ts) (hb : Trails b us) : Lexes (a ++ b) (ts ++ us) := by
  intro rest hrest
  rw [String.toList_append, List.append_assoc, ha _ (hb.ends rest hrest), hb.lexes rest hrest,
    List.append_assoc]

theorem Trails.append (ha : Trails a ts) (hb : Trails b us) : Trails (a ++ b) (ts ++ us) where
  lexes := ha.lexes.append hb
  ends rest hrest := by
    rw [String.toList_append, List.append_assoc]
    exact ha.ends _ (hb.ends rest hrest)

/-- Texts that differ in what is passed over in front of them have the same tokens. -/
theorem Token.all_eq_of_skipIgnored_eq {cs ds : List Char}
    (h : Token.skipIgnored false cs = Token.skipIgnored false ds) :
    Token.all cs = Token.all ds := by
  have hread : Token.read? cs = Token.read? ds := by rw [Token.read?, h, Token.read?]
  cases hds : Token.read? ds with
  | none => rw [Token.all_eq_nil (hread.trans hds), Token.all_eq_nil hds]
  | some q => rw [Token.all_eq_cons (hread.trans hds), Token.all_eq_cons hds]

theorem Token.all_blank {c : Char} (h : isBlank c = true) (cs : List Char) :
    Token.all (c :: cs) = Token.all cs :=
  Token.all_eq_of_skipIgnored_eq (by simp [Token.skipIgnored, h])

/-- A piece of text after a blank. -/
theorem Lexes.blank {c : Char} (hc : isBlank c = true) (ha : Lexes a ts) :
    Trails (String.singleton c ++ a) ts where
  lexes rest hrest := by
    rw [String.toList_append, String.toList_singleton, List.singleton_append, List.cons_append,
      Token.all_blank hc, ha rest hrest]
  ends rest hrest := by
    rw [String.toList_append, String.toList_singleton, List.singleton_append, List.cons_append]
    exact Token.Ends.cons (by simp [Token.isDelimiter, hc]) _

theorem Lexes.space (ha : Lexes a ts) : Trails (" " ++ a) ts := Lexes.blank (c := ' ') rfl ha

theorem Trails.newline : Trails "\n" [] := by
  have htrails := Lexes.blank (c := '\n') rfl Trails.nil.lexes
  rwa [String.append_empty] at htrails

/-- A piece of text after a token that ends with it, whatever follows. -/
theorem Lexes.sign {c : Char} (hc : Token.isSign c = true) (ha : Lexes a ts) :
    Trails (String.singleton c ++ a) (.symbol (.singleton c) :: ts) where
  lexes rest hrest := by
    rw [String.toList_append, String.toList_singleton, List.singleton_append, List.cons_append,
      Token.all_eq_cons (Token.read?_sign hc _), ha rest hrest, List.cons_append]
  ends rest hrest := by
    rw [String.toList_append, String.toList_singleton, List.singleton_append, List.cons_append]
    exact Token.Ends.cons (by simp [Token.isDelimiter, hc]) _

theorem Trails.rparen : Trails ")" [.rparen] where
  lexes _ _ := Token.all_eq_cons rfl
  ends _ _ := Token.Ends.cons rfl _

theorem Lexes.lparen (ha : Lexes a ts) : Trails ("(" ++ a) (.lparen :: ts) where
  lexes rest hrest := by
    rw [String.toList_append, List.append_assoc, List.cons_append, ← ha rest hrest]
    exact Token.all_eq_cons rfl
  ends rest hrest := by
    rw [String.toList_append, List.append_assoc]
    exact Token.Ends.cons rfl _

theorem Lexes.listed (ha : Lexes a ts) : Trails ("(" ++ a ++ ")") (Phrase.listed ts) :=
  ha.lparen.append .rparen

section Lists

variable {τ : Type} {text : τ → String} {toks : τ → List Token} {xs : List τ}

theorem Trails.join (h : ∀ x ∈ xs, Trails (text x) (toks x)) :
    Trails (String.join (xs.map text)) (xs.flatMap toks) := by
  induction xs with
  | nil => exact Trails.nil
  | cons x xs ih =>
    obtain ⟨hx, hxs⟩ := List.forall_mem_cons.1 h
    rw [List.map_cons, String.join_cons, List.flatMap_cons]
    exact hx.append (ih hxs)

theorem Trails.spaceEach (h : ∀ x ∈ xs, Lexes (text x) (toks x)) :
    Trails (spaceEach (xs.map text)) (xs.flatMap toks) := by
  rw [Colloquy.spaceEach, List.map_map]
  exact Trails.join fun x hx => (h x hx).space

theorem spacedOut_cons (s : String) (texts : List String) :
    spacedOut (s :: texts) = s ++ spaceEach texts := by
  induction texts generalizing s with
  | nil => exact (String.append_empty).symm
  | cons t texts ih =>
    have h : spacedOut (s :: t :: texts) = s ++ " " ++ spacedOut (t :: texts) :=
      String.intercalate_cons_cons
    rw [h, ih]
    simp only [spaceEach, List.map_cons, String.join_cons, String.append_assoc]

theorem Lexes.spacedOut (h : ∀ x ∈ xs, Lexes (text x) (toks x)) :
    Lexes (spacedOut (xs.map text)) (xs.flatMap toks) := by
  cases xs with
  | nil => exact Trails.nil.lexes
  | cons x xs =>
    obtain ⟨hx, hxs⟩ := List.forall_mem_cons.1 h
    rw [List.map_cons, spacedOut_cons, List.flatMap_cons]
    exact hx.append (.spaceEach hxs)

end Lists

end Pieces

end Colloquy

import Colloquy.Proofs.Script.Lexing
import Colloquy.Script.Reader.Rule

/-!
# Tags that are read back

The tags of a rule are printed with a single slash before the first of them. The first tag is
always read back, as the slash keeps a digit from beginning it. Any other tag that begins with a
digit is read as a number, or falls apart into a number and a symbol.

* `IsTag`: the texts that tags can have.
* `tagTokens`: the tokens of printed tags.
* `exists_members_iff`: printed tags are read back if and only if all but the first of them are
  symbols in their own right.
-/

namespace Colloquy

open Text

/-! ## Texts of tags -/

/-- Whether a list of characters is a sign, or a run of other characters that does not begin
with a slash. -/
inductive IsTagText : List Char → Prop
  | sign {c : Char} (h : Token.isSign c = true) : IsTagText [c]
  | word {c : Char} {cs : List Char} (hc : c ≠ '/')
      (h : ∀ d ∈ c :: cs, Token.isDelimiter d = false) : IsTagText (c :: cs)

/-- Whether a text is a tag: it has no slash in front, and is in upper case. -/
structure IsTag (tag : String) : Prop where
  text : IsTagText tag.toList
  upper_eq : upper tag = tag

theorem ne_slash_of_isSign {c : Char} (h : Token.isSign c = true) : c ≠ '/' := by
  rintro rfl
  exact absurd h (by decide)

theorem ne_slash_of_mem_upperChar {c d : Char} (hc : c ≠ '/') (hd : d ∈ upperChar c) :
    d ≠ '/' := by
  rcases eq_or_isCapital_of_mem_upperChar hd with rfl | hcapital
  · exact hc
  · rintro rfl
    simp [IsCapital] at hcapital

/-- What is left of a symbol without its slashes is a tag once it is in upper case. -/
theorem IsTagText.of_isSymbol {cs : List Char} {c : Char} {cs' : List Char}
    (h : Token.IsSymbol cs) (hdrop : cs.dropWhile (· == '/') = c :: cs') :
    IsTagText (upperChars (c :: cs')) := by
  have hslash : c ≠ '/' := by
    have hhead := List.head?_dropWhile_not (· == '/') cs
    rw [hdrop] at hhead
    simpa using hhead
  rcases h.sign_or_forall with ⟨d, rfl, hsign⟩ | hall
  · rw [List.dropWhile_cons_of_neg (by simpa using ne_slash_of_isSign hsign)] at hdrop
    cases hdrop
    rw [Token.upperChars_sign hsign]
    exact .sign hsign
  · have hsuffix : c :: cs' <:+ cs := hdrop ▸ List.dropWhile_suffix _
    have hdelimiter : ∀ d ∈ upperChars (c :: cs'), Token.isDelimiter d = false :=
      Token.isDelimiter_of_mem_upperChars fun d hd => hall d (hsuffix.subset hd)
    obtain ⟨d, ds, hd⟩ := List.exists_cons_of_ne_nil (upperChar_ne_nil c)
    rw [upperChars, List.flatMap_cons, hd] at hdelimiter ⊢
    exact .word (ne_slash_of_mem_upperChar hslash (by rw [hd]; exact List.mem_cons_self)) hdelimiter

theorem tag?_eq_some {member : String} (h : member.toList.dropWhile (· == '/') ≠ []) :
    tag? member = some (upper (.ofList (member.toList.dropWhile (· == '/')))) := by
  rw [tag?]
  split
  · contradiction
  · rfl

/-- What a member of a `DLIST` names is a tag. -/
theorem isTag_of_tag? {member tag : String} (hmember : (Token.symbol member).WellFormed)
    (h : tag? member = some tag) : IsTag tag := by
  cases hdrop : member.toList.dropWhile (· == '/') with
  | nil =>
    rw [tag?, hdrop] at h
    cases h
  | cons c cs =>
    rw [tag?_eq_some (by rw [hdrop]; exact List.cons_ne_nil c cs), hdrop] at h
    obtain rfl := Option.some.inj h
    refine ⟨?_, upper_upper _⟩
    rw [toList_upper, String.toList_ofList]
    exact .of_isSymbol hmember hdrop

theorem IsTagText.dropWhile_eq {cs : List Char} (h : IsTagText cs) :
    cs.dropWhile (· == '/') = cs := by
  cases h with
  | sign hsign => exact List.dropWhile_cons_of_neg (by simpa using ne_slash_of_isSign hsign)
  | word hc _ => exact List.dropWhile_cons_of_neg (by simpa using hc)

theorem IsTagText.ne_nil {cs : List Char} (h : IsTagText cs) : cs ≠ [] := by
  cases h <;> exact List.cons_ne_nil _ _

/-- A tag names itself. -/
theorem IsTag.tag?_eq {tag : String} (h : IsTag tag) : tag? tag = some tag := by
  rw [tag?_eq_some (by rw [h.text.dropWhile_eq]; exact h.text.ne_nil), h.text.dropWhile_eq,
    String.ofList_toList, h.upper_eq]

/-- A tag names itself after a slash. -/
theorem IsTag.tag?_slash {tag : String} (h : IsTag tag) : tag? ("/" ++ tag) = some tag := by
  have hdrop : ("/" ++ tag).toList.dropWhile (· == '/') = tag.toList := by
    rw [String.toList_append]
    exact h.text.dropWhile_eq
  rw [tag?_eq_some (by rw [hdrop]; exact h.text.ne_nil), hdrop, String.ofList_toList, h.upper_eq]

theorem IsTag.exists_ofList {tag : String} (h : IsTag tag) :
    ∃ cs, tag = .ofList cs ∧ IsTagText cs :=
  ⟨tag.toList, String.ofList_toList.symm, h.text⟩

/-! ## Tokens of tags -/

theorem Lexes.of_sign {c : Char} (h : Token.isSign c = true) :
    Trails (.ofList [c]) [.symbol (.ofList [c])] := by
  have htrails := Lexes.sign h Trails.nil.lexes
  rwa [String.append_empty, String.singleton_eq_ofList] at htrails

theorem slash_lexes : Lexes "/" [.symbol "/"] :=
  Lexes.of_symbol (.of_all rfl (by decide))

/-- The first of several printed tags, after its slash. -/
theorem IsTag.lexes_slash {tag : String} (h : IsTag tag) : ∃ members : List String,
    Lexes ("/" ++ tag) (members.map .symbol) ∧ members.filterMap tag? = [tag] := by
  obtain ⟨cs, rfl, htext⟩ := h.exists_ofList
  cases htext with
  | @sign c hsign =>
    refine ⟨["/", .ofList [c]], ?_, ?_⟩
    · exact slash_lexes.append (Lexes.of_sign hsign)
    · rw [List.filterMap_cons_none (rfl : tag? "/" = none), List.filterMap_cons_some h.tag?_eq]
      rfl
  | @word c cs hc hword =>
    have hlist : ("/" ++ String.ofList (c :: cs)).toList = '/' :: c :: cs := by simp
    have hsymbol : (Token.symbol ("/" ++ String.ofList (c :: cs))).WellFormed := by
      rw [Token.WellFormed, hlist]
      exact .word (by decide) (List.forall_mem_cons.2 ⟨by decide, hword⟩)
    refine ⟨["/" ++ String.ofList (c :: cs)], Lexes.of_symbol hsymbol, ?_⟩
    rw [List.filterMap_cons_some h.tag?_slash]
    rfl

/-- The tokens of a word that begins with a digit: its digits, and what follows them. -/
theorem Token.all_digits_append {ds es : List Char} (hne : ds ≠ [])
    (hds : ∀ d ∈ ds, d.isDigit = true) (hes : ∀ d ∈ es.head?, d.isDigit = false)
    (hword : ∀ d ∈ es, Token.isDelimiter d = false) {rest : List Char} (hrest : Token.Ends rest) :
    Token.all (ds ++ es ++ rest) =
      (Token.ofDigits ds :: if es = [] then [] else [.symbol (.ofList es)]) ++ Token.all rest := by
  obtain ⟨d, ds, rfl⟩ := List.exists_cons_of_ne_nil hne
  rw [List.append_assoc]
  cases es with
  | nil =>
    rw [List.nil_append, Token.all_eq_cons (Token.read?_digits hds hrest.not_digit), if_pos rfl,
      List.singleton_append]
  | cons e es =>
    have hread : Token.read? (d :: ds ++ (e :: es ++ rest)) =
        some (Token.ofDigits (d :: ds), e :: es ++ rest) := Token.read?_digits hds hes
    rw [Token.all_eq_cons hread, if_neg (List.cons_ne_nil _ _),
      Token.all_eq_cons (Token.read?_word (hes e rfl) hword hrest)]
    rfl

theorem Token.ofDigits_eq_symbol {ds : List Char} {s : String}
    (h : Token.ofDigits ds = .symbol s) : s = .ofList ds := by
  simp only [Token.ofDigits] at h
  split at h
  · cases h
  · cases h
    rfl

theorem isTag_digits {ds : List Char} (hne : ds ≠ []) (h : ∀ d ∈ ds, d.isDigit = true) :
    IsTag (.ofList ds) := by
  obtain ⟨d, ds, rfl⟩ := List.exists_cons_of_ne_nil hne
  refine ⟨?_, ?_⟩
  · rw [String.toList_ofList]
    refine .word ?_ fun e he => Token.isDelimiter_of_isDigit (h e he)
    rintro rfl
    exact absurd (h _ List.mem_cons_self) (by decide)
  · rw [← String.toList_inj, toList_upper, String.toList_ofList, Token.upperChars_digits h]

/-- A word that begins with a digit is a run of digits and what follows it. -/
theorem exists_digits_append {c : Char} (hc : c.isDigit = true) (cs : List Char) :
    ∃ ds es, ds ++ es = c :: cs ∧ ds ≠ [] ∧ (∀ d ∈ ds, d.isDigit = true) ∧
      ∀ d ∈ es.head?, d.isDigit = false := by
  refine ⟨(c :: cs).takeWhile Char.isDigit, (c :: cs).dropWhile Char.isDigit,
    List.takeWhile_append_dropWhile, ?_, fun d hd => List.mem_takeWhile_imp hd, fun d hd => ?_⟩
  · rw [List.takeWhile_cons_of_pos hc]
    exact List.cons_ne_nil _ _
  · have hhead := List.head?_dropWhile_not Char.isDigit (c :: cs)
    rw [hd] at hhead
    exact hhead

/-- A tag is a symbol, or its first token names another tag or none. -/
theorem IsTag.lexes_cases {tag : String} (h : IsTag tag) : Lexes tag [.symbol tag] ∨
    ∃ t ts, Lexes tag (t :: ts) ∧ (∀ u ∈ t :: ts, u ≠ .lparen ∧ u ≠ .rparen) ∧
      ∀ s, t = .symbol s → ∃ other, tag? s = some other ∧ other ≠ tag := by
  obtain ⟨cs, rfl, htext⟩ := h.exists_ofList
  cases htext with
  | @sign c hsign => exact .inl (Lexes.of_sign hsign).lexes
  | @word c cs hc hword =>
    by_cases hdigit : c.isDigit = true
    -- The tag is cut after its digits, and whole only if it is a run too long for a number.
    · obtain ⟨ds, es, hsplit, hne, hds, hes⟩ := exists_digits_append hdigit cs
      have hrest : ∀ d ∈ es, Token.isDelimiter d = false := fun d hd =>
        hword d (hsplit ▸ List.mem_append_right ds hd)
      have hlexes : Lexes (.ofList (c :: cs))
          (Token.ofDigits ds :: if es = [] then [] else [.symbol (.ofList es)]) := by
        intro rest hends
        rw [String.toList_ofList, ← hsplit]
        exact Token.all_digits_append hne hds hes hrest hends
      by_cases hsymbol : Token.ofDigits ds = .symbol (.ofList (c :: cs))
      · have hlist := congrArg String.toList (Token.ofDigits_eq_symbol hsymbol)
        rw [String.toList_ofList, String.toList_ofList, ← hsplit,
          List.append_right_eq_self] at hlist
        rw [hsymbol, if_pos hlist] at hlexes
        exact .inl hlexes
      · refine .inr ⟨_, _, hlexes, ?_, fun s hs => ⟨s, ?_, ?_⟩⟩
        · simp only [Token.ofDigits]
          split <;> split <;> simp
        · rw [Token.ofDigits_eq_symbol hs]
          exact (isTag_digits hne hds).tag?_eq
        · rintro rfl
          exact hsymbol hs
    · have hsymbol : (Token.symbol (.ofList (c :: cs))).WellFormed := by
        rw [Token.WellFormed, String.toList_ofList]
        exact .word (by simpa using hdigit) hword
      exact .inl (Lexes.of_symbol hsymbol)

/-! ## Printed tags -/

/-- The tokens of printed tags. -/
def tagTokens (tags : List String) : List Token := tokens ("/" ++ spacedOut tags)

section Printed

variable {tags : List String}

theorem IsTag.lexes_tokens {tag : String} (h : IsTag tag) : Lexes tag (tokens tag) := by
  rcases h.lexes_cases with hlexes | ⟨t, ts, hlexes, -⟩ <;> rw [hlexes.tokens_eq] <;> exact hlexes

theorem IsTag.not_paren_of_mem {tag : String} (h : IsTag tag) {t : Token} (ht : t ∈ tokens tag) :
    t ≠ .lparen ∧ t ≠ .rparen := by
  rcases h.lexes_cases with hlexes | ⟨u, us, hlexes, hparen, -⟩
  · rw [hlexes.tokens_eq, List.mem_singleton] at ht
    rw [ht]
    exact ⟨nofun, nofun⟩
  · rw [hlexes.tokens_eq] at ht
    exact hparen t ht

/-- Printed tags are symbols that name the first of them, then the tokens of the others. -/
theorem lexes_tags (h : ∀ t ∈ tags, IsTag t) : ∃ members : List String,
    members.filterMap tag? = tags.take 1 ∧
      Lexes ("/" ++ spacedOut tags) (members.map .symbol ++ tags.tail.flatMap tokens) := by
  cases tags with
  | nil =>
    refine ⟨["/"], rfl, ?_⟩
    rw [spacedOut, String.intercalate_nil, String.append_empty]
    exact slash_lexes
  | cons tag tags =>
    obtain ⟨htag, htags⟩ := List.forall_mem_cons.1 h
    obtain ⟨members, hlexes, hmembers⟩ := htag.lexes_slash
    have htrails : Trails (spaceEach (tags.map id)) (tags.flatMap tokens) :=
      .spaceEach fun t ht => (htags t ht).lexes_tokens
    rw [List.map_id] at htrails
    refine ⟨members, hmembers, ?_⟩
    rw [spacedOut_cons, ← String.append_assoc]
    exact hlexes.append htrails

theorem lexes_tagTokens (h : ∀ t ∈ tags, IsTag t) :
    Lexes ("/" ++ spacedOut tags) (tagTokens tags) := by
  obtain ⟨members, -, hlexes⟩ := lexes_tags h
  rw [tagTokens, hlexes.tokens_eq]
  exact hlexes

theorem not_paren_of_mem_tagTokens (h : ∀ t ∈ tags, IsTag t) {t : Token}
    (ht : t ∈ tagTokens tags) : t ≠ .lparen ∧ t ≠ .rparen := by
  obtain ⟨members, -, hlexes⟩ := lexes_tags h
  rw [tagTokens, hlexes.tokens_eq, List.mem_append] at ht
  rcases ht with ht | ht
  · obtain ⟨s, -, rfl⟩ := List.mem_map.1 ht
    exact ⟨nofun, nofun⟩
  · obtain ⟨tag, htag, ht⟩ := List.mem_flatMap.1 ht
    exact (h tag (List.mem_of_mem_tail htag)).not_paren_of_mem ht

/-- If tags are symbols that name them again, each tag is its own symbol. -/
theorem forall_tokens_eq_of_filterMap (h : ∀ t ∈ tags, IsTag t) {members : List String}
    (htokens : tags.flatMap tokens = members.map .symbol)
    (hmembers : members.filterMap tag? = tags) : ∀ tag ∈ tags, tokens tag = [.symbol tag] := by
  induction tags generalizing members with
  | nil => exact nofun
  | cons tag tags ih =>
    obtain ⟨htag, htags⟩ := List.forall_mem_cons.1 h
    rw [List.flatMap_cons] at htokens
    rcases htag.lexes_cases with hlexes | ⟨t, ts, hlexes, -, hother⟩
    · rw [hlexes.tokens_eq, List.singleton_append] at htokens
      obtain ⟨m, members, rfl⟩ : ∃ m ms, members = m :: ms :=
        List.exists_cons_of_ne_nil (by rintro rfl; cases htokens)
      rw [List.map_cons, List.cons.injEq, Token.symbol.injEq] at htokens
      obtain ⟨rfl, htokens⟩ := htokens
      rw [List.filterMap_cons_some htag.tag?_eq] at hmembers
      exact List.forall_mem_cons.2 ⟨hlexes.tokens_eq, ih htags htokens (List.cons.inj hmembers).2⟩
    · rw [hlexes.tokens_eq, List.cons_append] at htokens
      obtain ⟨m, members, rfl⟩ : ∃ m ms, members = m :: ms :=
        List.exists_cons_of_ne_nil (by rintro rfl; cases htokens)
      rw [List.map_cons, List.cons.injEq] at htokens
      obtain ⟨other, hsome, hne⟩ := hother m htokens.1
      rw [List.filterMap_cons_some hsome] at hmembers
      exact absurd (List.cons.inj hmembers).1 hne

/-- Printed tags are read back if and only if all but the first of them are symbols in their own
right. -/
theorem exists_members_iff (h : ∀ t ∈ tags, IsTag t) :
    (∃ members : List String, tagTokens tags = members.map .symbol ∧
      members.filterMap tag? = tags) ↔ ∀ tag ∈ tags.tail, tokens tag = [.symbol tag] := by
  have htail : ∀ t ∈ tags.tail, IsTag t := fun t ht => h t (List.mem_of_mem_tail ht)
  have hsplit : tags.take 1 ++ tags.tail = tags := by
    rw [← List.drop_one, List.take_append_drop]
  obtain ⟨first, hfirst, hlexes⟩ := lexes_tags h
  rw [tagTokens, hlexes.tokens_eq]
  constructor
  · rintro ⟨members, htokens, hmembers⟩
    obtain ⟨members₁, members₂, rfl, h₁, h₂⟩ := List.map_eq_append_iff.1 htokens.symm
    have heq : members₁ = first := List.map_injective_iff.2 (fun _ _ => Token.symbol.inj) h₁
    rw [heq, List.filterMap_append, hfirst] at hmembers
    exact forall_tokens_eq_of_filterMap htail h₂.symm
      (List.append_cancel_left (hmembers.trans hsplit.symm))
  · intro htokens
    have hself : tags.tail.filterMap tag? = tags.tail := by
      rw [List.filterMap_congr fun t ht => (htail t ht).tag?_eq, List.filterMap_some]
    refine ⟨first ++ tags.tail, ?_, ?_⟩
    · rw [List.map_append, List.flatMap_congr htokens, ← List.map_eq_flatMap]
    · rw [List.filterMap_append, hfirst, hself, hsplit]

end Printed

/-- Without parentheses, tokens are symbols, or symbols up to a number. -/
theorem eq_symbols_or_exists_number {ts : List Token}
    (h : ∀ t ∈ ts, t ≠ .lparen ∧ t ≠ .rparen) :
    ts = (ts.filterMap Token.symbol?).map .symbol ∨
      ∃ (members : List String) (n : Nat) (rest : List Token),
        ts = members.map .symbol ++ .number n :: rest := by
  induction ts with
  | nil => exact .inl rfl
  | cons t ts ih =>
    obtain ⟨ht, hts⟩ := List.forall_mem_cons.1 h
    cases t with
    | lparen => exact absurd rfl ht.1
    | rparen => exact absurd rfl ht.2
    | number n => exact .inr ⟨[], n, ts, rfl⟩
    | symbol s =>
      rcases ih hts with hall | ⟨members, n, rest, heq⟩
      · refine .inl ?_
        rw [List.filterMap_cons_some (rfl : Token.symbol? (.symbol s) = some s), List.map_cons,
          ← hall]
      · exact .inr ⟨s :: members, n, rest, by rw [heq]; rfl⟩

end Colloquy

import Colloquy.Proofs.Script.Entry
import Colloquy.Proofs.Script.Reading
import Colloquy.Proofs.Script.Tags

/-!
# The tokens of printed scripts

The text of each part of a script is read as the tokens of a phrase of the same value. Keywords
are printed in upper case, so the phrase that was read is first put into canonical form.

* `Phrase.Reaction.canonical`: a response with its target in upper case.
* `Phrase.Entry.printedTokens`: the tokens of a printed rule, for given tokens of its tags.
* `Phrase.Entry.trails_text`, `Phrase.trails_memory`: the texts of rules and of the memory rule.
-/

namespace Colloquy

namespace Phrase

/-- Whether tokens can be read from a text. -/
def AllWellFormed (ts : List Token) : Prop := ∀ t ∈ ts, t.WellFormed

section

variable {t : Token} {ts us : List Token}

@[simp] theorem allWellFormed_nil : AllWellFormed [] := nofun

@[simp] theorem allWellFormed_cons :
    AllWellFormed (t :: ts) ↔ t.WellFormed ∧ AllWellFormed ts := List.forall_mem_cons

@[simp] theorem allWellFormed_append :
    AllWellFormed (ts ++ us) ↔ AllWellFormed ts ∧ AllWellFormed us := List.forall_mem_append

@[simp] theorem allWellFormed_listed : AllWellFormed (listed ts) ↔ AllWellFormed ts := by
  simp [Phrase.listed, Token.WellFormed]

theorem allWellFormed_flatMap {τ : Type} {tokens : τ → List Token} {xs : List τ} :
    AllWellFormed (xs.flatMap tokens) ↔ ∀ x ∈ xs, AllWellFormed (tokens x) :=
  List.forall_mem_flatMap

theorem AllWellFormed.listed (h : AllWellFormed (listed ts)) : AllWellFormed ts :=
  allWellFormed_listed.1 h

theorem AllWellFormed.of_flatMap {τ : Type} {tokens : τ → List Token} {xs : List τ}
    (h : AllWellFormed (xs.flatMap tokens)) {x : τ} (hx : x ∈ xs) : AllWellFormed (tokens x) :=
  allWellFormed_flatMap.1 h x hx

theorem AllWellFormed.of_append_left (h : AllWellFormed (ts ++ us)) : AllWellFormed ts :=
  (allWellFormed_append.1 h).1

theorem AllWellFormed.of_append_right (h : AllWellFormed (ts ++ us)) : AllWellFormed us :=
  (allWellFormed_append.1 h).2

end

/-! ## Words and patterns -/

theorem lexes_templateItem {x : TemplateItem} (h : x.token.WellFormed) :
    Lexes x.text [x.token] := by
  have htext : x.text = x.token.text := by cases x <;> rfl
  rw [htext]
  exact Lexes.of_token h

theorem lexes_template {template : Template}
    (h : AllWellFormed (template.map TemplateItem.token)) :
    Lexes (spacedOut (template.map TemplateItem.text)) (template.map TemplateItem.token) := by
  have hlexes := Lexes.spacedOut fun x hx =>
    lexes_templateItem (h (TemplateItem.token x) (List.mem_map_of_mem hx))
  rwa [← List.map_eq_flatMap] at hlexes

theorem lexes_element {e : Element} (h : AllWellFormed e.tokens) :
    Lexes e.value.text e.tokens := by
  cases e with
  | word s => exact Lexes.of_symbol (h _ (List.mem_singleton_self _))
  | count n => exact Lexes.of_token (t := .number n) (h _ (List.mem_singleton_self _))
  | group members =>
    have hmembers : AllWellFormed (members.map TemplateItem.token) := h.listed
    exact (lexes_template hmembers).listed.lexes

theorem lexes_pattern {pattern : List Element}
    (h : AllWellFormed (pattern.flatMap Element.tokens)) :
    Lexes (spacedOut ((pattern.map Element.value).map PatternItem.text))
      (pattern.flatMap Element.tokens) := by
  rw [List.map_map]
  exact Lexes.spacedOut fun e he => lexes_element (h.of_flatMap he)

/-! ## Responses and transformations -/

/-- A response with its target as it is printed. -/
def Reaction.canonical : Reaction → Reaction
  | .reply template plain => .reply template plain
  | .refer target => .refer (Text.upper target)
  | .recast template target => .recast template (Text.upper target)

theorem value_canonical (x : Reaction) : x.canonical.value = x.value := by
  cases x with
  | reply template plain => rfl
  | refer target => simp [Reaction.canonical, Reaction.value, Text.upper_upper]
  | recast template target => simp [Reaction.canonical, Reaction.value, Text.upper_upper]

theorem trails_reference {target : String} (h : (Token.symbol target).WellFormed) :
    Trails ("(=" ++ Text.upper target ++ ")") (reference (Text.upper target)) := by
  have hsign : Trails ("=" ++ Text.upper target) [.symbol "=", .symbol (Text.upper target)] :=
    Lexes.sign (c := '=') rfl (Lexes.of_symbol h.upper)
  have htext : "(=" ++ Text.upper target ++ ")" = "(" ++ ("=" ++ Text.upper target) ++ ")" := by
    rw [← String.append_assoc]
    rfl
  rw [htext]
  exact hsign.lexes.listed

theorem trails_reply {template : Template}
    (h : AllWellFormed (template.map TemplateItem.token)) :
    Trails (Response.ofTemplate template).text (listed (template.map TemplateItem.token)) := by
  have htrails := (lexes_template h).listed
  simp only [Response.ofTemplate]
  split
  · rename_i hpass
    subst hpass
    exact htrails
  · exact htrails

theorem trails_recast {template : Template} {target : String}
    (hpre : (Token.symbol "PRE").WellFormed)
    (htemplate : AllWellFormed (template.map TemplateItem.token))
    (htarget : (Token.symbol target).WellFormed) :
    Trails (Response.recast template (Text.upper target)).text
      (Reaction.recast template (Text.upper target)).tokens := by
  have htext : (Response.recast template (Text.upper target)).text =
      "(" ++ ("PRE" ++ (" " ++ ("(" ++ spacedOut (template.map TemplateItem.text) ++ ")")) ++
        (" " ++ ("(=" ++ Text.upper target ++ ")"))) ++ ")" := by
    have hpre : "(PRE (" = "(" ++ "PRE" ++ " " ++ "(" := rfl
    have hreference : ") (=" = ")" ++ " " ++ "(=" := rfl
    have hclose : "))" = ")" ++ ")" := rfl
    rw [Response.text, hpre, hreference, hclose]
    simp only [String.append_assoc]
  rw [htext]
  exact (((Lexes.of_symbol hpre).append
    (lexes_template htemplate).listed.lexes.space).append
      (trails_reference htarget).lexes.space).listed

theorem trails_reaction {x : Reaction} (h : AllWellFormed x.tokens) :
    Trails x.value.text x.canonical.tokens := by
  cases x with
  | reply template plain => exact trails_reply h.listed
  | refer target =>
    have hinner : AllWellFormed [.symbol "=", .symbol target] := h.listed
    exact trails_reference (hinner _ (List.mem_cons_of_mem _ List.mem_cons_self))
  | recast template target =>
    have hinner := h.listed
    have htemplate : AllWellFormed (listed (template.map TemplateItem.token)) := fun t ht =>
      hinner t (List.mem_cons_of_mem _ (List.mem_append_left _ ht))
    have htarget : AllWellFormed (reference target) := hinner.of_append_right
    exact trails_recast (hinner _ List.mem_cons_self) htemplate.listed
      (htarget.listed _ (List.mem_cons_of_mem _ List.mem_cons_self))

theorem trails_transformation {pattern : List Element} {reactions : List Reaction}
    (h : AllWellFormed (Clause.transformation pattern reactions).tokens) :
    Trails (Transformation.text ⟨pattern.map Element.value, reactions.map Reaction.value⟩)
      (Clause.transformation pattern (reactions.map Reaction.canonical)).tokens := by
  have hinner := h.listed
  have htext : Transformation.text ⟨pattern.map Element.value, reactions.map Reaction.value⟩ =
      "(" ++ (("(" ++ spacedOut ((pattern.map Element.value).map PatternItem.text) ++ ")") ++
        spaceEach ((reactions.map Reaction.value).map Response.text)) ++ ")" := by
    have hopen : "((" = "(" ++ "(" := rfl
    rw [Transformation.text, hopen]
    simp only [String.append_assoc]
  have hreactions : Trails (spaceEach ((reactions.map Reaction.value).map Response.text))
      ((reactions.map Reaction.canonical).flatMap Reaction.tokens) := by
    rw [List.map_map, List.flatMap_map]
    exact .spaceEach fun x hx => (trails_reaction (hinner.of_append_right.of_flatMap hx)).lexes
  rw [htext]
  exact ((lexes_pattern hinner.of_append_left.listed).listed.append hreactions).lexes.listed

/-! ## Rules -/

namespace Entry

variable {e : Entry}

/-- The parts of a printed rule before its tags. -/
def front (e : Entry) : List Clause :=
  (e.value.substitute.map Clause.substitute).toList ++
    if e.value.precedence = 0 then [] else [.precedence e.value.precedence]

/-- The parts of a printed rule after its tags. -/
def back (e : Entry) : List Clause :=
  e.transformations.map (fun t => .transformation t.1 (t.2.map Reaction.canonical)) ++
    (e.value.link.map Clause.link).toList

/-- The tokens of the tags of a printed rule, of which there need not be any. -/
def middle (e : Entry) : List Token :=
  if e.value.tags = [] then [] else .symbol "DLIST" :: listed (tagTokens e.value.tags)

/-- The tokens of a printed rule. -/
def printedTokens (e : Entry) : List Token :=
  listed (.symbol e.spelling ::
    (e.front.flatMap Clause.tokens ++ (e.middle ++ e.back.flatMap Clause.tokens)))

theorem wellFormed_of_mem (h : AllWellFormed e.tokens) {c : Clause} (hc : c ∈ e.clauses) :
    AllWellFormed c.tokens := fun t ht =>
  h.listed t (List.mem_cons_of_mem _ (List.mem_flatMap.2 ⟨c, hc, ht⟩))

/-- The last part of a kind, of which `whole` makes a part of the rule again. -/
theorem wellFormed_of_getLast? (h : AllWellFormed e.tokens) {α : Type} {part? : Clause → Option α}
    {whole : α → Clause} (hwhole : ∀ {c a}, part? c = some a ↔ c = whole a) {a : α}
    (hlast : (e.clauses.filterMap part?).getLast? = some a) : AllWellFormed (whole a).tokens := by
  obtain ⟨c, hc, hpart⟩ := List.mem_filterMap.1 (List.mem_of_getLast? hlast)
  obtain rfl := hwhole.1 hpart
  exact wellFormed_of_mem h hc

theorem wellFormed_substitute (h : AllWellFormed e.tokens) {word : String}
    (hword : e.value.substitute = some word) :
    (Token.symbol word).WellFormed ∧ Text.upper word = word := by
  rw [value_eq] at hword
  obtain ⟨spelled, hlast, rfl⟩ := Option.map_eq_some_iff.1 hword
  have hpart := wellFormed_of_getLast? h Clause.substitute?_eq_some_iff hlast
  have hsymbol : (Token.symbol spelled).WellFormed :=
    hpart _ (List.mem_cons_of_mem _ List.mem_cons_self)
  exact ⟨hsymbol.upper, Text.upper_upper spelled⟩

theorem wellFormed_precedence (h : AllWellFormed e.tokens) (hne : e.value.precedence ≠ 0) :
    (Token.number e.value.precedence).WellFormed := by
  rw [value_eq] at hne ⊢
  cases hlast : (e.clauses.filterMap Clause.precedence?).getLast? with
  | none =>
    rw [hlast] at hne
    exact absurd rfl hne
  | some n =>
    exact wellFormed_of_getLast? h Clause.precedence?_eq_some_iff hlast _ List.mem_cons_self

theorem wellFormed_link (h : AllWellFormed e.tokens) {target : String}
    (htarget : e.value.link = some target) : ∃ spelled : String,
      (Token.symbol spelled).WellFormed ∧ Text.upper spelled = target := by
  rw [value_eq] at htarget
  obtain ⟨spelled, hlast, rfl⟩ := Option.map_eq_some_iff.1 htarget
  have hpart : AllWellFormed (reference spelled) :=
    wellFormed_of_getLast? h Clause.link?_eq_some_iff hlast
  exact ⟨spelled, hpart.listed _ (List.mem_cons_of_mem _ List.mem_cons_self), rfl⟩

theorem isTag_of_mem (h : AllWellFormed e.tokens) {tag : String} (htag : tag ∈ e.value.tags) :
    IsTag tag := by
  rw [value_eq] at htag
  obtain ⟨member, hmember, htag⟩ := List.mem_filterMap.1 htag
  cases hlast : (e.clauses.filterMap Clause.tags?).getLast? with
  | none =>
    rw [hlast] at hmember
    cases hmember
  | some members =>
    rw [hlast, Option.getD_some] at hmember
    have hpart := wellFormed_of_getLast? h Clause.tags?_eq_some_iff hlast
    have htokens : AllWellFormed (listed (members.map Token.symbol)) := fun t ht =>
      hpart t (List.mem_cons_of_mem _ ht)
    exact isTag_of_tag? (htokens.listed _ (List.mem_map_of_mem hmember)) htag

theorem wellFormed_transformation (h : AllWellFormed e.tokens)
    {t : List Element × List Reaction} (ht : t ∈ e.transformations) :
    AllWellFormed (Clause.transformation t.1 t.2).tokens :=
  wellFormed_of_mem h (mem_transformations.1 ht)

theorem trails_substituteText (h : AllWellFormed e.tokens) : Trails e.value.substituteText
    ((e.value.substitute.map Clause.substitute).toList.flatMap Clause.tokens) := by
  rw [Rule.substituteText]
  cases hword : e.value.substitute with
  | none => exact Trails.nil
  | some word =>
    have hlexes := Lexes.of_symbol (wellFormed_substitute h hword).1
    have htrails : Trails ("=" ++ (" " ++ word)) [.symbol "=", .symbol word] :=
      Lexes.sign (c := '=') rfl hlexes.space.lexes
    have htext : " = " ++ word = " " ++ ("=" ++ (" " ++ word)) := by
      rw [← String.append_assoc, ← String.append_assoc]
      rfl
    show Trails (" = " ++ word) _
    rw [htext]
    exact htrails.lexes.space

theorem trails_precedenceText (h : AllWellFormed e.tokens) : Trails e.value.precedenceText
    ((if e.value.precedence = 0 then [] else [Clause.precedence e.value.precedence]).flatMap
      Clause.tokens) := by
  rw [Rule.precedenceText]
  split
  · exact Trails.nil
  · rename_i hne
    exact (Lexes.of_token (wellFormed_precedence h hne)).space

theorem trails_tagsText (h : AllWellFormed e.tokens) : Trails e.value.tagsText e.middle := by
  simp only [Rule.tagsText, middle, List.isEmpty_iff]
  split
  · exact Trails.nil
  · have htags := lexes_tagTokens fun t ht => isTag_of_mem h ht
    have hdlist : Lexes "DLIST" [.symbol "DLIST"] := Lexes.of_symbol (.of_all rfl (by decide))
    have htext : " DLIST(/" ++ spacedOut e.value.tags ++ ")" =
        " " ++ ("DLIST" ++ ("(" ++ ("/" ++ spacedOut e.value.tags) ++ ")")) := by
      have hopen : " DLIST(/" = " " ++ "DLIST" ++ "(" ++ "/" := rfl
      rw [hopen]
      simp only [String.append_assoc]
    rw [htext]
    exact (hdlist.append htags.listed).space

theorem trails_transformations (h : AllWellFormed e.tokens) :
    Trails (spaceEach (e.value.transformations.map Transformation.text))
      ((e.transformations.map fun t =>
        Clause.transformation t.1 (t.2.map Reaction.canonical)).flatMap Clause.tokens) := by
  rw [value_eq, List.map_map, List.flatMap_map]
  exact .spaceEach fun t ht => (trails_transformation (wellFormed_transformation h ht)).lexes

theorem trails_linkText (h : AllWellFormed e.tokens) : Trails e.value.linkText
    ((e.value.link.map Clause.link).toList.flatMap Clause.tokens) := by
  rw [Rule.linkText]
  cases htarget : e.value.link with
  | none => exact Trails.nil
  | some target =>
    obtain ⟨spelled, hspelled, rfl⟩ := wellFormed_link h htarget
    have htext : " (=" ++ Text.upper spelled ++ ")" =
        " " ++ ("(=" ++ Text.upper spelled ++ ")") := by
      rw [← String.append_assoc, ← String.append_assoc]
      rfl
    show Trails (" (=" ++ Text.upper spelled ++ ")") _
    rw [htext]
    exact (trails_reference hspelled).lexes.space

/-- The text of a rule is read as its printed tokens. -/
theorem trails_text (h : AllWellFormed e.tokens) : Trails e.value.text e.printedTokens := by
  have hspelling : Lexes e.value.spelling [.symbol e.spelling] := by
    rw [value_eq]
    exact Lexes.of_symbol (h.listed _ List.mem_cons_self)
  have htrails := ((((hspelling.append (trails_substituteText h)).append
    (trails_precedenceText h)).append (trails_tagsText h)).append
      (trails_transformations h)).append (trails_linkText h)
  have htext : e.value.text = "(" ++ (e.value.spelling ++ e.value.substituteText ++
      e.value.precedenceText ++ e.value.tagsText ++
      spaceEach (e.value.transformations.map Transformation.text) ++ e.value.linkText) ++ ")" := by
    simp only [Rule.text, String.append_assoc]
  have htokens : e.printedTokens = listed ([.symbol e.spelling] ++
      (e.value.substitute.map Clause.substitute).toList.flatMap Clause.tokens ++
      (if e.value.precedence = 0 then [] else [Clause.precedence e.value.precedence]).flatMap
        Clause.tokens ++ e.middle ++ (e.transformations.map fun t =>
          Clause.transformation t.1 (t.2.map Reaction.canonical)).flatMap Clause.tokens ++
      (e.value.link.map Clause.link).toList.flatMap Clause.tokens) := by
    simp only [printedTokens, front, back, List.flatMap_append, List.append_assoc,
      List.cons_append, List.nil_append]
  rw [htext, htokens]
  exact htrails.listed

end Entry

/-! ## The memory rule -/

theorem trails_memo {m : Memo} (h : AllWellFormed m.tokens) : Trails m.value.text m.tokens := by
  have hinner := h.listed
  have hpattern : Lexes (spacedOut (m.value.pattern.map PatternItem.text))
      (m.pattern.flatMap (·.val.tokens)) := by
    rw [Memo.value, List.map_map]
    exact Lexes.spacedOut fun e he => lexes_element (hinner.of_append_left.of_flatMap he)
  have htemplate : Lexes (spacedOut (m.template.map TemplateItem.text))
      (m.template.map TemplateItem.token) :=
    lexes_template fun t ht => hinner.of_append_right t (List.mem_cons_of_mem _ ht)
  have hsign : Trails ("=" ++ (" " ++ spacedOut (m.template.map TemplateItem.text)))
      (.symbol "=" :: m.template.map TemplateItem.token) :=
    Lexes.sign (c := '=') rfl htemplate.space.lexes
  have htext : m.value.text = "(" ++ (spacedOut (m.value.pattern.map PatternItem.text) ++
      (" " ++ ("=" ++ (" " ++ spacedOut (m.template.map TemplateItem.text))))) ++ ")" := by
    have hequals : " = " = " " ++ "=" ++ " " := rfl
    rw [Recollection.text, hequals]
    simp only [Memo.value, String.append_assoc]
  rw [htext]
  exact (hpattern.append hsign.lexes.space).listed

theorem fields_of_memoryRule {trigger : String} {memos : List Memo} {memory : MemoryRule}
    (h : memoryRule trigger memos = .ok memory) : memory.trigger = Text.upper trigger ∧
      memory.recollections.toList = memos.map Memo.value := by
  simp only [memoryRule, MemoryRule.of] at h
  split at h
  · cases h
    exact ⟨rfl, rfl⟩
  · cases h

/-- The text of the memory rule is read as a memory rule with its trigger in upper case. -/
theorem trails_memory {trigger : String} {memos : List Memo} {memory : MemoryRule}
    (h : AllWellFormed (Item.memory trigger memos).tokens)
    (hmemory : memoryRule trigger memos = .ok memory) :
    Trails memory.text (Item.memory (Text.upper trigger) memos).tokens := by
  have hinner := h.listed
  obtain ⟨htrigger, hrecollections⟩ := fields_of_memoryRule hmemory
  have hname : Lexes "MEMORY" [.symbol "MEMORY"] := Lexes.of_symbol (hinner _ List.mem_cons_self)
  have hsymbol : (Token.symbol trigger).WellFormed :=
    hinner _ (List.mem_cons_of_mem _ List.mem_cons_self)
  have hmemos : Trails (spaceEach (memory.recollections.toList.map Recollection.text))
      (memos.flatMap Memo.tokens) := by
    rw [hrecollections, List.map_map]
    refine .spaceEach fun m hm => (trails_memo fun t ht => ?_).lexes
    exact hinner t (List.mem_cons_of_mem _ (List.mem_cons_of_mem _
      (List.mem_flatMap.2 ⟨m, hm, ht⟩)))
  have htext : memory.text = "(" ++ ("MEMORY" ++ (" " ++ Text.upper trigger) ++
      spaceEach (memory.recollections.toList.map Recollection.text)) ++ ")" := by
    have hopen : "(MEMORY " = "(" ++ "MEMORY" ++ " " := rfl
    rw [MemoryRule.text, hopen, htrigger]
    simp only [String.append_assoc]
  rw [htext]
  exact ((hname.append (Lexes.of_symbol hsymbol.upper).space).append hmemos).listed

end Phrase

end Colloquy

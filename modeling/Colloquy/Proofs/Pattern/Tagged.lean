import Colloquy.Proofs.Pattern.WordClass
import Colloquy.Proofs.Rulebook

/-!
# Classes of tags

A class such as `(/FAMILY)` names tags, and a rule lists the tags that its keyword carries. What
a rule lists is put into upper case where it is read, and what a class names is not. So a class
admits the keywords of the rules that list one of its names in any case, but of its names only
those that are written in upper case count.

* `Phrase.Entry.Lists`: whether a rule lists a tag, letter case ignored.
* `Rulebook.carries_iff`: the tags that a word carries in terms of what is written.
* `WordClass.ofText_tagged`: the names in a class, with the slash attached or detached.
* `Rulebook.captures?_tagged_iff`: what a class of tags captures.
-/

namespace Colloquy

open Text Phrase

/-! ## Tags as they are written -/

namespace Phrase

/-- What is left of a member of a list of tags without its slashes. -/
def dropSlashes (member : String) : String := .ofList (member.toList.dropWhile (· == '/'))

theorem tag?_eq_some_iff {member tag : String} :
    tag? member = some tag ↔ dropSlashes member ≠ "" ∧ upper (dropSlashes member) = tag := by
  rw [tag?, dropSlashes]
  split <;> simp_all

namespace Entry

variable {e : Entry}

/-- The names of the tags of a rule as they are written. Of several lists only the last one
counts. -/
def tagNames (e : Entry) : List String :=
  ((e.clauses.filterMap Clause.tags?).getLast?.getD []).map dropSlashes

/-- Whether a rule lists a tag, letter case ignored. -/
def Lists (e : Entry) (name : String) : Prop := ∃ written ∈ e.tagNames, upper written = upper name

theorem mem_tags_value {tag : String} :
    tag ∈ e.value.tags ↔ ∃ name ∈ e.tagNames, name ≠ "" ∧ upper name = tag := by
  rw [value_eq, List.mem_filterMap]
  simp only [tagNames, List.mem_map, exists_exists_and_eq_and, tag?_eq_some_iff]

/-- A rule has a tag if the tag is in upper case and the rule lists it in any case. -/
theorem mem_tags_value_iff {name : String} (hne : name ≠ "") :
    name ∈ e.value.tags ↔ upper name = name ∧ e.Lists name := by
  rw [mem_tags_value]
  constructor
  · rintro ⟨written, hmem, -, rfl⟩
    exact ⟨upper_upper written, written, hmem, (upper_upper written).symm⟩
  · rintro ⟨hupper, written, hmem, heq⟩
    refine ⟨written, hmem, ?_, heq.trans hupper⟩
    rintro rfl
    exact hne (hupper.symm.trans heq.symm)

end Entry

end Phrase

namespace Rulebook

/-- A word carries a tag if it is the keyword of a rule that lists the tag, and the tag is in
upper case. -/
theorem carries_iff {o : Outline} {script : Script} (h : o.script = .ok script) {name : String}
    (hne : name ≠ "") {word : String} : (ofScript script).carries name word = true ↔
      upper name = name ∧ ∃ e ∈ Item.entries o.items, e.keyword = word ∧
        e.keyword ≠ RuleName.fallbackSpelling ∧ e.Lists name := by
  obtain ⟨-, hfinish⟩ := Outline.script_eq_ok_iff.1 h
  obtain ⟨hrules, -⟩ := Draft.finish_eq_ok_iff.1 hfinish
  have hname {e : Entry} : e.value.name = .keyword word ↔
      e.keyword = word ∧ e.keyword ≠ RuleName.fallbackSpelling := by
    rw [← Entry.word?_name_value]
    cases e.value.name <;> simp [RuleName.word?]
  rw [carries_ofScript]
  constructor
  · rintro ⟨rule, hrule, hword, htag⟩
    obtain ⟨e, he, rfl, -⟩ := (Draft.Admissible.mem_rules_iff hrules).1 hrule
    obtain ⟨hupper, hlists⟩ := (Entry.mem_tags_value_iff hne).1 htag
    obtain ⟨hkeyword, hfallback⟩ := hname.1 hword
    exact ⟨hupper, e, he, hkeyword, hfallback, hlists⟩
  · rintro ⟨hupper, e, he, hkeyword, hfallback, hlists⟩
    have hword := hname.2 ⟨hkeyword, hfallback⟩
    refine ⟨e.value, (Draft.Admissible.mem_rules_iff hrules).2 ⟨e, he, rfl, ?_⟩, hword,
      (Entry.mem_tags_value_iff hne).2 ⟨hupper, hlists⟩⟩
    simp [hword]

end Rulebook

/-! ## Classes -/

/-- Whether a class names these tags: its slash is attached to the first of them or detached. -/
def NamesTags (members : Template) (names : List String) : Prop :=
  (∃ name rest, names = name :: rest ∧ name ≠ "" ∧
    members.map TemplateItem.text = ("/" ++ name) :: rest) ∨
  members.map TemplateItem.text = "/" :: names

namespace WordClass

variable {members : Template} {names : List String}

theorem ofText_slash {written rest : String}
    (h : withoutParens written.toList = ("/" ++ rest).toList) :
    ofText written = .tagged (fields rest) := by
  have htrim : trimStart ("/" ++ rest).toList = '/' :: rest.toList := by
    rw [String.toList_append]
    exact List.dropWhile_cons_of_neg (by decide)
  rw [ofText, h, htrim]
  simp

theorem isRun_of_names (hmembers : AllWellFormed (members.map TemplateItem.token))
    (hnames : NamesTags members names) : ∀ name ∈ names, IsRun name := by
  have hrun := isRun_of_mem_template hmembers
  rcases hnames with ⟨name, rest, rfl, hne, heq⟩ | heq
  · rw [heq, List.forall_mem_cons] at hrun
    refine List.forall_mem_cons.2 ⟨⟨hne, fun c hc => hrun.1.2 c ?_⟩, hrun.2⟩
    rw [String.toList_append]
    exact List.mem_append_right _ hc
  · rw [heq, List.forall_mem_cons] at hrun
    exact hrun.2

/-- What follows the slash of a class of tags are its names. -/
theorem exists_fields_eq_of_names (hmembers : AllWellFormed (members.map TemplateItem.token))
    (hnames : NamesTags members names) : ∃ rest,
      " ".intercalate (members.map TemplateItem.text) = "/" ++ rest ∧ fields rest = names := by
  have hfields := fields_intercalate_of_isRun (isRun_of_names hmembers hnames)
  rcases hnames with ⟨name, rest, rfl, -, heq⟩ | heq
  · refine ⟨" ".intercalate (name :: rest), ?_, hfields⟩
    rw [heq]
    cases rest <;> simp [String.intercalate_cons_cons, String.append_assoc]
  · rw [heq]
    by_cases hnil : names = []
    · exact ⟨"", by rw [hnil]; rfl, by rw [hnil]; rfl⟩
    · refine ⟨" " ++ " ".intercalate names, ?_, ?_⟩
      · rw [String.intercalate_cons_of_ne_nil hnil, String.append_assoc]
      · rw [fields, String.toList_append]
        exact (congrArg _ (fieldsOf_cons_blank (c := ' ') rfl _)).trans hfields

/-- The names in a class of tags are found again in its text. -/
theorem ofText_tagged (hmembers : AllWellFormed (members.map TemplateItem.token))
    (hnames : NamesTags members names) :
    ofText (groupText (members.map TemplateItem.text)) = .tagged names := by
  obtain ⟨rest, htext, hrest⟩ := exists_fields_eq_of_names hmembers hnames
  rw [ofText_slash (by rw [withoutParens_groupText, htext]), hrest]

end WordClass

/-- A class of tags captures the keywords of the rules that list one of its names, letter case
ignored, but of its names only those count that are in upper case. -/
theorem Rulebook.captures?_tagged_iff {text : String} {script : Script}
    (h : Script.read text = .ok script) {o : Outline} (ho : o.tokens = tokens text)
    {members : Template} (hmembers : AllWellFormed (members.map TemplateItem.token))
    {names : List String} (hnames : NamesTags members names) (word : String) :
    Pattern.captures? (ofScript script).carries [(Element.group members).value] [word] =
        some [word] ↔
      ∃ name ∈ names, upper name = name ∧ ∃ e ∈ Item.entries o.items,
        e.keyword = word ∧ e.keyword ≠ RuleName.fallbackSpelling ∧ e.Lists name := by
  have hscript : o.script = .ok script := by
    rwa [Script.read, ← ho, Script.ofTokens_tokens] at h
  rw [Element.value, Pattern.captures?_group, WordClass.ofText_tagged hmembers hnames]
  simp only [WordClass.admits, ite_eq_left_iff, reduceCtorEq, imp_false, not_not, List.any_eq_true]
  refine exists_congr fun name => and_congr_right fun hname => ?_
  exact carries_iff hscript (WordClass.isRun_of_names hmembers hnames name hname).1

/-- A script with a tag and a class of it that are both written in lower case. -/
def smallTagText : String :=
  "(HI) (MOTHER DLIST(/family)) (MY ((0 (/family) 0) (FAMILY))) (NONE ((0) (SO))) " ++
    "(MEMORY M (0 = A) (0 = B) (0 = C) (0 = D))"

def smallTagScript : Script where
  greeting := ["HI"]
  rules :=
    [{ spelling := "MOTHER", tags := ["FAMILY"] },
     { spelling := "MY"
       transformations := [⟨[.count 0, .group "(/family)", .count 0], [.reply [.word "FAMILY"]]⟩] }]
  fallback := { spelling := "NONE", transformations := [⟨[.count 0], [.reply [.word "SO"]]⟩] }
  memory := .letters "M"

def motherEntry : Entry := ⟨"MOTHER", by decide, [.tags ["/family"]]⟩

def smallTagOutline : Outline where
  greeting := [.word "HI"]
  started := false
  items :=
    [.rule motherEntry,
     .rule ⟨"MY", by decide, [.transformation [.count 0, .group [.word "/family"], .count 0]
       [.reply [.word "FAMILY"] ⟨by decide, by decide⟩]]⟩,
     .so, .letters "M"]

/-- The keyword carries the tag. The class does not capture it, as its name is in lower case; a
class with the name in upper case, here behind a detached slash, would capture it. -/
theorem captures?_of_smallTagScript : Script.read smallTagText = .ok smallTagScript ∧
    smallTagOutline.tokens = tokens smallTagText ∧
    (motherEntry ∈ Item.entries smallTagOutline.items ∧ motherEntry.keyword = "MOTHER" ∧
      motherEntry.keyword ≠ RuleName.fallbackSpelling ∧ motherEntry.Lists "family") ∧
    Pattern.captures? (Rulebook.ofScript smallTagScript).carries
      [(Element.group [.word "/family"]).value] ["MOTHER"] ≠ some ["MOTHER"] ∧
    Pattern.captures? (Rulebook.ofScript smallTagScript).carries
      [(Element.group [.word "/", .word "FAMILY"]).value] ["MOTHER"] = some ["MOTHER"] := by
  have h : Script.read smallTagText = .ok smallTagScript := by decide +kernel
  have ho : smallTagOutline.tokens = tokens smallTagText := by decide +kernel
  have hmem : motherEntry ∈ Item.entries smallTagOutline.items := List.mem_cons_self
  have hkeyword : motherEntry.keyword = "MOTHER" := by decide +kernel
  have hfallback : motherEntry.keyword ≠ RuleName.fallbackSpelling := by decide +kernel
  have hlists : motherEntry.Lists "family" := ⟨"family", by decide +kernel, rfl⟩
  refine ⟨h, ho, ⟨hmem, hkeyword, hfallback, hlists⟩, ?_, ?_⟩
  · have hmembers : AllWellFormed (([.word "/family"] : Template).map TemplateItem.token) :=
      allWellFormed_cons.2 ⟨.of_all rfl (by decide), allWellFormed_nil⟩
    have hnames : NamesTags [.word "/family"] ["family"] :=
      .inl ⟨"family", [], rfl, by decide, rfl⟩
    intro hcaptures
    obtain ⟨name, hname, hupper, -⟩ :=
      (Rulebook.captures?_tagged_iff h ho hmembers hnames "MOTHER").1 hcaptures
    obtain rfl := List.mem_singleton.1 hname
    exact absurd hupper (by decide +kernel)
  · have hmembers : AllWellFormed
        (([.word "/", .word "FAMILY"] : Template).map TemplateItem.token) :=
      allWellFormed_cons.2 ⟨.of_all rfl (by decide),
        allWellFormed_cons.2 ⟨.of_all rfl (by decide), allWellFormed_nil⟩⟩
    have hnames : NamesTags [.word "/", .word "FAMILY"] ["FAMILY"] := .inr rfl
    refine (Rulebook.captures?_tagged_iff h ho hmembers hnames "MOTHER").2 ?_
    exact ⟨"FAMILY", List.mem_singleton_self _, by decide +kernel, motherEntry, hmem, hkeyword,
      hfallback, "family", by decide +kernel, by decide +kernel⟩

end Colloquy

import Colloquy.Script.Basic

/-!
# Writing scripts

Scripts and all their parts in the notation that `Script.read` reads. Parts of a list are set
apart by single spaces; a precedence of 0 and an empty list of tags are left out.
-/

namespace Colloquy

/-- Texts set apart by single spaces. -/
def spacedOut (texts : List String) : String := " ".intercalate texts

/-- Texts that each follow a single space. -/
def spaceEach (texts : List String) : String := String.join (texts.map (" " ++ ·))

namespace PatternItem

/-- An element of a pattern in script notation. -/
def text : PatternItem → String
  | word w => w
  | count n => n.repr
  | group written => written

end PatternItem

namespace TemplateItem

/-- An element of a template in script notation. -/
def text : TemplateItem → String
  | word w => w
  | slot k => k.repr

end TemplateItem

namespace Response

/-- A response in script notation. -/
def text : Response → String
  | reply template => "(" ++ spacedOut (template.map TemplateItem.text) ++ ")"
  | refer keyword => "(=" ++ keyword ++ ")"
  | recast template keyword =>
    "(PRE (" ++ spacedOut (template.map TemplateItem.text) ++ ") (=" ++ keyword ++ "))"
  | pass => "(NEWKEY)"

end Response

namespace Transformation

/-- A transformation in script notation. -/
def text (t : Transformation) : String :=
  "((" ++ spacedOut (t.pattern.map PatternItem.text) ++ ")" ++
    spaceEach (t.responses.map Response.text) ++ ")"

end Transformation

namespace Rule

/-- The substitute of a rule in script notation. -/
def substituteText (rule : Rule) : String :=
  match rule.substitute with
  | some word => " = " ++ word
  | none => ""

/-- The precedence of a rule in script notation. -/
def precedenceText (rule : Rule) : String :=
  if rule.precedence = 0 then "" else " " ++ rule.precedence.repr

/-- The tags of a rule in script notation: one slash, before the first of them. -/
def tagsText (rule : Rule) : String :=
  if rule.tags.isEmpty then "" else " DLIST(/" ++ spacedOut rule.tags ++ ")"

/-- The link of a rule in script notation. -/
def linkText (rule : Rule) : String :=
  match rule.link with
  | some keyword => " (=" ++ keyword ++ ")"
  | none => ""

/-- A rule in script notation. -/
def text (rule : Rule) : String :=
  "(" ++ rule.spelling ++ rule.substituteText ++ rule.precedenceText ++ rule.tagsText ++
    spaceEach (rule.transformations.map Transformation.text) ++ rule.linkText ++ ")"

end Rule

namespace Recollection

/-- A recollection in script notation. -/
def text (r : Recollection) : String :=
  "(" ++ spacedOut (r.pattern.map PatternItem.text) ++ " = " ++
    spacedOut (r.template.map TemplateItem.text) ++ ")"

end Recollection

namespace MemoryRule

/-- The memory rule in script notation. -/
def text (memory : MemoryRule) : String :=
  "(MEMORY " ++ memory.trigger ++ spaceEach (memory.recollections.toList.map Recollection.text) ++
    ")"

end MemoryRule

namespace Script

/-- A script in its notation, a line for each list: the keyword rules in the order of their
declaration, then the fallback rule, the memory rule and the empty list that ends it. -/
def text (script : Script) : String :=
  "(" ++ spacedOut script.greeting ++ ")\nSTART\n" ++
    String.join (script.rules.map (·.text ++ "\n")) ++ script.fallback.text ++ "\n" ++
    script.memory.text ++ "\n()"

end Script

end Colloquy

import Colloquy.Script.Basic
import Mathlib

/-!
# The graph of redirects

The rules of a script are the nodes of a graph, with an edge from a rule to each keyword that it
refers to. The work on a stack of keywords takes a route through this graph: from the first
keyword along edges, and from a rule that can pass on to the next keyword on the stack.

* `Script.Leads`, `Script.Acyclic`: the edges, and graphs without cycles.
* `Script.Route`, `Script.longestRoute`: the routes from a stack, and the length of the longest.
* `Script.Acyclic.exists_rank`: the nodes of a graph without cycles can be ranked.
* `Script.Route.le_longestRoute`: in a graph without cycles there is a longest route.
* `Script.Route.exists_path`, `Script.longestRoute_le_of_paths`: a route that stays with one
  keyword is a path.
-/

namespace Colloquy.Script

variable (script : Script)

/-! ## Edges -/

/-- Whether the rule of a name refers to another name. -/
def Leads (name name' : RuleName) : Prop :=
  ∃ rule ∈ script.rules ++ [script.fallback], rule.name = name ∧
    ∃ keyword ∈ rule.references, RuleName.keyword keyword = name'

/-- Whether the rule of a name can leave the reply to the next keyword. -/
def Passes (name : RuleName) : Prop :=
  ∃ rule ∈ script.rules ++ [script.fallback], rule.name = name ∧
    ∃ t ∈ rule.transformations, Response.pass ∈ t.responses

/-- Whether no rule leads back to itself. -/
def Acyclic : Prop := ∀ name, ¬Relation.TransGen script.Leads name name

/-! ## Routes -/

/-- The numbers of redirects that a route can follow from a stack of keywords. -/
inductive Route : List String → Nat → Prop
  | stop (stack : List String) : Route stack 0
  | redirect {keyword target : String} {stack : List String} {n : Nat}
      (hleads : script.Leads (.keyword keyword) (.keyword target))
      (rest : Route (target :: stack) n) : Route (keyword :: stack) (n + 1)
  | pass {keyword : String} {stack : List String} {n : Nat}
      (hpasses : script.Passes (.keyword keyword)) (rest : Route stack n) :
      Route (keyword :: stack) n

/-- The number of redirects of the longest route from a stack of keywords, if there is one. -/
noncomputable def longestRoute (stack : List String) : Nat := sSup {n | script.Route stack n}

variable {script}

/-! ## Ranks -/

/-- Without cycles, the names that can be reached from a name are more than those that can be
reached from where it leads. -/
theorem Acyclic.exists_rank (h : script.Acyclic) :
    ∃ rank : RuleName → Nat, ∀ name name', script.Leads name name' → rank name' < rank name := by
  classical
  let targets := ((script.rules ++ [script.fallback]).flatMap fun rule =>
    rule.references.map RuleName.keyword).toFinset
  refine ⟨fun name => (targets.filter (Relation.TransGen script.Leads name)).card,
    fun name name' hleads => Finset.card_lt_card ⟨fun target htarget => ?_, fun hsubset => ?_⟩⟩
  · obtain ⟨hmem, hreaches⟩ := Finset.mem_filter.1 htarget
    exact Finset.mem_filter.2 ⟨hmem, hreaches.head hleads⟩
  · have hmem : name' ∈ targets := by
      obtain ⟨rule, hrule, -, keyword, hkeyword, hname⟩ := hleads
      rw [← hname, List.mem_toFinset]
      exact List.mem_flatMap.2 ⟨rule, hrule, List.mem_map_of_mem hkeyword⟩
    have hreaches := Finset.mem_filter.2 ⟨hmem, Relation.TransGen.single hleads⟩
    exact h name' (Finset.mem_filter.1 (hsubset hreaches)).2

section Rank

variable {rank : RuleName → Nat}

/-- Whether ranks fall along edges, as a property of the rules. -/
theorem lt_of_leads (h : ∀ rule ∈ script.rules ++ [script.fallback],
      ∀ keyword ∈ rule.references, rank (.keyword keyword) < rank rule.name)
    (name name' : RuleName) (hleads : script.Leads name name') : rank name' < rank name := by
  obtain ⟨rule, hrule, rfl, keyword, hkeyword, rfl⟩ := hleads
  exact h rule hrule keyword hkeyword

variable (h : ∀ name name', script.Leads name name' → rank name' < rank name)

include h

theorem acyclic_of_rank : script.Acyclic := by
  have hlt {name name' : RuleName} (hreaches : Relation.TransGen script.Leads name name') :
      rank name' < rank name := by
    induction hreaches with
    | single hleads => exact h _ _ hleads
    | tail hreaches hleads ih => exact (h _ _ hleads).trans ih
  exact fun name hcycle => Nat.lt_irrefl _ (hlt hcycle)

/-- A path has no more edges than the rank of its start. -/
theorem length_le_rank {name : RuleName} {path : List RuleName}
    (hpath : (name :: path).IsChain script.Leads) : path.length ≤ rank name := by
  induction path generalizing name with
  | nil => exact Nat.zero_le _
  | cons name' path ih =>
    obtain ⟨hleads, hrest⟩ := List.isChain_cons_cons.1 hpath
    exact Nat.lt_of_le_of_lt (ih hrest) (h _ _ hleads)

/-- A route has no more redirects than the ranks of the keywords on the stack allow. -/
theorem Route.le_sum {stack : List String} {n : Nat} (hroute : script.Route stack n) :
    n ≤ (stack.map fun keyword => rank (.keyword keyword)).sum := by
  induction hroute with
  | stop stack => exact Nat.zero_le _
  | redirect hleads rest ih =>
    have hlt := h _ _ hleads
    simp only [List.map_cons, List.sum_cons] at ih ⊢
    omega
  | pass hpasses rest ih =>
    rw [List.map_cons, List.sum_cons]
    exact Nat.le_add_left_of_le ih

theorem longestRoute_le_sum (stack : List String) :
    script.longestRoute stack ≤ (stack.map fun keyword => rank (.keyword keyword)).sum :=
  csSup_le' fun _ hroute => hroute.le_sum h

end Rank

/-- In a graph without cycles no route is longer than the longest. -/
theorem Route.le_longestRoute (h : script.Acyclic) {stack : List String} {n : Nat}
    (hroute : script.Route stack n) : n ≤ script.longestRoute stack := by
  obtain ⟨rank, hrank⟩ := h.exists_rank
  exact le_csSup ⟨_, fun _ hroute => hroute.le_sum hrank⟩ hroute

/-! ## Paths -/

/-- A route that cannot go on with a second keyword of the stack follows a path. -/
theorem Route.exists_path {keyword : String} {stack : List String} {n : Nat}
    (hroute : script.Route (keyword :: stack) n)
    (h : stack = [] ∨ ∀ name, ¬script.Passes name) :
    ∃ path : List RuleName, (.keyword keyword :: path).IsChain script.Leads ∧ path.length = n := by
  generalize hkeywords : keyword :: stack = keywords at hroute
  induction hroute generalizing keyword with
  | stop => exact ⟨[], List.isChain_singleton _, rfl⟩
  | redirect hleads rest ih =>
    cases hkeywords
    obtain ⟨path, hpath, hlength⟩ := ih rfl
    exact ⟨_ :: path, List.isChain_cons_cons.2 ⟨hleads, hpath⟩, congrArg Nat.succ hlength⟩
  | pass hpasses rest ih =>
    cases hkeywords
    obtain rfl | hnot := h
    · cases rest
      exact ⟨[], List.isChain_singleton _, rfl⟩
    · exact absurd hpasses (hnot _)

/-- If no path is longer than `n`, neither is a route from one keyword, or from any keywords if
no rule passes. -/
theorem longestRoute_le_of_paths {n : Nat}
    (hpaths : ∀ path : List RuleName, path.IsChain script.Leads → path.length ≤ n + 1)
    {stack : List String} (h : stack.length ≤ 1 ∨ ∀ name, ¬script.Passes name) :
    script.longestRoute stack ≤ n := by
  refine csSup_le' fun m hroute => ?_
  cases stack with
  | nil =>
    cases hroute
    exact Nat.zero_le _
  | cons keyword stack =>
    have hrest : stack = [] ∨ ∀ name, ¬script.Passes name := by
      refine h.imp_left fun hlength => ?_
      simpa using hlength
    obtain ⟨path, hpath, rfl⟩ := Route.exists_path hroute hrest
    exact Nat.le_of_succ_le_succ (hpaths _ hpath)

end Colloquy.Script

import Colloquy.Proofs.Text.CharClass

/-!
# Case tables

A case table sends some characters to others, by runs of code points and by a list of
expansions, and leaves every other character alone. Much of what is said about a table compares
sets of code points, such as those that it starts from and those that it leads to. A set is
computed as the bits of a number, so that a table is checked once, as a whole.

* `bits`: a set of code points as a number.
* `mapped_cases`: the three ways in which a table treats a character.
* `CaseTable`: the tables that settle a character at once and keep what divides a text.
* `CaseTable.mapped_of_has`: a character of a run goes where the run sends it.
-/

namespace Colloquy.Text

/-! ## Sets of code points -/

/-- The code points of a run. -/
def CodeRun.members (run : CodeRun) : List Nat :=
  (List.range ((run.last - run.first) / run.step + 1)).map (run.first + run.step * ·)

theorem CodeRun.mem_members {run : CodeRun} {code : Nat} (h : run.has code = true) :
    code ∈ run.members := by
  simp only [has, Bool.and_eq_true, decide_eq_true_eq, beq_iff_eq] at h
  obtain ⟨⟨hfirst, hlast⟩, hstep⟩ := h
  have hdiv : run.step * ((code - run.first) / run.step) = code - run.first :=
    Nat.mul_div_cancel' (Nat.dvd_of_mod_eq_zero hstep)
  refine List.mem_map.2 ⟨(code - run.first) / run.step, List.mem_range.2 ?_, by omega⟩
  exact Nat.lt_succ_of_le (Nat.div_le_div_right (Nat.sub_le_sub_right hlast _))

theorem CodeRun.has_of_mem_members {run : CodeRun} {code : Nat} (hrun : run.first ≤ run.last)
    (h : code ∈ run.members) : run.has code = true := by
  obtain ⟨k, hk, rfl⟩ := List.mem_map.1 h
  have hlast : k * run.step ≤ run.last - run.first :=
    Nat.mul_le_of_le_div _ _ _ (Nat.le_of_lt_succ (List.mem_range.1 hk))
  rw [Nat.mul_comm] at hlast
  simp only [has, Bool.and_eq_true, decide_eq_true_eq, beq_iff_eq, Nat.add_sub_cancel_left,
    Nat.mul_mod_right, and_true]
  omega

/-- A set of code points as the bits of a number, by which sets are quick to compare. -/
def bits (codes : List Nat) : Nat := codes.foldr (fun code n => 2 ^ code ||| n) 0

theorem testBit_bits {codes : List Nat} {code : Nat} :
    (bits codes).testBit code = true ↔ code ∈ codes := by
  induction codes with
  | nil => simp [bits]
  | cons c codes ih =>
    show (2 ^ c ||| bits codes).testBit code = true ↔ _
    rw [Nat.testBit_or, Bool.or_eq_true, ih, Nat.testBit_two_pow, decide_eq_true_eq,
      List.mem_cons, eq_comm]

theorem not_mem_of_bits {xs ys : List Nat} (h : bits xs &&& bits ys = 0) {code : Nat}
    (hx : code ∈ xs) : code ∉ ys := by
  intro hy
  have hbit : (bits xs &&& bits ys).testBit code = true := by
    rw [Nat.testBit_and, testBit_bits.2 hx, testBit_bits.2 hy]
    rfl
  rw [h, Nat.zero_testBit] at hbit
  cases hbit

theorem subset_of_bits {xs ys : List Nat} (h : bits xs ||| bits ys = bits ys) : xs ⊆ ys := by
  intro code hx
  rw [← testBit_bits, ← h, Nat.testBit_or, testBit_bits.2 hx]
  rfl

/-! ## Looking up -/

/-- Whether a run lies before another. -/
def CodeRun.Precedes (run run' : CodeRun) : Prop :=
  run.first ≤ run.last ∧ run.last < run'.first

instance : DecidableRel CodeRun.Precedes := fun _ _ => inferInstanceAs (Decidable (_ ∧ _))

instance : IsTrans CodeRun CodeRun.Precedes where
  trans _ _ _ h h' := ⟨h.1, Nat.lt_trans (Nat.lt_of_lt_of_le h.2 h'.1) h'.2⟩

/-- A run that lies before another has none of its code points. -/
theorem CodeRun.Precedes.first_le {run run' : CodeRun} (h : run.Precedes run') {code : Nat}
    (hcode : run'.has code = true) : run.first ≤ code ∧ run.has code = false := by
  obtain ⟨hfirst, hlast⟩ := h
  simp only [has, Bool.and_eq_true, decide_eq_true_eq] at hcode
  refine ⟨by omega, ?_⟩
  simp only [has, Bool.and_eq_false_iff, decide_eq_false_iff_not]
  omega

theorem CodeRun.first_le_of_has {run : CodeRun} {code : Nat} (h : run.has code = true) :
    run.first ≤ code := by
  simp only [has, Bool.and_eq_true, decide_eq_true_eq] at h
  exact h.1.1

/-- A character is listed if and only if one of the runs, which are in order, has it. -/
theorem CodeRun.anyHas_iff {code : Nat} {runs : List CodeRun} (hruns : runs.IsChain Precedes) :
    anyHas code runs = true ↔ ∃ run ∈ runs, run.has code = true := by
  rw [List.isChain_iff_pairwise] at hruns
  induction runs with
  | nil => simp [anyHas]
  | cons run runs ih =>
    rw [List.pairwise_cons] at hruns
    rw [List.exists_mem_cons_iff, anyHas, ← ih hruns.2]
    split
    · rename_i hlt
      refine ⟨nofun, fun h => absurd hlt (Nat.not_lt.2 ?_)⟩
      rcases h with h | h
      · exact first_le_of_has h
      · obtain ⟨run', hmem, hhas⟩ := (ih hruns.2).1 h
        exact ((hruns.1 run' hmem).first_le hhas).1
    · exact Bool.or_eq_true_iff

theorem exists_of_shifted? {c d : Char} {runs : List CaseRun}
    (h : CaseRun.shifted? c runs = some d) :
    ∃ run ∈ runs, run.has c.toNat = true ∧ d = run.image c.toNat := by
  induction runs with
  | nil => cases h
  | cons run runs ih =>
    simp only [CaseRun.shifted?] at h
    split at h
    · cases h
    · split at h
      · rename_i hhas
        cases h
        exact ⟨run, List.mem_cons_self, hhas, rfl⟩
      · obtain ⟨run', hmem, hrun'⟩ := ih h
        exact ⟨run', List.mem_cons_of_mem _ hmem, hrun'⟩

/-- Where the runs are in order, a character of a run goes where the run sends it. -/
theorem shifted?_of_has {c : Char} {run : CaseRun} {runs : List CaseRun}
    (hruns : (runs.map CaseRun.toCodeRun).IsChain CodeRun.Precedes) (hrun : run ∈ runs)
    (hhas : run.has c.toNat = true) : CaseRun.shifted? c runs = some (run.image c.toNat) := by
  rw [List.isChain_iff_pairwise] at hruns
  induction runs with
  | nil => cases hrun
  | cons run' runs ih =>
    rw [List.map_cons, List.pairwise_cons] at hruns
    rcases List.mem_cons.1 hrun with rfl | hmem
    · rw [CaseRun.shifted?, if_neg (Nat.not_lt.2 (CodeRun.first_le_of_has hhas)), if_pos hhas]
    · obtain ⟨hfirst, hhas'⟩ :=
        (hruns.1 run.toCodeRun (List.mem_map_of_mem hmem)).first_le hhas
      rw [CaseRun.shifted?, if_neg (Nat.not_lt.2 hfirst), if_neg (by simp [hhas']),
        ih hruns.2 hmem]

theorem mem_of_lookup {c : Char} {cs : String} {table : List (Char × String)}
    (h : table.lookup c = some cs) : (c, cs) ∈ table := by
  obtain ⟨l₁, l₂, heq, -⟩ := List.lookup_eq_some_iff.1 h
  rw [heq]
  exact List.mem_append_right _ List.mem_cons_self

/-! ## Tables -/

/-- The code points that a table starts from. -/
def sources (expansions : List (Char × String)) (runs : List CaseRun) : List Nat :=
  runs.flatMap (·.members) ++ expansions.map (·.1.toNat)

/-- The characters that a table leads to. -/
def images (expansions : List (Char × String)) (runs : List CaseRun) : List Char :=
  (runs.flatMap fun run => run.members.map run.image) ++
    expansions.flatMap fun expansion => expansion.2.toList

/-- A table whose runs are in order and apart from its expansions, which are not empty and not of
ASCII; there it does what `ascii` does. It starts from no divider, and leads neither to what it
starts from nor to one of the code points `avoided`, all dividers among them. -/
structure CaseTable (ascii : Char → Char) (avoided : List Nat)
    (expansions : List (Char × String)) (runs : List CaseRun) : Prop where
  ordered : (runs.map CaseRun.toCodeRun).IsChain CodeRun.Precedes
  apart : bits (runs.flatMap (·.members)) &&& bits (expansions.map (·.1.toNat)) = 0
  expands : ∀ expansion ∈ expansions, 0x80 ≤ expansion.1.toNat ∧ expansion.2 ≠ ""
  shifts : ∀ k < 0x80, (CaseRun.shifted? (.ofNat k) runs).getD (.ofNat k) = ascii (.ofNat k)
  fixes : bits dividerCodes &&& bits (sources expansions runs) = 0
  settles : bits ((images expansions runs).map Char.toNat) &&&
    bits (avoided ++ sources expansions runs) = 0
  avoids : bits dividerCodes ||| bits avoided = bits avoided

section Tables

variable {expansions : List (Char × String)} {runs : List CaseRun}

/-- A table leaves a character alone, sends it where a run says or expands it. -/
theorem mapped_cases (expansions : List (Char × String)) (runs : List CaseRun) (c : Char) :
    mapped expansions runs c = [c] ∨
    (∃ run ∈ runs, run.has c.toNat = true ∧ mapped expansions runs c = [run.image c.toNat]) ∨
    ∃ cs, (c, cs) ∈ expansions ∧ mapped expansions runs c = cs.toList := by
  unfold mapped
  split
  · rename_i cs hlookup
    exact .inr (.inr ⟨cs, mem_of_lookup hlookup, rfl⟩)
  · cases hshifted : CaseRun.shifted? c runs with
    | none => exact .inl rfl
    | some d =>
      obtain ⟨run, hrun, hhas, rfl⟩ := exists_of_shifted? hshifted
      exact .inr (.inl ⟨run, hrun, hhas, rfl⟩)

theorem mapped_of_not_mem_sources {c : Char} (h : c.toNat ∉ sources expansions runs) :
    mapped expansions runs c = [c] := by
  rw [sources, List.mem_append, not_or] at h
  rcases mapped_cases expansions runs c with hc | ⟨run, hrun, hhas, -⟩ | ⟨cs, hmem, -⟩
  · exact hc
  · exact absurd (List.mem_flatMap.2 ⟨run, hrun, CodeRun.mem_members hhas⟩) h.1
  · exact absurd (List.mem_map_of_mem hmem) h.2

namespace CaseTable

variable {ascii : Char → Char} {avoided : List Nat}
  (h : CaseTable ascii avoided expansions runs)

include h

/-- A table leaves a character alone or makes some of the characters of it that it leads to. -/
theorem mapped_eq_or_subset_images (c : Char) :
    mapped expansions runs c = [c] ∨
      mapped expansions runs c ≠ [] ∧ mapped expansions runs c ⊆ images expansions runs := by
  rcases mapped_cases expansions runs c with hc | ⟨run, hrun, hhas, hc⟩ | ⟨cs, hmem, hc⟩
  · exact .inl hc
  · have himage : run.image c.toNat ∈ images expansions runs :=
      List.mem_append_left _ (List.mem_flatMap.2
        ⟨run, hrun, List.mem_map_of_mem (CodeRun.mem_members hhas)⟩)
    rw [hc]
    exact .inr ⟨List.cons_ne_nil _ _, List.cons_subset.2 ⟨himage, List.nil_subset _⟩⟩
  · rw [hc]
    exact .inr ⟨by simpa using (h.expands _ hmem).2, fun d hd =>
      List.mem_append_right _ (List.mem_flatMap.2 ⟨_, hmem, hd⟩)⟩

/-- A character of a run goes where the run sends it. -/
theorem mapped_of_has {c : Char} {run : CaseRun} (hrun : run ∈ runs)
    (hhas : run.has c.toNat = true) : mapped expansions runs c = [run.image c.toNat] := by
  unfold mapped
  split
  · rename_i cs hlookup
    exact absurd (List.mem_map_of_mem (mem_of_lookup hlookup))
      (not_mem_of_bits h.apart (List.mem_flatMap.2 ⟨run, hrun, CodeRun.mem_members hhas⟩))
  · rw [shifted?_of_has h.ordered hrun hhas, Option.getD_some]

/-- A character of ASCII is not expanded. -/
theorem mapped_of_lt {c : Char} (hc : c.toNat < 0x80) : mapped expansions runs c = [ascii c] := by
  unfold mapped
  split
  · rename_i cs hlookup
    exact absurd (h.expands _ (mem_of_lookup hlookup)).1 (Nat.not_le.2 hc)
  · simpa using h.shifts c.toNat hc

/-- A case that treats ASCII apart is what the table makes of a character, also in ASCII. -/
theorem ite_eq_mapped (c : Char) :
    (if c.toNat < 0x80 then [ascii c] else mapped expansions runs c) =
      mapped expansions runs c := by
  split
  · rename_i hc
    exact (h.mapped_of_lt hc).symm
  · rfl

theorem mapped_ne_nil (c : Char) : mapped expansions runs c ≠ [] := by
  rcases h.mapped_eq_or_subset_images c with hc | ⟨hne, -⟩
  · simp [hc]
  · exact hne

theorem not_mem_of_mem_images {d : Char} (hd : d ∈ images expansions runs) :
    d.toNat ∉ avoided ∧ d.toNat ∉ sources expansions runs := by
  have hcodes := not_mem_of_bits h.settles (List.mem_map_of_mem hd)
  rwa [List.mem_append, not_or] at hcodes

/-- What a table makes of a character it leaves alone. -/
theorem mapped_of_mem_mapped {c d : Char} (hd : d ∈ mapped expansions runs c) :
    mapped expansions runs d = [d] := by
  rcases h.mapped_eq_or_subset_images c with hc | ⟨-, hc⟩
  · rw [hc, List.mem_singleton] at hd
    rw [hd, hc]
  · exact mapped_of_not_mem_sources (h.not_mem_of_mem_images (hc hd)).2

theorem mapped_of_divides {c : Char} (hc : divides c = true) : mapped expansions runs c = [c] :=
  mapped_of_not_mem_sources (not_mem_of_bits h.fixes (toNat_mem_dividerCodes hc))

/-- A table keeps dividers and makes no other character one of them. -/
theorem divides_of_mem_mapped {c d : Char} (hd : d ∈ mapped expansions runs c) :
    divides d = divides c := by
  by_cases hc : divides c = true
  · rw [h.mapped_of_divides hc, List.mem_singleton] at hd
    rw [hd]
  · rcases h.mapped_eq_or_subset_images c with hself | ⟨-, hsubset⟩
    · rw [hself, List.mem_singleton] at hd
      rw [hd]
    · have hdivides : divides d ≠ true := fun hdivides =>
        (h.not_mem_of_mem_images (hsubset hd)).1
          (subset_of_bits h.avoids (toNat_mem_dividerCodes hdivides))
      simp_all

end CaseTable

end Tables

end Colloquy.Text

import Colloquy.Proofs.Text.Capitals

/-!
# Capitals and their letters

The capital of a lowercase letter is the capital of its own lower case, but for two capitals: that
of sigma has two lower cases, and that of the letter with an apostrophe before it begins with the
apostrophe. Where the capital is more than one character, all of them are word characters. The two
case tables are compared once, as a whole.

* `restored_of_upperChar`, `capitalize_lower_of_restored`: the first character of a capital is
  restored after it was put in lower case.
* `isWordLetter_of_upperChar`: what a capital of several characters consists of.
-/

namespace Colloquy.Text

/-! ## Lowercase letters -/

/-- The code points of the lowercase letters. -/
def lowercaseCodes : List Nat := lowercaseRuns.flatMap (·.members)

/-- The code points of the lowercase letters, as the bits of a number. -/
def lowercaseBits : Nat := bits lowercaseCodes

theorem isLowercase_iff {c : Char} :
    isLowercase c = true ↔ lowercaseBits.testBit c.toNat = true := by
  have hordered : lowercaseRuns.IsChain CodeRun.Precedes := by decide +kernel
  have hfirst : lowercaseRuns.all (fun run => run.first ≤ run.last) = true := by decide
  rw [lowercaseBits, testBit_bits, lowercaseCodes, List.mem_flatMap, isLowercase, CodeRun.listed,
    CodeRun.anyHas_iff hordered]
  refine exists_congr fun run => and_congr_right fun hrun => ⟨CodeRun.mem_members, ?_⟩
  exact CodeRun.has_of_mem_members (by simpa using List.all_eq_true.1 hfirst run hrun)

/-! ## Pairs of letters -/

/-- The runs of the table of upper case that may start where a run of the table of lower case
leads to. -/
def upperRunsBehind (lower : CaseRun) : List CaseRun :=
  (upperRuns.dropWhile fun upper => Nat.blt upper.last lower.target).takeWhile fun upper =>
    Nat.ble upper.first (lower.target + (lower.last - lower.first))

/-- The code points that a run of the table of lower case sends to a lowercase letter, and a run
of the table of upper case takes back. -/
def pairedCodes : List Nat :=
  lowerRuns.flatMap fun lower => (upperRunsBehind lower).flatMap fun upper =>
    bif Nat.beq (lower.target + upper.target) (lower.first + upper.first) then
      lower.members.filter fun code =>
        let letter := lower.target + (code - lower.first)
        upper.has letter && lowercaseBits.testBit letter && decide letter.isValidChar
    else []

/-- The code points that the capitals of lowercase letters begin with. -/
def firstCapitals : List Nat :=
  (upperRuns.flatMap fun run => (run.members.filter lowercaseBits.testBit).map
    fun code => (run.image code).toNat) ++
  (upperExpansions.filter fun expansion => lowercaseBits.testBit expansion.1.toNat).flatMap
    fun expansion => expansion.2.toList.head?.toList.map Char.toNat

theorem bits_firstCapitals : bits firstCapitals ||| bits (0x3A3 :: 0x2BC :: pairedCodes) =
    bits (0x3A3 :: 0x2BC :: pairedCodes) := by
  decide +kernel

/-- What is said of a capital that comes back when its lower case is given a capital. -/
def Restored (d : Char) : Prop :=
  d = '\u03a3' ∨ (∃ e, lowerChar d = [e] ∧ isLowercase e = true ∧ upperChar e = [d]) ∨
    lowerChar d = [d] ∧ isLowercase d = false ∧ divides d = false

theorem mem_firstCapitals {c d : Char} {ds : List Char} (hc : isLowercase c = true)
    (h : upperChar c = d :: ds) : d = c ∨ d.toNat ∈ firstCapitals := by
  rw [isLowercase_iff] at hc
  rw [upperChar_eq_mapped] at h
  rcases mapped_cases upperExpansions upperRuns c with hself | ⟨run, hrun, hhas, himage⟩ |
    ⟨cs, hmem, himage⟩
  · rw [hself] at h
    exact .inl (List.cons.inj h).1.symm
  · rw [himage] at h
    rw [← (List.cons.inj h).1]
    refine .inr (List.mem_append_left _ (List.mem_flatMap.2 ⟨run, hrun, ?_⟩))
    refine List.mem_map.2 ⟨c.toNat, List.mem_filter.2 ⟨CodeRun.mem_members hhas, hc⟩, rfl⟩
  · rw [himage] at h
    refine .inr (List.mem_append_right _ (List.mem_flatMap.2 ⟨(c, cs), ?_, ?_⟩))
    · exact List.mem_filter.2 ⟨hmem, hc⟩
    · simp [h]

theorem exists_of_mem_pairedCodes {d : Char} (h : d.toNat ∈ pairedCodes) :
    ∃ e, lowerChar d = [e] ∧ isLowercase e = true ∧ upperChar e = [d] := by
  have hfirst : lowerRuns.all (fun run => run.first ≤ run.last) = true := by decide
  obtain ⟨lower, hlower, h⟩ := List.mem_flatMap.1 h
  obtain ⟨upper, hupper, h⟩ := List.mem_flatMap.1 h
  have hupper : upper ∈ upperRuns :=
    (List.dropWhile_sublist _).subset ((List.takeWhile_sublist _).subset hupper)
  simp only [Bool.cond_eq_ite] at h
  split at h
  · rename_i hshift
    obtain ⟨hmem, h⟩ := List.mem_filter.1 h
    have hhas : lower.has d.toNat = true :=
      CodeRun.has_of_mem_members (by simpa using List.all_eq_true.1 hfirst lower hlower) hmem
    simp only [Bool.and_eq_true, decide_eq_true_eq] at h
    obtain ⟨⟨hback, hletter⟩, hvalid⟩ := h
    -- The letter that the capital goes to, and where the table of upper case sends it.
    have he : (lower.image d.toNat).toNat = lower.target + (d.toNat - lower.first) := by
      rw [CaseRun.image, Char.toNat_ofNat, if_pos hvalid]
    refine ⟨lower.image d.toNat, ?_, ?_, ?_⟩
    · rw [lowerChar_eq_mapped, CaseTable.mapped_of_has lowerTable hlower hhas]
    · rw [isLowercase_iff, he]
      exact hletter
    · have hd := CodeRun.first_le_of_has hhas
      have hle := CodeRun.first_le_of_has hback
      rw [Nat.beq_eq] at hshift
      have hcode : upper.target + (lower.target + (d.toNat - lower.first) - upper.first) =
          d.toNat := by omega
      rw [upperChar_eq_mapped, CaseTable.mapped_of_has upperTable hupper (by rwa [he]), he,
        CaseRun.image, hcode, Char.ofNat_toNat]
  · cases h

/-- The capital of a lowercase letter is restored after it was put in lower case. -/
theorem restored_of_upperChar {c d : Char} {ds : List Char} (hc : isLowercase c = true)
    (hlower : lowerChar c = [c]) (h : upperChar c = d :: ds) : Restored d := by
  rcases mem_firstCapitals hc h with rfl | hmem
  · have hself : upperChar d = [d] := upperChar_of_mem_upperChar (h ▸ List.mem_cons_self)
    exact .inr (.inl ⟨d, hlower, hc, hself⟩)
  · have hcodes := subset_of_bits bits_firstCapitals hmem
    rw [List.mem_cons, List.mem_cons] at hcodes
    rcases hcodes with hsigma | hapostrophe | hpaired
    · exact .inl (Char.toNat_inj.1 hsigma)
    · rw [show d = '\u02bc' from Char.toNat_inj.1 hapostrophe]
      exact .inr (.inr (by decide))
    · exact .inr (.inl (exists_of_mem_pairedCodes hpaired))

/-- A capital that is restored is written for its lower case at an opening. -/
theorem capitalize_lower_of_restored {d : Char} (h : Restored d) (before after cs : List Char) :
    capitalize true ((if d = '\u03a3' then [lowerSigma before after] else lowerChar d) ++ cs) =
      d :: capitalize false cs := by
  by_cases hd : d = '\u03a3'
  · have hsigma : isLowercase (lowerSigma before after) = true ∧
        upperChar (lowerSigma before after) = ['\u03a3'] := by
      unfold lowerSigma
      split <;> decide
    rw [if_pos hd, hd, List.singleton_append, capitalize, hsigma.1, hsigma.2]
    rfl
  · rw [if_neg hd]
    rcases h with hsigma | ⟨e, hlower, hletter, hupper⟩ | ⟨hself, hletter, hdivides⟩
    · exact absurd hsigma hd
    · rw [hlower, List.singleton_append, capitalize, hletter, hupper]
      rfl
    · rw [hself, List.singleton_append, capitalize, hletter, endsSentence_of_not_divides hdivides,
        isBlank_of_not_divides hdivides]
      rfl

/-! ## Capitals of several characters -/

/-- The code points that capitals of several characters consist of. -/
def expansionCodes : List Nat :=
  upperExpansions.flatMap fun expansion => expansion.2.toList.map Char.toNat

/-- The code points that the table of lower case sends those of the capitals to. -/
def expansionLowers : List Nat :=
  lowerRuns.flatMap fun run => (run.members.filter (bits expansionCodes).testBit).map
    fun code => (run.image code).toNat

/-- Some runs of word characters, with all that the capitals and their lower cases consist of. -/
def letterRuns : List CodeRun :=
  [⟨0x41, 0x5A, 1⟩, ⟨0x61, 0x7A, 1⟩, ⟨0xF8, 0x2C1, 1⟩, ⟨0x300, 0x374, 1⟩, ⟨0x386, 0x386, 1⟩,
   ⟨0x388, 0x38A, 1⟩, ⟨0x38E, 0x3A1, 1⟩, ⟨0x3A3, 0x3F5, 1⟩, ⟨0x531, 0x556, 1⟩, ⟨0x560, 0x588, 1⟩,
   ⟨0x1D00, 0x1F15, 1⟩, ⟨0x1F20, 0x1F45, 1⟩, ⟨0x1F5F, 0x1F7D, 1⟩, ⟨0x1FB6, 0x1FBC, 1⟩,
   ⟨0x1FC6, 0x1FCC, 1⟩, ⟨0x1FF6, 0x1FFC, 1⟩]

theorem expansions_checked :
    (bits (expansionCodes ++ expansionLowers) ||| bits (letterRuns.flatMap (·.members)) =
      bits (letterRuns.flatMap (·.members))) ∧
    bits expansionCodes &&& bits (0x3A3 :: lowerExpansions.map (·.1.toNat)) = 0 := by
  constructor
  · decide +kernel
  · decide +kernel

theorem isWordChar_of_mem_letterRuns {c : Char}
    (h : c.toNat ∈ expansionCodes ++ expansionLowers) : isWordChar c = true := by
  have hordered : wordCharRuns.IsChain CodeRun.Precedes := by decide +kernel
  have hletters : ∀ run ∈ letterRuns, run.first ≤ run.last ∧ run ∈ wordCharRuns := by
    decide
  obtain ⟨run, hrun, hcode⟩ := List.mem_flatMap.1 (subset_of_bits (And.left expansions_checked) h)
  obtain ⟨hfirst, hword⟩ := hletters run hrun
  rw [isWordChar, CodeRun.listed, CodeRun.anyHas_iff hordered]
  exact ⟨run, hword, CodeRun.has_of_mem_members hfirst hcode⟩

/-- A word character whose lower case is a word character. The sigma, which has two lower cases,
is left out. -/
structure IsWordLetter (c : Char) : Prop where
  ne_sigma : c ≠ '\u03a3'
  isWordChar : isWordChar c = true
  lower : ∃ d, lowerChar c = [d] ∧ Text.isWordChar d = true

theorem isWordLetter_of_mem_expansionCodes {c : Char} (h : c.toNat ∈ expansionCodes) :
    IsWordLetter c := by
  have hapart := not_mem_of_bits (And.right expansions_checked) h
  rw [List.mem_cons, not_or] at hapart
  have hword : isWordChar c = true := isWordChar_of_mem_letterRuns (List.mem_append_left _ h)
  refine ⟨fun hsigma => hapart.1 (hsigma ▸ rfl), hword, ?_⟩
  rw [lowerChar_eq_mapped]
  rcases mapped_cases lowerExpansions lowerRuns c with hself | ⟨run, hrun, hhas, himage⟩ |
    ⟨cs, hmem, -⟩
  · exact ⟨c, hself, hword⟩
  · refine ⟨_, himage, isWordChar_of_mem_letterRuns (List.mem_append_right _ ?_)⟩
    refine List.mem_flatMap.2 ⟨run, hrun, List.mem_map.2 ⟨c.toNat, List.mem_filter.2 ⟨?_, ?_⟩, rfl⟩⟩
    · exact CodeRun.mem_members hhas
    · exact testBit_bits.2 h
  · exact absurd (List.mem_map_of_mem hmem) hapart.2

/-- What is written for a letter with a capital of several characters are word letters. -/
theorem isWordLetter_of_upperChar {c d : Char} {ds : List Char} (h : upperChar c = d :: ds)
    (hne : ds ≠ []) : ∀ x ∈ d :: ds, IsWordLetter x := by
  intro x hx
  rw [upperChar_eq_mapped] at h
  rcases mapped_cases upperExpansions upperRuns c with hself | ⟨run, -, -, himage⟩ |
    ⟨cs, hmem, himage⟩
  · exact absurd (List.cons.inj (hself ▸ h)).2.symm hne
  · exact absurd (List.cons.inj (himage ▸ h)).2.symm hne
  · refine isWordLetter_of_mem_expansionCodes (List.mem_flatMap.2 ⟨(c, cs), hmem, ?_⟩)
    exact List.mem_map_of_mem (by rwa [← himage, h])

end Colloquy.Text

import Colloquy.Proofs.Conversation.History
import Colloquy.Proofs.Script.RoundTrip

/-!
# Empty replies

Every way to answer an input with words makes sure that something is said. The greeting is said
as it is in the script, and a script may greet with no words at all.

* `Interlocutor.reply_respond_eq_empty_iff`: the replies that are empty, for any interlocutor.
* `spoken_greeting_eq_empty_iff`: the scripts whose greeting is empty.
* `reply_of_conversation_eq_empty_iff`: the replies that are empty, for the scripts that are read.
-/

namespace Colloquy

open Text

/-! ## What is pending -/

namespace Interlocutor

variable (i : Interlocutor)

theorem sayable_of_mem_keptOver {state : State} {inputs : List String} {memory : String}
    (h : memory ∈ i.keptOver state inputs) : Sayable memory := by
  induction inputs generalizing state with
  | nil =>
    rw [keptOver_nil] at h
    cases h
  | cons input inputs ih =>
    rw [keptOver_cons] at h
    rcases List.mem_append.1 h with h | h
    · exact i.sayable_of_mem_kept h
    · exact ih h

/-- Whatever is pending can be said. -/
theorem sayable_of_mem_pending {inputs : List String} {memory : String}
    (h : memory ∈ (i.stateAfter {} inputs).pending) : Sayable memory := by
  have hkept : memory ∈ i.keptOver {} inputs := by
    rw [keptOver_eq]
    exact List.mem_append_right _ h
  exact i.sayable_of_mem_keptOver hkept

/-- No empty memory is ever pending. -/
theorem ne_empty_of_mem_pending {inputs : List String} {memory : String}
    (h : memory ∈ (i.stateAfter {} inputs).pending) : memory ≠ "" :=
  (i.sayable_of_mem_pending h).ne_empty

/-- A reply is empty if and only if it is an empty greeting. -/
theorem reply_respond_eq_empty_iff {state : State} (h : ∀ memory ∈ state.pending, memory ≠ "")
    (input : String) :
    (i.respond state input).reply = "" ↔ i.greeting = "" ∧ heard input = [] := by
  have hanswers := i.answers_respond state input
  generalize i.respond state input = turn at hanswers ⊢
  cases hanswers with
  | greeting hheard => exact ⟨fun hreply => ⟨hreply, hheard⟩, fun hgreeting => hgreeting.1⟩
  | memory hheard hstack hphase hpending =>
    refine ⟨fun hreply => absurd hreply (h _ ?_), fun hgreeting => absurd hgreeting.2 hheard⟩
    rw [hpending]
    exact List.mem_cons_self
  | worked hheard hnone hspeaks =>
    exact ⟨fun hreply => absurd hreply hspeaks.reply_ne, fun hgreeting => absurd hgreeting.2 hheard⟩

end Interlocutor

/-! ## Greetings -/

namespace Token

/-- A token is not made of blanks. -/
theorem WellFormed.not_blank {t : Token} (ht : t.WellFormed) :
    ¬∀ c ∈ t.text.toList, isBlank c = true := by
  intro hblank
  obtain ⟨c, hc⟩ := List.exists_mem_of_ne_nil t.text.toList (by simpa using ht.text_ne)
  have hne := ht.isBlank_eq_false c hc
  rw [hblank c hc] at hne
  cases hne

end Token

/-- The greeting of a script is empty only if it has no words. -/
theorem spoken_greeting_eq_empty_iff {text : String} {script : Script}
    (h : Script.read text = .ok script) : spoken script.greeting = "" ↔ script.greeting = [] := by
  obtain ⟨src⟩ := Phrase.nonempty_source h
  rw [spoken_eq_empty_iff]
  constructor
  · intro hblank
    refine List.eq_nil_iff_forall_not_mem.2 fun word hword => ?_
    have hword' := hword
    rw [← src.greeting_text] at hword'
    obtain ⟨x, hx, rfl⟩ := List.mem_map.1 hword'
    have htext : x.text = x.token.text := by cases x <;> rfl
    refine (src.wellFormed_greeting _ (List.mem_map_of_mem hx)).not_blank ?_
    rw [← htext]
    exact hblank _ hword
  · intro hnil
    rw [hnil]
    exact nofun

/-! ## Conversations -/

/-- A reply in a conversation that follows a script is empty if and only if the script greets
with no words and the input has none either. -/
theorem reply_of_conversation_eq_empty_iff {text : String} {script : Script}
    (h : Script.read text = .ok script) (settings : Settings) (earlier : List String)
    (input : String) :
    let i := Interlocutor.ofScript script settings
    (i.respond (i.stateAfter {} earlier) input).reply = "" ↔
      script.greeting = [] ∧ heard input = [] := by
  intro i
  rw [i.reply_respond_eq_empty_iff fun memory hmemory => i.ne_empty_of_mem_pending hmemory,
    ← spoken_greeting_eq_empty_iff h]
  exact Iff.rfl

/-- A script that greets with no words. -/
def silentText : String := "() (NONE ((0) (OK))) (MEMORY A (0 = A) (0 = B) (0 = C) (0 = D))"

def silentScript : Script where
  greeting := []
  rules := []
  fallback := { spelling := "NONE", transformations := [⟨[.count 0], [.reply [.word "OK"]]⟩] }
  memory := .letters "A"

/-- The script is read, and it is followed without a word at an empty input. -/
theorem reply_of_silentScript : Script.read silentText = .ok silentScript ∧
    let i := Interlocutor.ofScript silentScript {}
    (i.respond (i.stateAfter {} []) "").reply = "" := by
  have h : Script.read silentText = .ok silentScript := by decide +kernel
  refine ⟨h, (reply_of_conversation_eq_empty_iff h {} [] "").2 ⟨rfl, ?_⟩⟩
  decide +kernel

end Colloquy

import Colloquy.Proofs.Conversation.Reply
import Colloquy.Proofs.Text.Spacing

/-!
# Clean replies

Whatever an interlocutor answers to an input with words is put together from words and shown as a
sentence, also what was kept in mind for later. So it has the spacing of a sentence.

* `Interlocutor.sayable_reply_respond`: the replies are put together from words.
* `Interlocutor.isClean_reply`: the replies are clean, whichever script is followed.
-/

namespace Colloquy

open Text

theorem Sayable.isClean {sentence : String} (h : Sayable sentence) : IsClean sentence := by
  obtain ⟨words, rfl⟩ := h.exists_words
  exact isClean_spoken h.ne_empty

namespace Interlocutor

/-- The answer to an input with words is put together from words, if what is pending is. -/
theorem sayable_reply_respond (i : Interlocutor) {state : State} {input : String}
    (hheard : heard input ≠ []) (h : ∀ memory ∈ state.pending, Sayable memory) :
    Sayable (i.respond state input).reply := by
  rw [i.respond_of_heard_ne_nil hheard]
  obtain ⟨memory, pending, hsome, hanswer⟩ |
    ⟨-, ⟨reply, state', hrun, hanswer⟩ | ⟨state', -, hanswer⟩⟩ :=
      i.answer_cases (i.dispatch state input)
  · obtain ⟨-, -, hpending⟩ := remembered?_eq_some hsome
    rw [hanswer]
    refine h memory ?_
    rw [show state.pending = memory :: pending from hpending]
    exact List.mem_cons_self
  · rw [hanswer]
    exact Dispatch.sayable_of_run i.book i.memory (congrArg Prod.fst hrun)
  · obtain ⟨reply, source, hreply, -, hturn⟩ :=
      i.exists_fallBack_eq (i.dispatch state input).words state'
    rw [hanswer, hturn]
    exact hreply

/-- In a conversation that follows a script, the reply to an input with words is clean, whichever
phrases are in store and whatever was said before. -/
theorem isClean_reply (script : Script) (settings : Settings) (earlier : List String)
    {input : String} (h : heard input ≠ []) :
    let i := ofScript script settings
    IsClean (i.respond (i.stateAfter {} earlier) input).reply := by
  intro i
  exact (i.sayable_reply_respond h fun memory hmemory => i.sayable_of_mem_pending hmemory).isClean

/-- A script with a fallback rule for two words. -/
def terseText : String := "(HI) (NONE ((1 1) (OK))) (MEMORY A (0 = A) (0 = B) (0 = C) (0 = D))"

def terseScript : Script where
  greeting := ["HI"]
  rules := []
  fallback :=
    { spelling := "NONE", transformations := [⟨[.count 1, .count 1], [.reply [.word "OK"]]⟩] }
  memory := .letters "A"

/-- Phrases that are not written as they are said. -/
def untidySettings : Settings := { stockPhrases := #v["", " go  on\t,  PLEASE\n. ", "...", " "] }

/-- A single word is met with a stock phrase, which is spaced and cased as a sentence. -/
theorem isClean_reply_of_terseScript :
    Script.read terseText = .ok terseScript ∧ heard "Well" ≠ [] ∧
      let i := ofScript terseScript untidySettings
      (i.respond (i.stateAfter {} []) "Well").reply = "Go on, please." ∧
        IsClean (i.respond (i.stateAfter {} []) "Well").reply := by
  have h : heard "Well" ≠ [] := by decide +kernel
  exact ⟨by decide +kernel, h, by decide +kernel, isClean_reply terseScript untidySettings [] h⟩

end Interlocutor

end Colloquy

/-
  HotelAgent.Services.SpokenText — tags in what is spoken.

  `_clean_for_tts` cuts every block out of the reply in one pass and joins what
  is left.  A tag is left over in two ways:

      unclosed     an opening tag behind the last block has no closing tag: the
                   reply was cut off, or the model never closed it
      joined       the text before a block and the text behind it make a tag
                   once the block between them is gone

  Main result, `noMarkup_iff`: what is spoken has no opening tag if and only if
  the reply has neither.
-/
import HotelAgent.Services.VoiceAgent
import HotelAgent.Lib.Occurrences

namespace HotelAgent

open Lib

/-! ## §1. The text outside the blocks. -/

/-- The pieces of a reply before, between and behind its blocks, for at most `n` blocks. -/
def outsideBlocks : Nat → Text → List Text
  | 0, text => [text]
  | n + 1, text =>
    match splitOnce blockOpen text with
    | none => [text]
    | some (before, rest) =>
      match splitOnce blockClose rest with
      | none => [text]
      | some (_, after) => before :: outsideBlocks n after

/-- **What is left of the reply is the pieces, joined.** -/
theorem flatten_outsideBlocks : ∀ (n : Nat) (text : Text),
    (outsideBlocks n text).flatten = removeBlocks n text
  | 0, text => List.flatten_singleton
  | n + 1, text => by
      unfold outsideBlocks removeBlocks
      cases hopen : splitOnce blockOpen text with
      | none => exact List.flatten_singleton
      | some p =>
          obtain ⟨before, rest⟩ := p
          simp only
          cases hclose : splitOnce blockClose rest with
          | none => exact List.flatten_singleton
          | some q =>
              simp only
              rw [List.flatten_cons, flatten_outsideBlocks n]

/-- The pieces before the last, and the last. -/
theorem outsideBlocks_eq (n : Nat) (text : Text) :
    ∃ before last, outsideBlocks n text = before ++ [last]
      ∧ ∀ p ∈ before, ¬ blockOpen <:+: p := by
  induction n generalizing text with
  | zero => exact ⟨[], text, rfl, fun p hp => absurd hp List.not_mem_nil⟩
  | succ n ih =>
      unfold outsideBlocks
      cases hopen : splitOnce blockOpen text with
      | none => exact ⟨[], text, rfl, fun p hp => absurd hp List.not_mem_nil⟩
      | some q =>
          obtain ⟨first, rest⟩ := q
          simp only
          cases hclose : splitOnce blockClose rest with
          | none => exact ⟨[], text, rfl, fun p hp => absurd hp List.not_mem_nil⟩
          | some r =>
              obtain ⟨before, last, heq, hbefore⟩ := ih r.2
              refine ⟨first :: before, last, by simp only [heq, List.cons_append], ?_⟩
              intro p hp
              rcases List.mem_cons.mp hp with rfl | hp
              · -- the tag behind it is the first one of the text
                exact not_infix_of_splitOnce (by decide) hopen
              · exact hbefore p hp

/-- The pieces of the whole reply. -/
def spokenPieces (reply : Text) : List Text := outsideBlocks reply.length reply

/-! ## §2. Tags that are left over. -/

/-- An opening tag stands behind the last block. -/
def Unclosed (reply : Text) : Prop := ∃ last ∈ (spokenPieces reply).getLast?, blockOpen <:+: last

/-- A tag begins before a block and ends behind it. -/
def Joined (reply : Text) : Prop :=
  ∃ before after, spokenPieces reply = before ++ after
    ∧ Straddles blockOpen before.flatten after.flatten

theorem blockOpen_ne_nil : blockOpen ≠ [] := by decide

/-- **Tags in what is left of the reply.** -/
theorem infix_removeBlocks_iff (reply : Text) :
    blockOpen <:+: removeBlocks reply.length reply ↔ Unclosed reply ∨ Joined reply := by
  obtain ⟨before, last, heq, hbefore⟩ := outsideBlocks_eq reply.length reply
  have hpieces : spokenPieces reply = before ++ [last] := heq
  rw [← flatten_outsideBlocks, infix_flatten_iff blockOpen_ne_nil]
  apply or_congr
  · unfold Unclosed
    rw [heq, hpieces, List.getLast?_concat]
    constructor
    · rintro ⟨p, hp, hocc⟩
      rcases List.mem_append.mp hp with hp | hp
      · exact absurd hocc (hbefore p hp)
      · rw [List.mem_singleton.mp hp] at hocc
        exact ⟨last, rfl, hocc⟩
    · rintro ⟨p, hp, hocc⟩
      injection hp with hp
      exact ⟨last, List.mem_append_right before (List.mem_singleton_self last), hp ▸ hocc⟩
  · exact Iff.rfl

/-- **No markup is spoken**, exactly if the reply leaves no tag unclosed and none is joined. -/
theorem noMarkup_iff (reply : Text) :
    ¬ blockOpen <:+: cleanForTts reply ↔ ¬ Unclosed reply ∧ ¬ Joined reply := by
  have hall : blockOpen.all (fun c => !isSpace c) = true := by decide
  have hspace : ∀ c ∈ blockOpen, isSpace c = false := fun c hc => by
    simpa using List.all_eq_true.mp hall c hc
  unfold cleanForTts
  rw [infix_strip_iff blockOpen_ne_nil hspace, infix_removeBlocks_iff, not_or]

/-- What a turn speaks is the cleaned reply. -/
theorem text_of_replies {py : Python} {api : OpenAI} {audio : Option (List UInt8)}
    {text : Option Text} {generateAudio : Bool} {r : VoiceAgentResponse py}
    (h : processVoiceTurn py api audio text generateAudio = .replies r) :
    ∃ completion, api.completion = some completion
      ∧ r.text = cleanForTts (completion.content.getD []) := by
  obtain ⟨_, completion, response, _, hcompletion, hresponse, htext, _⟩ :=
    processVoiceTurn_replies h
  exact ⟨completion, hcompletion, htext.trans (text_of_generateResponse hresponse)⟩

/-- A reply without an unclosed tag may still be spoken with one. -/
example : cleanForTts (txt "<service_<service_request>\x7b\x7d</service_request>request> Yes.")
    = txt "<service_request> Yes." := by decide +kernel

/-- The reply is cut off inside its block. -/
theorem cut_off_block_is_spoken : ¬ ∀ reply, ¬ blockOpen <:+: cleanForTts reply := by
  intro h
  exact h (txt "Right away. <service_request>\x7b\"service_type\": \"sp") (by decide +kernel)

end HotelAgent

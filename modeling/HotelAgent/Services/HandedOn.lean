/-
  HotelAgent.Services.HandedOn — what becomes of the blocks of a reply.

  Two passes read the same reply:

      `_extract_service_request`   `re.search`   the first block
      `_clean_for_tts`             `re.sub`      every block

  What the second pass deletes and the first does not hand on is lost: it is
  neither spoken nor created.

  Main results:
    * `weave_completeBlocks` — the pieces that are left and the blocks that are
      deleted make up the reply.
    * `handedOn_iff` — no block is lost, exactly if there is none, or one that is
      an object whose type can be looked up.
-/
import HotelAgent.Services.Extraction
import HotelAgent.Services.SpokenText

namespace HotelAgent

open Lib

/-! ## §1. The blocks that are deleted. -/

/-- The insides of the blocks that `removeBlocks` cuts out, in order. -/
def blocksOf : Nat → Text → List Text
  | 0, _ => []
  | n + 1, text =>
    match splitOnce blockOpen text with
    | none => []
    | some (_, rest) =>
      match splitOnce blockClose rest with
      | none => []
      | some (block, after) => block :: blocksOf n after

/-- The complete blocks of a reply. -/
def completeBlocks (reply : Text) : List Text := blocksOf reply.length reply

/-- Pieces with blocks, tags included, between them. -/
def weave : List Text → List Text → Text
  | piece :: pieces, block :: blocks =>
    piece ++ blockOpen ++ block ++ blockClose ++ weave pieces blocks
  | pieces, _ => pieces.flatten

theorem weave_blocksOf (n : Nat) (text : Text) :
    weave (outsideBlocks n text) (blocksOf n text) = text := by
  induction n generalizing text with
  | zero => exact List.flatten_singleton
  | succ n ih =>
      unfold outsideBlocks blocksOf
      cases hopen : splitOnce blockOpen text with
      | none => exact List.flatten_singleton
      | some p =>
          obtain ⟨before, rest⟩ := p
          simp only
          cases hclose : splitOnce blockClose rest with
          | none => exact List.flatten_singleton
          | some q =>
              obtain ⟨block, after⟩ := q
              simp only [weave]
              rw [ih after, splitOnce_eq_some hopen, splitOnce_eq_some hclose]
              simp only [List.append_assoc]

/-- **Nothing but the blocks is deleted**: with them between the pieces that are left, the reply
is whole again. -/
theorem weave_completeBlocks (reply : Text) :
    cleanForTts reply = strip (spokenPieces reply).flatten
      ∧ weave (spokenPieces reply) (completeBlocks reply) = reply := by
  constructor
  · unfold cleanForTts spokenPieces
    rw [flatten_outsideBlocks]
  · exact weave_blocksOf reply.length reply

/-- `re.search` finds the first of the blocks that `re.sub` deletes. -/
theorem head?_completeBlocks (reply : Text) : (completeBlocks reply).head? = firstBlock reply := by
  unfold completeBlocks
  cases hlength : reply.length with
  | zero =>
      rw [List.length_eq_zero_iff.mp hlength]
      rfl
  | succ n =>
      unfold blocksOf firstBlock
      cases splitOnce blockOpen reply with
      | none => rfl
      | some p =>
          simp only
          cases splitOnce blockClose p.2 with
          | none => rfl
          | some q => rfl

/-! ## §2. What is handed on. -/

/-- The object of a block, with `other` for a type that is not valid. -/
def requestOf (fields : List (Text × Json)) : List (Text × Json) :=
  match dictGet fields (txt "service_type") .null with
  | .str serviceType =>
    if serviceType ∈ validServiceTypes then fields
    else dictSet fields (txt "service_type") (.str (txt "other"))
  | _ => dictSet fields (txt "service_type") (.str (txt "other"))

/-- The service request says what the block says. -/
def SaysBlock (py : Python) (dict : PyDict py) (block : Text) : Prop :=
  ∃ fields, loads py (strip block) = .ok (.obj fields) ∧ dict.fields = requestOf fields

/-- **Every deleted block is handed on**, in order. -/
def HandedOn (py : Python) (completion : Completion) : Prop :=
  ∃ response, generateResponse py completion = some response
    ∧ List.Forall₂ (SaysBlock py) response.serviceRequest.toList
        (completeBlocks (completion.content.getD []))

/-- There is no block, or one that is an object whose type can be looked up. -/
def AtMostOneBlock (py : Python) (reply : Text) : Prop :=
  completeBlocks reply = []
    ∨ ∃ block fields, completeBlocks reply = [block]
      ∧ loads py (strip block) = .ok (.obj fields)
      ∧ Hashable (dictGet fields (txt "service_type") .null)

section
variable {py : Python}

/-- An object whose type can be looked up is found as it is to be handed on. -/
theorem extract_of_hashable {text block : Text} (hblock : firstBlock text = some block)
    {fields : List (Text × Json)} (hloads : loads py (strip block) = .ok (.obj fields))
    (hhash : Hashable (dictGet fields (txt "service_type") .null)) :
    ∃ dict : PyDict py, extractServiceRequest py text = .found dict
      ∧ dict.fields = requestOf fields := by
  rw [extractServiceRequest_of_block hblock]
  unfold parseRequest requestOf
  split
  next h => cases hloads.symm.trans h
  next h => cases hloads.symm.trans h
  next h => cases hloads.symm.trans h
  next fields' h =>
    cases hloads.symm.trans h
    cases htype : dictGet fields (txt "service_type") .null with
    | str serviceType =>
        simp only
        split
        · exact ⟨_, rfl, rfl⟩
        · exact ⟨_, rfl, rfl⟩
    | arr items =>
        rw [htype] at hhash
        exact hhash.elim
    | obj members =>
        rw [htype] at hhash
        exact hhash.elim
    | _ => exact ⟨_, rfl, rfl⟩
  next v hno h =>
    injection hloads.symm.trans h with hv
    exact absurd hv.symm (hno fields)

/-- **What is found** is the object of the first block, and its type can be looked up. -/
theorem extract_eq_found {text : Text} {dict : PyDict py}
    (h : extractServiceRequest py text = .found dict) :
    ∃ block fields, firstBlock text = some block ∧ loads py (strip block) = .ok (.obj fields)
      ∧ Hashable (dictGet fields (txt "service_type") .null)
      ∧ dict.fields = requestOf fields := by
  cases hblock : firstBlock text with
  | none => cases h.symm.trans (extract_of_no_block hblock)
  | some block =>
      cases hloads : loads py (strip block) with
      | error e =>
          rw [extract_of_error hblock hloads] at h
          cases e with
          | decodeError => exact absurd h (by simp)
          | intTooLong => exact absurd h (by simp)
          | recursion => exact absurd h (by simp)
      | ok v =>
          by_cases hobj : ∃ fields, v = .obj fields
          · obtain ⟨fields, rfl⟩ := hobj
            rcases extract_of_object hblock hloads with ⟨_, hraises⟩ | ⟨hhash, _⟩
            · cases h.symm.trans hraises
            · obtain ⟨dict', hfound, hfields⟩ := extract_of_hashable hblock hloads hhash
              cases h.symm.trans hfound
              exact ⟨block, fields, rfl, hloads, hhash, hfields⟩
          · rw [not_exists] at hobj
            cases h.symm.trans (extract_of_no_object hblock hloads hobj)

/-- The service request of a response is what was found. -/
theorem serviceRequest_of_generateResponse {completion : Completion}
    {response : VoiceAgentResponse py} (h : generateResponse py completion = some response) :
    match response.serviceRequest with
    | none => extractServiceRequest py (completion.content.getD []) = .nothing
    | some dict => extractServiceRequest py (completion.content.getD []) = .found dict := by
  unfold generateResponse at h
  simp only at h
  split at h
  next hnothing =>
    injection h with h
    rw [← h]
    exact hnothing
  next dict hfound =>
    injection h with h
    rw [← h]
    exact hfound
  · exact absurd h (by simp)

/-- What is found is handed on. -/
theorem generateResponse_of_found {completion : Completion} {dict : PyDict py}
    (h : extractServiceRequest py (completion.content.getD []) = .found dict) :
    ∃ response, generateResponse py completion = some response
      ∧ response.serviceRequest = some dict := by
  unfold generateResponse
  simp only [h]
  exact ⟨_, rfl, rfl⟩

theorem generateResponse_of_nothing {completion : Completion}
    (h : extractServiceRequest py (completion.content.getD []) = .nothing) :
    ∃ response, generateResponse py completion = some response
      ∧ response.serviceRequest = none := by
  unfold generateResponse
  simp only [h]
  exact ⟨_, rfl, rfl⟩

end

/-- **No block is lost**, exactly if there is none, or one that is an object whose type can be
looked up. -/
theorem handedOn_iff (py : Python) (completion : Completion) :
    HandedOn py completion ↔ AtMostOneBlock py (completion.content.getD []) := by
  have hhead := head?_completeBlocks (completion.content.getD [])
  unfold HandedOn AtMostOneBlock
  constructor
  · rintro ⟨response, hresponse, hall⟩
    have hfound := serviceRequest_of_generateResponse hresponse
    cases hrequest : response.serviceRequest with
    | none =>
        rw [hrequest, Option.toList_none, List.forall₂_nil_left_iff] at hall
        exact .inl hall
    | some dict =>
        rw [hrequest] at hall hfound
        obtain ⟨block, rest, _, hnil, hblocks⟩ := List.forall₂_cons_left_iff.mp hall
        rw [List.forall₂_nil_left_iff.mp hnil] at hblocks
        obtain ⟨block', fields, hfirst, hloads, hhash, _⟩ := extract_eq_found hfound
        rw [hblocks, hfirst] at hhead
        injection hhead with hhead
        exact .inr ⟨block, fields, hblocks, hhead ▸ hloads, hhash⟩
  · rintro (hnil | ⟨block, fields, hblocks, hloads, hhash⟩)
    · rw [hnil] at hhead
      obtain ⟨response, hresponse, hnone⟩ :=
        generateResponse_of_nothing (extract_of_no_block hhead.symm)
      refine ⟨response, hresponse, ?_⟩
      rw [hnone, hnil]
      exact .nil
    · rw [hblocks] at hhead
      obtain ⟨dict, hfound, hfields⟩ := extract_of_hashable hhead.symm hloads hhash
      obtain ⟨response, hresponse, hsome⟩ := generateResponse_of_found hfound
      refine ⟨response, hresponse, ?_⟩
      rw [hsome, hblocks]
      exact .cons ⟨fields, hloads, hfields⟩ .nil

/-- The reply for a guest who asks for two things. -/
def twoRequests : Text :=
  txt "Gladly. " ++ blockOpen ++ txt "\x7b\"service_type\": \"spa\"\x7d" ++ blockClose
    ++ txt " " ++ blockOpen ++ txt "\x7b\"service_type\": \"dining\"\x7d" ++ blockClose

/-- The second request is deleted from the text and dropped. -/
theorem second_request_is_lost :
    (∀ block ∈ completeBlocks twoRequests,
        ∃ fields, loads plainPython (strip block) = .ok (.obj fields))
      ∧ ¬ HandedOn plainPython { content := some twoRequests, totalTokens := none } := by
  have hblocks : completeBlocks twoRequests
      = [txt "\x7b\"service_type\": \"spa\"\x7d", txt "\x7b\"service_type\": \"dining\"\x7d"] := by
    decide +kernel
  rw [hblocks]
  constructor
  · have hspa : loads plainPython (strip (txt "\x7b\"service_type\": \"spa\"\x7d"))
        = .ok (.obj [(txt "service_type", .str (txt "spa"))]) := by decide +kernel
    have hdining : loads plainPython (strip (txt "\x7b\"service_type\": \"dining\"\x7d"))
        = .ok (.obj [(txt "service_type", .str (txt "dining"))]) := by decide +kernel
    intro block hblock
    rcases List.mem_cons.mp hblock with rfl | hblock
    · exact ⟨_, hspa⟩
    · rw [List.mem_singleton.mp hblock]
      exact ⟨_, hdining⟩
  · rintro ⟨response, _, hall⟩
    -- one service request cannot answer two blocks
    have hlength := hall.length_eq
    simp only [Option.getD_some, hblocks] at hlength
    cases hrequest : response.serviceRequest with
    | none => simp [hrequest] at hlength
    | some dict => simp [hrequest] at hlength

end HotelAgent

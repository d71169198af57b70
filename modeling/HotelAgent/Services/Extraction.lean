/-
  HotelAgent.Services.Extraction — the service request in a reply.

  `_extract_service_request` catches the JSONDecodeError of a malformed block and
  the KeyError that nothing in it raises.  What a well-formed block can hold it
  does not expect:

      no object                          `data.get`       AttributeError
      a list or an object as the type    the set lookup   TypeError
      an integer of too many digits      `json.loads`     ValueError
      brackets nested too deeply         `json.loads`     RecursionError

  Main result, `goodExtraction_iff`: the extraction returns None, or a valid
  request with the other entries of the block, if and only if the first block is
  malformed or an object whose type can be looked up.
-/
import HotelAgent.Services.VoiceAgent
import HotelAgent.Kafka.Delivery
import HotelAgent.Lib.Occurrences
import HotelAgent.Lib.Json.RoundTrip

namespace HotelAgent

open Lib

/-! ## §1. The first block. -/

/-- **The first block** stands between the first opening tag and the closing tag that is next. -/
def IsFirstBlock (text block : Text) : Prop :=
  ∃ before after, text = before ++ blockOpen ++ (block ++ blockClose ++ after)
    ∧ ¬ blockOpen <:+: before ∧ ¬ blockClose <:+: block

/-- The search finds the first block. -/
theorem firstBlock_eq_some_iff {text block : Text} :
    firstBlock text = some block ↔ IsFirstBlock text block := by
  have hopen : Unbordered blockOpen := by decide
  have hclose : Unbordered blockClose := by decide
  constructor
  · intro h
    unfold firstBlock at h
    split at h
    · exact absurd h (by simp)
    next before rest hsplit =>
      obtain ⟨⟨inside, after⟩, hsplit', heq⟩ := Option.map_eq_some_iff.mp h
      simp only at heq
      subst heq
      obtain ⟨htext, hbefore⟩ := (splitOnce_eq_some_iff (by decide) hopen).mp hsplit
      obtain ⟨hrest, hinside⟩ := (splitOnce_eq_some_iff (by decide) hclose).mp hsplit'
      exact ⟨before, after, by rw [htext, hrest], hbefore, hinside⟩
  · rintro ⟨before, after, htext, hbefore, hinside⟩
    have hsplit := (splitOnce_eq_some_iff (by decide) hopen).mpr ⟨htext, hbefore⟩
    have hsplit' : splitOnce blockClose (block ++ blockClose ++ after) = some (block, after) :=
      (splitOnce_eq_some_iff (by decide) hclose).mpr ⟨rfl, hinside⟩
    unfold firstBlock
    simp only [hsplit, hsplit', Option.map_some]

/-! ## §2. What comes out. -/

/-- The entries of an object, but for its type. -/
def otherEntries (fields : List (Text × Json)) : List (Text × Json) :=
  fields.filter fun f => f.1 ≠ txt "service_type"

/-- **The promise**: None, or a valid request with the other entries of the first block. -/
def GoodExtraction (py : Python) (text : Text) : Extraction py → Prop
  | .nothing => True
  | .found dict =>
    (∃ serviceType ∈ validServiceTypes,
      dictGet? dict.fields (txt "service_type") = some (.str serviceType))
    ∧ ∃ block fields, IsFirstBlock text block ∧ loads py (strip block) = .ok (.obj fields)
      ∧ otherEntries dict.fields = otherEntries fields
  | .raises => False

/-- The condition: the first block is malformed, or an object whose type can be looked up. -/
def Extractable (py : Python) (text : Text) : Prop :=
  ∀ block, IsFirstBlock text block →
    loads py (strip block) = .error .decodeError
      ∨ ∃ fields, loads py (strip block) = .ok (.obj fields)
        ∧ Hashable (dictGet fields (txt "service_type") .null)

section
variable {py : Python} {text block : Text}

theorem extract_of_no_block (h : firstBlock text = none) :
    extractServiceRequest py text = .nothing := by
  unfold extractServiceRequest
  simp only [h]

/-- A malformed block. -/
theorem extract_of_error (hblock : firstBlock text = some block) {e : LoadError}
    (h : loads py (strip block) = .error e) :
    extractServiceRequest py text
      = match e with
        | .decodeError => .nothing
        | _ => .raises := by
  rw [extractServiceRequest_of_block hblock]
  unfold parseRequest
  split
  next h' => cases h.symm.trans h'; rfl
  next h' => cases h.symm.trans h'; rfl
  next h' => cases h.symm.trans h'; rfl
  next h' => cases h.symm.trans h'
  next h' => cases h.symm.trans h'

/-- A value that is no object. -/
theorem extract_of_no_object (hblock : firstBlock text = some block) {v : Json}
    (h : loads py (strip block) = .ok v) (hv : ∀ fields, v ≠ .obj fields) :
    extractServiceRequest py text = .raises := by
  rw [extractServiceRequest_of_block hblock]
  unfold parseRequest
  split
  next h' => cases h.symm.trans h'
  next h' => cases h.symm.trans h'
  next h' => cases h.symm.trans h'
  next fields h' =>
    cases h.symm.trans h'
    exact absurd rfl (hv fields)
  next => rfl

/-- **An object**: it is kept with a valid type, gets `other` for one that is not, and an
unhashable type raises. -/
theorem extract_of_object (hblock : firstBlock text = some block) {fields : List (Text × Json)}
    (h : loads py (strip block) = .ok (.obj fields)) :
    (¬ Hashable (dictGet fields (txt "service_type") .null)
        ∧ extractServiceRequest py text = .raises)
      ∨ Hashable (dictGet fields (txt "service_type") .null)
        ∧ ∃ dict : PyDict py, extractServiceRequest py text = .found dict
          ∧ ((∃ serviceType ∈ validServiceTypes,
              dictGet fields (txt "service_type") .null = .str serviceType ∧ dict.fields = fields)
            ∨ dict.fields = dictSet fields (txt "service_type") (.str (txt "other"))) := by
  rw [extractServiceRequest_of_block hblock]
  unfold parseRequest
  split
  next h' => cases h.symm.trans h'
  next h' => cases h.symm.trans h'
  next h' => cases h.symm.trans h'
  next fields' h' =>
    cases h.symm.trans h'
    split
    next serviceType htype =>
      rw [htype]
      refine .inr ⟨trivial, ?_⟩
      split
      next hvalid => exact ⟨_, rfl, .inl ⟨serviceType, hvalid, rfl, rfl⟩⟩
      next => exact ⟨_, rfl, .inr rfl⟩
    next items htype =>
      rw [htype]
      exact .inl ⟨id, rfl⟩
    next members htype =>
      rw [htype]
      exact .inl ⟨id, rfl⟩
    next hstr harr hobj =>
      refine .inr ⟨?_, _, rfl, .inr rfl⟩
      cases htype : dictGet fields (txt "service_type") .null with
      | arr items => exact absurd htype (harr items)
      | obj members => exact absurd htype (hobj members)
      | _ => trivial
  next v hno h' =>
    have hv := h.symm.trans h'
    injection hv with hv
    exact absurd hv.symm (hno fields)

/-- What is found is as promised. -/
theorem good_of_found {fields : List (Text × Json)} {dict : PyDict py}
    (hblock : firstBlock text = some block) (hloads : loads py (strip block) = .ok (.obj fields))
    (h : (∃ serviceType ∈ validServiceTypes,
          dictGet fields (txt "service_type") .null = .str serviceType ∧ dict.fields = fields)
        ∨ dict.fields = dictSet fields (txt "service_type") (.str (txt "other"))) :
    GoodExtraction py text (.found dict) := by
  rcases h with ⟨serviceType, hvalid, hget, hfields⟩ | hfields
  · refine ⟨⟨serviceType, hvalid, ?_⟩, block, fields,
      firstBlock_eq_some_iff.mp hblock, hloads, by rw [hfields]⟩
    rw [hfields]
    unfold dictGet at hget
    cases hget? : dictGet? fields (txt "service_type") with
    | none =>
        rw [hget?] at hget
        exact absurd hget (by simp)
    | some v =>
        rw [hget?] at hget
        exact congrArg some hget
  · refine ⟨⟨txt "other", by decide, ?_⟩, block, fields,
      firstBlock_eq_some_iff.mp hblock, hloads, ?_⟩
    · rw [hfields]
      exact dictGet?_dictSet fields (txt "service_type") (.str (txt "other"))
    · rw [hfields]
      exact filter_dictSet fields (txt "service_type") (.str (txt "other"))

end

/-- **The extraction is total and valid**, exactly for the replies whose first block is malformed
or an object with a type that can be looked up. -/
theorem goodExtraction_iff (py : Python) (text : Text) :
    GoodExtraction py text (extractServiceRequest py text) ↔ Extractable py text := by
  unfold Extractable
  simp only [← firstBlock_eq_some_iff]
  cases hblock : firstBlock text with
  | none =>
      rw [extract_of_no_block hblock]
      exact iff_of_true trivial fun block h => absurd h (by simp)
  | some block =>
      simp only [Option.some.injEq, forall_eq']
      cases hloads : loads py (strip block) with
      | error e =>
          rw [extract_of_error hblock hloads]
          cases e with
          | decodeError => exact iff_of_true trivial (.inl rfl)
          | intTooLong => exact iff_of_false id (by simp)
          | recursion => exact iff_of_false id (by simp)
      | ok v =>
          by_cases hobj : ∃ fields, v = .obj fields
          · obtain ⟨fields, rfl⟩ := hobj
            rcases extract_of_object hblock hloads with ⟨hnot, heq⟩ | ⟨hhash, dict, heq, hdict⟩
            · rw [heq]
              refine iff_of_false id ?_
              rintro (h | ⟨fields', h, hhash⟩)
              · exact absurd h (by simp)
              · injection h with h
                injection h with h
                exact hnot (h ▸ hhash)
            · rw [heq]
              exact iff_of_true (good_of_found hblock hloads hdict) (.inr ⟨fields, rfl, hhash⟩)
          · rw [not_exists] at hobj
            rw [extract_of_no_object hblock hloads hobj]
            refine iff_of_false id ?_
            rintro (h | ⟨fields, h, _⟩)
            · exact absurd h (by simp)
            · injection h with h
              exact hobj fields h

/-- The block holds an array. -/
theorem array_block_raises :
    ¬ ∀ (py : Python) (text : Text), GoodExtraction py text (extractServiceRequest py text) := by
  intro h
  have hgood := h plainPython (txt "<service_request>[]</service_request>")
  have hblock : firstBlock (txt "<service_request>[]</service_request>") = some (txt "[]") := by
    decide +kernel
  have hloads : loads plainPython (strip (txt "[]")) = .ok (.arr []) := by decide +kernel
  rw [extract_of_no_object hblock hloads fun fields => by simp] at hgood
  exact hgood

end HotelAgent

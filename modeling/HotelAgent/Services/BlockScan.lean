/-
  HotelAgent.Services.BlockScan — the two patterns and the blocks they find.

  The extraction and the cleaning use a pattern each:

      `_extract_service_request`   `re.search`   `<service_request>(.*?)</service_request>`
      `_clean_for_tts`             `re.sub`      `<service_request>.*?</service_request>`

  The blocks of a text, by their positions: each starts at the first opening tag
  at or behind the end of the one before, and ends at the first closing tag behind
  this opening tag.

  Main results:
    * `firstBlock_eq_search`, `removeBlocks_eq_sub` — the model's two passes are
      what the engine does with the patterns.
    * `same_blocks` — both passes see exactly the blocks of the text.
-/
import HotelAgent.Services.VoiceAgent
import HotelAgent.Lib.Regex

namespace HotelAgent

open Lib

/-! ## §1. The patterns. -/

/-- `r"<service_request>(.*?)</service_request>"`. -/
def requestPattern : Regex CodePoint :=
  .seq (.lit blockOpen) (.seq (.group .lazyAny) (.lit blockClose))

/-- `r"<service_request>.*?</service_request>"`. -/
def blockPattern : Regex CodePoint :=
  .seq (.lit blockOpen) (.seq .lazyAny (.lit blockClose))

theorem blockTags_ne_nil : blockOpen ≠ [] ∧ blockClose ≠ [] := by decide

theorem requestPattern_eq : requestPattern = Regex.delimited true blockOpen blockClose := rfl

theorem blockPattern_eq : blockPattern = Regex.delimited false blockOpen blockClose := rfl

/-- Either pattern finds the first opening tag and the first closing tag behind it. -/
theorem search_tags (grouped : Bool) (text : Text) :
    (Regex.delimited grouped blockOpen blockClose).search text
      = match splitOnce blockOpen text with
        | none => none
        | some (front, rest) => (splitOnce blockClose rest).map fun p =>
            (front, Regex.delimitedMatch grouped blockOpen blockClose p.1 p.2) :=
  Regex.search_delimited blockTags_ne_nil.1 blockTags_ne_nil.2 grouped text

/-- **`match.group(1)`** is the first block. -/
theorem firstBlock_eq_search (text : Text) :
    firstBlock text = (requestPattern.search text).bind fun p => p.2.groups.head? := by
  rw [requestPattern_eq, search_tags]
  unfold firstBlock
  cases splitOnce blockOpen text with
  | none => rfl
  | some p =>
      simp only
      cases splitOnce blockClose p.2 with
      | none => rfl
      | some q => rfl

theorem removeBlocks_eq_subUpTo (n : Nat) (text : Text) :
    removeBlocks n text = blockPattern.subUpTo [] n text := by
  induction n generalizing text with
  | zero => rfl
  | succ n ih =>
      unfold removeBlocks Regex.subUpTo
      rw [blockPattern_eq, search_tags]
      cases splitOnce blockOpen text with
      | none => rfl
      | some p =>
          obtain ⟨front, rest⟩ := p
          simp only
          cases splitOnce blockClose rest with
          | none => rfl
          | some q =>
              simp only [Option.map_some]
              rw [ih, List.append_nil]
              rfl

/-- **`re.sub(pattern, "", text)`** removes the blocks. -/
theorem removeBlocks_eq_sub (text : Text) :
    removeBlocks text.length text = blockPattern.sub [] text :=
  removeBlocks_eq_subUpTo text.length text

/-! ## §2. The blocks of a text. -/

/-- A block: where its opening tag and its closing tag start. -/
structure Span where
  start : Nat
  close : Nat

/-- Where the opening tag ends. -/
def Span.opened (s : Span) : Nat := s.start + blockOpen.length

/-- Where the block ends. -/
def Span.stop (s : Span) : Nat := s.close + blockClose.length

/-- `text[i:j]`. -/
def slice (text : Text) (i j : Nat) : Text := (text.take j).drop i

/-- What stands between the tags. -/
def Span.interior (text : Text) (s : Span) : Text := slice text s.opened s.close

/-- The next block from position `i` on. -/
def IsNextBlock (text : Text) (i : Nat) (s : Span) : Prop :=
  FirstAt blockOpen text i s.start ∧ FirstAt blockClose text s.opened s.close

/-- The blocks from position `i` on, found left to right. -/
inductive Blocks (text : Text) : Nat → List Span → Prop where
  | last {i : Nat} : (∀ s, ¬ IsNextBlock text i s) → Blocks text i []
  | next {i : Nat} {s : Span} {spans : List Span} :
      IsNextBlock text i s → Blocks text s.stop spans → Blocks text i (s :: spans)

/-- The text from position `i` on that is outside the blocks. -/
def outside (text : Text) : Nat → List Span → Text
  | i, [] => text.drop i
  | i, s :: spans => slice text i s.start ++ outside text s.stop spans

theorem IsNextBlock.unique {text : Text} {i : Nat} {s s' : Span} (h : IsNextBlock text i s)
    (h' : IsNextBlock text i s') : s = s' := by
  obtain ⟨start, close⟩ := s
  obtain ⟨start', close'⟩ := s'
  obtain ⟨hopen, hclose⟩ := h
  obtain ⟨hopen', hclose'⟩ := h'
  have hstart : start = start' := hopen.unique hopen'
  subst hstart
  have hstop : close = close' := hclose.unique hclose'
  rw [hstop]

/-- A block ends behind the position from which it is sought, and inside the text. -/
theorem IsNextBlock.stop_bounds {text : Text} {i : Nat} {s : Span} (h : IsNextBlock text i s) :
    i < s.stop ∧ s.stop ≤ text.length := by
  obtain ⟨hopen, hclose⟩ := h
  have hpos := List.length_pos_of_ne_nil blockTags_ne_nil.2
  have hstart : i ≤ s.start := hopen.1
  have hopened : s.start + blockOpen.length ≤ s.close := hclose.1
  refine ⟨?_, hclose.add_length_le blockTags_ne_nil.2⟩
  show i < s.close + blockClose.length
  omega

/-- **The blocks of a text are determined.** -/
theorem Blocks.unique {text : Text} {i : Nat} {spans spans' : List Span}
    (h : Blocks text i spans) (h' : Blocks text i spans') : spans = spans' := by
  induction h generalizing spans' with
  | last hnone =>
      cases h' with
      | last _ => rfl
      | next hnext _ => exact absurd hnext (hnone _)
  | next hnext _ ih =>
      cases h' with
      | last hnone => exact absurd hnext (hnone _)
      | next hnext' hrest =>
          obtain rfl := hnext.unique hnext'
          rw [ih hrest]

/-- **Every text has its blocks.** -/
theorem exists_blocks (text : Text) (i : Nat) : ∃ spans, Blocks text i spans := by
  -- what is left of the text gets shorter with every block
  induction hleft : text.length - i using Nat.strong_induction_on generalizing i with
  | _ left ih =>
      by_cases hnext : ∃ s, IsNextBlock text i s
      · obtain ⟨s, hs⟩ := hnext
        obtain ⟨hlt, hle⟩ := hs.stop_bounds
        obtain ⟨spans, hspans⟩ := ih (text.length - s.stop) (by omega) s.stop rfl
        exact ⟨s :: spans, .next hs hspans⟩
      · exact ⟨[], .last (not_exists.mp hnext)⟩

/-! ## §3. What the patterns find. -/

/-- A pattern finds the next block. -/
theorem search_of_next (grouped : Bool) {text : Text} {i : Nat} {s : Span}
    (h : IsNextBlock text i s) :
    (Regex.delimited grouped blockOpen blockClose).search (text.drop i)
      = some (slice text i s.start,
          Regex.delimitedMatch grouped blockOpen blockClose (s.interior text)
            (text.drop s.stop)) := by
  obtain ⟨hopen, hclose⟩ := h
  have hsplit := (splitOnce_drop_eq_some_iff blockTags_ne_nil.1).mpr ⟨s.start, hopen, rfl, rfl⟩
  have hsplit' := (splitOnce_drop_eq_some_iff blockTags_ne_nil.2).mpr ⟨s.close, hclose, rfl, rfl⟩
  rw [search_tags, hsplit]
  show (splitOnce blockClose (text.drop s.opened)).map _ = _
  rw [hsplit']
  rfl

/-- Where there is no next block, a pattern finds nothing. -/
theorem search_of_last (grouped : Bool) {text : Text} {i : Nat}
    (h : ∀ s, ¬ IsNextBlock text i s) :
    (Regex.delimited grouped blockOpen blockClose).search (text.drop i) = none := by
  rw [search_tags]
  cases hopen : splitOnce blockOpen (text.drop i) with
  | none => rfl
  | some p =>
      obtain ⟨front, rest⟩ := p
      obtain ⟨start, hstart, _, rfl⟩ :=
        (splitOnce_drop_eq_some_iff blockTags_ne_nil.1).mp hopen
      cases hclose : splitOnce blockClose (text.drop (start + blockOpen.length)) with
      -- the first opening tag is never closed
      | none => simp only [hclose, Option.map_none]
      | some q =>
          obtain ⟨close, hclose, _, _⟩ :=
            (splitOnce_drop_eq_some_iff blockTags_ne_nil.2).mp hclose
          exact absurd ⟨hstart, hclose⟩ (h ⟨start, close⟩)

/-- **The substitution leaves what is outside the blocks.** -/
theorem outside_eq_sub {text : Text} {i : Nat} {spans : List Span} (h : Blocks text i spans) :
    outside text i spans = blockPattern.sub [] (text.drop i) := by
  have hconsumes : blockPattern.Consumes :=
    Regex.consumes_delimited false blockTags_ne_nil.1 blockClose
  -- each block is one round of the substitution
  induction h with
  | last hnone =>
      have hsearch : blockPattern.search _ = none := search_of_last false hnone
      rw [Regex.sub_eq hconsumes, hsearch]
      rfl
  | next hnext _ ih =>
      have hsearch : blockPattern.search _ = _ := search_of_next false hnext
      rw [Regex.sub_eq hconsumes, hsearch, outside, ih]
      simp only [List.append_nil]
      rfl

/-- **The search finds the first block.** -/
theorem search_eq_head? {text : Text} {spans : List Span} (h : Blocks text 0 spans) :
    requestPattern.search text
      = spans.head?.map fun s => (slice text 0 s.start,
          Regex.delimitedMatch true blockOpen blockClose (s.interior text)
            (text.drop s.stop)) := by
  cases h with
  | last hnone => exact search_of_last true hnone
  | next hnext _ => exact search_of_next true hnext

/-- The extraction searches, and parses what it has found. -/
theorem extractServiceRequest_eq (py : Python) (text : Text) :
    extractServiceRequest py text
      = match (requestPattern.search text).bind fun p => p.2.groups.head? with
        | none => .nothing
        | some group => parseRequest py (strip group) := by
  rw [← firstBlock_eq_search]
  unfold extractServiceRequest
  cases firstBlock text with
  | none => rfl
  | some block => rfl

/-- **Both passes see the blocks of the text**: the cleaning speaks what is outside them, and the
extraction finds a match exactly if there is one, and parses the inside of the first. -/
theorem same_blocks (py : Python) (text : Text) :
    ∃ spans, Blocks text 0 spans ∧ (∀ spans', Blocks text 0 spans' → spans' = spans)
      ∧ cleanForTts text = strip (blockPattern.sub [] text)
      ∧ cleanForTts text = strip (outside text 0 spans)
      ∧ ((requestPattern.search text).isSome = true ↔ spans ≠ [])
      ∧ extractServiceRequest py text
        = match spans with
          | [] => .nothing
          | s :: _ => parseRequest py (strip (s.interior text)) := by
  obtain ⟨spans, hspans⟩ := exists_blocks text 0
  have hsearch := search_eq_head? hspans
  have hclean : cleanForTts text = strip (blockPattern.sub [] text) := by
    rw [cleanForTts, removeBlocks_eq_sub]
  refine ⟨spans, hspans, fun spans' h => h.unique hspans, hclean, ?_, ?_, ?_⟩
  · rw [hclean, outside_eq_sub hspans, List.drop_zero]
  · rw [hsearch, Option.isSome_map, List.isSome_head?]
  · rw [extractServiceRequest_eq, hsearch]
    cases spans with
    | nil => rfl
    | cons s spans => rfl

/-- An opening tag inside a block belongs to it, and a closing tag in front of it does not. -/
example : blockPattern.sub []
    (txt "a</service_request>b<service_request>c<service_request>d</service_request>e")
    = txt "a</service_request>be" := by decide +kernel

end HotelAgent

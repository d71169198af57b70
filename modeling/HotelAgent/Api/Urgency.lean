/-
  HotelAgent.Api.Urgency — two orders of the open service requests.

      v_pending_service_requests       rank of the priority, newest first
      ServiceRequest.Meta.ordering     priority descending, newest first

  The priorities of `Meta.ordering` are texts, which the database compares by its
  collation: `high` comes before `low`, and so at the end of a descending order.
  A priority that is none of the choices has no rank; a NULL comes last.

  Main result, `urgencyAgrees_iff`: the listings by `Meta.ordering` are listings of
  the view, exactly if no open request is `high` beside a `normal` or a `low` one,
  and the open requests of other priorities are where the view has them.
-/
import HotelAgent.Lib.Listings
import HotelAgent.Api.ServiceRequests
import Mathlib.Order.WithBot

namespace HotelAgent

open Lib

/-! ## §1. The two orders. -/

/-- A collation of the database, by the sort keys of the texts.  Different texts have different
keys, and lower-case letters are in alphabetical order. -/
structure Collation (K : Type) [LinearOrder K] where
  key : Text → K
  injective : Function.Injective key
  alphabetical : key (txt "high") < key (txt "low") ∧ key (txt "low") < key (txt "normal")
    ∧ key (txt "normal") < key (txt "urgent")

/-- `WHERE sr.status IN ('pending', 'assigned')` -/
def openRequests (requests : Table ServiceRequest.id) : List ServiceRequest :=
  requests.rows.filter fun r => r.status = .pending ∨ r.status = .assigned

/-- `CASE sr.priority WHEN 'urgent' THEN 1 … END`; `⊤` is the NULL. -/
def urgencyRank (priority : Text) : WithTop Nat :=
  if priority = txt "urgent" then 1
  else if priority = txt "high" then 2
  else if priority = txt "normal" then 3
  else if priority = txt "low" then 4
  else ⊤

/-- The `ORDER BY` of `v_pending_service_requests`. -/
def pendingViewOrder : ServiceRequest → ServiceRequest → Prop :=
  thenBy (ascending fun r => urgencyRank r.priority) (descending ServiceRequest.createdAt)

/-- The priority is one of the choices. -/
def IsPriority (priority : Text) : Prop := priority ∈ priorityChoices.map (·.1)

theorem isPriority_iff {priority : Text} :
    IsPriority priority ↔ priority = txt "low" ∨ priority = txt "normal"
      ∨ priority = txt "high" ∨ priority = txt "urgent" := by
  simp [IsPriority, priorityChoices]

theorem urgencyRank_of_not_isPriority {priority : Text} (h : ¬ IsPriority priority) :
    urgencyRank priority = ⊤ := by
  rw [isPriority_iff, not_or, not_or, not_or] at h
  obtain ⟨hlow, hnormal, hhigh, hurgent⟩ := h
  unfold urgencyRank
  rw [if_neg hurgent, if_neg hhigh, if_neg hnormal, if_neg hlow]

theorem urgencyRank_ne_top {priority : Text} (h : IsPriority priority) :
    urgencyRank priority ≠ ⊤ := by
  rcases isPriority_iff.mp h with rfl | rfl | rfl | rfl
  · exact WithTop.coe_ne_top
  · exact WithTop.coe_ne_top
  · exact WithTop.coe_ne_top
  · exact WithTop.coe_ne_top

section
variable {K : Type} [LinearOrder K] (C : Collation K)

/-- `ServiceRequest.Meta.ordering`: `["-priority", "-created_at"]`. -/
def metaOrdering : ServiceRequest → ServiceRequest → Prop :=
  thenBy (descending fun r => C.key r.priority) (descending ServiceRequest.createdAt)

theorem isOrder_metaOrdering : IsOrder (metaOrdering C) :=
  (isOrder_descending _).thenBy (isOrder_descending _)

/-- The rows are where the view has them. -/
structure AgreesOnUrgency (rows : List ServiceRequest) : Prop where
  /-- a `high` request is beside no `normal` or `low` one -/
  high : ∀ a ∈ rows, ∀ b ∈ rows, a.priority = txt "high" →
    b.priority ≠ txt "normal" ∧ b.priority ≠ txt "low"
  /-- other texts come before the choices -/
  others : ∀ a ∈ rows, ∀ b ∈ rows, ¬ IsPriority a.priority → IsPriority b.priority →
    C.key a.priority < C.key b.priority
  /-- of two other texts, the one that comes first has the older request -/
  ages : ∀ a ∈ rows, ∀ b ∈ rows, ¬ IsPriority a.priority → ¬ IsPriority b.priority →
    C.key b.priority < C.key a.priority → b.createdAt ≤ a.createdAt

/-- The choices in alphabetical order. -/
def alphabet (i : Fin 4) : Text := [txt "high", txt "low", txt "normal", txt "urgent"].get i

theorem isPriority_iff_alphabet {priority : Text} :
    IsPriority priority ↔ ∃ i, alphabet i = priority := by
  rw [isPriority_iff]
  constructor
  · rintro (rfl | rfl | rfl | rfl)
    · exact ⟨1, rfl⟩
    · exact ⟨2, rfl⟩
    · exact ⟨0, rfl⟩
    · exact ⟨3, rfl⟩
  · rintro ⟨i, rfl⟩
    revert i
    decide

/-- The collation has them in that order. -/
theorem strictMono_alphabet : StrictMono fun i => C.key (alphabet i) := by
  obtain ⟨hhl, hln, hnu⟩ := C.alphabetical
  refine Fin.strictMono_iff_lt_succ.mpr fun i => ?_
  match i with
  | 0 => exact hhl
  | 1 => exact hln
  | 2 => exact hnu

/-- The view ranks the choices from the end of the alphabet, but for `high`. -/
theorem urgencyRank_alphabet : ∀ i j, j < i →
    (urgencyRank (alphabet i) < urgencyRank (alphabet j)
      ↔ ¬ (alphabet j = txt "high" ∧ (alphabet i = txt "normal" ∨ alphabet i = txt "low"))) := by
  decide

/-- Of two choices, the one that comes later in the alphabet has the better rank, but before a
`high`. -/
theorem urgencyRank_lt_iff {p q : Text} (hp : IsPriority p) (hq : IsPriority q)
    (hlt : C.key q < C.key p) :
    urgencyRank p < urgencyRank q
      ↔ ¬ (q = txt "high" ∧ (p = txt "normal" ∨ p = txt "low")) := by
  obtain ⟨i, rfl⟩ := isPriority_iff_alphabet.mp hp
  obtain ⟨j, rfl⟩ := isPriority_iff_alphabet.mp hq
  exact urgencyRank_alphabet i j ((strictMono_alphabet C).lt_iff_lt.mp hlt)

/-! ## §2. When the orders agree. -/

/-- Rows of one priority come in the same order. -/
theorem pendingViewOrder_of_same {a b : ServiceRequest} (hpriority : a.priority = b.priority)
    (hcreated : b.createdAt ≤ a.createdAt) : pendingViewOrder a b := by
  refine ⟨?_, fun _ => hcreated⟩
  show urgencyRank a.priority ≤ urgencyRank b.priority
  rw [hpriority]

/-- A row whose text comes later stands first. -/
theorem metaOrdering_of_key_lt {a b : ServiceRequest} (h : C.key b.priority < C.key a.priority) :
    metaOrdering C a b :=
  ⟨h.le, fun hback => absurd h (not_lt_of_ge hback)⟩

/-- Where the rows are as the view has them, what may follow by `Meta.ordering` may follow in the
view. -/
theorem AgreesOnUrgency.follows {rows : List ServiceRequest} (h : AgreesOnUrgency C rows)
    {a b : ServiceRequest} (ha : a ∈ rows) (hb : b ∈ rows) (hab : metaOrdering C a b) :
    pendingViewOrder a b := by
  obtain ⟨hkey, hcreated⟩ := hab
  rcases lt_or_eq_of_le hkey with hlt | heq
  · by_cases hpa : IsPriority a.priority
    · by_cases hpb : IsPriority b.priority
      · -- two choices, and no `high` behind a `normal` or a `low`
        have hrank : urgencyRank a.priority < urgencyRank b.priority := by
          refine (urgencyRank_lt_iff C hpa hpb hlt).mpr fun ⟨hhigh, hrest⟩ => ?_
          exact hrest.elim (h.high b hb a ha hhigh).1 (h.high b hb a ha hhigh).2
        exact ⟨hrank.le, fun hback => absurd hrank (not_lt_of_ge hback)⟩
      · have hrank : urgencyRank a.priority < urgencyRank b.priority := by
          rw [urgencyRank_of_not_isPriority hpb]
          exact lt_top_iff_ne_top.mpr (urgencyRank_ne_top hpa)
        exact ⟨hrank.le, fun hback => absurd hrank (not_lt_of_ge hback)⟩
    · by_cases hpb : IsPriority b.priority
      · exact absurd hlt (h.others a ha b hb hpa hpb).asymm
      · -- neither has a rank
        refine ⟨?_, fun _ => h.ages a ha b hb hpa hpb hlt⟩
        show urgencyRank a.priority ≤ urgencyRank b.priority
        rw [urgencyRank_of_not_isPriority hpa, urgencyRank_of_not_isPriority hpb]
  · exact pendingViewOrder_of_same (C.injective heq.symm) (hcreated heq.ge)

/-- Otherwise two rows are in the wrong order. -/
theorem agreesOnUrgency_of_follows {rows : List ServiceRequest}
    (h : ∀ a ∈ rows, ∀ b ∈ rows, metaOrdering C a b → pendingViewOrder a b) :
    AgreesOnUrgency C rows where
  high := by
    obtain ⟨hhl, hln, _⟩ := C.alphabetical
    intro a ha b hb hhigh
    -- what comes later in the alphabet stands before the `high`, and so has no worse a rank
    have hfirst : ∀ priority, b.priority = priority → C.key (txt "high") < C.key priority →
        urgencyRank priority ≤ urgencyRank (txt "high") := by
      rintro priority rfl hlt
      rw [← hhigh] at hlt ⊢
      exact (h b hb a ha (metaOrdering_of_key_lt C hlt)).1
    constructor
    · intro hnormal
      exact absurd (hfirst _ hnormal (hhl.trans hln)) (by decide)
    · intro hlow
      exact absurd (hfirst _ hlow hhl) (by decide)
  others := by
    intro a ha b hb hpa hpb
    by_contra hle
    -- the other text would stand before a choice, which the view has first
    have hne : C.key b.priority ≠ C.key a.priority :=
      fun heq => hpa (C.injective heq ▸ hpb)
    have hlt := lt_of_le_of_ne (le_of_not_gt hle) hne
    have hrank : urgencyRank a.priority ≤ urgencyRank b.priority :=
      (h a ha b hb (metaOrdering_of_key_lt C hlt)).1
    rw [urgencyRank_of_not_isPriority hpa, top_le_iff] at hrank
    exact urgencyRank_ne_top hpb hrank
  ages := by
    intro a ha b hb hpa hpb hlt
    refine (h a ha b hb (metaOrdering_of_key_lt C hlt)).2 ?_
    show urgencyRank b.priority ≤ urgencyRank a.priority
    rw [urgencyRank_of_not_isPriority hpa, urgencyRank_of_not_isPriority hpb]

/-- **The two orders of the open requests**: every listing by `Meta.ordering` is one of the view,
exactly if no `high` request is open beside a `normal` or a `low` one, and those of other
priorities are where the view has them. -/
theorem urgencyAgrees_iff (requests : Table ServiceRequest.id) :
    (∀ listing, IsListing (metaOrdering C) (openRequests requests) listing →
        IsListing pendingViewOrder (openRequests requests) listing)
      ↔ AgreesOnUrgency C (openRequests requests) := by
  have halike : ∀ a b, metaOrdering C a b → metaOrdering C b a → pendingViewOrder a b := by
    rintro a b ⟨hkey, hcreated⟩ ⟨hback, _⟩
    exact pendingViewOrder_of_same (C.injective (le_antisymm hback hkey)) (hcreated hback)
  rw [listings_refine_iff (isOrder_metaOrdering C) halike]
  exact ⟨agreesOnUrgency_of_follows C, fun h a ha b hb => h.follows C ha hb⟩

end

/-- Texts by their code points. -/
def codePointCollation : Collation (List Nat) where
  key := List.map fun c => c.val
  injective := List.map_injective_iff.mpr Fin.val_injective
  alphabetical := by decide

/-- The demo guest's request, once with a low and once with a high priority. -/
def lowAndHigh : Table ServiceRequest.id :=
  ⟨[{ demoRequest with priority := txt "low" },
    { demoRequest with id := 31, priority := txt "high" }], by decide⟩

/-- The `low` request comes first. -/
theorem high_comes_last :
    ¬ ∀ (K : Type) [LinearOrder K] (C : Collation K) (requests : Table ServiceRequest.id) listing,
      IsListing (metaOrdering C) (openRequests requests) listing →
        IsListing pendingViewOrder (openRequests requests) listing := by
  intro h
  have hmeta : metaOrdering codePointCollation { demoRequest with priority := txt "low" }
      { demoRequest with id := 31, priority := txt "high" } :=
    metaOrdering_of_key_lt _ codePointCollation.alphabetical.1
  have hlisting : IsListing (metaOrdering codePointCollation) (openRequests lowAndHigh)
      lowAndHigh.rows :=
    ⟨List.Perm.refl _, List.pairwise_pair.mpr hmeta⟩
  have hview := List.pairwise_pair.mp (h _ codePointCollation lowAndHigh _ hlisting).sorted
  exact absurd hview.1 (by unfold ascending; decide)

end HotelAgent

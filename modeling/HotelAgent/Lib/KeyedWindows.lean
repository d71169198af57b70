/-
  HotelAgent.Lib.KeyedWindows — limiters by key, for requests that choose theirs.

  Every key has a limiter of its own.  A request is counted under one key or none,
  and may be sent in other forms, each with a key of its own.  Whoever sends the
  requests can then spread them over keys, or gather them under one:

      spread     each request can get around the keys of the others, so that all
                 of them pass
      gathered   the requests that can come under one key do, and its limit
                 refuses one of them, if they are a crowd

  Main results:
    * `allPass_of_uncrowded` — where no key is crowded, everybody passes in every
      form.
    * `exists_allPass` — if each request can get around the others, everybody
      passes in some form.
    * `forms_immaterial_iff_uncrowded` — the forms make no difference where no
      key is crowded; and only there, as long as each request can get around the
      others.
-/
import HotelAgent.Lib.FixedWindow
import Mathlib.Data.List.Forall2
import Mathlib.Data.List.Perm.Subperm

namespace HotelAgent.Lib

/-- Requests by key, and their other forms. -/
structure Keying (W K T : Type*) where
  /-- The key a request is counted under, and what its limiter meets. -/
  arrival : W → Option (K × Hit T)
  /-- The second may be sent instead of the first. -/
  Form : W → W → Prop
  refl : ∀ w, Form w w
  limit_pos : ∀ {w k a}, arrival w = some (k, a) → 0 < a.limit

variable {W K T : Type*} [DecidableEq K]

namespace Keying

variable (S : Keying W K T)

/-- The request as the limiter of a key meets it, if it does. -/
def hitOn (k : K) (w : W) : Option (Hit T) :=
  (S.arrival w).bind fun p => if p.1 = k then some p.2 else none

/-- What the limiter of a key meets. -/
def hitsOn (k : K) (ws : List W) : List (Hit T) := ws.filterMap (S.hitOn k)

/-- Some form of the request is counted under the key. -/
def Takes (w : W) (k : K) (a : Hit T) : Prop := ∃ w', S.Form w w' ∧ S.arrival w' = some (k, a)

/-- These are forms of those, one by one. -/
def Forms (ws ws' : List W) : Prop := List.Forall₂ S.Form ws ws'

/-- Each request can get around any keys that are fewer than the requests. -/
def Spread (ws : List W) : Prop :=
  ∀ w ∈ ws, ∀ taken : List K, taken.length < ws.length →
    ∃ w', S.Form w w' ∧ ∀ k ∈ taken, S.hitOn k w' = none

variable [LinearOrder T]

/-- No limiter refuses anybody. -/
def AllPass (ws : List W) : Prop := ∀ k, Window.fresh.AllAdmitted (S.hitsOn k ws)

/-- Of the requests that can come under a key, counted from any of them on, fewer come before a
later one, within the window of the first, than that one's limit. -/
def Uncrowded (ws : List W) : Prop :=
  ∀ k before v mid w after a c, ws = before ++ v :: mid ++ w :: after →
    S.Takes v k a → S.Takes w k c → c.now < a.counterExpiry →
      ∀ between : List W, between.Sublist mid → (∀ m ∈ between, ∃ b, S.Takes m k b) →
        (between.length : Int) + 1 < c.limit

/-- The requests come in the order of time, whatever their forms. -/
def Ordered (ws : List W) : Prop :=
  ws.Pairwise fun v w => ∀ k a k' c, S.Takes v k a → S.Takes w k' c → a.now ≤ c.now

variable {S}

/-! ## §1. One request. -/

omit [LinearOrder T] in
theorem hitOn_eq_some_iff {k : K} {w : W} {a : Hit T} :
    S.hitOn k w = some a ↔ S.arrival w = some (k, a) := by
  rw [hitOn, Option.bind_eq_some_iff]
  constructor
  · rintro ⟨⟨k', a'⟩, harrival, h⟩
    split at h
    next hsame =>
      injection h with h
      rw [harrival, ← h, ← hsame]
    next => exact absurd h (by simp)
  · intro harrival
    exact ⟨(k, a), harrival, if_pos rfl⟩

omit [LinearOrder T] in
theorem hitsOn_cons_of_some {k : K} {w : W} {a : Hit T} (h : S.hitOn k w = some a)
    (ws : List W) : S.hitsOn k (w :: ws) = a :: S.hitsOn k ws :=
  List.filterMap_cons_some h

omit [LinearOrder T] in
theorem hitsOn_cons_of_none {k : K} {w : W} (h : S.hitOn k w = none) (ws : List W) :
    S.hitsOn k (w :: ws) = S.hitsOn k ws :=
  List.filterMap_cons_none h

omit [LinearOrder T] in
theorem hitsOn_append (k : K) (ws ws' : List W) :
    S.hitsOn k (ws ++ ws') = S.hitsOn k ws ++ S.hitsOn k ws' :=
  List.filterMap_append

omit [LinearOrder T] in
theorem limit_pos_of_mem_hitsOn {k : K} {ws : List W} {a : Hit T} (h : a ∈ S.hitsOn k ws) :
    0 < a.limit := by
  obtain ⟨w, _, ha⟩ := List.mem_filterMap.mp h
  exact S.limit_pos (hitOn_eq_some_iff.mp ha)

omit [DecidableEq K] [LinearOrder T] in
/-- Requests whose forms are split are split. -/
theorem Forms.append_right {ws l l' : List W} (h : S.Forms ws (l ++ l')) :
    ∃ v v', ws = v ++ v' ∧ S.Forms v l ∧ S.Forms v' l' :=
  ⟨ws.take l.length, ws.drop l.length, (List.take_append_drop _ _).symm,
    List.forall₂_take_append _ _ _ h, List.forall₂_drop_append _ _ _ h⟩

/-! ## §2. No crowd. -/

omit [LinearOrder T] in
/-- What a limiter meets are forms of requests that can come under its key. -/
theorem exists_sublist_of_hitsOn (k : K) {ws ws' : List W} (h : S.Forms ws ws') :
    ∃ between : List W, between.Sublist ws ∧ (∀ m ∈ between, ∃ b, S.Takes m k b)
      ∧ between.length = (S.hitsOn k ws').length := by
  induction h with
  | nil => exact ⟨[], .slnil, by simp, rfl⟩
  | @cons w w' ws ws' hform _ ih =>
      obtain ⟨between, hsub, htake, hlength⟩ := ih
      cases hhit : S.hitOn k w' with
      | none =>
          refine ⟨between, hsub.cons w, htake, ?_⟩
          rw [hitsOn_cons_of_none hhit, hlength]
      | some a =>
          refine ⟨w :: between, hsub.cons_cons w, ?_, ?_⟩
          · intro m hm
            rcases List.mem_cons.mp hm with rfl | hm
            · exact ⟨a, w', hform, hitOn_eq_some_iff.mp hhit⟩
            · exact htake m hm
          · rw [hitsOn_cons_of_some hhit, List.length_cons, List.length_cons, hlength]

omit [LinearOrder T] in
/-- Two requests under a key, and those in between. -/
theorem split_of_hitsOn {k : K} {ws : List W} {before mid rest : List (Hit T)} {a c : Hit T}
    (h : S.hitsOn k ws = before ++ a :: mid ++ c :: rest) :
    ∃ l₁ x l₂ y l₃, ws = l₁ ++ x :: l₂ ++ y :: l₃ ∧ S.hitOn k x = some a
      ∧ mid = S.hitsOn k l₂ ∧ S.hitOn k y = some c := by
  rw [hitsOn, List.append_assoc, List.filterMap_eq_append_iff] at h
  obtain ⟨l₁, l, rfl, _, hl⟩ := h
  rw [List.cons_append, List.filterMap_eq_cons_iff] at hl
  obtain ⟨m₁, x, l, rfl, _, ha, hl⟩ := hl
  rw [List.filterMap_eq_append_iff] at hl
  obtain ⟨l₂, l, rfl, hmid, hl⟩ := hl
  obtain ⟨m₂, y, l₃, rfl, hm₂, hc, _⟩ := List.filterMap_eq_cons_iff.mp hl
  refine ⟨l₁ ++ m₁, x, l₂ ++ m₂, y, l₃, by simp, ha, ?_, hc⟩
  have hnone : S.hitsOn k m₂ = [] := List.filterMap_eq_nil_iff.mpr hm₂
  rw [hitsOn_append, hnone, List.append_nil, ← hmid]
  rfl

/-- **Where no key is crowded, everybody passes**, whatever the forms. -/
theorem allPass_of_uncrowded {ws ws' : List W} (h : S.Uncrowded ws) (hforms : S.Forms ws ws') :
    S.AllPass ws' := by
  intro k
  refine Window.all_admitted_of_uncrowded (fun a ha => limit_pos_of_mem_hitsOn ha) ?_
  intro before a mid c rest hsplit hsoon
  obtain ⟨l₁, x, l₂, y, l₃, rfl, ha, rfl, hc⟩ := split_of_hitsOn hsplit
  -- the two that meet the limiter, `x` and `y`, are forms of two requests, `v` and `w`
  obtain ⟨vs, rs, rfl, hvs, hrs⟩ := hforms.append_right
  obtain ⟨before, tail, rfl, _, htail⟩ := Forms.append_right hvs
  obtain ⟨v, mid, hv, hmid, rfl⟩ := List.forall₂_cons_right_iff.mp htail
  obtain ⟨w, after, hw, _, rfl⟩ := List.forall₂_cons_right_iff.mp hrs
  obtain ⟨between, hsub, htake, hlength⟩ := exists_sublist_of_hitsOn k hmid
  rw [← hlength]
  exact h k before v mid w after a c rfl ⟨x, hv, hitOn_eq_some_iff.mp ha⟩
    ⟨y, hw, hitOn_eq_some_iff.mp hc⟩ hsoon between hsub htake

/-! ## §3. Choosing forms. -/

omit [LinearOrder T] in
/-- Forms that keep all requests away from a key. -/
theorem exists_avoiding {k : K} {ws : List W}
    (h : ∀ w ∈ ws, ∃ w', S.Form w w' ∧ S.hitOn k w' = none) :
    ∃ ws', S.Forms ws ws' ∧ S.hitsOn k ws' = [] := by
  induction ws with
  | nil => exact ⟨[], .nil, rfl⟩
  | cons w ws ih =>
      obtain ⟨w', hform, hnone⟩ := h w List.mem_cons_self
      obtain ⟨ws', hforms, hempty⟩ := ih fun v hv => h v (List.mem_cons_of_mem w hv)
      refine ⟨w' :: ws', hforms.cons hform, ?_⟩
      rw [hitsOn_cons_of_none hnone, hempty]

omit [LinearOrder T] in
/-- Forms that bring some of the requests to a key and keep the others away. -/
theorem exists_taking {k : K} {between ws : List W} (hsub : between.Sublist ws)
    (htake : ∀ m ∈ between, ∃ b, S.Takes m k b)
    (h : ∀ w ∈ ws, ∃ w', S.Form w w' ∧ S.hitOn k w' = none) :
    ∃ ws', S.Forms ws ws' ∧ (S.hitsOn k ws').length = between.length
      ∧ ∀ a ∈ S.hitsOn k ws', ∃ w ∈ ws, S.Takes w k a := by
  induction hsub with
  | slnil => exact ⟨[], .nil, rfl, fun a ha => absurd ha (by simp [hitsOn])⟩
  | @cons between ws w hsub ih =>
      obtain ⟨w', hform, hnone⟩ := h w List.mem_cons_self
      obtain ⟨ws', hforms, hlength, hfrom⟩ :=
        ih htake fun v hv => h v (List.mem_cons_of_mem w hv)
      refine ⟨w' :: ws', hforms.cons hform, ?_, ?_⟩
      · rw [hitsOn_cons_of_none hnone, hlength]
      · intro a ha
        rw [hitsOn_cons_of_none hnone] at ha
        obtain ⟨v, hv, hva⟩ := hfrom a ha
        exact ⟨v, List.mem_cons_of_mem w hv, hva⟩
  | @cons_cons between ws w hsub ih =>
      obtain ⟨b, w', hform, harrival⟩ := htake w List.mem_cons_self
      have hhit : S.hitOn k w' = some b := hitOn_eq_some_iff.mpr harrival
      obtain ⟨ws', hforms, hlength, hfrom⟩ :=
        ih (fun m hm => htake m (List.mem_cons_of_mem w hm))
          fun v hv => h v (List.mem_cons_of_mem w hv)
      refine ⟨w' :: ws', hforms.cons hform, ?_, ?_⟩
      · rw [hitsOn_cons_of_some hhit, List.length_cons, List.length_cons, hlength]
      · intro a ha
        rw [hitsOn_cons_of_some hhit] at ha
        rcases List.mem_cons.mp ha with rfl | ha
        · exact ⟨w, List.mem_cons_self, w', hform, harrival⟩
        · obtain ⟨v, hv, hva⟩ := hfrom a ha
          exact ⟨v, List.mem_cons_of_mem w hv, hva⟩

omit [LinearOrder T] in
/-- Forms that give every request a key of its own, and none that is taken. -/
theorem exists_distinct {n : Nat} {ws : List W}
    (h : ∀ w ∈ ws, ∀ taken : List K, taken.length < n →
      ∃ w', S.Form w w' ∧ ∀ k ∈ taken, S.hitOn k w' = none) (taken : List K)
    (hn : taken.length + ws.length ≤ n) :
    ∃ ws', S.Forms ws ws' ∧ (∀ k ∈ taken, S.hitsOn k ws' = [])
      ∧ ∀ k, (S.hitsOn k ws').length ≤ 1 := by
  induction ws generalizing taken with
  | nil => exact ⟨[], .nil, fun _ _ => rfl, fun _ => Nat.zero_le 1⟩
  | cons w ws ih =>
      rw [List.length_cons] at hn
      obtain ⟨w', hform, hfree⟩ := h w List.mem_cons_self taken (by omega)
      -- the key of this form is taken, too, for those that follow
      have hmore : (((S.arrival w').map (·.1)).toList ++ taken).length + ws.length ≤ n := by
        rw [List.length_append]
        have : ((S.arrival w').map (·.1)).toList.length ≤ 1 := by
          cases S.arrival w' <;> simp
        omega
      obtain ⟨ws', hforms, hempty, hone⟩ :=
        ih (fun v hv => h v (List.mem_cons_of_mem w hv)) _ hmore
      refine ⟨w' :: ws', hforms.cons hform, fun k hk => ?_, fun k => ?_⟩
      · rw [hitsOn_cons_of_none (hfree k hk)]
        exact hempty k (List.mem_append_right _ hk)
      · cases hhit : S.hitOn k w' with
        | none =>
            rw [hitsOn_cons_of_none hhit]
            exact hone k
        | some a =>
            -- the request has the key to itself
            have hown : k ∈ ((S.arrival w').map (·.1)).toList := by
              rw [hitOn_eq_some_iff.mp hhit]
              exact List.mem_cons_self
            rw [hitsOn_cons_of_some hhit, hempty k (List.mem_append_left _ hown)]
            exact le_refl 1

/-- **Spread over keys, everybody passes.** -/
theorem exists_allPass {ws : List W} (h : S.Spread ws) : ∃ ws', S.Forms ws ws' ∧ S.AllPass ws' := by
  obtain ⟨ws', hforms, _, hone⟩ := exists_distinct h [] (by simp)
  refine ⟨ws', hforms, fun k => ?_⟩
  refine Window.all_admitted_of_uncrowded (fun a ha => limit_pos_of_mem_hitsOn ha) ?_
  intro before a mid c rest hsplit _
  have hlength := hone k
  rw [hsplit] at hlength
  simp only [List.length_append, List.length_cons] at hlength
  omega

omit [LinearOrder T] [DecidableEq K] in
/-- Among different keys there is one that fewer than those do not take. -/
theorem exists_free_of_nodup {keys : List (Option K)} (hnodup : keys.Nodup) {taken : List K}
    (hlt : taken.length < keys.length) : ∃ key ∈ keys, ∀ k ∈ taken, key ≠ some k := by
  by_contra hall
  have hsubset : keys ⊆ taken.map some := by
    intro key hkey
    by_contra hfree
    refine hall ⟨key, hkey, fun k hk heq => hfree ?_⟩
    exact List.mem_map.mpr ⟨k, hk, heq.symm⟩
  have hlength := (List.Nodup.subperm hnodup hsubset).length_le
  rw [List.length_map] at hlength
  omega

/-! ## §4. A crowd. -/

/-- **A crowd can be gathered under one key**: if everybody passes whatever the forms, no key is
crowded. -/
theorem uncrowded_of_allPass {ws : List W} (htimes : S.Ordered ws) (hspread : S.Spread ws)
    (hall : ∀ ws', S.Forms ws ws' → S.AllPass ws') : S.Uncrowded ws := by
  intro k before v mid w after a c hws hv hw hsoon between hsub htake
  by_contra hcrowd
  rw [Int.not_lt] at hcrowd
  have htwo : 2 ≤ ws.length := by
    rw [hws]
    simp only [List.length_append, List.length_cons]
    omega
  have havoid : ∀ u ∈ ws, ∃ w', S.Form u w' ∧ S.hitOn k w' = none := by
    intro u hu
    obtain ⟨w', hform, hnone⟩ := hspread u hu [k] (by rw [List.length_singleton]; omega)
    exact ⟨w', hform, hnone k List.mem_cons_self⟩
  have hin : ∀ u, u ∈ before ∨ u ∈ mid ∨ u ∈ after → u ∈ ws := by
    intro u hu
    rw [hws]
    rcases hu with hu | hu | hu <;> simp [hu]
  -- bring `v`, `w` and those between to the key and keep the others away
  obtain ⟨before', hbefore, hnone⟩ := exists_avoiding fun u hu => havoid u (hin u (.inl hu))
  obtain ⟨mid', hmid, hlength, hfrom⟩ :=
    exists_taking hsub htake fun u hu => havoid u (hin u (.inr (.inl hu)))
  obtain ⟨after', hafter, hnone'⟩ :=
    exists_avoiding fun u hu => havoid u (hin u (.inr (.inr hu)))
  obtain ⟨v', hvform, hva⟩ := id hv
  obtain ⟨w', hwform, hwc⟩ := id hw
  have hforms : S.Forms ws (before' ++ v' :: mid' ++ w' :: after') := by
    rw [hws]
    exact List.rel_append (List.rel_append hbefore (hmid.cons hvform)) (hafter.cons hwform)
  have hcrowded : S.hitsOn k (before' ++ v' :: mid' ++ w' :: after')
      = a :: S.hitsOn k mid' ++ c :: [] := by
    rw [hitsOn_append, hitsOn_append, hnone, List.nil_append,
      hitsOn_cons_of_some (hitOn_eq_some_iff.mpr hva),
      hitsOn_cons_of_some (hitOn_eq_some_iff.mpr hwc), hnone']
  have hrefused : ¬ Window.fresh.AllAdmitted (a :: S.hitsOn k mid' ++ c :: []) := by
    refine Window.not_all_admitted_of_crowded (fun b hb => ?_) hsoon (by rw [hlength]; exact hcrowd)
    obtain ⟨m, hm, hmb⟩ := hfrom b hb
    refine lt_of_le_of_lt ?_ hsoon
    -- what comes between comes before `w`
    rw [hws, Ordered, List.append_assoc, List.pairwise_append] at htimes
    obtain ⟨_, _, hmw⟩ := List.pairwise_append.mp htimes.2.1
    exact hmw m (List.mem_cons_of_mem v hm) w List.mem_cons_self k b k c hmb hw
  exact hrefused (hcrowded ▸ hall _ hforms k)

/-! ## §5. What is seen of the limiters. -/

/-- **Forms that make no difference.**  Let `seen` be what is observed of a run, and let it be
`passed` when everybody passes and only then, which is not a matter of the forms.  Where no key is
crowded, the forms are immaterial to what is seen; and only there, if the requests come in the
order of time and each can get around the keys of the others. -/
theorem forms_immaterial_iff_uncrowded {α : Type*} {seen passed : List W → α}
    (hpassed : ∀ {ws ws'}, S.Forms ws ws' → passed ws' = passed ws)
    (hseen : ∀ ws, seen ws = passed ws ↔ S.AllPass ws) (ws : List W) :
    (S.Uncrowded ws → ∀ ws', S.Forms ws ws' → seen ws' = seen ws)
      ∧ (S.Ordered ws → S.Spread ws →
          ((∀ ws', S.Forms ws ws' → seen ws' = seen ws) ↔ S.Uncrowded ws)) := by
  have hself : S.Forms ws ws := List.forall₂_same.mpr fun w _ => S.refl w
  have henough : S.Uncrowded ws → ∀ ws', S.Forms ws ws' → seen ws' = seen ws := by
    intro h ws' hforms
    calc seen ws' = passed ws' := (hseen ws').mpr (allPass_of_uncrowded h hforms)
      _ = passed ws := hpassed hforms
      _ = seen ws := ((hseen ws).mpr (allPass_of_uncrowded h hself)).symm
  refine ⟨henough, fun htimes hspread => ⟨fun himmaterial => ?_, henough⟩⟩
  -- everybody passes in the forms that are spread, and so in every form
  obtain ⟨ws₀, hforms₀, hpass₀⟩ := exists_allPass hspread
  refine uncrowded_of_allPass htimes hspread fun ws' hforms => (hseen ws').mp ?_
  calc seen ws' = seen ws := himmaterial ws' hforms
    _ = seen ws₀ := (himmaterial ws₀ hforms₀).symm
    _ = passed ws₀ := (hseen ws₀).mpr hpass₀
    _ = passed ws := hpassed hforms₀
    _ = passed ws' := (hpassed hforms).symm

end Keying

end HotelAgent.Lib

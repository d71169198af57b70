/-
  HotelAgent.Lib.FixedWindow — a limiter that counts in fixed windows and blocks.

  What such a limiter keeps about one client is a counter and a block, each with
  the instant it disappears at.  The first request of a window creates the
  counter; a request that finds the counter at its limit is refused and sets the
  block; while the block stands, every request is refused.

  A request brings its own limit and the instants at which a counter or a block
  that it sets would disappear, so that nothing is assumed of time but its order.

  Main results:
    * `admissions_le_limit` — while one counter lives, its limit is kept.
    * `step_of_limited` — a refusal refuses everything until its block is over.
    * `admitted_of_recovered` — then the next request is admitted again.
    * `all_admitted_of_uncrowded` — nobody is refused where no request is
      preceded by too many within a window.
    * `not_all_admitted_of_crowded` — somebody is, where too many follow the
      first.
-/
import HotelAgent.Lib.Cache
import HotelAgent.Lib.Run

namespace HotelAgent.Lib

/-- A request to the limiter. -/
structure Hit (T : Type*) where
  limit : Int
  now : T
  /-- When a counter that is created now disappears. -/
  counterExpiry : T
  /-- When a block that is set now disappears. -/
  blockExpiry : T

/-- What is kept about a client. -/
structure Window (T : Type*) where
  counter : Option (Entry Int T)
  block : Option T

/-- How a request is answered: let through, refused on the count, or refused because of
the block. -/
inductive Verdict where
  | admitted
  | limited
  | blocked
  deriving DecidableEq, Repr

variable {T : Type*} [LinearOrder T]

namespace Window

/-- Nothing is known about the client. -/
def fresh : Window T := ⟨none, none⟩

def isBlocked (w : Window T) (now : T) : Bool := (w.block.filter fun expiry => now < expiry).isSome

/-- The counter, unless it has disappeared. -/
def current (w : Window T) (now : T) : Option (Entry Int T) :=
  w.counter.filter fun e => now < e.expiry

/-- One more request in the window of the counter. -/
def counted (w : Window T) : Window T :=
  { w with counter := w.counter.map fun e => { e with value := e.value + 1 } }

/-- The requests counted, none if there is no counter. -/
def count (w : Window T) (now : T) : Int := ((w.current now).map (·.value)).getD 0

/-- One request. -/
def step (w : Window T) (a : Hit T) : Window T × Verdict :=
  if w.isBlocked a.now then (w, .blocked)
  else if a.limit ≤ w.count a.now then ({ w with block := some a.blockExpiry }, .limited)
  else if w.count a.now = 0 then ({ w with counter := some ⟨1, a.counterExpiry⟩ }, .admitted)
  else (w.counted, .admitted)

/-- The window after some requests. -/
def after (w : Window T) (as : List (Hit T)) : Window T := run (fun w a => (w.step a).1) w as

/-- The requests that are let through. -/
def admissions (w : Window T) : List (Hit T) → List (Hit T)
  | [] => []
  | a :: as =>
    if (w.step a).2 = .admitted then a :: (w.step a).1.admissions as
    else (w.step a).1.admissions as

/-! ## §1. One request. -/

theorem isBlocked_iff {w : Window T} {now : T} :
    w.isBlocked now = true ↔ ∃ expiry, w.block = some expiry ∧ now < expiry := by
  simp only [isBlocked, Option.isSome_iff_exists, Option.filter_eq_some_iff, decide_eq_true_eq]

theorem current_eq_some_iff {w : Window T} {now : T} {e : Entry Int T} :
    w.current now = some e ↔ w.counter = some e ∧ now < e.expiry := by
  rw [current, Option.filter_eq_some_iff, decide_eq_true_eq]

theorem count_of_current {w : Window T} {now : T} {e : Entry Int T} (h : w.counter = some e)
    (hnow : now < e.expiry) : w.count now = e.value := by
  rw [count, current_eq_some_iff.mpr ⟨h, hnow⟩]
  rfl

theorem count_of_no_current {w : Window T} {now : T} (h : w.current now = none) :
    w.count now = 0 := by
  rw [count, h]
  rfl

theorem step_of_blocked {w : Window T} {a : Hit T} (h : w.isBlocked a.now = true) :
    w.step a = (w, .blocked) :=
  if_pos h

theorem step_of_full {w : Window T} {a : Hit T} (h : ¬ w.isBlocked a.now = true)
    (hlimit : a.limit ≤ w.count a.now) :
    w.step a = ({ w with block := some a.blockExpiry }, .limited) := by
  rw [step, if_neg h, if_pos hlimit]

theorem step_of_first {w : Window T} {a : Hit T} (h : ¬ w.isBlocked a.now = true)
    (hlimit : ¬ a.limit ≤ w.count a.now) (hzero : w.count a.now = 0) :
    w.step a = ({ w with counter := some ⟨1, a.counterExpiry⟩ }, .admitted) := by
  rw [step, if_neg h, if_neg hlimit, if_pos hzero]

theorem step_of_further {w : Window T} {a : Hit T} (h : ¬ w.isBlocked a.now = true)
    (hlimit : ¬ a.limit ≤ w.count a.now) (hzero : ¬ w.count a.now = 0) :
    w.step a = (w.counted, .admitted) := by
  rw [step, if_neg h, if_neg hlimit, if_neg hzero]

/-- What one request can do to the window: nothing, set the block, create the counter, or
add to it. -/
theorem step_cases (w : Window T) (a : Hit T) :
    w.isBlocked a.now = true ∧ w.step a = (w, .blocked)
      ∨ w.isBlocked a.now = false ∧ a.limit ≤ w.count a.now
        ∧ w.step a = ({ w with block := some a.blockExpiry }, .limited)
      ∨ w.isBlocked a.now = false ∧ w.count a.now < a.limit ∧ w.count a.now = 0
        ∧ w.step a = ({ w with counter := some ⟨1, a.counterExpiry⟩ }, .admitted)
      ∨ w.isBlocked a.now = false ∧ w.count a.now < a.limit ∧ w.count a.now ≠ 0
        ∧ w.step a = (w.counted, .admitted) := by
  by_cases hblocked : w.isBlocked a.now = true
  · exact .inl ⟨hblocked, step_of_blocked hblocked⟩
  have hfree : w.isBlocked a.now = false := Bool.not_eq_true _ ▸ hblocked
  by_cases hlimit : a.limit ≤ w.count a.now
  · exact .inr (.inl ⟨hfree, hlimit, step_of_full hblocked hlimit⟩)
  by_cases hzero : w.count a.now = 0
  · exact .inr (.inr (.inl
      ⟨hfree, Int.not_le.mp hlimit, hzero, step_of_first hblocked hlimit hzero⟩))
  · exact .inr (.inr (.inr
      ⟨hfree, Int.not_le.mp hlimit, hzero, step_of_further hblocked hlimit hzero⟩))

/-- A request is let through if there is no block and the count is below its limit. -/
theorem admitted_iff {w : Window T} {a : Hit T} :
    (w.step a).2 = .admitted ↔ w.isBlocked a.now = false ∧ w.count a.now < a.limit := by
  obtain ⟨hb, h⟩ | ⟨hb, hle, h⟩ | ⟨hb, hlt, _, h⟩ | ⟨hb, hlt, _, h⟩ := w.step_cases a
  · simp [h, hb]
  · simp [h, hb, hle]
  · simp [h, hb, hlt]
  · simp [h, hb, hlt]

/-- Then it creates the counter or is added to it. -/
theorem step_of_admitted {w : Window T} {a : Hit T} (h : (w.step a).2 = .admitted) :
    w.count a.now = 0 ∧ (w.step a).1 = { w with counter := some ⟨1, a.counterExpiry⟩ }
      ∨ w.count a.now ≠ 0 ∧ (w.step a).1 = w.counted := by
  obtain ⟨_, hs⟩ | ⟨_, _, hs⟩ | ⟨_, _, hzero, hs⟩ | ⟨_, _, hne, hs⟩ := w.step_cases a
  · simp [hs] at h
  · simp [hs] at h
  · exact .inl ⟨hzero, by rw [hs]⟩
  · exact .inr ⟨hne, by rw [hs]⟩

/-- A request that is refused leaves the counter. -/
theorem counter_of_refused {w : Window T} {a : Hit T} (h : (w.step a).2 ≠ .admitted) :
    (w.step a).1.counter = w.counter := by
  obtain ⟨_, hs⟩ | ⟨_, _, hs⟩ | ⟨_, _, _, hs⟩ | ⟨_, _, _, hs⟩ := w.step_cases a
  · rw [hs]
  · rw [hs]
  · exact absurd (by rw [hs]) h
  · exact absurd (by rw [hs]) h

omit [LinearOrder T] in
theorem counter_counted {w : Window T} {e : Entry Int T} (h : w.counter = some e) :
    w.counted.counter = some ⟨e.value + 1, e.expiry⟩ := by
  rw [counted, h, Option.map_some]

theorem admissions_cons_of_ne {w : Window T} {a : Hit T} (h : (w.step a).2 ≠ .admitted)
    (as : List (Hit T)) : w.admissions (a :: as) = (w.step a).1.admissions as :=
  if_neg h

theorem admissions_cons_of_eq {w : Window T} {a : Hit T} (h : (w.step a).2 = .admitted)
    (as : List (Hit T)) : w.admissions (a :: as) = a :: (w.step a).1.admissions as :=
  if_pos h

theorem admissions_sublist (w : Window T) (as : List (Hit T)) :
    (w.admissions as).Sublist as := by
  induction as generalizing w with
  | nil => exact .slnil
  | cons a as ih =>
      by_cases h : (w.step a).2 = .admitted
      · rw [admissions_cons_of_eq h]
        exact (ih _).cons_cons a
      · rw [admissions_cons_of_ne h]
        exact (ih _).cons a

/-! ## §2. The limit. -/

/-- **Within one window.**  While a counter lives, the requests counted and those let
through stay within the limit. -/
theorem admissions_le_limit {limit n : Int} {expiry : T} (hn : 0 < n) (hlimit : n ≤ limit)
    {w : Window T} (hw : w.counter = some ⟨n, expiry⟩) {as : List (Hit T)}
    (has : ∀ a ∈ as, a.limit = limit) (htimes : (as.map (·.now)).Pairwise (· ≤ ·)) :
    n + (w.admissions as).countP (fun a => a.now < expiry) ≤ limit := by
  induction as generalizing w n with
  | nil => simpa [admissions] using hlimit
  | cons a as ih =>
      rw [List.map_cons, List.pairwise_cons] at htimes
      have hrest : ∀ b ∈ as, b.limit = limit := fun b hb => has b (List.mem_cons_of_mem a hb)
      have ha : a.limit = limit := has a List.mem_cons_self
      by_cases hlive : a.now < expiry
      · have hcount : w.count a.now = n := count_of_current hw hlive
        -- the counter lives on: it is left alone, or one is added to it
        by_cases h : (w.step a).2 = .admitted
        · have hlt := (admitted_iff.mp h).2
          have hstep : (w.step a).1 = w.counted := by
            rcases step_of_admitted h with ⟨hzero, _⟩ | ⟨_, hs⟩
            · omega
            · exact hs
          have hcounter : w.counted.counter = some ⟨n + 1, expiry⟩ := counter_counted hw
          have hmore := ih (by omega) (by omega) hcounter hrest htimes.2
          rw [admissions_cons_of_eq h, List.countP_cons_of_pos (by simpa using hlive), hstep]
          push_cast
          omega
        · rw [admissions_cons_of_ne h]
          exact ih hn hlimit ((counter_of_refused h).trans hw) hrest htimes.2
      · -- past the expiry, and so is everything that follows
        have hnone : (w.admissions (a :: as)).countP (fun b => b.now < expiry) = 0 := by
          rw [List.countP_eq_zero]
          intro b hb
          have hle : a.now ≤ b.now := by
            rcases List.mem_cons.mp ((w.admissions_sublist _).subset hb) with rfl | hb
            · exact le_refl _
            · exact htimes.1 _ (List.mem_map_of_mem hb)
          simpa using (not_lt.mp hlive).trans hle
        rw [hnone]
        simpa using hlimit

/-- A counter is created by the request that expires with it, and counts at least it. -/
theorem counter_after {as : List (Hit T)} {e : Entry Int T}
    (h : (fresh.after as).counter = some e) :
    0 < e.value ∧ ∃ a ∈ as, e.expiry = a.counterExpiry := by
  induction as using List.reverseRecOn generalizing e with
  | nil => exact absurd h (by simp [after, fresh])
  | append_singleton as a ih =>
      rw [after, run_append] at h
      change ((fresh.after as).step a).1.counter = some e at h
      have hmem : ∀ b ∈ as, b ∈ as ++ [a] := fun b hb => List.mem_append_left [a] hb
      by_cases hadmitted : ((fresh.after as).step a).2 = .admitted
      · rcases step_of_admitted hadmitted with ⟨_, hs⟩ | ⟨_, hs⟩
        · rw [hs] at h
          injection h with h
          rw [← h]
          exact ⟨Int.one_pos, a, List.mem_append_right as List.mem_cons_self, rfl⟩
        · rw [hs, counted] at h
          obtain ⟨c, hc, rfl⟩ := Option.map_eq_some_iff.mp h
          obtain ⟨hpos, b, hb, he⟩ := ih hc
          exact ⟨by simp only; omega, b, hmem b hb, he⟩
      · rw [counter_of_refused hadmitted] at h
        obtain ⟨hpos, b, hb, he⟩ := ih h
        exact ⟨hpos, b, hmem b hb, he⟩

/-! ## §3. The block. -/

/-- Requests before the end of the block change nothing. -/
theorem after_of_blocked {w : Window T} {expiry : T} (hw : w.block = some expiry)
    {as : List (Hit T)} (has : ∀ a ∈ as, a.now < expiry) : w.after as = w := by
  induction as with
  | nil => rfl
  | cons a as ih =>
      have hblocked : w.isBlocked a.now = true :=
        isBlocked_iff.mpr ⟨expiry, hw, has a List.mem_cons_self⟩
      rw [after, run_cons, step_of_blocked hblocked]
      exact ih fun b hb => has b (List.mem_cons_of_mem a hb)

theorem block_of_limited {w : Window T} {a : Hit T} (h : (w.step a).2 = .limited) :
    (w.step a).1 = { w with block := some a.blockExpiry } ∧ a.limit ≤ w.count a.now := by
  obtain ⟨_, hs⟩ | ⟨_, hle, hs⟩ | ⟨_, _, _, hs⟩ | ⟨_, _, _, hs⟩ := w.step_cases a
  · simp [hs] at h
  · exact ⟨by rw [hs], hle⟩
  · simp [hs] at h
  · simp [hs] at h

/-- **The block holds.**  After a refusal on the count, requests before the end of the block
are refused. -/
theorem step_of_limited {w : Window T} {a : Hit T} (h : (w.step a).2 = .limited)
    {mid : List (Hit T)} (hmid : ∀ b ∈ mid, b.now < a.blockExpiry) {c : Hit T}
    (hc : c.now < a.blockExpiry) : (((w.step a).1.after mid).step c).2 = .blocked := by
  have hblock : (w.step a).1.block = some a.blockExpiry := by rw [(block_of_limited h).1]
  rw [after_of_blocked hblock hmid, step_of_blocked (isBlocked_iff.mpr ⟨_, hblock, hc⟩)]

/-- **Recovery.**  The first request after the block is admitted, if the counter that caused
the block is over by then, too. -/
theorem admitted_of_recovered {w : Window T} {a : Hit T} (h : (w.step a).2 = .limited)
    (hcounter : ∀ e, w.counter = some e → e.expiry ≤ a.blockExpiry)
    {mid : List (Hit T)} (hmid : ∀ b ∈ mid, b.now < a.blockExpiry) {c : Hit T}
    (hc : a.blockExpiry ≤ c.now) (hlimit : 0 < c.limit) :
    (((w.step a).1.after mid).step c).2 = .admitted := by
  have hstep := (block_of_limited h).1
  have hblock : (w.step a).1.block = some a.blockExpiry := by rw [hstep]
  rw [after_of_blocked hblock hmid]
  have hfree : (w.step a).1.isBlocked c.now = false := by
    rw [← Bool.not_eq_true, isBlocked_iff]
    rintro ⟨expiry, he, hlt⟩
    rw [hblock] at he
    injection he with he
    exact absurd hlt (not_lt.mpr (he ▸ hc))
  have hcount : (w.step a).1.count c.now = 0 := by
    refine count_of_no_current ?_
    rw [Option.eq_none_iff_forall_ne_some]
    intro e he
    obtain ⟨hw, hlt⟩ := current_eq_some_iff.mp he
    rw [hstep] at hw
    exact absurd hlt (not_lt.mpr ((hcounter e hw).trans hc))
  exact admitted_iff.mpr ⟨hfree, by rw [hcount]; exact hlimit⟩

/-! ## §4. Runs in which nobody is refused. -/

/-- Every request is let through. -/
def AllAdmitted (w : Window T) (as : List (Hit T)) : Prop :=
  AllSteps (fun w a => (w.step a).1) (fun w a => (w.step a).2 = .admitted) w as

/-- After requests that were all let through: no block, and the counter was created by one of
them and has counted the rest since. -/
def Counted (w : Window T) (as : List (Hit T)) : Prop :=
  w.block = none
    ∧ (w.counter = none ∨ ∃ before a mid, as = before ++ a :: mid
        ∧ w.counter = some ⟨mid.length + 1, a.counterExpiry⟩)

theorem counted_step {w : Window T} {as : List (Hit T)} (hw : w.Counted as) {a : Hit T}
    (h : (w.step a).2 = .admitted) : (w.step a).1.Counted (as ++ [a]) := by
  obtain ⟨hblock, hcounter⟩ := hw
  rcases step_of_admitted h with ⟨_, hs⟩ | ⟨hne, hs⟩
  · rw [hs]
    exact ⟨hblock, .inr ⟨as, a, [], rfl, rfl⟩⟩
  · rw [hs]
    refine ⟨hblock, .inr ?_⟩
    rcases hcounter with hnone | ⟨before, b, mid, rfl, hc⟩
    · exact absurd (count_of_no_current (by rw [current, hnone]; rfl)) hne
    · refine ⟨before, b, mid ++ [a], by rw [List.append_assoc]; rfl, ?_⟩
      rw [counter_counted hc, List.length_append, List.length_singleton]
      push_cast
      rfl

/-- **Nobody is refused** where, for every two requests within the first one's window, fewer
than the limit of the second come from the first on. -/
theorem all_admitted_of_uncrowded {as : List (Hit T)} (hlimits : ∀ a ∈ as, 0 < a.limit)
    (h : ∀ before a mid c rest, as = before ++ a :: mid ++ c :: rest →
      c.now < a.counterExpiry → (mid.length : Int) + 1 < c.limit) :
    fresh.AllAdmitted as := by
  have hall : ∀ done rest, as = done ++ rest → ∀ w : Window T, w.Counted done →
      w.AllAdmitted rest := by
    intro done rest
    induction rest generalizing done with
    | nil => intro _ w _; trivial
    | cons c rest ih =>
        intro has w hw
        have hnow : (w.step c).2 = .admitted := by
          have hlt : w.count c.now < c.limit := by
            have hpos := hlimits c (by rw [has]; exact List.mem_append_right _ List.mem_cons_self)
            cases hcur : w.current c.now with
            | none => rwa [count_of_no_current hcur]
            | some e =>
                obtain ⟨hc, hlive⟩ := current_eq_some_iff.mp hcur
                rw [count_of_current hc hlive]
                rcases hw.2 with hnone | ⟨before, a, mid, hdone, hc'⟩
                · rw [hnone] at hc
                  exact absurd hc (by simp)
                · rw [hc'] at hc
                  injection hc with hc
                  rw [← hc] at hlive ⊢
                  exact h before a mid c rest (by rw [has, hdone]) hlive
          have hfree : w.isBlocked c.now = false := by rw [isBlocked, hw.1]; rfl
          exact admitted_iff.mpr ⟨hfree, hlt⟩
        exact ⟨hnow, ih (done ++ [c]) (by rw [has, List.append_assoc]; rfl) _
          (counted_step hw hnow)⟩
  exact hall [] as rfl fresh ⟨rfl, .inl rfl⟩

/-- While the counter lives, requests that are let through are counted. -/
theorem counter_after_of_all_admitted {n : Int} {expiry : T} (hn : 0 < n) {w : Window T}
    (hw : w.counter = some ⟨n, expiry⟩) {as : List (Hit T)} (has : ∀ a ∈ as, a.now < expiry)
    (h : w.AllAdmitted as) : (w.after as).counter = some ⟨n + as.length, expiry⟩ := by
  induction as generalizing w n with
  | nil => simpa [after] using hw
  | cons a as ih =>
      have hcount : w.count a.now = n := count_of_current hw (has a List.mem_cons_self)
      have hw' : (w.step a).1.counter = some ⟨n + 1, expiry⟩ := by
        rcases step_of_admitted h.1 with ⟨hzero, _⟩ | ⟨_, hs⟩
        · omega
        · rw [hs, counter_counted hw]
      have hrest := ih (by omega) hw' (fun b hb => has b (List.mem_cons_of_mem a hb)) h.2
      rw [after, run_cons]
      refine hrest.trans ?_
      rw [List.length_cons]
      push_cast
      rw [Int.add_assoc, Int.add_comm 1]

/-- **Somebody is refused** where a request comes within the window of the first and finds its
limit used up by those before. -/
theorem not_all_admitted_of_crowded {a : Hit T} {mid : List (Hit T)} {c : Hit T}
    {rest : List (Hit T)} (hmid : ∀ b ∈ mid, b.now < a.counterExpiry)
    (hc : c.now < a.counterExpiry) (hlimit : c.limit ≤ mid.length + 1) :
    ¬ fresh.AllAdmitted (a :: mid ++ c :: rest) := by
  intro h
  obtain ⟨ha, hmore⟩ := h
  have hcounter : (fresh.step a).1.counter = some ⟨1, a.counterExpiry⟩ := by
    rcases step_of_admitted ha with ⟨_, hs⟩ | ⟨hne, _⟩
    · rw [hs]
    · exact absurd rfl hne
  obtain ⟨hadmitted, hlast⟩ := allSteps_append.mp hmore
  have hafter := counter_after_of_all_admitted Int.one_pos hcounter hmid hadmitted
  have hcount : ((fresh.step a).1.after mid).count c.now = 1 + mid.length :=
    count_of_current hafter hc
  have hlt := (admitted_iff.mp hlast.1).2
  change ((fresh.step a).1.after mid).count c.now < c.limit at hlt
  omega

end Window

end HotelAgent.Lib

/-
  HotelAgent.Lib.SlidingWindow — when a fixed window is a sliding one.

  A limiter that counts in fixed windows keeps its limit between the creation and
  the expiry of one counter.  An interval of the same width may meet two counters:
  the end of one and the beginning of the next.  It holds too many admissions
  unless

      the first counter is overrun, and its block keeps the second one away, or
      there are not more requests than the limit, admitted or not.

  Here every request brings the same limit, and a counter and a block of the same
  lengths, the block not shorter than the window.

  Main result, `sliding_iff`: no interval of the width of a window has more
  admissions than the limit, if and only if one of the two holds of every request
  that finds a counter and no block.
-/
import HotelAgent.Lib.FixedWindow
import Mathlib.Algebra.Order.Group.Int
import Mathlib.Algebra.Order.Monoid.Defs
import Mathlib.Tactic.Abel

namespace HotelAgent.Lib

variable {T : Type*} [AddCommGroup T] [LinearOrder T]

/-! ## §1. The limiter. -/

/-- What a limiter is set to. -/
structure Limits (T : Type*) [AddCommGroup T] [LinearOrder T] where
  limit : Int
  width : T
  block : T
  limit_pos : 0 < limit
  width_pos : 0 < width
  width_le_block : width ≤ block

/-- A request at this time. -/
def Limits.hit (L : Limits T) (now : T) : Hit T where
  limit := L.limit
  now := now
  counterExpiry := now + L.width
  blockExpiry := now + L.block

namespace Window

variable (L : Limits T)

/-- One request at this time. -/
def stepAt (w : Window T) (now : T) : Window T := (w.step (L.hit now)).1

/-- The times at which requests are admitted. -/
def admittedAt (w : Window T) (ts : List T) : List T :=
  (w.admissions (ts.map L.hit)).map (·.now)

/-- How many of the times are before `finish`. -/
def countBefore (finish : T) (ts : List T) : Nat := ts.countP fun t => t < finish

/-- No interval of the width of a window holds more of the times than the limit. -/
def Sliding (ts : List T) : Prop :=
  ∀ start, ((ts.countP fun t => start ≤ t ∧ t < start + L.width : Nat) : Int) ≤ L.limit

/-- A request that finds a counter and no block: the counter is overrun before it expires, or the
requests of the next window's width are within the limit. -/
def Uncramped (w : Window T) (t : T) (ts : List T) : Prop :=
  w.isBlocked t = false → ∀ e, w.current t = some e →
    L.limit < e.value + countBefore e.expiry (t :: ts)
      ∨ (countBefore (t + L.width) (t :: ts) : Int) ≤ L.limit

/-- The counter has counted something, within the limit, and was created before `ts`. -/
def Sound (w : Window T) (ts : List T) : Prop :=
  ∀ e, w.counter = some e →
    0 < e.value ∧ e.value ≤ L.limit ∧ ∀ t ∈ ts, e.expiry ≤ t + L.width

/-- There is no block at any of the times. -/
def Free (w : Window T) (ts : List T) : Prop := ∀ t ∈ ts, w.isBlocked t = false

variable {L}

/-! ## §2. One request. -/

theorem admittedAt_cons_of_eq {w : Window T} {t : T} (h : (w.step (L.hit t)).2 = .admitted)
    (ts : List T) : w.admittedAt L (t :: ts) = t :: (w.stepAt L t).admittedAt L ts := by
  rw [admittedAt, List.map_cons, admissions_cons_of_eq h]
  rfl

theorem admittedAt_cons_of_ne {w : Window T} {t : T} (h : (w.step (L.hit t)).2 ≠ .admitted)
    (ts : List T) : w.admittedAt L (t :: ts) = (w.stepAt L t).admittedAt L ts := by
  rw [admittedAt, List.map_cons, admissions_cons_of_ne h]
  rfl

theorem admittedAt_sublist (w : Window T) (ts : List T) : (w.admittedAt L ts).Sublist ts := by
  have hsub := (admissions_sublist w (ts.map L.hit)).map (·.now)
  have hid : ts.map ((·.now) ∘ L.hit) = ts := List.map_id'' (fun _ => rfl) ts
  rw [List.map_map, hid] at hsub
  exact hsub

omit [AddCommGroup T] in
theorem countBefore_cons (finish t : T) (ts : List T) :
    countBefore finish (t :: ts) = countBefore finish ts + if t < finish then 1 else 0 := by
  simp only [countBefore, List.countP_cons, decide_eq_true_eq]

omit [AddCommGroup T] in
/-- Nothing that comes later is before. -/
theorem countBefore_eq_zero {finish : T} {ts : List T} (h : ∀ t ∈ ts, finish ≤ t) :
    countBefore finish ts = 0 := by
  rw [countBefore, List.countP_eq_zero]
  intro t ht
  simpa using h t ht

omit [AddCommGroup T] in
theorem countBefore_of_late {finish t : T} {ts : List T} (h : finish ≤ t)
    (hts : ∀ t' ∈ ts, t ≤ t') : countBefore finish (t :: ts) = 0 := by
  refine countBefore_eq_zero fun t' ht' => ?_
  rcases List.mem_cons.mp ht' with rfl | ht'
  · exact h
  · exact h.trans (hts t' ht')

/-- What is admitted before `finish` came before it. -/
theorem countBefore_admittedAt_le (w : Window T) (finish : T) (ts : List T) :
    countBefore finish (w.admittedAt L ts) ≤ countBefore finish ts :=
  (admittedAt_sublist w ts).countP_le

/-- What a free request finds that meets a counter below the limit. -/
theorem step_of_counter {w : Window T} {t : T} (hfree : w.isBlocked t = false) {n : Int}
    {expiry : T} (hw : w.counter = some ⟨n, expiry⟩) (hlive : t < expiry) (hn : 0 < n) (hlimit : n < L.limit) :
    (w.step (L.hit t)).2 = .admitted ∧ w.stepAt L t = w.counted := by
  have hcount : w.count t = n := count_of_current hw hlive
  have hadmitted : (w.step (L.hit t)).2 = .admitted :=
    admitted_iff.mpr ⟨hfree, by rw [show (L.hit t).now = t from rfl, hcount]; exact hlimit⟩
  refine ⟨hadmitted, ?_⟩
  rcases step_of_admitted hadmitted with ⟨hzero, _⟩ | ⟨_, hs⟩
  · have hzero' : w.count t = 0 := hzero
    omega
  · exact hs

/-- What a free request does that meets none. -/
theorem step_of_no_counter {w : Window T} {t : T} (hfree : w.isBlocked t = false)
    (hnone : w.current t = none) :
    (w.step (L.hit t)).2 = .admitted
      ∧ w.stepAt L t = { w with counter := some ⟨1, t + L.width⟩ } := by
  have hcount : w.count t = 0 := count_of_no_current hnone
  have hadmitted : (w.step (L.hit t)).2 = .admitted :=
    admitted_iff.mpr ⟨hfree, by rw [show (L.hit t).now = t from rfl, hcount]; exact L.limit_pos⟩
  refine ⟨hadmitted, ?_⟩
  rcases step_of_admitted hadmitted with ⟨_, hs⟩ | ⟨hne, _⟩
  · exact hs
  · exact absurd hcount hne

omit [AddCommGroup T] in
theorem free_of_cons {w : Window T} {t : T} {ts : List T} (hfree : w.isBlocked t = false)
    (hts : ∀ t' ∈ ts, t ≤ t') : w.Free (t :: ts) := by
  intro t' ht'
  rw [← Bool.not_eq_true, isBlocked_iff] at hfree ⊢
  rintro ⟨expiry, hblock, hlt⟩
  rcases List.mem_cons.mp ht' with rfl | ht'
  · exact hfree ⟨expiry, hblock, hlt⟩
  · exact hfree ⟨expiry, hblock, (hts t' ht').trans_lt hlt⟩

omit [AddCommGroup T] in
/-- What is admitted keeps the block, or its absence. -/
theorem Free.of_block_eq {w w' : Window T} {ts : List T} (h : w.Free ts)
    (hblock : w'.block = w.block) : w'.Free ts := by
  intro t ht
  rw [isBlocked, hblock]
  exact h t ht

/-! ## §3. Within one counter. -/

/-- While there is a block, nothing is admitted. -/
theorem countBefore_of_blocked {w : Window T} {expiry finish : T} (hw : w.block = some expiry)
    (hfinish : finish ≤ expiry) {ts : List T} (hts : ts.Pairwise (· ≤ ·)) :
    countBefore finish (w.admittedAt L ts) = 0 := by
  induction ts with
  | nil => rfl
  | cons t ts ih =>
      rw [List.pairwise_cons] at hts
      by_cases hlt : t < expiry
      · have hblocked : w.isBlocked t = true := isBlocked_iff.mpr ⟨expiry, hw, hlt⟩
        have hstep : w.step (L.hit t) = (w, .blocked) := step_of_blocked hblocked
        rw [admittedAt_cons_of_ne (by rw [hstep]; simp), stepAt, hstep]
        exact ih hts.2
      · have hzero := countBefore_of_late (hfinish.trans (not_lt.mp hlt)) hts.1
        exact Nat.le_zero.mp (hzero ▸ countBefore_admittedAt_le w finish (t :: ts))

/-- **A counter that is overrun** admits what it had room for, and then its block stands. -/
theorem countBefore_of_overrun {w : Window T} {n : Int} {expiry finish : T} {ts : List T}
    (hw : w.counter = some ⟨n, expiry⟩) (hn : 0 < n) (hlimit : n ≤ L.limit) (hfree : w.Free ts)
    (hts : ts.Pairwise (· ≤ ·)) (hfinish : ∀ t ∈ ts, finish ≤ t + L.block)
    (hoverrun : L.limit < n + countBefore expiry ts) :
    n + countBefore finish (w.admittedAt L ts) ≤ L.limit := by
  induction ts generalizing w n with
  | nil => exact absurd hoverrun (by simpa [countBefore] using hlimit)
  | cons t ts ih =>
      rw [List.pairwise_cons] at hts
      have hlive : t < expiry := by
        by_contra hlate
        have hzero := countBefore_of_late (not_lt.mp hlate) hts.1
        omega
      have hfree' : w.isBlocked t = false := hfree t List.mem_cons_self
      rw [countBefore_cons, if_pos hlive] at hoverrun
      rcases lt_or_eq_of_le hlimit with hlt | heq
      · obtain ⟨hadmitted, hstep⟩ := step_of_counter hfree' hw hlive hn hlt
        have hcounter : w.counted.counter = some ⟨n + 1, expiry⟩ := counter_counted hw
        have hmore := ih hcounter (by omega) (by omega)
          (Free.of_block_eq (fun t' ht' => hfree t' (List.mem_cons_of_mem t ht')) rfl) hts.2
          (fun t' ht' => hfinish t' (List.mem_cons_of_mem t ht')) (by push_cast at hoverrun; omega)
        rw [admittedAt_cons_of_eq hadmitted, hstep, countBefore_cons]
        split
        · push_cast
          omega
        · omega
      · -- the counter is full: this request sets the block
        have hcount : w.count t = n := count_of_current hw hlive
        have hstep : w.step (L.hit t) = ({ w with block := some (t + L.block) }, .limited) := by
          refine step_of_full (by rw [show (L.hit t).now = t from rfl, hfree']; simp) ?_
          rw [show (L.hit t).now = t from rfl, hcount]
          exact heq.ge
        rw [admittedAt_cons_of_ne (by rw [hstep]; simp), stepAt, hstep,
          countBefore_of_blocked rfl (hfinish t List.mem_cons_self) hts.2]
        simpa using hlimit

/-- **A counter that lives on** admits what comes, as long as it has room. -/
theorem le_countBefore_of_counter {w : Window T} {n : Int} {expiry finish : T} {ts : List T}
    (hw : w.counter = some ⟨n, expiry⟩) (hn : 0 < n) (hfree : w.Free ts)
    (hts : ts.Pairwise (· ≤ ·)) (hfinish : finish ≤ expiry) :
    min (L.limit - n) (countBefore finish ts) ≤ countBefore finish (w.admittedAt L ts) := by
  induction ts generalizing w n with
  | nil => simp [countBefore]
  | cons t ts ih =>
      rw [List.pairwise_cons] at hts
      by_cases hlt : t < finish
      · by_cases hroom : n < L.limit
        · obtain ⟨hadmitted, hstep⟩ :=
            step_of_counter (hfree t List.mem_cons_self) hw (hlt.trans_le hfinish) hn hroom
          have hcounter : w.counted.counter = some ⟨n + 1, expiry⟩ := counter_counted hw
          have hmore := ih hcounter (by omega)
            (Free.of_block_eq (fun t' ht' => hfree t' (List.mem_cons_of_mem t ht')) rfl) hts.2
          rw [admittedAt_cons_of_eq hadmitted, hstep, countBefore_cons, countBefore_cons,
            if_pos hlt]
          push_cast
          omega
        · omega
      · have hzero := countBefore_of_late (not_lt.mp hlt) hts.1
        omega

/-- **A counter that is not overrun** admits all that come before it expires; the next one admits
what it has room for. -/
theorem le_countBefore_of_spare [IsOrderedAddMonoid T] {w : Window T} {n : Int}
    {expiry finish : T} {ts : List T} (hw : w.counter = some ⟨n, expiry⟩) (hn : 0 < n)
    (hfree : w.Free ts) (hts : ts.Pairwise (· ≤ ·)) (hexpiry : expiry ≤ finish)
    (hfinish : ∀ t ∈ ts, finish ≤ t + L.width) (hspare : n + countBefore expiry ts ≤ L.limit) :
    countBefore expiry ts + min L.limit (countBefore finish ts - countBefore expiry ts)
      ≤ countBefore finish (w.admittedAt L ts) := by
  induction ts generalizing w n with
  | nil => simp [countBefore, admittedAt, admissions, L.limit_pos.le]
  | cons t ts ih =>
      rw [List.pairwise_cons] at hts
      have hfree' := hfree t List.mem_cons_self
      have hrest : w.Free ts := fun t' ht' => hfree t' (List.mem_cons_of_mem t ht')
      by_cases hlive : t < expiry
      · rw [countBefore_cons, if_pos hlive] at hspare
        push_cast at hspare
        have hroom : n < L.limit := by omega
        obtain ⟨hadmitted, hstep⟩ := step_of_counter hfree' hw hlive hn hroom
        have hcounter : w.counted.counter = some ⟨n + 1, expiry⟩ := counter_counted hw
        have hmore := ih hcounter (by omega) (hrest.of_block_eq rfl) hts.2
          (fun t' ht' => hfinish t' (List.mem_cons_of_mem t ht')) (by omega)
        have hsoon : t < finish := hlive.trans_le hexpiry
        rw [admittedAt_cons_of_eq hadmitted, hstep, countBefore_cons, countBefore_cons,
          countBefore_cons, if_pos hlive, if_pos hsoon]
        push_cast
        omega
      · have hzero := countBefore_of_late (not_lt.mp hlive) hts.1
        rw [hzero]
        by_cases hsoon : t < finish
        · -- the first request after the counter creates the next one
          have hnone : w.current t = none := by
            rw [Option.eq_none_iff_forall_ne_some]
            intro e he
            obtain ⟨hcounter, hlt⟩ := current_eq_some_iff.mp he
            rw [hw] at hcounter
            injection hcounter with hcounter
            rw [← hcounter] at hlt
            exact hlive hlt
          obtain ⟨hadmitted, hstep⟩ := step_of_no_counter hfree' hnone
          have hnext := le_countBefore_of_counter (L := L)
            (w := { w with counter := some ⟨1, t + L.width⟩ }) rfl Int.one_pos
            (hrest.of_block_eq rfl) hts.2 (hfinish t List.mem_cons_self)
          rw [admittedAt_cons_of_eq hadmitted, hstep, countBefore_cons, countBefore_cons,
            if_pos hsoon]
          push_cast
          omega
        · have hnone := countBefore_of_late (not_lt.mp hsoon) hts.1
          rw [hnone]
          have hpos := L.limit_pos
          omega

/-! ## §4. Intervals. -/

/-- One request keeps the counter sound. -/
theorem sound_stepAt [IsOrderedAddMonoid T] {w : Window T} {t : T} {ts : List T}
    (h : w.Sound L (t :: ts)) (hts : ∀ t' ∈ ts, t ≤ t') : (w.stepAt L t).Sound L ts := by
  have hsame : w.Sound L ts := fun e he =>
    ⟨(h e he).1, (h e he).2.1, fun t' ht' => (h e he).2.2 t' (List.mem_cons_of_mem t ht')⟩
  unfold stepAt
  obtain ⟨_, hs⟩ | ⟨_, _, hs⟩ | ⟨_, _, _, hs⟩ | ⟨_, hlt, hne, hs⟩ := w.step_cases (L.hit t)
  · rw [hs]
    exact hsame
  · rw [hs]
    exact hsame
  · rw [hs]
    intro e he
    injection he with he
    rw [← he]
    exact ⟨Int.one_pos, L.limit_pos, fun t' ht' => add_le_add_left (hts t' ht') _⟩
  · rw [hs]
    intro e he
    obtain ⟨c, hc, rfl⟩ := Option.map_eq_some_iff.mp he
    obtain ⟨hpos, hle, hexpiry⟩ := hsame c hc
    -- a count that is not zero is that of the counter
    have hlive : t < c.expiry := by
      by_contra hlate
      refine hne (count_of_no_current ?_)
      rw [Option.eq_none_iff_forall_ne_some]
      intro e he
      obtain ⟨he, hlt⟩ := current_eq_some_iff.mp he
      rw [hc] at he
      injection he with he
      exact hlate (he ▸ hlt)
    have hcount : w.count t = c.value := count_of_current hc hlive
    have hroom : w.count t < L.limit := hlt
    exact ⟨by simp only; omega, by simp only; omega, hexpiry⟩

/-- While a counter lives, its limit is kept. -/
theorem countBefore_le_of_counter {w : Window T} {n : Int} {expiry : T} {ts : List T}
    (hw : w.counter = some ⟨n, expiry⟩) (hn : 0 < n) (hlimit : n ≤ L.limit)
    (hts : ts.Pairwise (· ≤ ·)) : n + countBefore expiry (w.admittedAt L ts) ≤ L.limit := by
  have hsame : ∀ a ∈ ts.map L.hit, a.limit = L.limit := by
    intro a ha
    obtain ⟨t, _, rfl⟩ := List.mem_map.mp ha
    rfl
  have hid : ts.map ((·.now) ∘ L.hit) = ts := List.map_id'' (fun _ => rfl) ts
  have hle := admissions_le_limit hn hlimit hw hsame (by rw [List.map_map, hid]; exact hts)
  rw [countBefore, admittedAt, List.countP_map]
  exact hle

/-- From an admission on, a window's width has no more than the limit, if the request is not
cramped. -/
theorem countBefore_le_of_uncramped [IsOrderedAddMonoid T] {w : Window T} {t : T} {ts : List T}
    (hsound : w.Sound L (t :: ts)) (hts : (t :: ts).Pairwise (· ≤ ·))
    (hadmitted : (w.step (L.hit t)).2 = .admitted) (h : w.Uncramped L t ts) :
    countBefore (t + L.width) (w.admittedAt L (t :: ts)) ≤ L.limit := by
  have hlater := (List.pairwise_cons.mp hts).1
  have hfree : w.isBlocked t = false := (admitted_iff.mp hadmitted).1
  cases hcurrent : w.current t with
  | none =>
      have hstep := (step_of_no_counter (L := L) hfree hcurrent).2
      have hcounter : (w.stepAt L t).counter = some ⟨1, t + L.width⟩ := by rw [hstep]
      have hrest := countBefore_le_of_counter hcounter Int.one_pos L.limit_pos
        (List.pairwise_cons.mp hts).2
      rw [admittedAt_cons_of_eq hadmitted, countBefore_cons]
      split
      · push_cast
        omega
      · omega
  | some e =>
      obtain ⟨hcounter, _⟩ := current_eq_some_iff.mp hcurrent
      obtain ⟨hpos, hle, hexpiry⟩ := hsound e hcounter
      rcases h hfree e hcurrent with hoverrun | hfew
      · have hwidth : ∀ t' ∈ t :: ts, t + L.width ≤ t' + L.block := by
          intro t' ht'
          have hle' : t ≤ t' := by
            rcases List.mem_cons.mp ht' with rfl | ht'
            · exact le_refl _
            · exact hlater t' ht'
          exact add_le_add hle' L.width_le_block
        have hrest := countBefore_of_overrun hcounter hpos hle (free_of_cons hfree hlater) hts
          hwidth hoverrun
        omega
      · have hsub := countBefore_admittedAt_le (L := L) w (t + L.width) (t :: ts)
        omega

/-- Otherwise it has more. -/
theorem uncramped_of_countBefore_le [IsOrderedAddMonoid T] {w : Window T} {t : T} {ts : List T}
    (hsound : w.Sound L (t :: ts)) (hts : (t :: ts).Pairwise (· ≤ ·))
    (h : countBefore (t + L.width) (w.admittedAt L (t :: ts)) ≤ L.limit) :
    w.Uncramped L t ts := by
  have hlater := (List.pairwise_cons.mp hts).1
  intro hfree e he
  by_cases hover : L.limit < e.value + countBefore e.expiry (t :: ts)
  · exact .inl hover
  · obtain ⟨hcounter, hlive⟩ := current_eq_some_iff.mp he
    obtain ⟨hpos, _, hexpiry⟩ := hsound e hcounter
    have hwidth : ∀ t' ∈ t :: ts, t + L.width ≤ t' + L.width := by
      intro t' ht'
      rcases List.mem_cons.mp ht' with rfl | ht'
      · exact le_refl _
      · exact add_le_add_left (hlater t' ht') _
    have hspare := le_countBefore_of_spare hcounter hpos (free_of_cons hfree hlater) hts
      (hexpiry t List.mem_cons_self) hwidth (not_lt.mp hover)
    -- this request comes before the counter expires
    have hone : 0 < countBefore e.expiry (t :: ts) := by
      rw [countBefore_cons, if_pos hlive]
      exact Nat.succ_pos _
    exact .inr (by omega)

/-- An interval that begins with an admission, or before it. -/
theorem countP_interval_le [IsOrderedAddMonoid T] (t : T) (ts : List T) {start : T}
    (hstart : start ≤ t) :
    (ts.countP fun t' => start ≤ t' ∧ t' < start + L.width) ≤ countBefore (t + L.width) ts := by
  refine List.countP_mono_left fun t' _ hin => ?_
  rw [decide_eq_true_eq] at hin ⊢
  exact hin.2.trans_le (add_le_add_left hstart _)

/-- **A fixed window is a sliding one**: no interval of the width of a window has more admissions
than the limit, if and only if no request that finds a counter and no block is cramped. -/
theorem sliding_iff [IsOrderedAddMonoid T] {w : Window T} {ts : List T} (hsound : w.Sound L ts)
    (hts : ts.Pairwise (· ≤ ·)) :
    Sliding L (w.admittedAt L ts) ↔ AllAhead (stepAt L) (Uncramped L) w ts := by
  induction ts generalizing w with
  | nil => exact iff_of_true (fun _ => L.limit_pos.le) trivial
  | cons t ts ih =>
      have hlater := (List.pairwise_cons.mp hts).1
      have hnext := ih (sound_stepAt hsound hlater) (List.pairwise_cons.mp hts).2
      have hlate : ∀ t' ∈ w.admittedAt L (t :: ts), t ≤ t' := by
        intro t' ht'
        rcases List.mem_cons.mp ((admittedAt_sublist w _).subset ht') with rfl | ht'
        · exact le_refl _
        · exact hlater t' ht'
      -- the first request is judged by the interval that begins with it, the others by the rest
      constructor
      · intro hsliding
        refine ⟨uncramped_of_countBefore_le hsound hts ?_, hnext.mp fun start => ?_⟩
        · -- the interval that begins here
          have hhere : (w.admittedAt L (t :: ts)).countP (fun t' => t ≤ t' ∧ t' < t + L.width)
              = countBefore (t + L.width) (w.admittedAt L (t :: ts)) := by
            refine List.countP_congr fun t' ht' => ?_
            simp [hlate t' ht']
          rw [← hhere]
          exact hsliding t
        · have hsub : ((w.stepAt L t).admittedAt L ts).Sublist (w.admittedAt L (t :: ts)) := by
            by_cases hadmitted : (w.step (L.hit t)).2 = .admitted
            · rw [admittedAt_cons_of_eq hadmitted]
              exact List.sublist_cons_self _ _
            · rw [admittedAt_cons_of_ne hadmitted]
          exact (Int.ofNat_le.mpr hsub.countP_le).trans (hsliding start)
      · rintro ⟨huncramped, hahead⟩ start
        have hrest := hnext.mpr hahead start
        by_cases hadmitted : (w.step (L.hit t)).2 = .admitted
        · have hhere := countBefore_le_of_uncramped hsound hts hadmitted huncramped
          by_cases hin : start ≤ t ∧ t < start + L.width
          · have hle := countP_interval_le (L := L) t (w.admittedAt L (t :: ts)) hin.1
            omega
          · rw [admittedAt_cons_of_eq hadmitted, List.countP_cons_of_neg (by simpa using hin)]
            exact hrest
        · rw [admittedAt_cons_of_ne hadmitted]
          exact hrest

end Window

end HotelAgent.Lib

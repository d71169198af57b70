/-
  HotelAgent.Core.RateRaces — the rate limiter under simultaneous requests.

  `process_request` looks for the block, reads the count and writes, in three
  cache operations; between two of them any other call may take a step.  The
  calls here are for one key, and nothing that they use expires meanwhile.

  Main results:
    * `uninterrupted_call` — three steps in a row are `process_request`.
    * `limit_kept_of_fresh_writes` — where each write finds the count that its
      call has read, the limit is kept.
    * `limit_kept_iff` — whatever the interleaving, the limit is kept, if and
      only if the key is blocked, its counter is full, or there are no more
      calls than it has room for.
-/
import HotelAgent.Core.RateLimit

namespace HotelAgent.RateLimitMiddleware

open Lib

/-! ## §1. Calls in flight. -/

/-- Where a call stands. -/
inductive Call where
  /-- Next is `cache.get(block_key)`. -/
  | start
  /-- Next is `cache.get(key, 0)`. -/
  | notBlocked
  /-- Next is `cache.set` or `cache.incr`. -/
  | counted (count : Int)
  | done (answer : Handled)
  deriving DecidableEq

/-- The next step of a call. -/
def callStep (rule : RateRule) (key : Text) (now : Instant) (cache : RateCache) :
    Call → RateCache × Call
  | .start =>
      (cache, if isBlocked cache now key then .done (.response tooManyRequests) else .notBlocked)
  | .notBlocked => (cache, .counted (readCount cache now key))
  | .counted count =>
      ((afterCount rule key count now cache).1, .done (afterCount rule key count now cache).2)
  | .done answer => (cache, .done answer)

/-- **Three steps in a row are `process_request`.** -/
theorem uninterrupted_call {request : HttpRequest} {rule : RateRule} {key : Text}
    (hrule : matchRule request.path = some rule) (hkey : limitKey request = some key)
    (cache : RateCache) (now : Instant) :
    run (fun s (_ : Unit) => callStep rule key now s.1 s.2) (cache, .start) [(), (), ()]
      = ((processRequest cache now request).1, .done (processRequest cache now request).2) := by
  rw [processRequest_eq hrule hkey]
  by_cases hblocked : isBlocked cache now key = true
  · simp only [run_cons, run_nil, callStep, if_pos hblocked]
  · simp only [run_cons, run_nil, callStep, if_neg hblocked]

/-- The cache, the calls, and the time of the last step. -/
structure RateRace where
  cache : RateCache
  calls : List Call
  clock : Instant

/-- The `call`-th call takes a step. -/
structure Turn where
  call : Nat
  now : Instant

/-- One step of one call. -/
def raceStep (rule : RateRule) (key : Text) (s : RateRace) (turn : Turn) : RateRace :=
  match s.calls[turn.call]? with
  | none => { s with clock := turn.now }
  | some call =>
    { cache := (callStep rule key turn.now s.cache call).1
      calls := s.calls.set turn.call (callStep rule key turn.now s.cache call).2
      clock := turn.now }

/-- Time goes on, and neither entry of the key expires. -/
def NoExpiry (key : Text) (s : RateRace) (turn : Turn) : Prop :=
  s.clock ≤ turn.now ∧ s.cache.get turn.now key = s.cache.get s.clock key
    ∧ s.cache.get turn.now (blockKey key) = s.cache.get s.clock (blockKey key)

instance (key : Text) (s : RateRace) (turn : Turn) : Decidable (NoExpiry key s turn) :=
  inferInstanceAs (Decidable (_ ∧ _ ∧ _))

/-- `n` simultaneous calls. -/
def started (cache : RateCache) (now : Instant) (n : Nat) : RateRace where
  cache := cache
  calls := List.replicate n .start
  clock := now

/-- How many calls have been admitted. -/
def admittedCalls (s : RateRace) : Nat := s.calls.count (.done .next)

theorem raceStep_of_none {rule : RateRule} {key : Text} {s : RateRace} {turn : Turn}
    (h : s.calls[turn.call]? = none) : raceStep rule key s turn = { s with clock := turn.now } := by
  rw [raceStep, h]

theorem raceStep_of_some {rule : RateRule} {key : Text} {s : RateRace} {turn : Turn} {call : Call}
    (h : s.calls[turn.call]? = some call) :
    raceStep rule key s turn
      = { cache := (callStep rule key turn.now s.cache call).1
          calls := s.calls.set turn.call (callStep rule key turn.now s.cache call).2
          clock := turn.now } := by
  rw [raceStep, h]

theorem length_raceStep (rule : RateRule) (key : Text) (s : RateRace) (turn : Turn) :
    (raceStep rule key s turn).calls.length = s.calls.length := by
  cases h : s.calls[turn.call]? with
  | none => rw [raceStep_of_none h]
  | some call => rw [raceStep_of_some h, List.length_set]

theorem length_race (rule : RateRule) (key : Text) (s : RateRace) (turns : List Turn) :
    (run (raceStep rule key) s turns).calls.length = s.calls.length := by
  induction turns generalizing s with
  | nil => rfl
  | cons turn turns ih => rw [run_cons, ih, length_raceStep]

/-! ## §2. What a write does to the count. -/

section
variable {rule : RateRule} {key : Text} (hlength : key.length = 40)
include hlength

/-- A refusal leaves the counter. -/
theorem get_afterCount_of_full {count : Int} (h : rule.limit ≤ count) (now : Instant)
    (cache : RateCache) (later : Instant) :
    (afterCount rule key count now cache).1.get later key = cache.get later key
      ∧ (afterCount rule key count now cache).2 = .response limitExceeded := by
  rw [afterCount, if_pos h]
  exact ⟨Cache.get_set_of_ne _ (blockKey_ne hlength hlength) _ _ _, rfl⟩

/-- A write after the count zero makes it one. -/
theorem get_afterCount_zero (hlimit : 0 < rule.limit) (hwindow : 0 < rule.window) (now : Instant)
    (cache : RateCache) :
    (afterCount rule key 0 now cache).1.get now key = some 1
      ∧ (afterCount rule key 0 now cache).1 (blockKey key) = cache (blockKey key)
      ∧ (afterCount rule key 0 now cache).2 = .next := by
  have hlive : now < now + rule.window * second := by
    exact Int.lt_add_of_pos_right now (Int.mul_pos hwindow (by decide))
  rw [afterCount, if_neg (Int.not_le.mpr hlimit), if_pos rfl]
  exact ⟨Cache.get_set_self _ _ _ hlive,
    Cache.set_of_ne _ (blockKey_ne hlength hlength).symm _ _, rfl⟩

/-- Any other write adds one to the counter that it finds. -/
theorem get_afterCount_of_ne {count stored : Int} (hlimit : count < rule.limit) (hne : count ≠ 0)
    {now : Instant} {cache : RateCache} (hget : cache.get now key = some stored) :
    (afterCount rule key count now cache).1.get now key = some (stored + 1)
      ∧ (afterCount rule key count now cache).1 (blockKey key) = cache (blockKey key)
      ∧ (afterCount rule key count now cache).2 = .next := by
  obtain ⟨e, he, rfl⟩ := Option.map_eq_some_iff.mp hget
  rw [afterCount, if_neg (Int.not_le.mpr hlimit), if_neg hne, Cache.incr_of_live he]
  exact ⟨Cache.get_set_self _ _ _ (Cache.live_eq_some_iff.mp he).2,
    Cache.set_of_ne _ (blockKey_ne hlength hlength).symm _ _, rfl⟩

/-! ## §3. Runs that keep the limit. -/

omit hlength in
theorem readCount_of_noExpiry {s : RateRace} {turn : Turn} (h : NoExpiry key s turn) :
    readCount s.cache turn.now key = readCount s.cache s.clock key := by
  rw [readCount, readCount, h.2.1]

omit hlength in
theorem isBlocked_of_noExpiry {s : RateRace} {turn : Turn} (h : NoExpiry key s turn) :
    isBlocked s.cache turn.now key = isBlocked s.cache s.clock key := by
  rw [isBlocked, isBlocked, h.2.2]

omit hlength in
theorem admittedCalls_of_other {s : RateRace} {turn : Turn} {call : Call}
    (h : s.calls[turn.call]? = some call) (hcall : call ≠ .done .next)
    (hnew : (callStep rule key turn.now s.cache call).2 ≠ .done .next) :
    admittedCalls (raceStep rule key s turn) = admittedCalls s := by
  obtain ⟨hlt, rfl⟩ := List.getElem?_eq_some_iff.mp h
  rw [raceStep_of_some h, admittedCalls, admittedCalls, List.count_set hlt]
  simp [hcall, hnew]

omit hlength in
theorem admittedCalls_of_admitted {s : RateRace} {turn : Turn} {call : Call}
    (h : s.calls[turn.call]? = some call) (hcall : call ≠ .done .next)
    (hnew : (callStep rule key turn.now s.cache call).2 = .done .next) :
    admittedCalls (raceStep rule key s turn) = admittedCalls s + 1 := by
  obtain ⟨hlt, rfl⟩ := List.getElem?_eq_some_iff.mp h
  rw [raceStep_of_some h, admittedCalls, admittedCalls, List.count_set hlt]
  simp [hcall, hnew]

omit hlength in
/-- A call that is done takes no more steps. -/
theorem raceStep_of_done {s : RateRace} {turn : Turn} {answer : Handled}
    (h : s.calls[turn.call]? = some (.done answer)) :
    raceStep rule key s turn = { s with clock := turn.now } := by
  obtain ⟨hlt, hget⟩ := List.getElem?_eq_some_iff.mp h
  rw [raceStep_of_some h]
  simp only [callStep]
  rw [← hget, List.set_getElem_self hlt]

/-- **What a step can do to the count**: nothing, or it admits a call that has read a count
below the limit; the count is then set to one or raised by one. -/
theorem raceStep_cases (hlimit : 0 < rule.limit) (hwindow : 0 < rule.window) {s : RateRace}
    {turn : Turn} (hnow : NoExpiry key s turn) :
    readCount (raceStep rule key s turn).cache (raceStep rule key s turn).clock key
          = readCount s.cache s.clock key
        ∧ admittedCalls (raceStep rule key s turn) = admittedCalls s
      ∨ ∃ count, s.calls[turn.call]? = some (.counted count) ∧ count < rule.limit
        ∧ admittedCalls (raceStep rule key s turn) = admittedCalls s + 1
        ∧ readCount (raceStep rule key s turn).cache (raceStep rule key s turn).clock key
            = if count = 0 then 1 else readCount s.cache s.clock key + 1 := by
  have hread := readCount_of_noExpiry hnow
  cases hcall : s.calls[turn.call]? with
  | none =>
      rw [raceStep_of_none hcall]
      exact .inl ⟨hread, rfl⟩
  | some call =>
      have hstep : raceStep rule key s turn = _ := raceStep_of_some hcall
      cases call with
      | start =>
          refine .inl ⟨by rw [hstep]; exact hread, admittedCalls_of_other hcall (by simp) ?_⟩
          simp only [callStep]
          split <;> simp
      | notBlocked =>
          exact .inl ⟨by rw [hstep]; exact hread,
            admittedCalls_of_other hcall (by simp) (by simp [callStep])⟩
      | counted count =>
          simp only [callStep] at hstep
          by_cases hfull : rule.limit ≤ count
          · obtain ⟨hget, hanswer⟩ :=
              get_afterCount_of_full hlength hfull turn.now s.cache turn.now
            refine .inl ⟨?_, admittedCalls_of_other hcall (by simp) (by simp [callStep, hanswer])⟩
            rw [hstep]
            simp only [readCount, hget]
            exact hread
          rw [Int.not_le] at hfull
          by_cases hzero : count = 0
          · subst hzero
            obtain ⟨hget, _, hanswer⟩ := get_afterCount_zero hlength hlimit hwindow turn.now s.cache
            refine .inr ⟨0, rfl, hlimit, admittedCalls_of_admitted hcall (by simp)
              (by simp [callStep, hanswer]), ?_⟩
            rw [hstep]
            simp only [readCount, hget]
            rfl
          cases hstored : s.cache.get turn.now key with
          | none =>
              -- the counter is gone: `incr` raises
              have hraises : afterCount rule key count turn.now s.cache = (s.cache, .raises) := by
                rw [afterCount, if_neg (Int.not_le.mpr hfull), if_neg hzero,
                  Cache.incr_eq_none_iff.mpr hstored]
              refine .inl ⟨?_, admittedCalls_of_other hcall (by simp) (by simp [callStep, hraises])⟩
              rw [hstep, hraises]
              exact hread
          | some stored =>
              obtain ⟨hget, _, hanswer⟩ := get_afterCount_of_ne hlength hfull hzero hstored
              refine .inr ⟨count, rfl, hfull, admittedCalls_of_admitted hcall (by simp)
                (by simp [callStep, hanswer]), ?_⟩
              rw [if_neg hzero, ← hread, hstep]
              simp only [readCount, hget, hstored]
              rfl
      | done answer =>
          rw [raceStep_of_done hcall]
          exact .inl ⟨hread, rfl⟩

/-- The write finds the count that its call has read. -/
def FreshWrite (key : Text) (s : RateRace) (turn : Turn) : Prop :=
  ∀ count, s.calls[turn.call]? = some (.counted count) → readCount s.cache turn.now key = count

/-- The count is the first one and the calls admitted since, within the limit. -/
def Tallied (rule : RateRule) (key : Text) (count : Int) (s : RateRace) : Prop :=
  readCount s.cache s.clock key = count + admittedCalls s ∧ count + admittedCalls s ≤ rule.limit

theorem tallied_step (hlimit : 0 < rule.limit) (hwindow : 0 < rule.window) {count : Int}
    {s : RateRace} {turn : Turn} (hs : Tallied rule key count s) (hnow : NoExpiry key s turn)
    (hfresh : FreshWrite key s turn) : Tallied rule key count (raceStep rule key s turn) := by
  obtain ⟨htally, hle⟩ := hs
  rcases raceStep_cases hlength hlimit hwindow hnow with
    ⟨hread, hadmitted⟩ | ⟨found, hcall, hlt, hadmitted, hread⟩
  · exact ⟨by rw [hread, hadmitted, htally], by rw [hadmitted]; exact hle⟩
  · have hfound := hfresh found hcall
    rw [readCount_of_noExpiry hnow, htally] at hfound
    have hnext : readCount (raceStep rule key s turn).cache (raceStep rule key s turn).clock key
        = count + admittedCalls s + 1 := by
      rw [hread, htally]
      split <;> omega
    exact ⟨by rw [hnext, hadmitted]; push_cast; omega, by rw [hadmitted]; push_cast; omega⟩

/-! ## §4. Runs that admit nothing. -/

omit hlength in
theorem mem_calls_raceStep {s : RateRace} {turn : Turn} {call : Call}
    (h : call ∈ (raceStep rule key s turn).calls) :
    call ∈ s.calls ∨ ∃ before, s.calls[turn.call]? = some before
      ∧ call = (callStep rule key turn.now s.cache before).2 := by
  cases hcall : s.calls[turn.call]? with
  | none =>
      rw [raceStep_of_none hcall] at h
      exact .inl h
  | some before =>
      rw [raceStep_of_some hcall] at h
      exact (List.mem_or_eq_of_mem_set h).imp id fun heq => ⟨before, rfl, heq⟩

/-- The counter is full, every count that was read was, and nobody has been admitted. -/
def Full (rule : RateRule) (key : Text) (s : RateRace) : Prop :=
  rule.limit ≤ readCount s.cache s.clock key
    ∧ (∀ count, .counted count ∈ s.calls → rule.limit ≤ count) ∧ admittedCalls s = 0

theorem full_step (hlimit : 0 < rule.limit) (hwindow : 0 < rule.window) {s : RateRace} {turn : Turn}
    (hs : Full rule key s) (hnow : NoExpiry key s turn) :
    Full rule key (raceStep rule key s turn) := by
  obtain ⟨hfull, hcounted, hnone⟩ := hs
  rcases raceStep_cases hlength hlimit hwindow hnow with
    ⟨hread, hadmitted⟩ | ⟨count, hcall, hlt, _, _⟩
  · refine ⟨by rw [hread]; exact hfull, fun count hmem => ?_, hadmitted.trans hnone⟩
    rcases mem_calls_raceStep hmem with hmem | ⟨before, _, hnew⟩
    · exact hcounted count hmem
    · cases before with
      | start =>
          simp only [callStep] at hnew
          split at hnew <;> exact absurd hnew (by simp)
      | notBlocked =>
          injection hnew with hnew
          rw [hnew, readCount_of_noExpiry hnow]
          exact hfull
      | counted count => exact absurd hnew (by simp [callStep])
      | done answer => exact absurd hnew (by simp [callStep])
  · exact absurd (hcounted count (List.mem_of_getElem? hcall)) (Int.not_le.mpr hlt)

/-- The key is blocked, no call has got past the block, and nobody has been admitted. -/
def Blocked (key : Text) (s : RateRace) : Prop :=
  isBlocked s.cache s.clock key = true
    ∧ (∀ call ∈ s.calls, call = .start ∨ ∃ answer, call = .done answer) ∧ admittedCalls s = 0

omit hlength in
theorem blocked_step {s : RateRace} {turn : Turn} (hs : Blocked key s)
    (hnow : NoExpiry key s turn) : Blocked key (raceStep rule key s turn) := by
  obtain ⟨hblocked, hcalls, hnone⟩ := hs
  have hstill : isBlocked s.cache turn.now key = true :=
    (isBlocked_of_noExpiry hnow).trans hblocked
  cases hcall : s.calls[turn.call]? with
  | none =>
      rw [raceStep_of_none hcall]
      exact ⟨hstill, hcalls, hnone⟩
  | some before =>
      rcases hcalls before (List.mem_of_getElem? hcall) with rfl | ⟨answer, rfl⟩
      · have hanswer : (callStep rule key turn.now s.cache .start).2
            = .done (.response tooManyRequests) := by
          rw [callStep, if_pos hstill]
        refine ⟨by rw [raceStep_of_some hcall]; exact hstill, fun call hmem => ?_, ?_⟩
        · rw [raceStep_of_some hcall, hanswer] at hmem
          rcases List.mem_or_eq_of_mem_set hmem with hmem | rfl
          · exact hcalls call hmem
          · exact .inr ⟨_, rfl⟩
        · rw [admittedCalls_of_other hcall (by simp) (by rw [hanswer]; simp)]
          exact hnone
      · rw [raceStep_of_done hcall]
        exact ⟨hstill, hcalls, hnone⟩

/-! ## §5. A run that admits everybody. -/

/-- Every call takes its next step at `now`, one call after the other. -/
def sweep (now : Instant) (n : Nat) : List Turn := (List.range n).map fun k => ⟨k, now⟩

omit hlength in
/-- If a call that stands at `a` comes to `b`, all of them do. -/
theorem run_sweep {now : Instant} {I : RateCache → Prop} {a b : Call}
    (hstep : ∀ cache, I cache → I (callStep rule key now cache a).1
      ∧ (callStep rule key now cache a).2 = b) {cache : RateCache} (hI : I cache) {n m : Nat}
    (hm : m ≤ n) :
    AllSteps (raceStep rule key) (NoExpiry key) ⟨cache, List.replicate n a, now⟩ (sweep now m)
      ∧ ∃ cache', I cache' ∧ run (raceStep rule key) ⟨cache, List.replicate n a, now⟩ (sweep now m)
          = ⟨cache', List.replicate m b ++ List.replicate (n - m) a, now⟩ := by
  induction m with
  | zero => exact ⟨trivial, cache, hI, by simp [sweep]⟩
  | succ m ih =>
      obtain ⟨hsteps, cache', hI', hrun⟩ := ih (by omega)
      have hsweep : sweep now (m + 1) = sweep now m ++ [⟨m, now⟩] := by
        rw [sweep, List.range_succ, List.map_append]
        rfl
      have hrest : n - m = n - (m + 1) + 1 := by omega
      have hcall : (List.replicate m b ++ List.replicate (n - m) a)[m]? = some a := by
        rw [List.getElem?_append_right (by simp), hrest]
        simp
      obtain ⟨hI'', hb⟩ := hstep cache' hI'
      rw [hsweep, allSteps_append, run_append, hrun]
      refine ⟨⟨hsteps, ⟨le_refl now, rfl, rfl⟩, trivial⟩, _, hI'', ?_⟩
      rw [run_cons, run_nil, raceStep_of_some hcall]
      simp only [hb, hrest]
      rw [List.set_append_right _ _ (by simp)]
      simp only [List.length_replicate, Nat.sub_self, List.replicate_succ (n := n - (m + 1)),
        List.set_cons_zero, List.replicate_succ' (n := m), List.append_assoc, List.singleton_append]

omit hlength in
theorem run_full_sweep (rule : RateRule) (key : Text) (now : Instant) {I : RateCache → Prop}
    {a b : Call} (hstep : ∀ cache, I cache → I (callStep rule key now cache a).1
      ∧ (callStep rule key now cache a).2 = b) {cache : RateCache} (hI : I cache) (n : Nat) :
    AllSteps (raceStep rule key) (NoExpiry key) ⟨cache, List.replicate n a, now⟩ (sweep now n)
      ∧ ∃ cache', I cache' ∧ run (raceStep rule key) ⟨cache, List.replicate n a, now⟩ (sweep now n)
          = ⟨cache', List.replicate n b, now⟩ := by
  obtain ⟨hsteps, cache', hI', hrun⟩ := run_sweep hstep hI (le_refl n)
  refine ⟨hsteps, cache', hI', hrun.trans ?_⟩
  rw [Nat.sub_self, List.replicate_zero, List.append_nil]

/-- **All calls are admitted** when each reads the count before any of them writes. -/
theorem all_admitted_of_reads_first (hlimit : 0 < rule.limit) (hwindow : 0 < rule.window)
    {cache : RateCache} {now : Instant} (hblocked : isBlocked cache now key = false)
    (hcount : readCount cache now key < rule.limit) (n : Nat) :
    ∃ turns, AllSteps (raceStep rule key) (NoExpiry key) (started cache now n) turns
      ∧ admittedCalls (run (raceStep rule key) (started cache now n) turns) = n := by
  -- first they all find no block, then they all read the same count
  obtain ⟨hsteps₁, cache₁, hcache₁, hrun₁⟩ := run_full_sweep rule key now (I := (· = cache))
    (a := .start) (b := .notBlocked) (by rintro _ rfl; simp [callStep, hblocked]) rfl n
  subst hcache₁
  obtain ⟨hsteps₂, cache₂, hcache₂, hrun₂⟩ := run_full_sweep rule key now (I := (· = cache₁))
    (a := .notBlocked) (b := .counted (readCount cache₁ now key))
    (by rintro _ rfl; exact ⟨rfl, rfl⟩) rfl n
  subst hcache₂
  -- then they all write, and none finds more than it has read
  have hwrite : ∀ c, (readCount cache₂ now key = 0 ∨ ∃ stored, Cache.get c now key = some stored) →
      (readCount cache₂ now key = 0 ∨ ∃ stored,
        (callStep rule key now c (.counted (readCount cache₂ now key))).1.get now key = some stored)
      ∧ (callStep rule key now c (.counted (readCount cache₂ now key))).2 = .done .next := by
    intro c hc
    by_cases hzero : readCount cache₂ now key = 0
    · obtain ⟨_, _, hanswer⟩ := get_afterCount_zero hlength hlimit hwindow now c
      rw [hzero]
      exact ⟨.inl rfl, by simp only [callStep, hanswer]⟩
    · obtain ⟨stored, hstored⟩ := hc.resolve_left hzero
      obtain ⟨hget, _, hanswer⟩ := get_afterCount_of_ne hlength hcount hzero hstored
      exact ⟨.inr ⟨_, hget⟩, by simp only [callStep, hanswer]⟩
  have hthere : readCount cache₂ now key = 0 ∨ ∃ stored, cache₂.get now key = some stored := by
    cases hget : cache₂.get now key with
    | none => exact .inl (by rw [readCount, hget]; rfl)
    | some stored => exact .inr ⟨stored, rfl⟩
  obtain ⟨hsteps₃, cache₃, _, hrun₃⟩ := run_full_sweep rule key now (b := .done .next) hwrite hthere n
  refine ⟨sweep now n ++ (sweep now n ++ sweep now n), ?_, ?_⟩
  · rw [started, allSteps_append, allSteps_append, hrun₁, hrun₂]
    exact ⟨hsteps₁, hsteps₂, hsteps₃⟩
  · rw [started, run_append, run_append, hrun₁, hrun₂, hrun₃, admittedCalls, List.count_replicate_self]

end

/-! ## §6. When the limit is kept. -/

section
variable {ip path key : Text} {rule : RateRule}

/-- **Where each write finds the count that its call has read, the limit is kept**, as it is for
calls that do not overlap. -/
theorem limit_kept_of_fresh_writes (hrule : matchRule path = some rule)
    (hkey : makeKey ip path = some key) {cache : RateCache} {now : Instant} {n : Nat}
    (hcount : readCount cache now key ≤ rule.limit) {turns : List Turn}
    (hturns : AllSteps (raceStep rule key) (fun s t => NoExpiry key s t ∧ FreshWrite key s t)
      (started cache now n) turns) :
    AllStates (raceStep rule key)
      (fun s => readCount cache now key + admittedCalls s ≤ rule.limit)
      (started cache now n) turns := by
  obtain ⟨hlimit, hwindow, _⟩ := rule_sound hrule
  have hlength := makeKey_length hkey
  have hnone : admittedCalls (started cache now n) = 0 := by
    simp [admittedCalls, started, List.count_replicate]
  have hstart : Tallied rule key (readCount cache now key) (started cache now n) := by
    rw [Tallied, hnone]
    simpa [started] using hcount
  have hall := allStates_of_allSteps (P := Tallied rule key (readCount cache now key))
    (fun s t hs h => tallied_step hlength hlimit hwindow hs h.1 h.2) hstart hturns
  exact hall.imp fun s hs => hs.2

/-- **The limit under concurrency.**  Of `n` simultaneous calls, whatever the interleaving, no
more are admitted than the counter has room for, if and only if the key is blocked, the counter
is full, or it has room for all of them. -/
theorem limit_kept_iff (hrule : matchRule path = some rule) (hkey : makeKey ip path = some key)
    (cache : RateCache) (now : Instant) (n : Nat) (hcount : readCount cache now key ≤ rule.limit) :
    (∀ turns, AllSteps (raceStep rule key) (NoExpiry key) (started cache now n) turns →
        readCount cache now key + admittedCalls (run (raceStep rule key) (started cache now n) turns)
          ≤ rule.limit)
      ↔ isBlocked cache now key = true ∨ readCount cache now key = rule.limit
          ∨ readCount cache now key + n ≤ rule.limit := by
  obtain ⟨hlimit, hwindow, _⟩ := rule_sound hrule
  have hlength := makeKey_length hkey
  have hnone : admittedCalls (started cache now n) = 0 := by
    simp [admittedCalls, started, List.count_replicate]
  constructor
  · intro h
    by_contra hnot
    rw [not_or, not_or, Bool.not_eq_true] at hnot
    obtain ⟨hblocked, hfull, hroom⟩ := hnot
    obtain ⟨turns, hturns, hadmitted⟩ :=
      all_admitted_of_reads_first hlength hlimit hwindow hblocked
        (lt_of_le_of_ne hcount hfull) n
    have := h turns hturns
    rw [hadmitted] at this
    exact hroom this
  · rintro (hblocked | hfull | hroom) turns hturns
    · have hstart : Blocked key (started cache now n) :=
        ⟨hblocked, fun call hcall => .inl (List.eq_of_mem_replicate hcall), hnone⟩
      have hend := (allStates_of_allSteps (P := Blocked key) (fun s t hs => blocked_step hs) hstart
        hturns).last
      rw [hend.2.2]
      simpa using hcount
    · have hstart : Full rule key (started cache now n) :=
        ⟨le_of_eq hfull.symm, fun count hmem => absurd (List.eq_of_mem_replicate hmem) (by simp),
          hnone⟩
      have hend := (allStates_of_allSteps (P := Full rule key)
        (fun s t hs => full_step hlength hlimit hwindow hs) hstart hturns).last
      rw [hend.2.2]
      simpa using hcount
    · have hadmitted : admittedCalls (run (raceStep rule key) (started cache now n) turns) ≤ n := by
        have := List.count_le_length (a := .done .next)
          (l := (run (raceStep rule key) (started cache now n) turns).calls)
        rw [length_race, started, List.length_replicate] at this
        exact this
      omega

/-! ### Six simultaneous requests for a token -/

/-- The key of a client's requests for a token. -/
def tokenKey : Text := txt "d08df7abc1bf23009f4cf04c6820db14e92b0589"

theorem limit_kept_iff_token :
    (∀ turns, AllSteps (raceStep { limit := 5, window := 60 } tokenKey) (NoExpiry tokenKey)
        (started .empty 0 5) turns →
      readCount .empty 0 tokenKey + admittedCalls (run (raceStep { limit := 5, window := 60 }
        tokenKey) (started .empty 0 5) turns) ≤ 5)
      ↔ isBlocked .empty 0 tokenKey = true ∨ readCount .empty 0 tokenKey = 5
          ∨ readCount .empty 0 tokenKey + (5 : Nat) ≤ 5 :=
  have hkey : makeKey (txt "1.2.3.4") (txt "/api/v1/auth/token/") = some tokenKey := by
    decide +kernel
  limit_kept_iff (by decide) hkey .empty 0 5 (by decide)

/-- Six calls that all read the count before any writes are all admitted, where the limit is
five. -/
theorem limit_exceeded_by_concurrent_calls :
    ¬ ∀ (ip path key : Text) (rule : RateRule), matchRule path = some rule →
      makeKey ip path = some key → ∀ (cache : RateCache) (now : Instant) (n : Nat),
        readCount cache now key ≤ rule.limit → ∀ turns,
          AllSteps (raceStep rule key) (NoExpiry key) (started cache now n) turns →
            readCount cache now key
              + admittedCalls (run (raceStep rule key) (started cache now n) turns)
                ≤ rule.limit := by
  intro h
  have hexceeded := h (txt "1.2.3.4") (txt "/api/v1/auth/token/") tokenKey
    { limit := 5, window := 60 } (by decide) (by decide +kernel) .empty 0 6 (by decide)
    (sweep 0 6 ++ sweep 0 6 ++ sweep 0 6) (by decide +kernel)
  revert hexceeded
  decide +kernel

end

end HotelAgent.RateLimitMiddleware

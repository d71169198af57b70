/-
  HotelAgent.Core.RateWindows — limit, block and recovery of the rate limiter.

  The requests of one client to one path are handled one at a time, at times
  that never go back, from an empty cache.

  Main results:
    * `requests_limited_blocked_recovered` — within the life of a counter at
      most the limit is admitted, a refusal on the count lasts for the block
      duration, and the first request after it is admitted.
-/
import HotelAgent.Core.RateLimit

namespace HotelAgent.RateLimitMiddleware

open Lib

/-! ## §1. Counters and admissions. -/

/-- The request creates the counter of its key, to disappear at `expiry`. -/
def CreatesCounter (cache : RateCache) (q : TimedRequest) (expiry : Instant) : Prop :=
  ∃ key, limitKey q.request = some key ∧ cache.live q.time key = none
    ∧ ∃ count, (processRequest cache q.time q.request).1.live q.time key = some ⟨count, expiry⟩

/-- How many of the requests are admitted before `expiry`. -/
def admittedBefore (cache : RateCache) (expiry : Instant) (qs : List TimedRequest) : Nat :=
  (qs.zip (answers cache qs)).countP fun p => p.1.time < expiry ∧ p.2 = .next

section
variable {key : Text} {rule : RateRule}

/-- The requests are counted under `key` by `rule`. -/
def UnderRule (key : Text) (rule : RateRule) (qs : List TimedRequest) : Prop :=
  ∀ q ∈ qs, matchRule q.request.path = some rule ∧ limitKey q.request = some key

/-- Then the limiter of the key meets all of them. -/
theorem arrivals_of_underRule {qs : List TimedRequest} (h : UnderRule key rule qs) :
    qs.filterMap (arrivalOn key) = qs.map fun q => arrivalOf rule q.time := by
  induction qs with
  | nil => rfl
  | cons q qs ih =>
      obtain ⟨hrule, hkey⟩ := h q List.mem_cons_self
      rw [List.filterMap_cons_some (arrivalOn_of_key hrule hkey), List.map_cons,
        ih fun r hr => h r (List.mem_cons_of_mem q hr)]

/-- The requests admitted are those that the limiter of the key lets through. -/
theorem admissions_eq {qs : List TimedRequest} (h : UnderRule key rule qs) (cache : RateCache) :
    (windowOf cache key).admissions (qs.map fun q => arrivalOf rule q.time)
      = ((qs.zip (answers cache qs)).filter fun p => p.2 = .next).map
          fun p => arrivalOf rule p.1.time := by
  induction qs generalizing cache with
  | nil => rfl
  | cons q qs ih =>
      obtain ⟨hrule, hkey⟩ := h q List.mem_cons_self
      obtain ⟨hwindow, hanswer⟩ := windowOf_processRequest hrule hkey cache q.time
      have hrest := ih (fun r hr => h r (List.mem_cons_of_mem q hr))
        (processRequest cache q.time q.request).1
      rw [hwindow] at hrest
      rw [List.map_cons, answers, List.zip_cons_cons]
      by_cases hadmitted : ((windowOf cache key).step (arrivalOf rule q.time)).2 = .admitted
      · -- the limiter and the middleware admit the same requests
        have hnext : (processRequest cache q.time q.request).2 = .next :=
          hanswer.trans (handled_eq_next_iff.mpr hadmitted)
        rw [Window.admissions_cons_of_eq hadmitted, List.filter_cons_of_pos (by simpa using hnext),
          List.map_cons, hrest]
      · have hrefused : (processRequest cache q.time q.request).2 ≠ .next := fun hnext =>
          hadmitted (handled_eq_next_iff.mp (hanswer.symm.trans hnext))
        rw [Window.admissions_cons_of_ne hadmitted,
          List.filter_cons_of_neg (by simpa using hrefused), hrest]

theorem admittedBefore_eq {qs : List TimedRequest} (h : UnderRule key rule qs) (cache : RateCache)
    (expiry : Instant) :
    admittedBefore cache expiry qs
      = ((windowOf cache key).admissions (qs.map fun q => arrivalOf rule q.time)).countP
          fun a => a.now < expiry := by
  rw [admissions_eq h, List.countP_map, List.countP_filter, admittedBefore]
  refine List.countP_congr fun p _ => ?_
  simp [arrivalOf]

end

/-! ## §2. One client at one path. -/

section
variable {ip path : Text} {rule : RateRule} {qs : List TimedRequest}

/-- The requests of one client to one path are counted under one key, or none is counted. -/
theorem underRule_or_no_key (hrule : matchRule path = some rule)
    (hqs : ∀ q ∈ qs, getClientIp q.request = ip ∧ q.request.path = path) :
    (∃ key, key.length = 40 ∧ UnderRule key rule qs) ∨ ∀ q ∈ qs, limitKey q.request = none := by
  have hkey : ∀ q ∈ qs, limitKey q.request = makeKey ip path := by
    intro q hq
    obtain ⟨hip, hpath⟩ := hqs q hq
    rw [limitKey, hip, hpath, hrule, Option.bind_some]
  cases h : makeKey ip path with
  | none => exact .inr fun q hq => (hkey q hq).trans h
  | some key =>
      refine .inl ⟨key, makeKey_length h, fun q hq => ⟨?_, (hkey q hq).trans h⟩⟩
      rw [(hqs q hq).2, hrule]

theorem UnderRule.of_append {key : Text} {before after : List TimedRequest}
    (h : UnderRule key rule (before ++ after)) : UnderRule key rule after :=
  fun q hq => h q (List.mem_append_right before hq)

/-- A request that creates a counter is admitted, and the counter has counted it. -/
theorem CreatesCounter.admitted {key : Text} {cache : RateCache} {q : TimedRequest}
    {expiry : Instant} (h : CreatesCounter cache q expiry)
    (hrule : matchRule q.request.path = some rule) (hkey : limitKey q.request = some key) :
    ((windowOf cache key).step (arrivalOf rule q.time)).2 = .admitted
      ∧ ((windowOf cache key).step (arrivalOf rule q.time)).1.counter = some ⟨1, expiry⟩
      ∧ q.time < expiry := by
  obtain ⟨key', hkey', hnone, count, hcreated⟩ := h
  rw [hkey] at hkey'
  injection hkey' with hkey'
  subst hkey'
  obtain ⟨hentry, hlive⟩ := Cache.live_eq_some_iff.mp hcreated
  have hcounter : ((windowOf cache key).step (arrivalOf rule q.time)).1.counter
      = some ⟨count, expiry⟩ := by
    rw [← (windowOf_processRequest hrule hkey cache q.time).1]
    exact hentry
  -- only a request that is admitted brings a counter where there was none
  have hadmitted : ((windowOf cache key).step (arrivalOf rule q.time)).2 = .admitted := by
    by_contra hrefused
    rw [Window.counter_of_refused hrefused] at hcounter
    have hthere : cache.live q.time key = some ⟨count, expiry⟩ :=
      Cache.live_eq_some_iff.mpr ⟨hcounter, hlive⟩
    rw [hnone] at hthere
    exact absurd hthere (by simp)
  refine ⟨hadmitted, ?_, hlive⟩
  rcases Window.step_of_admitted hadmitted with ⟨_, hs⟩ | ⟨hne, _⟩
  · rw [hs] at hcounter ⊢
    injection hcounter with hcounter
    injection hcounter with _ hexpiry
    rw [← hexpiry]
  · refine absurd ?_ hne
    show readCount cache q.time key = 0
    rw [readCount, Cache.get, hnone]
    rfl

/-- Where a counter is created, at most the limit is admitted until it disappears. -/
theorem admittedBefore_le_limit {key : Text} {before after : List TimedRequest} {q : TimedRequest}
    {expiry : Instant} (hunder : UnderRule key rule (before ++ q :: after))
    (htimes : ((q :: after).map (·.time)).Pairwise (· ≤ ·))
    (hcreates : CreatesCounter (cacheAfter .empty before) q expiry) :
    (admittedBefore (cacheAfter .empty before) expiry (q :: after) : Int) ≤ rule.limit := by
  have hunder' : UnderRule key rule (q :: after) := hunder.of_append
  obtain ⟨hrule, hkey⟩ := hunder' q List.mem_cons_self
  obtain ⟨hadmitted, hcounter, hlive⟩ := hcreates.admitted hrule hkey
  have hbefore : decide ((arrivalOf rule q.time).now < expiry) = true := decide_eq_true hlive
  rw [admittedBefore_eq hunder', List.map_cons, Window.admissions_cons_of_eq hadmitted,
    List.countP_cons, if_pos hbefore]
  have hsame : ∀ a ∈ after.map fun q => arrivalOf rule q.time, a.limit = rule.limit := by
    intro a ha
    obtain ⟨r, _, rfl⟩ := List.mem_map.mp ha
    rfl
  have hlimit := Window.admissions_le_limit Int.one_pos (rule_sound hrule).1 hcounter hsame
    (by
      rw [List.map_map]
      exact (List.pairwise_cons.mp htimes).2)
  push_cast
  omega

/-- A counter disappears before a block that is set while it counts. -/
theorem counter_expires_first {key : Text} {before : List TimedRequest} {q : TimedRequest}
    (hunder : UnderRule key rule before) (hrule : matchRule q.request.path = some rule)
    (htimes : ∀ p ∈ before, p.time ≤ q.time) {e : Entry Int Instant}
    (he : (windowOf (cacheAfter .empty before) key).counter = some e) (hlength : key.length = 40) :
    e.expiry ≤ q.time + blockDuration * second := by
  rw [windowOf_cacheAfter hlength, windowOf_empty, arrivals_of_underRule hunder] at he
  obtain ⟨_, a, ha, hexpiry⟩ := Window.counter_after he
  obtain ⟨p, hp, rfl⟩ := List.mem_map.mp ha
  have htime := htimes p hp
  have hwindow := (rule_sound hrule).2.2
  rw [hexpiry]
  show p.time + rule.window * second ≤ q.time + blockDuration * second
  have hsecond : rule.window * second ≤ blockDuration * second :=
    Int.mul_le_mul_of_nonneg_right hwindow (by decide)
  exact Int.add_le_add htime hsecond

theorem times_of_append {before mid after : List TimedRequest} {q r : TimedRequest}
    (h : ((before ++ q :: mid ++ r :: after).map (·.time)).Pairwise (· ≤ ·)) :
    (∀ p ∈ before, p.time ≤ q.time) ∧ ∀ m ∈ mid, m.time ≤ r.time := by
  rw [List.pairwise_map, List.append_assoc, List.pairwise_append] at h
  obtain ⟨_, hlater, hearlier⟩ := h
  obtain ⟨_, _, hmid⟩ := List.pairwise_append.mp hlater
  exact ⟨fun p hp => hearlier p hp q (by simp),
    fun m hm => hmid m (List.mem_cons_of_mem q hm) r List.mem_cons_self⟩

/-- How a request is answered that comes after a refusal on the count, with none after the
block in between. -/
theorem answer_after_limited {before mid after : List TimedRequest} {q r : TimedRequest}
    (hrule : matchRule path = some rule)
    (hqs : ∀ p ∈ before ++ q :: mid ++ r :: after,
      getClientIp p.request = ip ∧ p.request.path = path)
    (htimes : ((before ++ q :: mid ++ r :: after).map (·.time)).Pairwise (· ≤ ·))
    (hexceeded : (processRequest (cacheAfter .empty before) q.time q.request).2
      = .response limitExceeded)
    (hearly : ∀ m ∈ mid, m.time < q.time + 300 * second) :
    (r.time < q.time + 300 * second →
        (processRequest (cacheAfter .empty (before ++ q :: mid)) r.time r.request).2
          = .response tooManyRequests)
      ∧ (q.time + 300 * second ≤ r.time →
        (processRequest (cacheAfter .empty (before ++ q :: mid)) r.time r.request).2 = .next) := by
  rcases underRule_or_no_key hrule hqs with ⟨key, hlength, hunder⟩ | hnone
  · have hbefore : UnderRule key rule before := fun p hp =>
      hunder p (List.mem_append_left _ (List.mem_append_left _ hp))
    have hmid : UnderRule key rule mid := fun p hp => hunder p (by simp [hp])
    obtain ⟨hqrule, hqkey⟩ := hunder q (by simp)
    obtain ⟨hrrule, hrkey⟩ := hunder r (by simp)
    obtain ⟨hwindow, hanswer⟩ :=
      windowOf_processRequest hqrule hqkey (cacheAfter .empty before) q.time
    have hlimited : ((windowOf (cacheAfter .empty before) key).step (arrivalOf rule q.time)).2
        = .limited := by
      rw [hexceeded] at hanswer
      exact (handled_injective (v := .limited) hanswer).symm
    -- what the limiter of the key is when `r` comes
    have hlater : windowOf (cacheAfter .empty (before ++ q :: mid)) key
        = ((windowOf (cacheAfter .empty before) key).step (arrivalOf rule q.time)).1.after
            (mid.map fun p => arrivalOf rule p.time) := by
      rw [← hwindow, ← arrivals_of_underRule hmid, ← windowOf_cacheAfter hlength]
      simp only [cacheAfter, run_append, run_cons]
    have hearly' : ∀ b ∈ mid.map fun p => arrivalOf rule p.time,
        b.now < (arrivalOf rule q.time).blockExpiry := by
      intro b hb
      obtain ⟨m, hm, rfl⟩ := List.mem_map.mp hb
      exact hearly m hm
    obtain ⟨_, hanswer'⟩ :=
      windowOf_processRequest hrrule hrkey (cacheAfter .empty (before ++ q :: mid)) r.time
    rw [hlater] at hanswer'
    refine ⟨fun hsoon => ?_, fun hlate => ?_⟩
    · have hblocked := Window.step_of_limited hlimited hearly' (c := arrivalOf rule r.time) hsoon
      rw [hanswer', hblocked]
      rfl
    · have hover : ∀ e, (windowOf (cacheAfter .empty before) key).counter = some e →
          e.expiry ≤ (arrivalOf rule q.time).blockExpiry := fun e he =>
        counter_expires_first hbefore hqrule (times_of_append htimes).1 he hlength
      have hadmitted := Window.admitted_of_recovered hlimited hover hearly'
        (c := arrivalOf rule r.time) hlate (rule_sound hrrule).1
      rw [hanswer', hadmitted]
      rfl
  · rw [processRequest_of_no_key (hnone q (by simp))] at hexceeded
    split at hexceeded <;> exact absurd hexceeded (by simp)

/-- **Limit, block and recovery.**  Of the requests of one client to one path,

* at most `rule.limit` are admitted between the creation and the expiry of one counter;
* when one is refused on the count, those that come within the block duration are refused;
* the first that comes after it is admitted. -/
theorem requests_limited_blocked_recovered (hrule : matchRule path = some rule)
    (hqs : ∀ q ∈ qs, getClientIp q.request = ip ∧ q.request.path = path)
    (htimes : (qs.map (·.time)).Pairwise (· ≤ ·)) :
    (∀ before q after expiry, qs = before ++ q :: after →
        CreatesCounter (cacheAfter .empty before) q expiry →
          (admittedBefore (cacheAfter .empty before) expiry (q :: after) : Int) ≤ rule.limit)
      ∧ (∀ before q mid r after, qs = before ++ q :: mid ++ r :: after →
          (processRequest (cacheAfter .empty before) q.time q.request).2
              = .response limitExceeded →
            r.time < q.time + 300 * second →
              ∃ response, (processRequest (cacheAfter .empty (before ++ q :: mid)) r.time
                r.request).2 = .response response)
      ∧ ∀ before q mid r after, qs = before ++ q :: mid ++ r :: after →
          (processRequest (cacheAfter .empty before) q.time q.request).2
              = .response limitExceeded →
            (∀ m ∈ mid, m.time < q.time + 300 * second) → q.time + 300 * second ≤ r.time →
              (processRequest (cacheAfter .empty (before ++ q :: mid)) r.time r.request).2
                = .next := by
  refine ⟨?_, ?_, ?_⟩
  · rintro before q after expiry rfl hcreates
    rw [List.map_append, List.pairwise_append] at htimes
    rcases underRule_or_no_key hrule hqs with ⟨key, _, hunder⟩ | hnone
    · exact admittedBefore_le_limit hunder htimes.2.1 hcreates
    · obtain ⟨key, hkey, _⟩ := hcreates
      exact absurd hkey (by rw [hnone q (by simp)]; simp)
  · rintro before q mid r after rfl hexceeded hsoon
    have hr := (times_of_append htimes).2
    exact ⟨tooManyRequests, (answer_after_limited hrule hqs htimes hexceeded
      fun m hm => lt_of_le_of_lt (hr m hm) hsoon).1 hsoon⟩
  · rintro before q mid r after rfl hexceeded hearly hlate
    exact (answer_after_limited hrule hqs htimes hexceeded hearly).2 hlate

end

/-! ## §3. Six requests for a token. -/

def tokenRequest : HttpRequest where
  path := txt "/api/v1/auth/token/"
  forwardedFor := none
  remoteAddr := some (txt "1.2.3.4")

/-- Five requests at once. -/
def fiveAtOnce : List TimedRequest := List.replicate 5 ⟨0, tokenRequest⟩

/-- The sixth request of the minute is refused and blocks the client for five minutes. -/
theorem requests_limited_blocked_recovered_token :
    (admittedBefore .empty (60 * second)
        (fiveAtOnce ++ [⟨0, tokenRequest⟩, ⟨299 * second, tokenRequest⟩,
          ⟨300 * second, tokenRequest⟩]) : Int) ≤ 5
      ∧ (∃ response, (processRequest (cacheAfter .empty (fiveAtOnce ++ [⟨0, tokenRequest⟩]))
          (299 * second) tokenRequest).2 = .response response)
      ∧ (processRequest (cacheAfter .empty (fiveAtOnce ++ [⟨0, tokenRequest⟩,
          ⟨299 * second, tokenRequest⟩])) (300 * second) tokenRequest).2 = .next := by
  have hrule : matchRule tokenRequest.path = some { limit := 5, window := 60 } := by decide
  have hqs : ∀ q ∈ fiveAtOnce ++ [⟨0, tokenRequest⟩, ⟨299 * second, tokenRequest⟩,
      ⟨300 * second, tokenRequest⟩], getClientIp q.request = txt "1.2.3.4"
        ∧ q.request.path = tokenRequest.path := by
    decide +kernel
  obtain ⟨hlimit, hblock, hrecovery⟩ :=
    requests_limited_blocked_recovered hrule hqs (by decide +kernel)
  have hexceeded : (processRequest (cacheAfter .empty fiveAtOnce) 0 tokenRequest).2
      = .response limitExceeded := by
    decide +kernel
  refine ⟨?_, ?_, ?_⟩
  · refine hlimit [] ⟨0, tokenRequest⟩ _ (60 * second) rfl
      ⟨txt "d08df7abc1bf23009f4cf04c6820db14e92b0589", ?_, rfl, 1, ?_⟩
    · decide +kernel
    · decide +kernel
  · exact hblock fiveAtOnce ⟨0, tokenRequest⟩ [] ⟨299 * second, tokenRequest⟩ _ rfl hexceeded
      (by decide)
  · exact hrecovery fiveAtOnce ⟨0, tokenRequest⟩ [⟨299 * second, tokenRequest⟩]
      ⟨300 * second, tokenRequest⟩ [] rfl hexceeded (by decide) (by decide)

end HotelAgent.RateLimitMiddleware

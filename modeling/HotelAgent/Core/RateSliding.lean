/-
  HotelAgent.Core.RateSliding — the middleware as a sliding window.

  It calls itself one, but counts in fixed windows: a client that comes at the end
  of one window and at the beginning of the next is admitted more often than the
  limit within the width of a window.

  Main result, `slidingWindow_iff`: every interval of the width of a window has at
  most as many admissions as the limit, if and only if each request that finds a
  counter and no block either is in a window that is overrun, or has no more than
  the limit of requests within a window's width, itself included.
-/
import HotelAgent.Core.RateWindows
import HotelAgent.Lib.SlidingWindow

namespace HotelAgent.RateLimitMiddleware

open Lib

/-! ## §1. Admissions in intervals. -/

/-- When requests are admitted. -/
def admittedTimes (cache : RateCache) (qs : List TimedRequest) : List Instant :=
  ((qs.zip (answers cache qs)).filter fun p => p.2 = .next).map fun p => p.1.time

/-- Every half-open interval as long as the window has at most the limit of the times. -/
def IsSlidingWindow (rule : RateRule) (times : List Instant) : Prop :=
  ∀ start, ((times.countP fun t => start ≤ t ∧ t < start + rule.window * second : Nat) : Int)
    ≤ rule.limit

/-- If a request is not blocked and finds a counter, then the counter is overrun before it expires,
or the requests that come within a window's width are within the limit. -/
def RoomAhead (cache : RateCache) (q : TimedRequest) (qs : List TimedRequest) : Prop :=
  ∀ rule ∈ matchRule q.request.path, ∀ key ∈ limitKey q.request,
    isBlocked cache q.time key = false → ∀ e ∈ cache.live q.time key,
      rule.limit < e.value + (q :: qs).countP (fun r => r.time < e.expiry)
        ∨ ((q :: qs).countP (fun r => r.time < q.time + rule.window * second) : Int) ≤ rule.limit

instance (cache : RateCache) (q : TimedRequest) (qs : List TimedRequest) :
    Decidable (RoomAhead cache q qs) :=
  inferInstanceAs (Decidable (∀ rule ∈ matchRule q.request.path, _))

/-- It does for each of the requests, handled one at a time. -/
def AlwaysRoomAhead (cache : RateCache) (qs : List TimedRequest) : Prop :=
  AllAhead (fun cache q => (processRequest cache q.time q.request).1) RoomAhead cache qs

theorem admittedTimes_cons (cache : RateCache) (q : TimedRequest) (qs : List TimedRequest) :
    admittedTimes cache (q :: qs)
      = if (processRequest cache q.time q.request).2 = .next then
          q.time :: admittedTimes (processRequest cache q.time q.request).1 qs
        else admittedTimes (processRequest cache q.time q.request).1 qs := by
  simp only [admittedTimes, answers, List.zip_cons_cons, List.filter_cons, decide_eq_true_eq]
  split
  · rfl
  · rfl

/-! ## §2. The limiter of one key. -/

/-- What a rule sets the limiter to. -/
def limitsOf (rule : RateRule)
    (h : 0 < rule.limit ∧ 0 < rule.window ∧ rule.window ≤ blockDuration) : Limits Instant where
  limit := rule.limit
  width := rule.window * second
  block := blockDuration * second
  limit_pos := h.1
  width_pos := Int.mul_pos h.2.1 (by decide)
  width_le_block := Int.mul_le_mul_of_nonneg_right h.2.2 (by decide)

section
variable {key : Text} {rule : RateRule}
  (hsound : 0 < rule.limit ∧ 0 < rule.window ∧ rule.window ≤ blockDuration)

/-- The times of the requests admitted are those at which the limiter of the key admits. -/
theorem admittedTimes_eq {qs : List TimedRequest} (h : UnderRule key rule qs) (cache : RateCache) :
    admittedTimes cache qs
      = (windowOf cache key).admittedAt (limitsOf rule hsound) (qs.map (·.time)) := by
  have hhits : (qs.map (·.time)).map (limitsOf rule hsound).hit
      = qs.map fun q => arrivalOf rule q.time := by
    rw [List.map_map]
    rfl
  rw [Window.admittedAt, hhits, admissions_eq h, List.map_map]
  rfl

/-- A request that finds room ahead is not cramped. -/
theorem roomAhead_iff {q : TimedRequest} (hrule : matchRule q.request.path = some rule)
    (hkey : limitKey q.request = some key) (cache : RateCache) (qs : List TimedRequest) :
    RoomAhead cache q qs
      ↔ (windowOf cache key).Uncramped (limitsOf rule hsound) q.time (qs.map (·.time)) := by
  have hcurrent : (windowOf cache key).current q.time = cache.live q.time key := rfl
  have hcount : ∀ finish, Window.countBefore finish ((q :: qs).map (·.time))
      = (q :: qs).countP fun r => r.time < finish := by
    intro finish
    rw [Window.countBefore, List.countP_map]
    rfl
  unfold RoomAhead Window.Uncramped
  rw [hrule, hkey, isBlocked_windowOf, hcurrent, ← List.map_cons]
  simp only [Option.mem_def, Option.some.injEq, forall_eq', hcount]
  exact Iff.rfl

/-- The two machines meet their conditions together. -/
theorem alwaysRoomAhead_iff {qs : List TimedRequest} (h : UnderRule key rule qs)
    (cache : RateCache) :
    AlwaysRoomAhead cache qs
      ↔ AllAhead (Window.stepAt (limitsOf rule hsound)) (Window.Uncramped (limitsOf rule hsound))
          (windowOf cache key) (qs.map (·.time)) :=
  allAhead_map_iff (R := fun (cache : RateCache) w => windowOf cache key = w)
    (I := fun q : TimedRequest =>
      matchRule q.request.path = some rule ∧ limitKey q.request = some key)
    (fun cache _ q hq hw => by
      rw [(windowOf_processRequest hq.1 hq.2 cache q.time).1, hw]
      rfl)
    (fun cache _ q qs hq hw => by
      rw [← hw]
      exact roomAhead_iff hsound hq.1 hq.2 cache qs)
    rfl h

end

/-! ## §3. One client at one path. -/

/-- A request without a key is never admitted, and has room. -/
theorem sliding_of_no_key {rule : RateRule} (hlimit : 0 < rule.limit) {qs : List TimedRequest}
    (hqs : ∀ q ∈ qs, (matchRule q.request.path).isSome = true ∧ limitKey q.request = none)
    (cache : RateCache) :
    IsSlidingWindow rule (admittedTimes cache qs) ∧ AlwaysRoomAhead cache qs := by
  induction qs generalizing cache with
  | nil => exact ⟨fun _ => hlimit.le, trivial⟩
  | cons q qs ih =>
      obtain ⟨hrule, hkey⟩ := hqs q List.mem_cons_self
      obtain ⟨htimes, hroom⟩ := ih (fun r hr => hqs r (List.mem_cons_of_mem q hr))
        (processRequest cache q.time q.request).1
      refine ⟨?_, fun rule _ key hkey' => absurd (hkey.symm.trans hkey') (by simp), hroom⟩
      -- the key cannot be made, so the request raises and the cache stays
      have hraises : (processRequest cache q.time q.request).2 ≠ .next := by
        have hlimited : matchRule q.request.path ≠ none := Option.isSome_iff_ne_none.mp hrule
        rw [processRequest_of_no_key hkey, if_neg hlimited]
        exact fun h => Handled.noConfusion h
      rw [admittedTimes_cons, if_neg hraises]
      exact htimes

/-- **The middleware as a sliding window**: of the requests of one client to one path, every
half-open interval as long as the rule's window has at most the limit of admissions, if and only
if each request has room ahead. -/
theorem slidingWindow_iff {ip path : Text} {rule : RateRule} {qs : List TimedRequest}
    (hrule : matchRule path = some rule)
    (hqs : ∀ q ∈ qs, getClientIp q.request = ip ∧ q.request.path = path)
    (htimes : (qs.map (·.time)).Pairwise (· ≤ ·)) :
    IsSlidingWindow rule (admittedTimes .empty qs) ↔ AlwaysRoomAhead .empty qs := by
  have hsound := rule_sound hrule
  rcases underRule_or_no_key hrule hqs with ⟨key, _, hunder⟩ | hnone
  · rw [admittedTimes_eq hsound hunder, alwaysRoomAhead_iff hsound hunder]
    have hfresh : (windowOf .empty key).Sound (limitsOf rule hsound) (qs.map (·.time)) := by
      intro e he
      rw [windowOf_empty] at he
      exact absurd he (by simp [Window.fresh])
    exact Window.sliding_iff hfresh htimes
  · have hno : ∀ q ∈ qs, (matchRule q.request.path).isSome = true ∧ limitKey q.request = none :=
      fun q hq => ⟨by rw [(hqs q hq).2, hrule]; rfl, hnone q hq⟩
    obtain ⟨hwindow, hroom⟩ := sliding_of_no_key hsound.1 hno .empty
    exact iff_of_true hwindow hroom

/-- Requests to register, at these seconds. -/
def registrationsAt (times : List Int) : List TimedRequest :=
  times.map fun t => ⟨t * second, ⟨txt "/api/v1/auth/register/", none, some (txt "1.2.3.4")⟩⟩

/-- Two at the beginning of a window and one in the next. -/
theorem slidingWindow_registrations :
    IsSlidingWindow { limit := 3, window := 300 }
      (admittedTimes .empty (registrationsAt [0, 0, 300])) :=
  (@slidingWindow_iff (txt "1.2.3.4") (txt "/api/v1/auth/register/") _ _ (by decide)
    (by decide +kernel) (by decide)).mpr
    ⟨by decide +kernel, by decide +kernel, by decide +kernel, trivial⟩

/-- Three at the end of a window and two at the beginning of the next are all admitted; four of
them within two seconds. -/
theorem four_registrations_at_once :
    ¬ ∀ (ip path : Text) (rule : RateRule) (qs : List TimedRequest), matchRule path = some rule →
      (∀ q ∈ qs, getClientIp q.request = ip ∧ q.request.path = path) →
        (qs.map (·.time)).Pairwise (· ≤ ·) → IsSlidingWindow rule (admittedTimes .empty qs) := by
  intro h
  have hwindow := h (txt "1.2.3.4") (txt "/api/v1/auth/register/") { limit := 3, window := 300 }
    (registrationsAt [0, 299, 299, 300, 300]) (by decide) (by decide +kernel) (by decide)
    (299 * second)
  revert hwindow
  decide +kernel

end HotelAgent.RateLimitMiddleware

/-
  HotelAgent.Core.RateExpiry — what simultaneous requests can raise.

  Here the requests are any, the cache is any, and between two cache operations of
  a call any time may pass: other calls take steps, and entries expire.

  Two things are raised.  A path or an address that does not encode has no key.
  And `cache.incr` is called for a count that was read before; when the entry has
  expired since, it raises a ValueError, which nothing catches.

  Main result, `unbroken_iff`: every call that ends does so with `None` or a 429,
  exactly if every key can be made and every `incr` finds its entry.
-/
import HotelAgent.Core.RateRaces

namespace HotelAgent.RateLimitMiddleware

open Lib

/-! ## §1. Requests in flight. -/

/-- A request, and where its `process_request` stands. -/
structure RequestCall where
  request : HttpRequest
  stage : Call
  deriving DecidableEq

/-- The next step of a request: up to its first cache operation, it is matched with a rule and its
key is made. -/
def RequestCall.step (now : Instant) (cache : RateCache) (call : RequestCall) :
    RateCache × RequestCall :=
  match matchRule call.request.path with
  | none => (cache, { call with stage := .done .next })
  | some rule =>
    match limitKey call.request with
    | none => (cache, { call with stage := .done .raises })
    | some key =>
      ((callStep rule key now cache call.stage).1,
        { call with stage := (callStep rule key now cache call.stage).2 })

/-- The cache and all requests so far. -/
structure RateTraffic where
  cache : RateCache
  calls : List RequestCall

inductive RateInput where
  /-- A request comes in. -/
  | arrive (request : HttpRequest)
  /-- The `k`-th request takes a step. -/
  | turn (k : Nat) (now : Instant)

def trafficStep (s : RateTraffic) : RateInput → RateTraffic
  | .arrive request => { s with calls := s.calls ++ [⟨request, .start⟩] }
  | .turn k now =>
    match s.calls[k]? with
    | none => s
    | some call =>
      { cache := (call.step now s.cache).1, calls := s.calls.set k (call.step now s.cache).2 }

/-- **Three steps in a row are `process_request`.** -/
theorem uninterrupted_request (cache : RateCache) (now : Instant) (request : HttpRequest) :
    run (fun (s : RateCache × RequestCall) (_ : Unit) => s.2.step now s.1)
        (cache, ⟨request, .start⟩) [(), (), ()]
      = ((processRequest cache now request).1,
        ⟨request, .done (processRequest cache now request).2⟩) := by
  cases hrule : matchRule request.path with
  | none =>
      have hkey : limitKey request = none := by rw [limitKey, hrule]; rfl
      rw [processRequest_of_no_key hkey, if_pos hrule]
      simp only [run_cons, run_nil, RequestCall.step, hrule]
  | some rule =>
      cases hkey : limitKey request with
      | none =>
          rw [processRequest_of_no_key hkey, if_neg (by simp [hrule])]
          simp only [run_cons, run_nil, RequestCall.step, hrule, hkey]
      | some key =>
          have hthree := uninterrupted_call hrule hkey cache now
          simp only [run_cons, run_nil] at hthree ⊢
          simp only [RequestCall.step, hrule, hkey, hthree]

/-- `None`, or a response with status 429. -/
def Fine : Handled → Prop
  | .next => True
  | .response response => response.status = 429
  | .raises => False

/-- The request has not ended otherwise. -/
def RequestCall.Fine (call : RequestCall) : Prop :=
  ∀ answer, call.stage = .done answer → RateLimitMiddleware.Fine answer

/-- No request has. -/
def Unbroken (s : RateTraffic) : Prop := ∀ call ∈ s.calls, call.Fine

/-- The step makes the key, or finds the entry to be counted up. -/
def CanStep (now : Instant) (cache : RateCache) (call : RequestCall) : Prop :=
  ∀ rule, matchRule call.request.path = some rule →
    ∃ key, limitKey call.request = some key
      ∧ ∀ count, call.stage = .counted count → count < rule.limit → count ≠ 0 →
        (cache.get now key).isSome = true

/-- Every request that takes a step can. -/
def InputCan (s : RateTraffic) : RateInput → Prop
  | .arrive _ => True
  | .turn k now => ∀ call, s.calls[k]? = some call → CanStep now s.cache call

/-! ## §2. One step. -/

/-- What follows the reading of the count is fine, exactly if an entry that is to be counted up is
there. -/
theorem fine_afterCount_iff (rule : RateRule) (key : Text) (count : Int) (now : Instant)
    (cache : RateCache) :
    Fine (afterCount rule key count now cache).2
      ↔ (count < rule.limit → count ≠ 0 → (cache.get now key).isSome = true) := by
  unfold afterCount
  by_cases hfull : rule.limit ≤ count
  · rw [if_pos hfull]
    exact iff_of_true rfl fun hlt => absurd hlt (Int.not_lt.mpr hfull)
  rw [if_neg hfull]
  by_cases hzero : count = 0
  · rw [if_pos hzero]
    exact iff_of_true trivial fun _ hne => absurd hzero hne
  rw [if_neg hzero]
  cases hincr : cache.incr now key with
  | none =>
      rw [Cache.incr_eq_none_iff] at hincr
      refine iff_of_false id fun h => ?_
      have hthere := h (Int.not_le.mp hfull) hzero
      rw [hincr] at hthere
      exact absurd hthere (by decide)
  | some cache' =>
      refine iff_of_true trivial fun _ _ => ?_
      rw [Option.isSome_iff_ne_none]
      intro hnone
      rw [Cache.incr_eq_none_iff.mpr hnone] at hincr
      exact absurd hincr (by simp)

/-- **One step of a request** leaves it fine, exactly if it can be taken. -/
theorem fine_step_iff {call : RequestCall} (h : call.Fine) (now : Instant) (cache : RateCache) :
    (call.step now cache).2.Fine ↔ CanStep now cache call := by
  obtain ⟨request, stage⟩ := call
  unfold RequestCall.Fine RequestCall.step CanStep
  cases hrule : matchRule request.path with
  | none => simp [Fine]
  | some rule =>
      cases hkey : limitKey request with
      | none => simp [Fine]
      | some key =>
          simp only [Option.some.injEq, exists_eq_left', forall_eq']
          cases stage with
          | start =>
              refine iff_of_true (fun answer hanswer => ?_) (by simp)
              simp only [callStep] at hanswer
              split at hanswer
              · injection hanswer with hanswer
                rw [← hanswer]
                rfl
              · exact absurd hanswer (by simp)
          | notBlocked => simp [callStep]
          | counted count =>
              simp only [callStep, Call.done.injEq, forall_eq', Call.counted.injEq]
              exact fine_afterCount_iff rule key count now cache
          | done answer =>
              refine iff_of_true (fun answer' hanswer => ?_) (by simp)
              exact h answer' hanswer

/-- **One step of the traffic** leaves it unbroken, exactly if it can be taken. -/
theorem unbroken_step_iff {s : RateTraffic} (h : Unbroken s) (i : RateInput) :
    Unbroken (trafficStep s i) ↔ InputCan s i := by
  cases i with
  | arrive request =>
      refine iff_of_true (fun call hcall => ?_) trivial
      rcases List.mem_append.mp hcall with hcall | hcall
      · exact h call hcall
      · rw [List.mem_singleton.mp hcall]
        exact fun answer hanswer => absurd hanswer (by simp)
  | turn k now =>
      cases hk : s.calls[k]? with
      | none =>
          simp only [trafficStep, InputCan, hk]
          exact iff_of_true h fun _ hcall => absurd hcall (by simp)
      | some call =>
          obtain ⟨hlt, rfl⟩ := List.getElem?_eq_some_iff.mp hk
          simp only [trafficStep, InputCan, hk, Option.some.injEq, forall_eq']
          rw [← fine_step_iff (h _ (List.getElem_mem hlt))]
          constructor
          · exact fun hnext => hnext _ (List.mem_set hlt _)
          · intro hfine call hcall
            rcases List.mem_or_eq_of_mem_set hcall with hcall | rfl
            · exact h call hcall
            · exact hfine

/-! ## §3. Runs. -/

/-- **The limiter breaks no request**: from any cache and through any interleaving, every request
that ends does so with `None` or a 429, exactly if every step makes its key or finds the entry
that it counts up. -/
theorem unbroken_iff (cache : RateCache) (inputs : List RateInput) :
    AllStates trafficStep Unbroken ⟨cache, []⟩ inputs
      ↔ AllSteps trafficStep InputCan ⟨cache, []⟩ inputs :=
  allStates_iff_allSteps (K := fun _ => True) (fun _ _ _ => trivial)
    (fun _ i _ h => unbroken_step_iff h i) trivial
    (fun _ hcall => absurd hcall List.not_mem_nil) inputs

/-- A client's request to register. -/
def registration : HttpRequest := ⟨txt "/api/v1/auth/register/", none, some (txt "1.2.3.4")⟩

/-- The second request reads the count within the window of five minutes, and writes at its
end. -/
theorem expired_counter_raises :
    ¬ ∀ (cache : RateCache) (inputs : List RateInput),
      AllStates trafficStep Unbroken ⟨cache, []⟩ inputs := by
  intro h
  have hlast := (h .empty [.arrive registration, .turn 0 0, .turn 0 0, .turn 0 0,
    .arrive registration, .turn 1 (299 * second), .turn 1 (299 * second),
    .turn 1 (300 * second)]).last
  refine hlast ⟨registration, .done .raises⟩ ?_ .raises rfl
  decide +kernel

end HotelAgent.RateLimitMiddleware

/-
  HotelAgent.Core.RateLimit — the rate limiting middleware.

  `RateLimitMiddleware.process_request` looks at three things of a request: its
  path, the `X-Forwarded-For` header and the address of the connection.  The
  first rule whose pattern starts the path gives the limit; client and path
  together give the cache key, forty hexadecimal digits of a SHA-256.  The block
  is kept under the same key with a suffix, so the two entries never meet.

  Under one key the cache is a fixed-window limiter with a block, and requests
  under other keys leave it alone.

  Main results:
    * `windowOf_processRequest` — a request under a key is one step of the
      limiter of that key.
    * `windowOf_cacheAfter` — so is a run, whatever else it serves.
    * `admits_eq_passesFreely_iff` — nobody is refused exactly when no limiter of
      any key refuses anybody.
-/
import HotelAgent.Core.Models
import HotelAgent.Lib.Sha256
import HotelAgent.Lib.FixedWindow
import HotelAgent.Lib.Utf8

namespace HotelAgent

open Lib

/-! ## §1. What the middleware reads and answers. -/

/-- A request as far as the middleware reads it. -/
structure HttpRequest where
  /-- `request.path` -/
  path : Text
  /-- `request.META.get("HTTP_X_FORWARDED_FOR")` -/
  forwardedFor : Option Text
  /-- `request.META.get("REMOTE_ADDR")` -/
  remoteAddr : Option Text
  deriving DecidableEq

/-- A `JsonResponse` of the middleware. -/
structure RateResponse where
  error : Text
  code : Text
  status : Nat
  retryAfter : Text
  deriving DecidableEq

/-- How `process_request` ends: with `None`, so that the request goes on to its view; with a
response; with an exception. -/
inductive Handled where
  | next
  | response (response : RateResponse)
  | raises
  deriving DecidableEq

structure RateRule where
  limit : Int
  /-- in seconds -/
  window : Int
  deriving DecidableEq

/-- What `cache` holds: the counters, and `True` for a block, which Python counts as 1. -/
abbrev RateCache := Cache Text Int Instant

/-- `settings.RATELIMIT_ENABLE`, in `settings/base.py`. -/
def ratelimitEnable : Option Bool := some true

namespace RateLimitMiddleware

/-- `RULES`. -/
def rules : List (Text × RateRule) :=
  [(txt "/api/v1/auth/token/", { limit := 5, window := 60 }),
    (txt "/api/v1/auth/register/", { limit := 3, window := 300 }),
    (txt "/api/v1/voice/", { limit := 10, window := 60 })]

/-- `BLOCK_DURATION`, in seconds. -/
def blockDuration : Int := 300

/-- `_match_rule`. -/
def matchRule (path : Text) : Option RateRule :=
  (rules.find? fun rule => rule.1.isPrefixOf path).map (·.2)

/-- `_get_client_ip`. -/
def getClientIp (request : HttpRequest) : Text :=
  match request.forwardedFor.filter (· ≠ []) with
  | some xff => strip (xff.takeWhile (· ≠ 0x2C))
  | none => request.remoteAddr.getD (txt "unknown")

/-- `_make_key`; `none` is the UnicodeEncodeError. -/
def makeKey (ip path : Text) : Option Text :=
  (encodeUtf8 (txt "rl:" ++ ip ++ txt ":" ++ path)).map fun raw => (sha256Hexdigest raw).take 40

/-- `f"{key}:blocked"`. -/
def blockKey (key : Text) : Text := key ++ txt ":blocked"

/-- The answer during a block. -/
def tooManyRequests : RateResponse where
  error := txt "Too many requests. Please try again later."
  code := txt "rate_limited"
  status := 429
  retryAfter := intText blockDuration

/-- The answer when the count is at the limit. -/
def limitExceeded : RateResponse where
  error := txt "Rate limit exceeded."
  code := txt "rate_limited"
  status := 429
  retryAfter := intText blockDuration

/-- `cache.get(block_key)`, as a condition. -/
def isBlocked (cache : RateCache) (now : Instant) (key : Text) : Bool :=
  (cache.get now (blockKey key)).getD 0 ≠ 0

/-- `cache.get(key, 0)`. -/
def readCount (cache : RateCache) (now : Instant) (key : Text) : Int := (cache.get now key).getD 0

/-- What follows the reading of the count. -/
def afterCount (rule : RateRule) (key : Text) (count : Int) (now : Instant) (cache : RateCache) :
    RateCache × Handled :=
  if rule.limit ≤ count then
    (cache.set (blockKey key) 1 (now + blockDuration * second), .response limitExceeded)
  else if count = 0 then (cache.set key 1 (now + rule.window * second), .next)
  else
    match cache.incr now key with
    | some cache => (cache, .next)
    -- the key is gone: a ValueError
    | none => (cache, .raises)

/-- `process_request`. -/
def processRequest (cache : RateCache) (now : Instant) (request : HttpRequest) :
    RateCache × Handled :=
  if ratelimitEnable.getD true = false then (cache, .next)
  else
    match matchRule request.path with
    | none => (cache, .next)
    | some rule =>
      match makeKey (getClientIp request) request.path with
      | none => (cache, .raises)
      | some key =>
        if isBlocked cache now key then (cache, .response tooManyRequests)
        else afterCount rule key (readCount cache now key) now cache

/-! ## §2. Rules and keys. -/

/-- Every rule admits something, and no window outlasts a block. -/
theorem rules_sound : ∀ rule ∈ rules,
    0 < rule.2.limit ∧ 0 < rule.2.window ∧ rule.2.window ≤ blockDuration := by
  decide

theorem rule_sound {path : Text} {rule : RateRule} (h : matchRule path = some rule) :
    0 < rule.limit ∧ 0 < rule.window ∧ rule.window ≤ blockDuration := by
  obtain ⟨entry, hentry, rfl⟩ := Option.map_eq_some_iff.mp h
  exact rules_sound entry (List.mem_of_find?_eq_some hentry)

theorem makeKey_length {ip path key : Text} (h : makeKey ip path = some key) : key.length = 40 := by
  obtain ⟨raw, _, rfl⟩ := Option.map_eq_some_iff.mp h
  rw [List.length_take, hexdigest_length]
  rfl

/-- A key can be made of what encodes. -/
theorem makeKey_isSome_iff {ip path : Text} :
    (makeKey ip path).isSome = true
      ↔ (∀ c ∈ ip, isSurrogate c = false) ∧ ∀ c ∈ path, isSurrogate c = false := by
  have hfixed : ∀ t : String, (encodeUtf8 (txt t)).isSome = true →
      ∀ c ∈ txt t, isSurrogate c = false := fun t h => encodeUtf8_isSome_iff.mp h
  rw [makeKey, Option.isSome_map, encodeUtf8_isSome_iff]
  constructor
  · intro h
    refine ⟨fun c hc => h c ?_, fun c hc => h c (List.mem_append_right _ hc)⟩
    exact List.mem_append_left _ (List.mem_append_left _ (List.mem_append_right _ hc))
  · rintro ⟨hip, hpath⟩ c hc
    rw [List.mem_append, List.mem_append, List.mem_append] at hc
    rcases hc with ((hc | hc) | hc) | hc
    · exact hfixed "rl:" (by decide) c hc
    · exact hip c hc
    · exact hfixed ":" (by decide) c hc
    · exact hpath c hc

/-- A counter is never kept where a block is. -/
theorem blockKey_ne {key key' : Text} (h : key.length = 40) (h' : key'.length = 40) :
    key' ≠ blockKey key := by
  intro heq
  have hlength := congrArg List.length heq
  rw [blockKey, List.length_append, h, h'] at hlength
  exact absurd hlength (by decide)

theorem blockKey_injective {key key' : Text} (h : blockKey key = blockKey key') : key = key' :=
  List.append_cancel_right h

/-! ## §3. The limiter of one key. -/

/-- The key a request is counted under, if a rule matches its path. -/
def limitKey (request : HttpRequest) : Option Text :=
  (matchRule request.path).bind fun _ => makeKey (getClientIp request) request.path

/-- What the cache holds under a key. -/
def windowOf (cache : RateCache) (key : Text) : Window Instant where
  counter := cache key
  block := ((cache (blockKey key)).filter (·.value ≠ 0)).map (·.expiry)

/-- A request, to the limiter of its key. -/
def arrivalOf (rule : RateRule) (now : Instant) : Hit Instant where
  limit := rule.limit
  now := now
  counterExpiry := now + rule.window * second
  blockExpiry := now + blockDuration * second

/-- How the middleware answers. -/
def handled : Verdict → Handled
  | .admitted => .next
  | .limited => .response limitExceeded
  | .blocked => .response tooManyRequests

theorem handled_injective {v v' : Verdict} (h : handled v = handled v') : v = v' := by
  cases v <;> cases v' <;> first | rfl | exact absurd h (by decide)

theorem handled_eq_next_iff {v : Verdict} : handled v = .next ↔ v = .admitted :=
  ⟨fun h => handled_injective (h : handled v = handled .admitted), fun h => by rw [h]; rfl⟩

theorem isBlocked_windowOf (cache : RateCache) (now : Instant) (key : Text) :
    (windowOf cache key).isBlocked now = isBlocked cache now key := by
  rw [Window.isBlocked, windowOf, isBlocked, Cache.get, Cache.live]
  cases cache (blockKey key) with
  | none => rfl
  | some e =>
      by_cases hzero : e.value = 0
      · by_cases hlive : now < e.expiry <;> simp [Option.filter, hzero, hlive]
      · by_cases hlive : now < e.expiry <;> simp [Option.filter, hzero, hlive]

/-- `process_request` of a request that a rule matches. -/
theorem processRequest_eq {request : HttpRequest} {rule : RateRule} {key : Text}
    (hrule : matchRule request.path = some rule) (hkey : limitKey request = some key)
    (cache : RateCache) (now : Instant) :
    processRequest cache now request
      = if isBlocked cache now key then (cache, .response tooManyRequests)
        else afterCount rule key (readCount cache now key) now cache := by
  rw [limitKey, hrule, Option.bind_some] at hkey
  rw [processRequest, if_neg (by decide), hrule]
  simp only [hkey]

/-- A request that is not counted under any key changes nothing: it passes if no rule matches
it, and raises if its key cannot be made. -/
theorem processRequest_of_no_key {request : HttpRequest} (hkey : limitKey request = none)
    (cache : RateCache) (now : Instant) :
    processRequest cache now request
      = (cache, if matchRule request.path = none then .next else .raises) := by
  rw [processRequest, if_neg (by decide)]
  cases hrule : matchRule request.path with
  | none => rfl
  | some rule =>
      rw [limitKey, hrule, Option.bind_some] at hkey
      simp only [hkey]
      rfl

/-- **One request is one step of the limiter of its key.** -/
theorem windowOf_processRequest {request : HttpRequest} {rule : RateRule} {key : Text}
    (hrule : matchRule request.path = some rule) (hkey : limitKey request = some key)
    (cache : RateCache) (now : Instant) :
    windowOf (processRequest cache now request).1 key
        = ((windowOf cache key).step (arrivalOf rule now)).1
      ∧ (processRequest cache now request).2
        = handled ((windowOf cache key).step (arrivalOf rule now)).2 := by
  have hlength : key.length = 40 := by
    rw [limitKey, hrule, Option.bind_some] at hkey
    exact makeKey_length hkey
  have hne : key ≠ blockKey key := blockKey_ne hlength hlength
  have hnow : (windowOf cache key).isBlocked (arrivalOf rule now).now = isBlocked cache now key :=
    isBlocked_windowOf cache now key
  rw [processRequest_eq hrule hkey]
  by_cases hblocked : isBlocked cache now key = true
  · rw [if_pos hblocked, Window.step_of_blocked (hnow.trans hblocked)]
    exact ⟨rfl, rfl⟩
  have hfree : ¬ (windowOf cache key).isBlocked (arrivalOf rule now).now = true := by
    rw [hnow]
    exact hblocked
  rw [if_neg hblocked, afterCount]
  by_cases hlimit : rule.limit ≤ readCount cache now key
  · rw [if_pos hlimit, Window.step_of_full hfree hlimit]
    refine ⟨?_, rfl⟩
    simp only [windowOf]
    rw [Cache.set_of_ne _ hne, Cache.set_self]
    rfl
  rw [if_neg hlimit]
  by_cases hzero : readCount cache now key = 0
  · rw [if_pos hzero, Window.step_of_first hfree hlimit hzero]
    refine ⟨?_, rfl⟩
    simp only [windowOf]
    rw [Cache.set_self, Cache.set_of_ne _ hne.symm]
    rfl
  rw [if_neg hzero, Window.step_of_further hfree hlimit hzero]
  -- a count that is not zero was read from a counter, so `incr` finds it
  have hsome : ∃ e, cache.live now key = some e := by
    rw [← Option.ne_none_iff_exists']
    intro hnone
    exact hzero (by rw [readCount, Cache.get, hnone]; rfl)
  obtain ⟨e, he⟩ := hsome
  rw [Cache.incr_of_live he]
  refine ⟨?_, rfl⟩
  simp only [windowOf, Window.counted]
  rw [Cache.set_self, Cache.set_of_ne _ hne.symm, (Cache.live_eq_some_iff.mp he).1,
    Option.map_some]

/-- A request under another key leaves the limiter alone. -/
theorem windowOf_of_ne {request : HttpRequest} {key : Text} (hlength : key.length = 40)
    (hne : limitKey request ≠ some key) (cache : RateCache) (now : Instant) :
    windowOf (processRequest cache now request).1 key = windowOf cache key := by
  cases hrule : matchRule request.path with
  | none => rw [processRequest_of_no_key (by rw [limitKey, hrule]; rfl)]
  | some rule =>
      cases hkey : limitKey request with
      | none => rw [processRequest_of_no_key hkey]
      | some key' =>
          have hother : key ≠ key' := fun h => hne (by rw [hkey, h])
          have hlength' : key'.length = 40 := by
            rw [limitKey, hrule, Option.bind_some] at hkey
            exact makeKey_length hkey
          -- neither of the two entries of `key` is one of `key'`
          have hset : ∀ (k : Text) (v : Int) (expiry : Instant), k = key' ∨ k = blockKey key' →
              windowOf (cache.set k v expiry) key = windowOf cache key := by
            intro k v expiry hk
            have hcounter : key ≠ k := by
              rcases hk with rfl | rfl
              · exact hother
              · exact blockKey_ne hlength' hlength
            have hblock : blockKey key ≠ k := by
              rcases hk with rfl | rfl
              · exact (blockKey_ne hlength hlength').symm
              · exact fun h => hother (blockKey_injective h)
            rw [windowOf, windowOf, Cache.set_of_ne _ hcounter, Cache.set_of_ne _ hblock]
          rw [processRequest_eq hrule hkey]
          split
          · rfl
          rw [afterCount]
          split
          · exact hset _ _ _ (.inr rfl)
          split
          · exact hset _ _ _ (.inl rfl)
          cases hincr : cache.incr now key' with
          | none => rfl
          | some cache' =>
              obtain ⟨e, _, rfl⟩ := Option.map_eq_some_iff.mp hincr
              exact hset _ _ _ (.inl rfl)

/-! ## §4. Runs. -/

/-- A request and when it is handled. -/
structure TimedRequest where
  time : Instant
  request : HttpRequest

/-- The cache after some requests, handled one at a time. -/
def cacheAfter (cache : RateCache) (qs : List TimedRequest) : RateCache :=
  run (fun cache q => (processRequest cache q.time q.request).1) cache qs

/-- How they are answered. -/
def answers (cache : RateCache) : List TimedRequest → List Handled
  | [] => []
  | q :: qs =>
      (processRequest cache q.time q.request).2
        :: answers (processRequest cache q.time q.request).1 qs

/-- The request as the limiter of `key` meets it, if it does. -/
def arrivalOn (key : Text) (q : TimedRequest) : Option (Hit Instant) :=
  if limitKey q.request = some key then (matchRule q.request.path).map (arrivalOf · q.time)
  else none

theorem arrivalOn_of_key {key : Text} {q : TimedRequest} {rule : RateRule}
    (hrule : matchRule q.request.path = some rule) (hkey : limitKey q.request = some key) :
    arrivalOn key q = some (arrivalOf rule q.time) := by
  rw [arrivalOn, if_pos hkey, hrule, Option.map_some]

theorem arrivalOn_of_ne {key : Text} {q : TimedRequest} (hne : limitKey q.request ≠ some key) :
    arrivalOn key q = none :=
  if_neg hne

/-- A request under a key matched a rule. -/
theorem rule_of_limitKey {request : HttpRequest} {key : Text} (h : limitKey request = some key) :
    ∃ rule, matchRule request.path = some rule ∧ key.length = 40 := by
  obtain ⟨rule, hrule, hkey⟩ := Option.bind_eq_some_iff.mp h
  exact ⟨rule, hrule, makeKey_length hkey⟩

/-- **A run is a run of the limiter of each key**, over the requests under that key. -/
theorem windowOf_cacheAfter {key : Text} (hlength : key.length = 40) (cache : RateCache)
    (qs : List TimedRequest) :
    windowOf (cacheAfter cache qs) key
      = (windowOf cache key).after (qs.filterMap (arrivalOn key)) := by
  induction qs generalizing cache with
  | nil => rfl
  | cons q qs ih =>
      rw [cacheAfter, run_cons]
      refine (ih _).trans ?_
      by_cases hkey : limitKey q.request = some key
      · obtain ⟨rule, hrule, _⟩ := rule_of_limitKey hkey
        rw [List.filterMap_cons_some (arrivalOn_of_key hrule hkey),
          (windowOf_processRequest hrule hkey cache q.time).1]
        rfl
      · rw [List.filterMap_cons_none (arrivalOn_of_ne hkey), windowOf_of_ne hlength hkey]

/-- The empty cache is a fresh limiter for every key. -/
theorem windowOf_empty (key : Text) : windowOf Cache.empty key = Window.fresh := rfl

/-! ## §5. Runs in which nobody is refused. -/

/-- The request goes on to its view. -/
def admits (answer : Handled) : Bool := answer = .next

/-- The request goes on unless a limiter refuses it: no rule matches its path, or its key can be
made. -/
def passesFreely (q : TimedRequest) : Bool :=
  (limitKey q.request).isSome || matchRule q.request.path = none

/-- The key a request is counted under, and what the limiter of that key meets. -/
def arrival (q : TimedRequest) : Option (Text × Hit Instant) :=
  (limitKey q.request).bind fun key =>
    (matchRule q.request.path).map fun rule => (key, arrivalOf rule q.time)

theorem arrival_eq_some_iff {q : TimedRequest} {key : Text} {a : Hit Instant} :
    arrival q = some (key, a)
      ↔ limitKey q.request = some key
        ∧ ∃ rule, matchRule q.request.path = some rule ∧ a = arrivalOf rule q.time := by
  rw [arrival, Option.bind_eq_some_iff]
  constructor
  · rintro ⟨key', hkey, h⟩
    obtain ⟨rule, hrule, h⟩ := Option.map_eq_some_iff.mp h
    injection h with hsame ha
    exact ⟨hsame ▸ hkey, rule, hrule, ha.symm⟩
  · rintro ⟨hkey, rule, hrule, rfl⟩
    exact ⟨key, hkey, by rw [hrule, Option.map_some]⟩

/-- Every limiter admits something. -/
theorem arrival_limit_pos {q : TimedRequest} {key : Text} {a : Hit Instant}
    (h : arrival q = some (key, a)) : 0 < a.limit := by
  obtain ⟨_, rule, hrule, rfl⟩ := arrival_eq_some_iff.mp h
  exact (rule_sound hrule).1

/-- Keys that are not as long as a digest are nobody's. -/
theorem arrivalOn_of_length_ne {key : Text} (hlength : key.length ≠ 40) (q : TimedRequest) :
    arrivalOn key q = none :=
  arrivalOn_of_ne fun hkey => by
    obtain ⟨_, _, hlength'⟩ := rule_of_limitKey hkey
    exact hlength hlength'

/-- The two ways of speaking about who meets a request agree. -/
theorem arrivalOn_eq (key : Text) (q : TimedRequest) :
    arrivalOn key q = (arrival q).bind fun p => if p.1 = key then some p.2 else none := by
  cases hkey : limitKey q.request with
  | none =>
      rw [arrivalOn_of_ne (by rw [hkey]; simp), arrival, hkey]
      rfl
  | some key' =>
      obtain ⟨rule, hrule, _⟩ := rule_of_limitKey hkey
      have harrival : arrival q = some (key', arrivalOf rule q.time) :=
        arrival_eq_some_iff.mpr ⟨hkey, rule, hrule, rfl⟩
      rw [harrival, Option.bind_some]
      by_cases hsame : key' = key
      · rw [if_pos hsame]
        exact arrivalOn_of_key hrule (hsame ▸ hkey)
      · rw [if_neg hsame]
        exact arrivalOn_of_ne fun h => hsame (Option.some.inj (hkey.symm.trans h))

/-- Of all limiters, that of its key meets a request first, and the others do not. -/
theorem allAdmitted_cons_iff {q : TimedRequest} {rule : RateRule} {key : Text}
    (hrule : matchRule q.request.path = some rule) (hkey : limitKey q.request = some key)
    (cache : RateCache) (qs : List TimedRequest) :
    (∀ key', key'.length = 40 →
        (windowOf cache key').AllAdmitted ((q :: qs).filterMap (arrivalOn key')))
      ↔ ((windowOf cache key).step (arrivalOf rule q.time)).2 = .admitted
        ∧ ∀ key', key'.length = 40 →
            (windowOf (processRequest cache q.time q.request).1 key').AllAdmitted
              (qs.filterMap (arrivalOn key')) := by
  obtain ⟨_, _, hlength⟩ := rule_of_limitKey hkey
  have hwindow := (windowOf_processRequest hrule hkey cache q.time).1
  have hmeets : (q :: qs).filterMap (arrivalOn key)
      = arrivalOf rule q.time :: qs.filterMap (arrivalOn key) :=
    List.filterMap_cons_some (arrivalOn_of_key hrule hkey)
  have hskip : ∀ key', key' ≠ key → limitKey q.request ≠ some key' := by
    intro key' hne
    rw [hkey]
    simpa using fun h => hne h.symm
  constructor
  · intro h
    have hfirst := h key hlength
    rw [hmeets] at hfirst
    refine ⟨hfirst.1, fun key' hlength' => ?_⟩
    by_cases hsame : key' = key
    · rw [hsame, hwindow]
      exact hfirst.2
    · -- the other limiters are where they were
      have hother := hskip key' hsame
      rw [windowOf_of_ne hlength' hother, ← List.filterMap_cons_none (arrivalOn_of_ne hother)]
      exact h key' hlength'
  · rintro ⟨hfirst, hrest⟩ key' hlength'
    by_cases hsame : key' = key
    · have hmore := hrest key hlength
      rw [hwindow] at hmore
      rw [hsame, hmeets]
      exact ⟨hfirst, hmore⟩
    · have hother := hskip key' hsame
      rw [List.filterMap_cons_none (arrivalOn_of_ne hother),
        ← windowOf_of_ne hlength' hother cache q.time]
      exact hrest key' hlength'

theorem answers_admits_iff (qs : List TimedRequest) (cache : RateCache) :
    (answers cache qs).map admits = qs.map passesFreely
      ↔ ∀ key, key.length = 40 →
          (windowOf cache key).AllAdmitted (qs.filterMap (arrivalOn key)) := by
  induction qs generalizing cache with
  | nil => simp [answers, Window.AllAdmitted, AllSteps]
  | cons q qs ih =>
      rw [answers, List.map_cons, List.map_cons, List.cons.injEq, ih]
      cases hkey : limitKey q.request with
      | none =>
          -- not counted: the answer is a matter of the path, and no limiter moves
          have hadmits : admits (if matchRule q.request.path = none then .next else .raises)
              = passesFreely q := by
            rw [passesFreely, hkey]
            by_cases hrule : matchRule q.request.path = none <;> simp [admits, hrule]
          have hskip : ∀ key, (q :: qs).filterMap (arrivalOn key) = qs.filterMap (arrivalOn key) :=
            fun key => List.filterMap_cons_none (arrivalOn_of_ne (by rw [hkey]; simp))
          rw [processRequest_of_no_key hkey]
          simp only [hskip]
          exact ⟨fun h => h.2, fun h => ⟨hadmits, h⟩⟩
      | some key =>
          obtain ⟨rule, hrule, _⟩ := rule_of_limitKey hkey
          have hadmits : admits (processRequest cache q.time q.request).2 = passesFreely q
              ↔ ((windowOf cache key).step (arrivalOf rule q.time)).2 = .admitted := by
            rw [passesFreely, hkey, (windowOf_processRequest hrule hkey cache q.time).2,
              ← handled_eq_next_iff]
            simp [admits]
          rw [allAdmitted_cons_iff hrule hkey, hadmits]

/-- **Nobody is refused exactly when no limiter refuses anybody.** -/
theorem admits_eq_passesFreely_iff (qs : List TimedRequest) :
    (answers .empty qs).map admits = qs.map passesFreely
      ↔ ∀ key, Window.fresh.AllAdmitted (qs.filterMap (arrivalOn key)) := by
  refine (answers_admits_iff qs .empty).trans ⟨fun h key => ?_, fun h key _ => h key⟩
  by_cases hlength : key.length = 40
  · exact h key hlength
  · have hnone : qs.filterMap (arrivalOn key) = [] :=
      List.filterMap_eq_nil_iff.mpr fun q _ => arrivalOn_of_length_ne hlength q
    rw [hnone]
    trivial

end RateLimitMiddleware

end HotelAgent

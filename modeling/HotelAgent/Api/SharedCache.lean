/-
  HotelAgent.Api.SharedCache — one Redis for everybody.

  The limiter counts in the cache in which signals delete entries, tasks leave
  their results and the health check tries whether it works.  Nobody's keys are
  anybody else's:

      forty hexadecimal digits, with or without `:blocked`     the limiter
      `available_rooms`, `room:…`                              rooms
      `staff_dashboard:…`                                      the dashboard
      `user:…`, `user:email:…`                                 users
      `session_analytics:…`                                    analytics
      `health_check`                                           the health check

  Main results:
    * `processRequest_shared` — on counters the limiter of the shared cache is
      the one of its own.
    * `client_alone` — whoever uses the cache reads and leaves what it would alone.
    * `limiter_undisturbed` — the limiter's answers in any mixture of operations
      are those that it gives on a cache of its own, to the requests alone.
    * `health_check_ok` — a health check finds what it has set, whatever the others
      do within five seconds.
-/
import HotelAgent.Lib.Keyspaces
import HotelAgent.Core.RateLimit
import HotelAgent.Api.RoomCache
import HotelAgent.Api.Transcripts

namespace HotelAgent

open Lib RateLimitMiddleware

/-! ## §1. The cache. -/

/-- What is stored in the cache. -/
inductive CachedValue where
  /-- A counter, or `True`, which counts as 1. -/
  | number (n : Int)
  | text (t : Text)
  /-- A dictionary. -/
  | summary (fields : Json)
  | rooms (entries : List RoomEntry)
  deriving DecidableEq

abbrev SharedCache := Cache Text CachedValue Instant

def CachedValue.truthy : CachedValue → Bool
  | .number n => n ≠ 0
  | .text t => t ≠ []
  | .summary fields => HotelAgent.truthy fields
  | .rooms entries => entries ≠ []

namespace SharedCache

/-- `cache.delete(key)`. -/
def delete (cache : SharedCache) (key : Text) : SharedCache := Function.update cache key none

/-- `cache.delete_pattern(prefix + "*")`. -/
def deletePattern (cache : SharedCache) (start : Text) : SharedCache :=
  fun key => if start <+: key then none else cache key

/-- `cache.incr`, where this is stored under the key. -/
def countOne (key : Text) (found : Option (Entry CachedValue Instant)) (cache : SharedCache) :
    SharedCache × Handled :=
  match found with
  | some ⟨.number n, expiry⟩ => (cache.set key (.number (n + 1)) expiry, .next)
  -- no such key, or no number under it
  | _ => (cache, .raises)

/-- What follows the reading of the count, an int. -/
def afterCount (rule : RateRule) (key : Text) (count : Int) (now : Instant) (cache : SharedCache) :
    SharedCache × Handled :=
  if rule.limit ≤ count then
    (cache.set (blockKey key) (.number 1) (now + blockDuration * second), .response limitExceeded)
  else if count = 0 then (cache.set key (.number 1) (now + rule.window * second), .next)
  else cache.countOne key (cache.live now key)

/-- `RateLimitMiddleware.process_request`. -/
def processRequest (cache : SharedCache) (now : Instant) (request : HttpRequest) :
    SharedCache × Handled :=
  match matchRule request.path with
  | none => (cache, .next)
  | some rule =>
    match makeKey (getClientIp request) request.path with
    | none => (cache, .raises)
    | some key =>
      if ((cache.get now (blockKey key)).map CachedValue.truthy).getD false then
        (cache, .response tooManyRequests)
      else
        match (cache.get now key).getD (.number 0) with
        | .number count => afterCount rule key count now cache
        -- a TypeError: nothing else compares with the limit
        | _ => (cache, .raises)

end SharedCache

/-! ## §2. Operations. -/

inductive CacheOp where
  /-- A request comes to the middleware. -/
  | limit (now : Instant) (request : HttpRequest)
  /-- `on_room_save`. -/
  | roomSaved (roomId : Uuid)
  /-- `on_booking_save`, for a booking that changes its room. -/
  | roomMoved
  /-- `sync_room_availability`. -/
  | roomsSynced (now : Instant) (rooms : List RoomEntry)
  /-- `on_service_request_save`, for a new request. -/
  | requestCreated
  /-- `on_user_save`. -/
  | userSaved (user : User)
  /-- `process_session_analytics`. -/
  | analytics (now : Instant) (session : VoiceSession)
  /-- The two halves of the health check. -/
  | healthSet (now : Instant)
  | healthGet (now : Instant)

inductive CacheAnswer where
  | handled (h : Handled)
  | done
  /-- Whether the health check reads `"ok"`. -/
  | checked (ok : Bool)
  deriving DecidableEq

def roomKey (roomId : Uuid) : Text := txt "room:" ++ roomId.str

def CacheOp.perform : CacheOp → SharedCache → SharedCache × CacheAnswer
  | .limit now request => fun cache =>
    let t := SharedCache.processRequest cache now request
    (t.1, .handled t.2)
  | .roomSaved roomId => fun cache =>
    ((SharedCache.delete cache (txt "available_rooms")).delete (roomKey roomId), .done)
  | .roomMoved => fun cache => (SharedCache.delete cache (txt "available_rooms"), .done)
  | .roomsSynced now rooms => fun cache =>
    (cache.set (txt "available_rooms") (.rooms rooms) (now + 300 * second), .done)
  | .requestCreated => fun cache =>
    (SharedCache.deletePattern cache (txt "staff_dashboard:"), .done)
  | .userSaved user => fun cache =>
    ((SharedCache.delete cache (txt "user:" ++ user.id.str)).delete
      (txt "user:email:" ++ user.email), .done)
  | .analytics now session => fun cache =>
    (cache.set (analyticsKey session.id) (.summary (sessionAnalytics session))
      (now + 86400 * second), .done)
  | .healthSet now => fun cache =>
    (cache.set (txt "health_check") (.text (txt "ok")) (now + 5 * second), .done)
  | .healthGet now => fun cache =>
    (cache, .checked (cache.get now (txt "health_check") = some (.text (txt "ok"))))

/-! ## §3. Whose key it is. -/

inductive CacheClient where
  | limiter
  | rooms
  | dashboard
  | users
  | analytics
  | health
  deriving DecidableEq

/-- What is nobody else's is the limiter's. -/
def clientOf (key : Text) : CacheClient :=
  if key = txt "available_rooms" ∨ txt "room:" <+: key then .rooms
  else if txt "staff_dashboard:" <+: key then .dashboard
  else if txt "user:" <+: key then .users
  else if txt "session_analytics:" <+: key then .analytics
  else if key = txt "health_check" then .health
  else .limiter

def CacheOp.client : CacheOp → CacheClient
  | .limit _ _ => .limiter
  | .roomSaved _ => .rooms
  | .roomMoved => .rooms
  | .roomsSynced _ _ => .rooms
  | .requestCreated => .dashboard
  | .userSaved _ => .users
  | .analytics _ _ => .analytics
  | .healthSet _ => .health
  | .healthGet _ => .health

/-- `[0-9a-f]` -/
def isLowerHex (c : CodePoint) : Bool := isDigit c || (0x61 ≤ c.val && c.val ≤ 0x66)

theorem isLowerHex_hexPoint (d : Nat) : isLowerHex (hexPoint d) = true := by
  unfold isLowerHex isDigit hexPoint
  split
  next h =>
    have hdigit : 0x30 ≤ 0x30 + d ∧ 0x30 + d ≤ 0x39 := ⟨by omega, by omega⟩
    simp [hdigit]
  · have hletter : 0x61 ≤ 0x61 + (d - 10) % 6 ∧ 0x61 + (d - 10) % 6 ≤ 0x66 :=
      ⟨by omega, by omega⟩
    simp [hletter]

/-- A key of the limiter starts with two hexadecimal digits. -/
theorem makeKey_hex {ip path key : Text} (h : makeKey ip path = some key) :
    ∃ c d rest, key = c :: d :: rest ∧ isLowerHex c = true ∧ isLowerHex d = true := by
  have hlength := makeKey_length h
  obtain ⟨raw, _, rfl⟩ := Option.map_eq_some_iff.mp h
  have hhex : ∀ c ∈ (sha256Hexdigest raw).take 40, isLowerHex c = true := by
    intro c hc
    obtain ⟨w, _, hc⟩ := List.mem_flatMap.mp (List.mem_of_mem_take hc)
    obtain ⟨i, _, rfl⟩ := List.mem_map.mp hc
    exact isLowerHex_hexPoint _
  cases hkey : (sha256Hexdigest raw).take 40 with
  | nil =>
      rw [hkey] at hlength
      exact absurd hlength (by decide)
  | cons c rest =>
      rw [hkey] at hlength hhex
      cases rest with
      | nil => exact absurd hlength (show (1 : Nat) ≠ 40 by decide)
      | cons d rest =>
          exact ⟨c, d, rest, rfl, hhex c List.mem_cons_self,
            hhex d (List.mem_cons_of_mem c List.mem_cons_self)⟩

theorem head_of_start {start key : Text} (h : start <+: key) (hne : start ≠ []) :
    key.head? = start.head? := by
  obtain ⟨rest, rfl⟩ := h
  cases start with
  | nil => exact absurd rfl hne
  | cons c start => rfl

/-- Keys of two kinds start differently. -/
theorem not_prefix_of_head {start key : Text} (hne : start ≠ []) (h : key.head? ≠ start.head?) :
    ¬ start <+: key :=
  fun hprefix => h (head_of_start hprefix hne)

/-- Everybody else's key starts with another letter, or goes on with one. -/
theorem clientOf_hex {c d : CodePoint} {rest : Text} (hc : isLowerHex c = true)
    (hd : isLowerHex d = true) : clientOf (c :: d :: rest) = .limiter := by
  have hstart : ∀ start : Text, start ≠ [] → start.head?.any isLowerHex = false →
      ¬ start <+: c :: d :: rest := by
    intro start hne hhead
    refine not_prefix_of_head hne fun heq => ?_
    rw [← heq, List.head?_cons, Option.any_some, hc] at hhead
    exact absurd hhead (by decide)
  have havailable : ¬ c :: d :: rest = txt "available_rooms" := by
    intro heq
    have hsecond : (txt "available_rooms")[1]? = some d := by
      rw [← heq]
      rfl
    have hv : (txt "available_rooms")[1]? = some (codePoint 'v') := by decide
    rw [Option.some.inj (hsecond.symm.trans hv)] at hd
    exact absurd hd (by decide)
  have hhealth : ¬ c :: d :: rest = txt "health_check" := fun heq =>
    hstart (txt "health_check") (by decide) (by decide) (heq ▸ List.prefix_refl _)
  unfold clientOf
  rw [if_neg fun h => h.elim havailable (hstart (txt "room:") (by decide) (by decide)),
    if_neg (hstart (txt "staff_dashboard:") (by decide) (by decide)),
    if_neg (hstart (txt "user:") (by decide) (by decide)),
    if_neg (hstart (txt "session_analytics:") (by decide) (by decide)), if_neg hhealth]

/-- The two keys of a client of the limiter. -/
theorem clientOf_makeKey {ip path key : Text} (h : makeKey ip path = some key) :
    clientOf key = .limiter ∧ clientOf (blockKey key) = .limiter := by
  obtain ⟨c, d, rest, rfl, hc, hd⟩ := makeKey_hex h
  exact ⟨clientOf_hex hc hd, clientOf_hex hc hd⟩

theorem clientOf_room (rest : Text) : clientOf (txt "room:" ++ rest) = .rooms :=
  if_pos (.inr (List.prefix_append _ _))

theorem clientOf_available : clientOf (txt "available_rooms") = .rooms := if_pos (.inl rfl)

theorem clientOf_dashboard {key : Text} (h : txt "staff_dashboard:" <+: key) :
    clientOf key = .dashboard := by
  have hhead := head_of_start h (by decide)
  have hroom : ¬ txt "room:" <+: key :=
    not_prefix_of_head (by decide) (by rw [hhead]; decide)
  have havailable : key ≠ txt "available_rooms" := by
    rintro rfl
    exact absurd hhead (by decide)
  unfold clientOf
  rw [if_neg fun h => h.elim havailable hroom, if_pos h]

theorem clientOf_user (rest : Text) : clientOf (txt "user:" ++ rest) = .users := by
  have hhead : (txt "user:" ++ rest).head? = some (codePoint 'u') := rfl
  have hother : ∀ start : Text, start ≠ [] → start.head? ≠ some (codePoint 'u') →
      ¬ start <+: txt "user:" ++ rest := fun start hne h =>
    not_prefix_of_head hne fun heq => h (heq ▸ hhead)
  have havailable : txt "user:" ++ rest ≠ txt "available_rooms" := fun heq =>
    hother (txt "available_rooms") (by decide) (by decide) (heq ▸ List.prefix_refl _)
  unfold clientOf
  rw [if_neg fun h => h.elim havailable (hother (txt "room:") (by decide) (by decide)),
    if_neg (hother (txt "staff_dashboard:") (by decide) (by decide)),
    if_pos (List.prefix_append _ _)]

theorem clientOf_analytics (rest : Text) :
    clientOf (txt "session_analytics:" ++ rest) = .analytics := by
  have hhead : (txt "session_analytics:" ++ rest).head? = some (codePoint 's') := rfl
  have hother : ∀ start : Text, start ≠ [] → start.head? ≠ some (codePoint 's') →
      ¬ start <+: txt "session_analytics:" ++ rest := fun start hne h =>
    not_prefix_of_head hne fun heq => h (heq ▸ hhead)
  have havailable : txt "session_analytics:" ++ rest ≠ txt "available_rooms" := fun heq =>
    hother (txt "available_rooms") (by decide) (by decide) (heq ▸ List.prefix_refl _)
  -- the dashboard's keys start with the same letter
  have hdashboard : ¬ txt "staff_dashboard:" <+: txt "session_analytics:" ++ rest := by
    rintro ⟨tail, heq⟩
    have hsecond : some (codePoint 't') = some (codePoint 'e') :=
      congrArg (fun t : Text => t[1]?) heq
    exact absurd hsecond (by decide)
  unfold clientOf
  rw [if_neg fun h => h.elim havailable (hother (txt "room:") (by decide) (by decide)),
    if_neg hdashboard, if_neg (hother (txt "user:") (by decide) (by decide)),
    if_pos (List.prefix_append _ _)]

theorem clientOf_health : clientOf (txt "health_check") = .health := by decide

/-! ## §4. Everybody keeps to their keys. -/

/-- What a client's operation does to the cache. -/
abbrev CacheAction (A : Type) := Operation Text (Option (Entry CachedValue Instant)) A

/-- What is read under an own key. -/
theorem live_of_agree {own : Text → Prop} {s t : SharedCache} (h : AgreeOn own s t) {key : Text}
    (hkey : own key) (now : Instant) : s.live now key = t.live now key :=
  Cache.live_congr (h key hkey) now

theorem get_of_agree {own : Text → Prop} {s t : SharedCache} (h : AgreeOn own s t) {key : Text}
    (hkey : own key) (now : Instant) : s.get now key = t.get now key :=
  Cache.get_congr (h key hkey) now

theorem keepsTo_set {own : Text → Prop} {key : Text} (hkey : own key) (value : CachedValue)
    (expiry : Instant) {A : Type} (a : A) :
    KeepsTo own fun cache : SharedCache => (cache.set key value expiry, a) := by
  have hupdate := keepsTo_update hkey (some (⟨value, expiry⟩ : Entry CachedValue Instant)) a
  exact hupdate

theorem keepsTo_delete {own : Text → Prop} {key : Text} (hkey : own key) {A : Type} (a : A) :
    KeepsTo own fun cache : SharedCache => (cache.delete key, a) :=
  keepsTo_update hkey none a

theorem keepsTo_afterCount (rule : RateRule) {key : Text} (hcounter : clientOf key = .limiter)
    (hblock : clientOf (blockKey key) = .limiter) (count : Int) (now : Instant) :
    KeepsTo (fun k => clientOf k = .limiter) fun cache : SharedCache =>
      cache.afterCount rule key count now := by
  unfold SharedCache.afterCount
  by_cases hlimit : rule.limit ≤ count
  · simp only [if_pos hlimit]
    exact keepsTo_set hblock _ _ _
  · by_cases hzero : count = 0
    · simp only [if_neg hlimit, if_pos hzero]
      exact keepsTo_set hcounter _ _ _
    · simp only [if_neg hlimit, if_neg hzero]
      -- what happens depends on the counter only
      have hread : ∀ s t : SharedCache, AgreeOn (fun k => clientOf k = .limiter) s t →
          s.live now key = t.live now key := fun s t h => live_of_agree h hcounter now
      refine KeepsTo.choose (fun cache : SharedCache => cache.live now key)
        (SharedCache.countOne key) hread fun counter => ?_
      rcases counter with _ | ⟨value, expiry⟩
      · exact keepsTo_read fun _ _ _ => rfl
      · cases value with
        | number n => exact keepsTo_set hcounter _ _ _
        | text t => exact keepsTo_read fun _ _ _ => rfl
        | summary v => exact keepsTo_read fun _ _ _ => rfl
        | rooms v => exact keepsTo_read fun _ _ _ => rfl

/-- **The limiter keeps to its keys.** -/
theorem keepsTo_processRequest (now : Instant) (request : HttpRequest) :
    KeepsTo (fun k => clientOf k = .limiter) fun cache : SharedCache =>
      cache.processRequest now request := by
  unfold SharedCache.processRequest
  cases matchRule request.path with
  | none => exact keepsTo_read fun _ _ _ => rfl
  | some rule =>
      cases hkey : makeKey (getClientIp request) request.path with
      | none => exact keepsTo_read fun _ _ _ => rfl
      | some key =>
          obtain ⟨hcounter, hblock⟩ := clientOf_makeKey hkey
          -- first the block is read, and then the count
          let counted : CachedValue → CacheAction Handled := fun read cache =>
            match read with
            | .number count => SharedCache.afterCount rule key count now cache
            | _ => (cache, .raises)
          let checked : Bool → CacheAction Handled := fun blocked cache =>
            if blocked then (cache, .response tooManyRequests)
            else counted ((Cache.get cache now key).getD (.number 0)) cache
          refine KeepsTo.choose
            (fun cache : SharedCache =>
              ((cache.get now (blockKey key)).map CachedValue.truthy).getD false)
            checked (fun s t h => ?_) fun blocked => ?_
          · exact congrArg (fun read => (Option.map CachedValue.truthy read).getD false)
              (get_of_agree h hblock now)
          · cases blocked with
            | true => exact keepsTo_read fun _ _ _ => rfl
            | false =>
                refine KeepsTo.choose
                  (fun cache : SharedCache => (cache.get now key).getD (.number 0))
                  counted (fun s t h => ?_) fun read => ?_
                · exact congrArg (fun read => Option.getD read (.number 0))
                    (get_of_agree h hcounter now)
                · cases read with
                  | number count => exact keepsTo_afterCount rule hcounter hblock count now
                  | text t => exact keepsTo_read fun _ _ _ => rfl
                  | summary fields => exact keepsTo_read fun _ _ _ => rfl
                  | rooms entries => exact keepsTo_read fun _ _ _ => rfl

/-- An operation that answers something else about what it has done. -/
theorem KeepsTo.mapAnswer {own : Text → Prop} {A B : Type} {op : CacheAction A}
    (h : KeepsTo own op) (f : A → B) : KeepsTo own fun s => ((op s).1, f (op s).2) where
  frame := h.frame
  store := h.store
  answer := by
    intro s t hst
    show f (op s).2 = f (op t).2
    rw [h.answer s t hst]

/-- **Every operation keeps to the keys of its client.** -/
theorem keepsTo_perform (op : CacheOp) :
    KeepsTo (fun k => clientOf k = op.client) op.perform := by
  cases op with
  | limit now request =>
      exact KeepsTo.mapAnswer (keepsTo_processRequest now request) CacheAnswer.handled
  | roomSaved roomId =>
      exact (keepsTo_delete clientOf_available ()).andThen
        (keepsTo_delete (clientOf_room roomId.str) CacheAnswer.done)
  | roomMoved => exact keepsTo_delete clientOf_available _
  | roomsSynced now rooms => exact keepsTo_set clientOf_available _ _ _
  | requestCreated => exact keepsTo_clear (fun _ h => clientOf_dashboard h) none _
  | userSaved user =>
      exact (keepsTo_delete (clientOf_user user.id.str) ()).andThen
        (keepsTo_delete (clientOf_user (txt "email:" ++ user.email)) CacheAnswer.done)
  | analytics now session => exact keepsTo_set (clientOf_analytics session.id.str) _ _ _
  | healthSet now => exact keepsTo_set clientOf_health _ _ _
  | healthGet now =>
      refine keepsTo_read fun s t h => ?_
      exact congrArg (fun read => CacheAnswer.checked (decide (read = some (.text (txt "ok")))))
        (get_of_agree h clientOf_health now)

/-! ## §5. The limiter. -/

/-- A cache of counters, as a shared one. -/
def RateCache.shared (cache : RateCache) : SharedCache :=
  fun key => (cache key).map fun e => ⟨.number e.value, e.expiry⟩

theorem RateCache.shared_live (cache : RateCache) (now : Instant) (key : Text) :
    (RateCache.shared cache).live now key
      = (cache.live now key).map fun e => ⟨.number e.value, e.expiry⟩ := by
  show ((cache key).map _).filter _ = ((cache key).filter _).map _
  cases cache key with
  | none => rfl
  | some e =>
      show (some _).filter _ = ((some e).filter _).map _
      by_cases h : now < e.expiry
      · rw [Option.filter_some, Option.filter_some, if_pos (by simpa using h),
          if_pos (by simpa using h)]
        rfl
      · rw [Option.filter_some, Option.filter_some, if_neg (by simpa using h),
          if_neg (by simpa using h)]
        rfl

theorem RateCache.shared_get (cache : RateCache) (now : Instant) (key : Text) :
    (RateCache.shared cache).get now key = (cache.get now key).map .number := by
  rw [Cache.get, Cache.get, RateCache.shared_live, Option.map_map, Option.map_map]
  rfl

theorem RateCache.shared_set (cache : RateCache) (key : Text) (value : Int) (expiry : Instant) :
    RateCache.shared (cache.set key value expiry)
      = (RateCache.shared cache).set key (.number value) expiry := by
  funext k
  show (cache.set key value expiry k).map _ = (RateCache.shared cache).set key _ expiry k
  by_cases h : k = key
  · rw [h, Cache.set_self, Cache.set_self]
    rfl
  · rw [Cache.set_of_ne cache h, Cache.set_of_ne (RateCache.shared cache) h]
    rfl

theorem afterCount_shared (rule : RateRule) (key : Text) (count : Int) (now : Instant)
    (cache : RateCache) :
    (RateCache.shared cache).afterCount rule key count now
      = (RateCache.shared (afterCount rule key count now cache).1,
          (afterCount rule key count now cache).2) := by
  unfold SharedCache.afterCount afterCount
  split
  · rw [RateCache.shared_set]
  · split
    · rw [RateCache.shared_set]
    · rw [RateCache.shared_live, Cache.incr]
      cases cache.live now key with
      | none => rfl
      | some e =>
          show (_, Handled.next) = (RateCache.shared (cache.set key (e.value + 1) e.expiry),
            Handled.next)
          rw [RateCache.shared_set]

/-- **On counters the two limiters are one.** -/
theorem processRequest_shared (cache : RateCache) (now : Instant) (request : HttpRequest) :
    (RateCache.shared cache).processRequest now request
      = (RateCache.shared (processRequest cache now request).1,
          (processRequest cache now request).2) := by
  unfold SharedCache.processRequest processRequest
  rw [if_neg (show ¬ ratelimitEnable.getD true = false by decide)]
  cases matchRule request.path with
  | none => rfl
  | some rule =>
      cases makeKey (getClientIp request) request.path with
      | none => rfl
      | some key =>
          have hblocked : ((((RateCache.shared cache).get now (blockKey key)).map
              CachedValue.truthy).getD false) = isBlocked cache now key := by
            rw [RateCache.shared_get, isBlocked]
            cases cache.get now (blockKey key) with
            | none => rfl
            | some n => rfl
          have hcount : ((RateCache.shared cache).get now key).getD (.number 0)
              = .number (readCount cache now key) := by
            rw [RateCache.shared_get, readCount]
            cases cache.get now key with
            | none => rfl
            | some n => rfl
          simp only [hblocked, hcount]
          cases isBlocked cache now key with
          | true => rfl
          | false => exact afterCount_shared rule key _ now cache

/-! ## §6. Runs. -/

def CacheOp.limitRequest : CacheOp → Option TimedRequest
  | .limit now request => some ⟨now, request⟩
  | _ => none

/-- **What a client reads and leaves is as if it had the cache to itself.** -/
theorem client_alone (cache : SharedCache) (ops : List CacheOp) (client : CacheClient) :
    answersTo CacheOp.client CacheOp.perform client cache ops
        = answersTo CacheOp.client CacheOp.perform client cache
          (ops.filter fun op => op.client = client)
      ∧ AgreeOn (fun k => clientOf k = client) (storeAfter CacheOp.perform cache ops)
        (storeAfter CacheOp.perform cache (ops.filter fun op => op.client = client)) :=
  alone keepsTo_perform client (AgreeOn.refl _ cache) ops

/-- A request, as an operation on the cache. -/
def cacheOp (q : TimedRequest) : CacheOp := .limit q.time q.request

/-- The limiter's operations are the requests. -/
theorem limiter_ops (ops : List CacheOp) :
    (ops.filter fun op => op.client = .limiter)
      = (ops.filterMap CacheOp.limitRequest).map cacheOp := by
  induction ops with
  | nil => rfl
  | cons op ops ih =>
      cases op with
      | limit now request =>
          show CacheOp.limit now request :: _ = CacheOp.limit now request :: _
          rw [ih]
      | _ => exact ih

/-- One request after the other. -/
theorem limit_run (cache : RateCache) (qs : List TimedRequest) :
    answersTo CacheOp.client CacheOp.perform .limiter (RateCache.shared cache)
          (qs.map cacheOp)
        = (answers cache qs).map .handled
      ∧ storeAfter CacheOp.perform (RateCache.shared cache) (qs.map cacheOp)
        = RateCache.shared (cacheAfter cache qs) := by
  induction qs generalizing cache with
  | nil => exact ⟨rfl, rfl⟩
  | cons q qs ih =>
      obtain ⟨hanswers, hstore⟩ := ih (processRequest cache q.time q.request).1
      have hone := processRequest_shared cache q.time q.request
      have hfst : ((cacheOp q).perform (RateCache.shared cache)).1
          = RateCache.shared (processRequest cache q.time q.request).1 := congrArg Prod.fst hone
      constructor
      · show .handled ((RateCache.shared cache).processRequest q.time q.request).2
            :: answersTo CacheOp.client CacheOp.perform .limiter
              ((cacheOp q).perform (RateCache.shared cache)).1 (qs.map cacheOp)
          = .handled (processRequest cache q.time q.request).2 :: List.map .handled _
        rw [hfst, hanswers, hone]
      · show storeAfter CacheOp.perform ((cacheOp q).perform (RateCache.shared cache)).1
            (qs.map cacheOp) = _
        rw [hfst, hstore]
        rfl

/-- **The limiter is not disturbed.**  On a cache with nothing but counters under the limiter's
keys, whatever the others do in between, the requests are answered as they are by the limiter on a
cache of its own, and its entries are those that are left there. -/
theorem limiter_undisturbed {shared : SharedCache} {cache : RateCache}
    (h : AgreeOn (fun k => clientOf k = .limiter) shared (RateCache.shared cache))
    (ops : List CacheOp) :
    answersTo CacheOp.client CacheOp.perform .limiter shared ops
        = (answers cache (ops.filterMap CacheOp.limitRequest)).map .handled
      ∧ AgreeOn (fun k => clientOf k = .limiter) (storeAfter CacheOp.perform shared ops)
        (RateCache.shared (cacheAfter cache (ops.filterMap CacheOp.limitRequest))) := by
  have halone := alone keepsTo_perform .limiter h ops
  rw [limiter_ops] at halone
  obtain ⟨hanswers, hstore⟩ := limit_run cache (ops.filterMap CacheOp.limitRequest)
  rw [hanswers, hstore] at halone
  exact halone

/-- On a cache that holds a list of rooms, a listing, a health check and two sign-ins. -/
theorem sign_ins_undisturbed :
    answersTo CacheOp.client CacheOp.perform .limiter
        (Cache.set Cache.empty (txt "available_rooms") (.rooms []) 0)
        [.roomsSynced 1 [], .limit 2 ⟨txt "/api/v1/auth/token/", none, none⟩, .healthSet 3,
          .limit 4 ⟨txt "/api/v1/auth/token/", none, none⟩]
      = (answers Cache.empty
          [⟨2, ⟨txt "/api/v1/auth/token/", none, none⟩⟩,
            ⟨4, ⟨txt "/api/v1/auth/token/", none, none⟩⟩]).map .handled := by
  refine (@limiter_undisturbed _ Cache.empty (fun k hk => ?_) _).1
  refine Cache.set_of_ne _ (fun heq => ?_) _ _
  rw [heq] at hk
  exact absurd hk (by decide)

/-- A health check with no other one in between finds what it has set, within five seconds. -/
theorem health_check_ok (cache : SharedCache) {now later : Instant}
    (hlater : later < now + 5 * second) {ops : List CacheOp}
    (hops : ∀ op ∈ ops, op.client ≠ .health) :
    answersTo CacheOp.client CacheOp.perform .health cache
        ((.healthSet now :: ops) ++ [.healthGet later])
      = [.done, .checked true] := by
  have hmine : ((CacheOp.healthSet now :: ops) ++ [CacheOp.healthGet later]).filter
        (fun op : CacheOp => op.client = .health) = [.healthSet now, .healthGet later] := by
    have hnone : ops.filter (fun op => op.client = .health) = [] :=
      List.filter_eq_nil_iff.mpr fun op hop => by simpa using hops op hop
    rw [List.cons_append, List.filter_cons_of_pos (by simp [CacheOp.client]), List.filter_append,
      hnone]
    rfl
  rw [(client_alone cache _ .health).1, hmine]
  have hread : (cache.set (txt "health_check") (.text (txt "ok")) (now + 5 * second)).get later
      (txt "health_check") = some (.text (txt "ok")) := Cache.get_set_self cache _ _ hlater
  show [CacheAnswer.done, CacheAnswer.checked (decide (Cache.get _ later _ = _))] = _
  exact congrArg (fun ok => [CacheAnswer.done, CacheAnswer.checked ok]) (decide_eq_true hread)

end HotelAgent

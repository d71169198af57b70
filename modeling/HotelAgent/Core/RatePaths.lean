/-
  HotelAgent.Core.RatePaths — one rule, many paths.

  A rule is found by the beginning of the path, but the key is made of the whole
  path.  So the limit of a rule is not that of a client at all paths of the rule:
  every path has a counter of its own, and the turns of one voice session leave
  those of another their full ten a minute.

  Main result, `paths_immaterial_iff_uncrowded`: other paths of the same rules make
  no difference where no key that the requests could come under is ever used up;
  and only there, as long as each request can get around the keys of the others.
-/
import HotelAgent.Core.RateLimit
import HotelAgent.Lib.KeyedWindows

namespace HotelAgent.RateLimitMiddleware

open Lib

/-! ## §1. Other paths of the same rule. -/

/-- The same request at another path of its rule.  A path that came out of a URL was decoded and
encodes again; one that does not encode is at most exchanged for another such path. -/
structure Rerouted (q q' : TimedRequest) : Prop where
  time : q'.time = q.time
  forwardedFor : q'.request.forwardedFor = q.request.forwardedFor
  remoteAddr : q'.request.remoteAddr = q.request.remoteAddr
  rule : matchRule q'.request.path = matchRule q.request.path
  encodes : (encodeUtf8 q'.request.path).isSome = (encodeUtf8 q.request.path).isSome

/-- Whatever paths of the same rules the requests go to, the same ones are admitted. -/
def PathsImmaterial (qs : List TimedRequest) : Prop :=
  ∀ qs', List.Forall₂ Rerouted qs qs' →
    (answers .empty qs').map admits = (answers .empty qs).map admits

/-- At some path of its rule the request is counted under this key. -/
def CanComeUnder (q : TimedRequest) (key : Text) : Prop :=
  ∃ q', Rerouted q q' ∧ limitKey q'.request = some key

/-- No key is ever used up: of the requests that could come under it, counted from any of them on,
fewer come before a later one, within the window of the first, than that one's rule admits. -/
def PathsUncrowded (qs : List TimedRequest) : Prop :=
  ∀ key before q mid r after qrule rrule, qs = before ++ q :: mid ++ r :: after →
    CanComeUnder q key → CanComeUnder r key →
    matchRule q.request.path = some qrule → matchRule r.request.path = some rrule →
    r.time < q.time + qrule.window * second →
    ∀ between : List TimedRequest, between.Sublist mid → (∀ m ∈ between, CanComeUnder m key) →
      (between.length : Int) + 1 < rrule.limit

/-- Each request can get around any keys that are fewer than the requests. -/
def PathsSpread (qs : List TimedRequest) : Prop :=
  ∀ q ∈ qs, ∀ taken : List Text, taken.length < qs.length →
    ∃ q', Rerouted q q' ∧ ∀ key ∈ taken, limitKey q'.request ≠ some key

/-! ## §2. The path decides the key, not whether there is one. -/

theorem Rerouted.refl (q : TimedRequest) : Rerouted q q := ⟨rfl, rfl, rfl, rfl, rfl⟩

theorem Rerouted.getClientIp {q q' : TimedRequest} (h : Rerouted q q') :
    RateLimitMiddleware.getClientIp q'.request = RateLimitMiddleware.getClientIp q.request := by
  rw [RateLimitMiddleware.getClientIp, h.forwardedFor, h.remoteAddr]
  rfl

/-- A key can be made at both paths or at neither. -/
theorem Rerouted.limitKey_isSome {q q' : TimedRequest} (h : Rerouted q q') :
    (limitKey q'.request).isSome = (limitKey q.request).isSome := by
  have hpath : (∀ c ∈ q'.request.path, isSurrogate c = false)
      ↔ ∀ c ∈ q.request.path, isSurrogate c = false := by
    rw [← encodeUtf8_isSome_iff, ← encodeUtf8_isSome_iff, h.encodes]
  have hkey : (makeKey (RateLimitMiddleware.getClientIp q'.request) q'.request.path).isSome
      = (makeKey (RateLimitMiddleware.getClientIp q.request) q.request.path).isSome := by
    rw [Bool.eq_iff_iff, makeKey_isSome_iff, makeKey_isSome_iff, h.getClientIp, hpath]
  rw [limitKey, limitKey, h.rule]
  cases matchRule q.request.path with
  | none => rfl
  | some rule => exact hkey

/-- What is not refused by a limiter is answered alike at all paths of a rule. -/
theorem Rerouted.passesFreely {q q' : TimedRequest} (h : Rerouted q q') :
    RateLimitMiddleware.passesFreely q' = RateLimitMiddleware.passesFreely q := by
  rw [RateLimitMiddleware.passesFreely, RateLimitMiddleware.passesFreely, h.limitKey_isSome, h.rule]

theorem map_passesFreely {qs qs' : List TimedRequest} (h : List.Forall₂ Rerouted qs qs') :
    qs'.map passesFreely = qs.map passesFreely := by
  induction h with
  | nil => rfl
  | cons hq _ ih => rw [List.map_cons, List.map_cons, hq.passesFreely, ih]

/-! ## §3. When the path matters. -/

/-- Requests by key; at another path of its rule a request takes another form. -/
def pathKeying : Keying TimedRequest Text Instant where
  arrival := arrival
  Form := Rerouted
  refl := .refl
  limit_pos := arrival_limit_pos

theorem hitOn_pathKeying (key : Text) (q : TimedRequest) :
    pathKeying.hitOn key q = arrivalOn key q :=
  (arrivalOn_eq key q).symm

theorem hitsOn_pathKeying (key : Text) (qs : List TimedRequest) :
    pathKeying.hitsOn key qs = qs.filterMap (arrivalOn key) :=
  List.filterMap_congr fun q _ => hitOn_pathKeying key q

theorem takes_pathKeying {q : TimedRequest} {key : Text} {a : Hit Instant} :
    pathKeying.Takes q key a
      ↔ CanComeUnder q key
        ∧ ∃ rule, matchRule q.request.path = some rule ∧ a = arrivalOf rule q.time := by
  constructor
  · rintro ⟨q', hq', harrival⟩
    obtain ⟨hkey, rule, hrule, rfl⟩ := arrival_eq_some_iff.mp harrival
    exact ⟨⟨q', hq', hkey⟩, rule, hq'.rule.symm.trans hrule, by rw [hq'.time]⟩
  · rintro ⟨⟨q', hq', hkey⟩, rule, hrule, rfl⟩
    refine ⟨q', hq', arrival_eq_some_iff.mpr ⟨hkey, rule, hq'.rule.trans hrule, ?_⟩⟩
    rw [hq'.time]

/-- A request that can come under a key is matched by a rule. -/
theorem exists_takes_of_canComeUnder {q : TimedRequest} {key : Text} (h : CanComeUnder q key) :
    ∃ a, pathKeying.Takes q key a := by
  obtain ⟨q', hq', hkey⟩ := h
  obtain ⟨rule, hrule, _⟩ := rule_of_limitKey hkey
  exact ⟨_, q', hq', arrival_eq_some_iff.mpr ⟨hkey, rule, hrule, rfl⟩⟩

theorem uncrowded_pathKeying {qs : List TimedRequest} :
    pathKeying.Uncrowded qs ↔ PathsUncrowded qs := by
  constructor
  · intro h key before q mid r after qrule rrule hqs hq hr hqrule hrrule hsoon between hsub hcome
    exact h key before q mid r after _ _ hqs (takes_pathKeying.mpr ⟨hq, qrule, hqrule, rfl⟩)
      (takes_pathKeying.mpr ⟨hr, rrule, hrrule, rfl⟩) hsoon between hsub
      fun m hm => exists_takes_of_canComeUnder (hcome m hm)
  · intro h key before q mid r after a c hqs hq hr hsoon between hsub htake
    obtain ⟨hqkey, qrule, hqrule, rfl⟩ := takes_pathKeying.mp hq
    obtain ⟨hrkey, rrule, hrrule, rfl⟩ := takes_pathKeying.mp hr
    refine h key before q mid r after qrule rrule hqs hqkey hrkey hqrule hrrule hsoon between hsub
      fun m hm => ?_
    obtain ⟨b, hb⟩ := htake m hm
    exact (takes_pathKeying.mp hb).1

theorem ordered_pathKeying {qs : List TimedRequest} (h : (qs.map (·.time)).Pairwise (· ≤ ·)) :
    pathKeying.Ordered qs := by
  refine (List.pairwise_map.mp h).imp ?_
  intro q r hle key a key' c hq hr
  obtain ⟨_, _, _, rfl⟩ := takes_pathKeying.mp hq
  obtain ⟨_, _, _, rfl⟩ := takes_pathKeying.mp hr
  exact hle

theorem spread_pathKeying {qs : List TimedRequest} (h : PathsSpread qs) : pathKeying.Spread qs := by
  intro q hq taken htaken
  obtain ⟨q', hq', hfree⟩ := h q hq taken htaken
  refine ⟨q', hq', fun key hkey => ?_⟩
  rw [hitOn_pathKeying]
  exact arrivalOn_of_ne (hfree key hkey)

/-- **Paths that make no difference.**  Where no key that the requests could come under is ever
used up, other paths of the same rules are immaterial; and only there, if the requests come in the
order of time and each can get around the keys of the others. -/
theorem paths_immaterial_iff_uncrowded (qs : List TimedRequest) :
    (PathsUncrowded qs → PathsImmaterial qs)
      ∧ ((qs.map (·.time)).Pairwise (· ≤ ·) → PathsSpread qs →
          (PathsImmaterial qs ↔ PathsUncrowded qs)) := by
  have hpassed : ∀ {qs qs' : List TimedRequest}, pathKeying.Forms qs qs' →
      qs'.map passesFreely = qs.map passesFreely := map_passesFreely
  have hseen : ∀ qs, (answers .empty qs).map admits = qs.map passesFreely
      ↔ pathKeying.AllPass qs := by
    intro qs
    rw [admits_eq_passesFreely_iff]
    exact forall_congr' fun key => by rw [hitsOn_pathKeying]
  obtain ⟨henough, hiff⟩ := Keying.forms_immaterial_iff_uncrowded hpassed hseen qs
  rw [uncrowded_pathKeying] at henough hiff
  exact ⟨henough, fun htimes hspread =>
    hiff (ordered_pathKeying htimes) (spread_pathKeying hspread)⟩

/-! ### Six requests for a token -/

/-- A request of one client at the start. -/
def requestTo (path : String) : TimedRequest := ⟨0, ⟨txt path, none, some (txt "1.2.3.4")⟩⟩

def sixTokenRequests : List TimedRequest := List.replicate 6 (requestTo "/api/v1/auth/token/")

/-- Paths of the same rule; the first three have views. -/
def tokenPaths : List String :=
  ["/api/v1/auth/token/", "/api/v1/auth/token/refresh/", "/api/v1/auth/token/blacklist/",
    "/api/v1/auth/token/a", "/api/v1/auth/token/b", "/api/v1/auth/token/c"]

theorem rerouted_of_mem_tokenPaths : ∀ path ∈ tokenPaths,
    Rerouted (requestTo "/api/v1/auth/token/") (requestTo path) := by
  intro path hpath
  have hrule : ∀ path ∈ tokenPaths, matchRule (txt path)
      = matchRule (txt "/api/v1/auth/token/") := by decide
  have hencodes : ∀ path ∈ tokenPaths, (encodeUtf8 (txt path)).isSome
      = (encodeUtf8 (txt "/api/v1/auth/token/")).isSome := by decide
  exact ⟨rfl, rfl, rfl, hrule path hpath, hencodes path hpath⟩

/-- Six paths give six keys, so one is always left. -/
theorem pathsSpread_sixTokenRequests : PathsSpread sixTokenRequests := by
  intro q hq taken htaken
  obtain rfl := List.eq_of_mem_replicate hq
  have hnodup : (tokenPaths.map fun path => limitKey (requestTo path).request).Nodup := by
    decide +kernel
  obtain ⟨key, hkey, hfree⟩ := Keying.exists_free_of_nodup hnodup htaken
  obtain ⟨path, hpath, rfl⟩ := List.mem_map.mp hkey
  exact ⟨requestTo path, rerouted_of_mem_tokenPaths path hpath, hfree⟩

theorem paths_immaterial_iff_uncrowded_tokens :
    PathsImmaterial sixTokenRequests ↔ PathsUncrowded sixTokenRequests :=
  (paths_immaterial_iff_uncrowded sixTokenRequests).2 (by decide) pathsSpread_sixTokenRequests

/-- The sixth request under the rule for tokens is refused within a minute, unless it goes to
another path. -/
theorem other_path_escapes_limit :
    ¬ ∀ qs : List TimedRequest, (qs.map (·.time)).Pairwise (· ≤ ·) → PathsImmaterial qs := by
  intro h
  have hother : List.Forall₂ Rerouted
      (List.replicate 6 (requestTo "/api/v1/auth/token/"))
      (List.replicate 5 (requestTo "/api/v1/auth/token/")
        ++ [requestTo "/api/v1/auth/token/refresh/"]) := by
    rw [List.replicate_add 5 1]
    exact List.rel_append (List.forall₂_same.mpr fun q _ => .refl q)
      (.cons (rerouted_of_mem_tokenPaths _ (by decide)) .nil)
  have hsame := h _ (by decide) _ hother
  revert hsame
  decide +kernel

end HotelAgent.RateLimitMiddleware

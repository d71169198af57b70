/-
  HotelAgent.Core.ForgedHeaders — the rate limiter behind nginx.

  nginx sets `X-Forwarded-For` to `$proxy_add_x_forwarded_for`: what the client
  sent in that header, a comma, and the address of the peer; the address alone
  if the client sent none.  `_get_client_ip` takes what stands BEFORE the first
  comma, so a client that sends the header names itself.

  A visit is what the client cannot forge: when it comes and to which path.

  Main results:
    * `decisions_eq_passes_iff` — nobody is refused exactly when no limiter of
      any key refuses anybody.
    * `headers_immaterial_iff_uncrowded` — the headers make no difference where
      no key that the visits could take on is ever used up; and only there, as
      long as each visit can also take on a key that the others have not.
-/
import HotelAgent.Core.RateLimit
import HotelAgent.Lib.KeyedWindows

namespace HotelAgent.RateLimitMiddleware

open Lib

/-! ## §1. What nginx forwards. -/

/-- What may stand in the value of a header: tabs, visible characters, blanks, and the bytes
from 0x80 on. -/
def isFieldChar (c : CodePoint) : Bool :=
  c.val = 0x09 || (0x20 ≤ c.val && c.val ≤ 0x7E) || (0x80 ≤ c.val && c.val ≤ 0xFF)

/-- The value of a header. -/
structure FieldValue where
  text : Text
  valid : ∀ c ∈ text, isFieldChar c = true

/-- A header that a client can send. -/
def FieldValue.ofText (text : Text) (valid : text.all isFieldChar = true) : FieldValue where
  text := text
  valid := by simpa using valid

/-- A peer of nginx, and the address that nginx itself has to Django. -/
structure Hop where
  peer : FieldValue
  nginx : FieldValue

/-- `$proxy_add_x_forwarded_for`. -/
def proxyAddXForwardedFor (peer : FieldValue) : Option FieldValue → Text
  | none => peer.text
  | some client => client.text ++ txt ", " ++ peer.text

/-- A request of the peer, with the header it sent, as it reaches Django. -/
def forward (hop : Hop) (path : Text) (client : Option FieldValue) : HttpRequest where
  path := path
  forwardedFor := some (proxyAddXForwardedFor hop.peer client)
  remoteAddr := some hop.nginx.text

structure Visit where
  time : Instant
  path : Text

/-- A visit and the header the client sends with it. -/
abbrev Sent := Visit × Option FieldValue

def arrives (hop : Hop) (s : Sent) : TimedRequest := ⟨s.1.time, forward hop s.1.path s.2⟩

/-- Which of the requests are admitted, from an empty cache. -/
def decisions (hop : Hop) (sent : List Sent) : List Bool :=
  (answers .empty (sent.map (arrives hop))).map admits

/-- The key a visit is counted under with a header. -/
def keyOf (hop : Hop) (v : Visit) (client : Option FieldValue) : Option Text :=
  limitKey (forward hop v.path client)

/-- Some header gives the visit this key. -/
def CanTake (hop : Hop) (v : Visit) (key : Text) : Prop := ∃ client, keyOf hop v client = some key

/-! ## §2. The header decides the key, not whether there is one. -/

theorem isSurrogate_of_isFieldChar {c : CodePoint} (h : isFieldChar c = true) :
    isSurrogate c = false := by
  simp only [isFieldChar, isSurrogate, Bool.or_eq_true, Bool.and_eq_true, decide_eq_true_eq,
    Bool.and_eq_false_iff, decide_eq_false_iff_not] at h ⊢
  omega

theorem mem_of_mem_strip {c : CodePoint} {t : Text} (h : c ∈ strip t) : c ∈ t := by
  rw [strip, List.mem_reverse] at h
  have h := (List.dropWhile_suffix _).subset h
  rw [List.mem_reverse] at h
  exact (List.dropWhile_suffix _).subset h

/-- No header, address or blank holds a surrogate. -/
theorem isSurrogate_getClientIp (hop : Hop) (path : Text) (client : Option FieldValue) :
    ∀ c ∈ getClientIp (forward hop path client), isSurrogate c = false := by
  have hforwarded : ∀ c ∈ proxyAddXForwardedFor hop.peer client, isSurrogate c = false := by
    have hpeer : ∀ c ∈ hop.peer.text, isSurrogate c = false := fun c hc =>
      isSurrogate_of_isFieldChar (hop.peer.valid c hc)
    cases client with
    | none => exact hpeer
    | some client =>
        intro c hc
        rw [proxyAddXForwardedFor, List.mem_append, List.mem_append] at hc
        rcases hc with (hc | hc) | hc
        · exact isSurrogate_of_isFieldChar (client.valid c hc)
        · exact encodeUtf8_isSome_iff.mp (by decide : (encodeUtf8 (txt ", ")).isSome = true) c hc
        · exact hpeer c hc
  intro c hc
  rw [getClientIp] at hc
  split at hc
  next xff hxff =>
    obtain ⟨hforward, _⟩ := Option.filter_eq_some_iff.mp hxff
    injection hforward with hforward
    subst hforward
    exact hforwarded c ((List.takeWhile_prefix _).subset (mem_of_mem_strip hc))
  next =>
    exact isSurrogate_of_isFieldChar (hop.nginx.valid c hc)

/-- Whether a visit is counted is a matter of its path. -/
theorem keyOf_isSome_iff (hop : Hop) (v : Visit) (client : Option FieldValue) :
    (keyOf hop v client).isSome = true
      ↔ (matchRule v.path).isSome = true ∧ ∀ c ∈ v.path, isSurrogate c = false := by
  have hkey : (makeKey (getClientIp (forward hop v.path client)) v.path).isSome = true
      ↔ ∀ c ∈ v.path, isSurrogate c = false :=
    makeKey_isSome_iff.trans (and_iff_right (isSurrogate_getClientIp hop v.path client))
  rw [← hkey]
  show (limitKey (forward hop v.path client)).isSome = true ↔ _
  rw [limitKey]
  show ((matchRule v.path).bind _).isSome = true ↔ _
  cases matchRule v.path with
  | none => simp
  | some rule => simp [forward]

/-- So it is a matter of no header. -/
theorem keyOf_isSome_eq (hop : Hop) (v : Visit) (client client' : Option FieldValue) :
    (keyOf hop v client).isSome = (keyOf hop v client').isSome := by
  rw [Bool.eq_iff_iff, keyOf_isSome_iff, keyOf_isSome_iff]

/-! ## §3. Runs in which nobody is refused. -/

/-- The answer to a visit that is not counted: it passes if no rule matches its path. -/
def passes (hop : Hop) (v : Visit) : Bool :=
  (keyOf hop v none).isSome || matchRule v.path = none

/-- The requests of a run that are counted under a key, to the limiter of that key. -/
def arrivalsOn (hop : Hop) (key : Text) (sent : List Sent) : List (Hit Instant) :=
  (sent.map (arrives hop)).filterMap (arrivalOn key)

/-- A visit goes on freely with any header or with none. -/
theorem passesFreely_arrives (hop : Hop) (s : Sent) :
    passesFreely (arrives hop s) = passes hop s.1 := by
  rw [passes, keyOf_isSome_eq hop s.1 none s.2]
  rfl

/-- **Nobody is refused exactly when no limiter refuses anybody.** -/
theorem decisions_eq_passes_iff (hop : Hop) (sent : List Sent) :
    decisions hop sent = sent.map (fun s => passes hop s.1)
      ↔ ∀ key, Window.fresh.AllAdmitted (arrivalsOn hop key sent) := by
  have hfreely : sent.map (fun s => passes hop s.1)
      = (sent.map (arrives hop)).map passesFreely := by
    rw [List.map_map]
    exact List.map_congr_left fun s _ => (passesFreely_arrives hop s).symm
  rw [hfreely]
  exact admits_eq_passesFreely_iff _

/-! ## §4. Headers that make no difference. -/

/-- Whatever headers the client sends with its visits, the same ones are admitted. -/
def HeadersImmaterial (hop : Hop) (visits : List Visit) : Prop :=
  ∀ sent sent' : List Sent, sent.map (·.1) = visits → sent'.map (·.1) = visits →
    decisions hop sent = decisions hop sent'

/-- No key is ever used up: of the visits that could take it, counted from any of them on, fewer
come before a later one, within the window of the first, than that one's rule admits. -/
def Uncrowded (hop : Hop) (visits : List Visit) : Prop :=
  ∀ key before v mid w after vrule wrule, visits = before ++ v :: mid ++ w :: after →
    CanTake hop v key → CanTake hop w key →
    matchRule v.path = some vrule → matchRule w.path = some wrule →
    w.time < v.time + vrule.window * second →
    ∀ between : List Visit, between.Sublist mid → (∀ m ∈ between, CanTake hop m key) →
      (between.length : Int) + 1 < wrule.limit

/-- Each visit can get around any keys that are fewer than the visits. -/
def Spread (hop : Hop) (visits : List Visit) : Prop :=
  ∀ v ∈ visits, ∀ taken : List Text, taken.length < visits.length →
    ∃ client, ∀ key ∈ taken, keyOf hop v client ≠ some key

/-! ## §5. When forging helps. -/

/-- Visits by key; with another header a visit takes another form. -/
def headerKeying (hop : Hop) : Keying Sent Text Instant where
  arrival s := arrival (arrives hop s)
  Form s s' := s.1 = s'.1
  refl _ := rfl
  limit_pos := arrival_limit_pos

/-- The visits without headers of their own. -/
def bare (visits : List Visit) : List Sent := visits.map fun v => (v, none)

theorem map_bare (visits : List Visit) : (bare visits).map (·.1) = visits := by
  rw [bare, List.map_map]
  exact List.map_id'' (fun _ => rfl) visits

section
variable {hop : Hop}

theorem hitOn_headerKeying (key : Text) (s : Sent) :
    (headerKeying hop).hitOn key s = arrivalOn key (arrives hop s) :=
  (arrivalOn_eq key (arrives hop s)).symm

theorem hitsOn_headerKeying (key : Text) (sent : List Sent) :
    (headerKeying hop).hitsOn key sent = arrivalsOn hop key sent := by
  rw [arrivalsOn, List.filterMap_map]
  exact List.filterMap_congr fun s _ => hitOn_headerKeying key s

/-- The forms of visits are those visits with any headers. -/
theorem forms_headerKeying {sent sent' : List Sent} :
    (headerKeying hop).Forms sent sent' ↔ sent.map (·.1) = sent'.map (·.1) := by
  rw [← List.forall₂_eq_eq_eq, List.forall₂_map_left_iff, List.forall₂_map_right_iff]
  rfl

theorem takes_headerKeying {s : Sent} {key : Text} {a : Hit Instant} :
    (headerKeying hop).Takes s key a
      ↔ CanTake hop s.1 key
        ∧ ∃ rule, matchRule s.1.path = some rule ∧ a = arrivalOf rule s.1.time := by
  constructor
  · rintro ⟨s', hsame, harrival⟩
    obtain ⟨hkey, rule, hrule, rfl⟩ := arrival_eq_some_iff.mp harrival
    have hsame : s.1 = s'.1 := hsame
    rw [hsame]
    exact ⟨⟨s'.2, hkey⟩, rule, hrule, rfl⟩
  · rintro ⟨⟨client, hkey⟩, rule, hrule, rfl⟩
    exact ⟨(s.1, client), rfl, arrival_eq_some_iff.mpr ⟨hkey, rule, hrule, rfl⟩⟩

/-- A key that visits can come under was taken under some rule. -/
theorem exists_takes_of_canTake {s : Sent} {key : Text} (h : CanTake hop s.1 key) :
    ∃ a, (headerKeying hop).Takes s key a := by
  obtain ⟨client, hkey⟩ := h
  obtain ⟨rule, hrule, _⟩ := rule_of_limitKey hkey
  exact ⟨arrivalOf rule s.1.time, takes_headerKeying.mpr ⟨⟨client, hkey⟩, rule, hrule, rfl⟩⟩

/-- A crowd of visits is a crowd of requests, whatever their headers. -/
theorem uncrowded_headerKeying {visits : List Visit} :
    (headerKeying hop).Uncrowded (bare visits) ↔ Uncrowded hop visits := by
  constructor
  · intro h key before v mid w after vrule wrule hvisits hv hw hvrule hwrule hsoon between hsub
      htake
    have hbare : bare visits
        = bare before ++ (v, none) :: bare mid ++ (w, none) :: bare after := by
      rw [hvisits]
      simp [bare]
    have hlength := h key (bare before) (v, none) (bare mid) (w, none) (bare after) _ _ hbare
      (takes_headerKeying.mpr ⟨hv, vrule, hvrule, rfl⟩)
      (takes_headerKeying.mpr ⟨hw, wrule, hwrule, rfl⟩) hsoon (bare between) (hsub.map _) ?_
    · rw [bare, List.length_map] at hlength
      exact hlength
    · intro m hm
      obtain ⟨u, hu, rfl⟩ := List.mem_map.mp hm
      exact exists_takes_of_canTake (htake u hu)
  · intro h key before v mid w after a c hbare hv hw hsoon between hsub htake
    obtain ⟨hvkey, vrule, hvrule, rfl⟩ := takes_headerKeying.mp hv
    obtain ⟨hwkey, wrule, hwrule, rfl⟩ := takes_headerKeying.mp hw
    have hvisits : visits = before.map (·.1) ++ v.1 :: mid.map (·.1) ++ w.1 :: after.map (·.1) := by
      rw [← map_bare visits, hbare]
      simp
    have hlength := h key (before.map (·.1)) v.1 (mid.map (·.1)) w.1 (after.map (·.1)) vrule wrule
      hvisits hvkey hwkey hvrule hwrule hsoon (between.map (·.1)) (hsub.map _) ?_
    · rw [List.length_map] at hlength
      exact hlength
    · intro m hm
      obtain ⟨s, hs, rfl⟩ := List.mem_map.mp hm
      obtain ⟨b, hb⟩ := htake s hs
      exact (takes_headerKeying.mp hb).1

theorem ordered_headerKeying {visits : List Visit}
    (h : (visits.map (·.time)).Pairwise (· ≤ ·)) : (headerKeying hop).Ordered (bare visits) := by
  rw [List.pairwise_map] at h
  refine List.pairwise_map.mpr (h.imp ?_)
  intro v w hle key a key' c hv hw
  obtain ⟨_, _, _, rfl⟩ := takes_headerKeying.mp hv
  obtain ⟨_, _, _, rfl⟩ := takes_headerKeying.mp hw
  exact hle

theorem spread_headerKeying {visits : List Visit} (h : Spread hop visits) :
    (headerKeying hop).Spread (bare visits) := by
  intro s hs taken htaken
  obtain ⟨v, hv, rfl⟩ := List.mem_map.mp hs
  rw [bare, List.length_map] at htaken
  obtain ⟨client, hclient⟩ := h v hv taken htaken
  refine ⟨(v, client), rfl, fun key hkey => ?_⟩
  rw [hitOn_headerKeying]
  exact arrivalOn_of_ne (hclient key hkey)

theorem headersImmaterial_iff {visits : List Visit} :
    HeadersImmaterial hop visits
      ↔ ∀ sent, (headerKeying hop).Forms (bare visits) sent →
          decisions hop sent = decisions hop (bare visits) := by
  have hforms : ∀ sent, (headerKeying hop).Forms (bare visits) sent ↔ sent.map (·.1) = visits := by
    intro sent
    rw [forms_headerKeying, map_bare]
    exact eq_comm
  constructor
  · intro h sent hsent
    exact h sent (bare visits) ((hforms sent).mp hsent) (map_bare visits)
  · intro h sent sent' hsent hsent'
    rw [h sent ((hforms sent).mpr hsent), h sent' ((hforms sent').mpr hsent')]

end

/-- **Headers that make no difference.**  Where no key is ever used up, the headers are
immaterial; and only there, if the visits come in the order of time and each can get around the
keys of the others. -/
theorem headers_immaterial_iff_uncrowded (hop : Hop) (visits : List Visit) :
    (Uncrowded hop visits → HeadersImmaterial hop visits)
      ∧ ((visits.map (·.time)).Pairwise (· ≤ ·) → Spread hop visits →
          (HeadersImmaterial hop visits ↔ Uncrowded hop visits)) := by
  have hpassed : ∀ {sent sent' : List Sent}, (headerKeying hop).Forms sent sent' →
      sent'.map (fun s => passes hop s.1) = sent.map (fun s => passes hop s.1) := by
    intro sent sent' hforms
    have hvisits := congrArg (List.map (passes hop)) (forms_headerKeying.mp hforms)
    rw [List.map_map, List.map_map] at hvisits
    exact hvisits.symm
  have hseen : ∀ sent, decisions hop sent = sent.map (fun s => passes hop s.1)
      ↔ (headerKeying hop).AllPass sent := by
    intro sent
    rw [decisions_eq_passes_iff]
    exact forall_congr' fun key => by rw [hitsOn_headerKeying]
  obtain ⟨henough, hiff⟩ := Keying.forms_immaterial_iff_uncrowded hpassed hseen (bare visits)
  rw [headersImmaterial_iff]
  rw [uncrowded_headerKeying] at henough hiff
  exact ⟨henough, fun htimes hspread =>
    hiff (ordered_headerKeying htimes) (spread_headerKeying hspread)⟩

/-! ### Six requests for a token -/

def sampleHop : Hop where
  peer := .ofText (txt "203.0.113.9") (by decide)
  nginx := .ofText (txt "172.18.0.5") (by decide)

/-- Six visits at once. -/
def sixVisits : List Visit := List.replicate 6 ⟨0, txt "/api/v1/auth/token/"⟩

/-- Addresses to forge. -/
def forged : List (Option FieldValue) :=
  [some (.ofText (txt "10.0.0.1") (by decide)), some (.ofText (txt "10.0.0.2") (by decide)),
    some (.ofText (txt "10.0.0.3") (by decide)), some (.ofText (txt "10.0.0.4") (by decide)),
    some (.ofText (txt "10.0.0.5") (by decide)), some (.ofText (txt "10.0.0.6") (by decide))]

/-- Six forged addresses give six keys, so one is always left. -/
theorem spread_sixVisits : Spread sampleHop sixVisits := by
  intro v hv taken htaken
  obtain rfl := List.eq_of_mem_replicate hv
  have hnodup : (forged.map (keyOf sampleHop ⟨0, txt "/api/v1/auth/token/"⟩)).Nodup := by
    decide +kernel
  obtain ⟨key, hkey, hfree⟩ := Keying.exists_free_of_nodup hnodup htaken
  obtain ⟨client, _, rfl⟩ := List.mem_map.mp hkey
  exact ⟨client, hfree⟩

theorem headers_immaterial_iff_uncrowded_token :
    HeadersImmaterial sampleHop sixVisits ↔ Uncrowded sampleHop sixVisits :=
  (headers_immaterial_iff_uncrowded sampleHop sixVisits).2 (by decide) spread_sixVisits

/-- The sixth request for a token within a minute is refused, unless the client calls itself by
another address. -/
theorem forged_header_escapes_limit :
    ¬ ∀ (hop : Hop) (visits : List Visit), (visits.map (·.time)).Pairwise (· ≤ ·) →
      HeadersImmaterial hop visits := by
  intro h
  have hsame := h sampleHop sixVisits (by decide)
    (List.replicate 6 (⟨0, txt "/api/v1/auth/token/"⟩, none))
    (List.replicate 5 (⟨0, txt "/api/v1/auth/token/"⟩, none)
      ++ [(⟨0, txt "/api/v1/auth/token/"⟩, some (.ofText (txt "10.0.0.1") (by decide)))]) rfl rfl
  revert hsame
  decide +kernel

end HotelAgent.RateLimitMiddleware

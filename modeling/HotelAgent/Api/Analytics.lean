/-
  HotelAgent.Api.Analytics — the daily statistics of voice sessions.

  `v_voice_session_stats_daily` has one row for each day on which a session was
  started.  A session belongs to the day of its start for good, and counts there
  until it is deleted.

      the day goes on      the row grows: sessions are opened and carried on
      it is over           no session is opened on it any more
      all have ended       the row changes only by deletions

  Main results:
    * `daily_stats_grow` — as long as no session of a day is deleted, no count and
      no sum of it gets smaller.
    * `daily_stats_final_iff` — once a day is over and its sessions have ended, its
      row stays as it is, exactly as long as none of them is deleted.
-/
import HotelAgent.Lib.Grouping
import HotelAgent.Api.SessionLives

namespace HotelAgent

open Lib

variable {py : Python}

/-! ## §1. The view. -/

/-- A row of the view. -/
structure DailyStats where
  day : Instant
  totalSessions : Nat
  completed : Nat
  failed : Nat
  /-- NULL where no session is completed. -/
  avgDurationS : Option Rat
  totalTokens : Nat
  totalTtsChars : Nat
  deriving DecidableEq

/-- `AVG(…)`, before it is rounded. -/
def average (amounts : List Nat) : Option Rat :=
  if amounts = [] then none else some (amounts.sum / amounts.length)

/-- The SELECT list, over the sessions of a day. -/
def DailyStats.select (day : Instant) (sessions : List VoiceSession) : DailyStats where
  day := day
  totalSessions := sessions.length
  -- FILTER (WHERE status = …)
  completed := (sessions.filter fun s => s.status = .completed).length
  failed := (sessions.filter fun s => s.status = .failed).length
  avgDurationS := average ((sessions.filter fun s => s.status = .completed).map (·.durationSeconds))
  totalTokens := (sessions.map (·.tokensUsed)).sum
  totalTtsChars := (sessions.map (·.ttsCharacters)).sum

section
variable (dateTrunc : Instant → Instant)

/-- `v_voice_session_stats_daily`; `dateTrunc` is `date_trunc('day', …)` in the time zone of the
connection. -/
def voiceSessionStatsDaily (db : Db) : Table DailyStats.day :=
  groupBy (fun s : VoiceSession => dateTrunc s.startedAt) db.voiceSessions.rows DailyStats.day
    DailyStats.select fun _ _ => rfl

/-- The sessions of a day. -/
def sessionsOn (db : Db) (day : Instant) : List VoiceSession :=
  group (fun s : VoiceSession => dateTrunc s.startedAt) db.voiceSessions.rows day

theorem find?_voiceSessionStatsDaily (db : Db) (day : Instant) :
    (voiceSessionStatsDaily dateTrunc db).find? day
      = if sessionsOn dateTrunc db day = [] then none
        else some (.select day (sessionsOn dateTrunc db day)) :=
  find?_groupBy day

theorem mem_sessionsOn {db : Db} {day : Instant} {s : VoiceSession} :
    s ∈ sessionsOn dateTrunc db day ↔ s ∈ db.voiceSessions ∧ dateTrunc s.startedAt = day := by
  unfold sessionsOn group
  rw [List.mem_filter, decide_eq_true_eq]
  rfl

theorem nodup_sessionsOn (db : Db) (day : Instant) :
    ((sessionsOn dateTrunc db day).map (·.id)).Nodup :=
  db.voiceSessions.nodup.sublist (List.filter_sublist.map _)

theorem average_of_perm {xs ys : List Nat} (h : xs.Perm ys) : average xs = average ys := by
  have hnil : xs = [] ↔ ys = [] := by
    rw [← List.length_eq_zero_iff, h.length_eq, List.length_eq_zero_iff]
  -- sum and length do not depend on the order
  unfold average
  simp only [hnil, h.sum_nat, h.length_eq]

/-- The links to its requests are not read. -/
theorem select_columns (day : Instant) (sessions : List VoiceSession) :
    DailyStats.select day (sessions.map (·.columns)) = DailyStats.select day sessions := by
  have hfilter : ∀ status : SessionStatus,
      (sessions.map (·.columns)).filter (fun s => s.status = status)
        = (sessions.filter fun s => s.status = status).map (·.columns) := by
    intro status
    rw [List.filter_map]
    rfl
  unfold DailyStats.select
  simp only [hfilter, List.length_map, List.map_map]
  rfl

/-- **The order of a group does not matter.** -/
theorem select_of_perm (day : Instant) {xs ys : List VoiceSession}
    (h : (xs.map (·.columns)).Perm (ys.map (·.columns))) :
    DailyStats.select day xs = DailyStats.select day ys := by
  rw [← select_columns day xs, ← select_columns day ys]
  generalize xs.map (·.columns) = xs at h
  generalize ys.map (·.columns) = ys at h
  unfold DailyStats.select
  rw [h.length_eq, (h.filter _).length_eq, (h.filter _).length_eq,
    average_of_perm ((h.filter _).map _), (h.map _).sum_nat, (h.map _).sum_nat]

end

/-! ## §2. Sessions that stay. -/

/-- Every session but the deleted one is still there. -/
def Db.SessionsStay (db : Db) (deleted : Option Uuid) (db' : Db) : Prop :=
  ∀ s ∈ db.voiceSessions, deleted ≠ some s.id → ∃ s' ∈ db'.voiceSessions, s'.id = s.id

/-- What has a story has a row. -/
theorem storyOf_ne_nil_iff {db : Db} {id : Uuid} :
    db.storyOf id ≠ [] ↔ ∃ s ∈ db.voiceSessions, s.id = id := by
  unfold Db.storyOf
  cases hfind : db.voiceSessions.find? id with
  | none =>
      refine iff_of_false (fun h => h rfl) fun h => ?_
      obtain ⟨s, hs, hid⟩ := h
      exact Table.find?_eq_none_iff.mp hfind s hs hid
  | some s =>
      obtain ⟨hs, hid⟩ := Table.find?_eq_some_iff.mp hfind
      exact iff_of_true (List.cons_ne_nil _ _) ⟨s, hs, hid⟩

/-- A request that deletes a session does nothing else. -/
theorem db_of_deletes {D : Deployment} {w : World} {request : ApiRequest py} {id : Uuid}
    (latencyMs : Text) (h : deletedSession D w.db request = some id) :
    (request.serve D w latencyMs).1.db = w.db.deleteSession id := by
  unfold deletedSession at h
  split at h
  next cred query pk =>
    split at h
    · exact absurd h (by simp)
    next user huser =>
      split at h
      next s hobject =>
        injection h with h
        subst h
        -- the row is found and the caller may delete it
        rw [world_serve]
        unfold perform
        simp only [huser, VoiceWrite.handle, hobject]
      · exact absurd h (by simp)
  · exact absurd h (by simp)

/-- The session that a step deletes. -/
def ServiceStep.deletes (D : Deployment) (w : World) : ServiceStep py → Option Uuid
  | .request call => deletedSession D w.db call.request
  | .cleanup _ => none

/-- **One step**: no session goes but the one that is deleted. -/
theorem sessionsStay_step (D : Deployment) (w : World) (i : ServiceStep py) :
    w.db.SessionsStay (i.deletes D w) (serviceStep D w i).db := by
  intro s hs hkept
  cases i with
  | cleanup now =>
      -- the clean-up tells nothing, so every story stays as it is
      have hstory := storyOf_cleanup w.db now s.id
      have hbefore : w.db.storyOf s.id ≠ [] := storyOf_ne_nil_iff.mpr ⟨s, hs, rfl⟩
      rw [← hstory] at hbefore
      exact storyOf_ne_nil_iff.mp hbefore
  | request call =>
      have hbefore : w.db.storyOf s.id ≠ [] := storyOf_ne_nil_iff.mpr ⟨s, hs, rfl⟩
      cases sessionEffect_serve D w call.latencyMs call.request with
      | quiet stories silent none =>
          rw [← stories] at hbefore
          exact storyOf_ne_nil_iff.mp hbefore
      | tells id p news calls_eq topic hnews about stories none =>
          refine storyOf_ne_nil_iff.mp ?_
          show Db.storyOf (call.request.serve D w call.latencyMs).1.db s.id ≠ []
          -- a story gets longer
          rw [stories]
          exact List.append_ne_nil_of_left_ne_nil hbefore _
      | deletes id deleted_eq stored gone silent =>
          have hdb := db_of_deletes call.latencyMs deleted_eq
          refine ⟨s, ?_, rfl⟩
          show s ∈ (call.request.serve D w call.latencyMs).1.db.voiceSessions
          rw [hdb]
          refine Table.mem_erase.mpr ⟨hs, fun hid => hkept ?_⟩
          show deletedSession D w.db call.request = some s.id
          rw [deleted_eq, hid]

/-- A session is opened under a new key. -/
theorem openedRow_new {db : Db} {caller : Caller} {bookingId : Option Uuid}
    {fresh : SessionFresh} {s : VoiceSession} (h : s ∈ openedRow db caller bookingId fresh) :
    ∀ x ∈ db.voiceSessions, x.id ≠ s.id := by
  obtain ⟨found, hfound, rfl⟩ := Option.map_eq_some_iff.mp h
  unfold openedSession at hfound
  cases huser : requireUser db caller with
  | error answer =>
      rw [huser] at hfound
      exact absurd hfound (by simp)
  | ok user =>
      rw [huser] at hfound
      simp only at hfound
      -- 400 for the booking, or an INSERT that is accepted or refused
      split at hfound
      · exact absurd hfound (by simp)
      · split at hfound
        next hinserts =>
          obtain ⟨db', hins⟩ := Option.isSome_iff_exists.mp hinserts
          rw [← Option.some.inj hfound]
          exact (Db.insertSession_eq_some hins).2.1
        · exact absurd hfound (by simp)

/-- **One step**: a session that is not deleted ages. -/
theorem ages_step (D : Deployment) (w : World) (i : ServiceStep py) {s : VoiceSession}
    (hs : s ∈ w.db.voiceSessions) (hkept : i.deletes D w ≠ some s.id) :
    ∃ s' ∈ (serviceStep D w i).db.voiceSessions, s.Ages s' := by
  obtain ⟨s', hs', hid⟩ := sessionsStay_step D w i s hs hkept
  obtain ⟨r, hr, hages⟩ := sessionsAge_step D w i s' hs'
  have hsame : r.id = s.id := hages.id.symm.trans hid
  refine ⟨s', hs', ?_⟩
  rcases hr with hr | hopens
  · rw [← Table.eq_of_key_eq hr hs hsame]
    exact hages
  · -- an opened session is not `s`, whose key was taken
    obtain ⟨caller, bookingId, fresh, hrow, _⟩ := openedRow_of_step (Option.mem_def.mp hopens)
    exact absurd hsame.symm (openedRow_new hrow s hs)

/-! ## §3. A day grows. -/

section
variable (dateTrunc : Instant → Instant)

/-- The step deletes no session of the day. -/
def ServiceStep.KeepsDay (day : Instant) (D : Deployment) (w : World) (i : ServiceStep py) :
    Prop :=
  ∀ s ∈ sessionsOn dateTrunc w.db day, i.deletes D w ≠ some s.id

/-- The row of the same day, with no number less but the average. -/
structure DailyStats.NoLess (a b : DailyStats) : Prop where
  day : b.day = a.day
  totalSessions : a.totalSessions ≤ b.totalSessions
  completed : a.completed ≤ b.completed
  failed : a.failed ≤ b.failed
  totalTokens : a.totalTokens ≤ b.totalTokens
  totalTtsChars : a.totalTtsChars ≤ b.totalTtsChars

variable {dateTrunc} {day : Instant}

/-- A total of what never gets less. -/
theorem sum_le_of_ages {xs ys : List VoiceSession} {amount : VoiceSession → Nat}
    (hamount : ∀ x y : VoiceSession, x.Ages y → amount x ≤ amount y)
    (hxs : (xs.map (·.id)).Nodup) (h : ∀ x ∈ xs, ∃ y ∈ ys, x.Ages y) :
    (xs.map amount).sum ≤ (ys.map amount).sum := by
  apply sum_le_of_matched hxs
  intro x hx
  obtain ⟨y, hy, hages⟩ := h x hx
  exact ⟨y, hy, hages.id, hamount x y hages⟩

theorem ended_le_of_ages {xs ys : List VoiceSession} {status : SessionStatus}
    (hstatus : status ≠ .active) (hxs : (xs.map (·.id)).Nodup)
    (h : ∀ x ∈ xs, ∃ y ∈ ys, x.Ages y) :
    (xs.filter fun s => s.status = status).length
      ≤ (ys.filter fun s => s.status = status).length := by
  rw [length_filter_eq_sum, length_filter_eq_sum]
  refine sum_le_of_ages (fun x y hages => ?_) hxs h
  by_cases hx : x.status = status
  · -- it has ended, and ended sessions do not change
    have hended : x.status ≠ .active := by
      rw [hx]
      exact hstatus
    have hy : y.status = status := (hages.status_of_ended hended).trans hx
    simp [hx, hy]
  · simp [hx]

theorem noLess_select {xs ys : List VoiceSession} (hxs : (xs.map (·.id)).Nodup)
    (h : ∀ x ∈ xs, ∃ y ∈ ys, x.Ages y) :
    (DailyStats.select day xs).NoLess (DailyStats.select day ys) where
  day := rfl
  totalSessions := by
    have hones : ∀ rs : List VoiceSession, (rs.map fun _ => 1).sum = rs.length := by
      intro rs
      simp
    show xs.length ≤ ys.length
    rw [← hones xs, ← hones ys]
    exact sum_le_of_ages (fun _ _ _ => Nat.le_refl 1) hxs h
  completed := ended_le_of_ages (by decide) hxs h
  failed := ended_le_of_ages (by decide) hxs h
  totalTokens := sum_le_of_ages (fun _ _ hages => hages.tokensUsed) hxs h
  totalTtsChars := sum_le_of_ages (fun _ _ hages => hages.ttsCharacters) hxs h

/-- **One step**: the sessions of a day stay on it. -/
theorem sessionsOn_step {D : Deployment} {w : World} {i : ServiceStep py}
    (hkept : i.KeepsDay dateTrunc day D w) {s : VoiceSession}
    (hs : s ∈ sessionsOn dateTrunc w.db day) :
    ∃ s' ∈ sessionsOn dateTrunc (serviceStep D w i).db day, s.Ages s' := by
  obtain ⟨hmem, hday⟩ := (mem_sessionsOn dateTrunc).mp hs
  obtain ⟨s', hs', hages⟩ := ages_step D w i hmem (hkept s hs)
  refine ⟨s', (mem_sessionsOn dateTrunc).mpr ⟨hs', ?_⟩, hages⟩
  rw [hages.startedAt]
  exact hday

theorem sessionsOn_run {D : Deployment} {w : World} {is : List (ServiceStep py)}
    (hkept : AllSteps (serviceStep D) (fun w' i => i.KeepsDay dateTrunc day D w') w is)
    {s : VoiceSession} (hs : s ∈ sessionsOn dateTrunc w.db day) :
    ∃ s' ∈ sessionsOn dateTrunc (run (serviceStep D) w is).db day, s.Ages s' := by
  induction is generalizing w s with
  | nil => exact ⟨s, hs, .refl s⟩
  | cons i is ih =>
      obtain ⟨hfirst, hlater⟩ := hkept
      obtain ⟨s₁, hs₁, hages₁⟩ := sessionsOn_step hfirst hs
      obtain ⟨s', hs', hages'⟩ := ih hlater hs₁
      exact ⟨s', hs', hages₁.trans hages'⟩

end

/-- **A day only grows.**  As long as none of its sessions is deleted, the row of a day stays in the
view, and no count and no sum of it gets smaller, whatever is requested and cleaned up. -/
theorem daily_stats_grow (dateTrunc : Instant → Instant) (day : Instant) (D : Deployment)
    (w : World) (is : List (ServiceStep py))
    (hkept : AllSteps (serviceStep D) (fun w' i => i.KeepsDay dateTrunc day D w') w is) :
    ∀ row ∈ (voiceSessionStatsDaily dateTrunc w.db).find? day,
      ∃ row' ∈ (voiceSessionStatsDaily dateTrunc (run (serviceStep D) w is).db).find? day,
        row.NoLess row' := by
  intro row hrow
  rw [find?_voiceSessionStatsDaily] at hrow ⊢
  split at hrow
  · exact absurd hrow (by simp)
  next hsome =>
    obtain ⟨s, hs⟩ := List.exists_mem_of_ne_nil _ hsome
    obtain ⟨s', hs', _⟩ := sessionsOn_run hkept hs
    rw [if_neg (List.ne_nil_of_mem hs'), ← Option.some.inj hrow]
    refine ⟨_, rfl, ?_⟩
    apply noLess_select (nodup_sessionsOn dateTrunc w.db day)
    intro x hx
    exact sessionsOn_run hkept hx

/-- `date_trunc('day', …)` of a connection in UTC. -/
def dateTruncUtc (t : Instant) : Instant := t - t % (24 * 3600 * second)

theorem demo_day_grows :
    ∃ row ∈ (voiceSessionStatsDaily dateTruncUtc demoDesk.db).find? 0,
      ∃ row' ∈ (voiceSessionStatsDaily dateTruncUtc
          (run (serviceStep plainDeployment) demoDesk [laterSession]).db).find? 0,
        row.NoLess row' := by
  have hrow : (voiceSessionStatsDaily dateTruncUtc demoDesk.db).find? 0
      = some (.select 0 (sessionsOn dateTruncUtc demoDesk.db 0)) := by
    rw [find?_voiceSessionStatsDaily]
    exact if_neg (by decide +kernel)
  refine ⟨_, hrow, daily_stats_grow dateTruncUtc 0 plainDeployment demoDesk [laterSession] ?_ _
    hrow⟩
  -- opening a session deletes none
  exact ⟨fun s _ h => Option.some_ne_none s.id h.symm, trivial⟩

/-! ## §4. A day that is over. -/

section
variable {dateTrunc : Instant → Instant} {day : Instant} {D : Deployment} {w : World}
  {i : ServiceStep py}

/-- No session of the day is ACTIVE. -/
def Db.DayEnded (dateTrunc : Instant → Instant) (day : Instant) (db : Db) : Prop :=
  ∀ s ∈ sessionsOn dateTrunc db day, s.status ≠ .active

/-- After the day no session gets on it. -/
theorem sessionsOn_back (hover : ∀ t ∈ i.clock, dateTrunc t ≠ day) {s' : VoiceSession}
    (hs' : s' ∈ sessionsOn dateTrunc (serviceStep D w i).db day) :
    ∃ s ∈ sessionsOn dateTrunc w.db day, s.Ages s' := by
  obtain ⟨hmem, hday⟩ := (mem_sessionsOn dateTrunc).mp hs'
  obtain ⟨s, hs, hages⟩ := sessionsAge_step D w i s' hmem
  rw [hages.startedAt] at hday
  -- what is opened now starts now
  rcases hs with hs | hopens
  · exact ⟨s, (mem_sessionsOn dateTrunc).mpr ⟨hs, hday⟩, hages⟩
  · obtain ⟨t, ht, hopened⟩ := opened_of_step (Option.mem_def.mp hopens)
    rw [hopened.startedAt] at hday
    exact absurd hday (hover t ht)

theorem dayEnded_step (hover : ∀ t ∈ i.clock, dateTrunc t ≠ day)
    (hended : w.db.DayEnded dateTrunc day) :
    (serviceStep D w i).db.DayEnded dateTrunc day := by
  intro s' hs'
  obtain ⟨s, hs, hages⟩ := sessionsOn_back hover hs'
  rw [hages.status_of_ended (hended s hs)]
  exact hended s hs

/-- Two hours after the last start of the day, the clean-up ends what is left of it. -/
theorem dayEnded_cleanup {db : Db} {cleaned : Instant}
    (hold : ∀ s ∈ sessionsOn dateTrunc db day, s.startedAt < cleaned - 2 * 3600 * second) :
    (cleanupExpiredSessions db cleaned).DayEnded dateTrunc day := by
  intro s' hs' hactive
  obtain ⟨hmem, hday⟩ := (mem_sessionsOn dateTrunc).mp hs'
  obtain ⟨s, hs | hnone, hages⟩ := sessionsAge_cleanup db cleaned s' hmem
  -- what the clean-up leaves ACTIVE has started within two hours
  · have hyoung := young_after_cleanup db cleaned hmem hactive
    rw [hages.startedAt] at hday hyoung
    exact absurd (hold s ((mem_sessionsOn dateTrunc).mpr ⟨hs, hday⟩)) (not_lt.mpr hyoung)
  · exact absurd hnone (by simp)

/-- Without a deletion the group of the day stays the same up to order. -/
theorem select_step_of_keepsDay (hover : ∀ t ∈ i.clock, dateTrunc t ≠ day)
    (hended : w.db.DayEnded dateTrunc day) (hkept : i.KeepsDay dateTrunc day D w) :
    ((sessionsOn dateTrunc (serviceStep D w i).db day).map (·.columns)).Perm
      ((sessionsOn dateTrunc w.db day).map (·.columns)) := by
  apply map_perm_of_matched (nodup_sessionsOn dateTrunc _ day) (nodup_sessionsOn dateTrunc _ day)
  · intro x y heq
    exact (congrArg VoiceSession.id heq :)
  · intro s' hs'
    obtain ⟨s, hs, hages⟩ := sessionsOn_back hover hs'
    exact ⟨s, hs, (hages.ended (hended s hs)).symm⟩
  · intro s hs
    obtain ⟨s', hs', hages⟩ := sessionsOn_step hkept hs
    exact ⟨s', hs', hages.ended (hended s hs)⟩

/-- A deletion takes one session from the day. -/
theorem length_of_deleted {s : VoiceSession} (hs : s ∈ sessionsOn dateTrunc w.db day)
    (hdeletes : i.deletes D w = some s.id) :
    (sessionsOn dateTrunc (serviceStep D w i).db day).length + 1
      = (sessionsOn dateTrunc w.db day).length := by
  obtain ⟨hmem, hday⟩ := (mem_sessionsOn dateTrunc).mp hs
  cases i with
  | cleanup now => exact absurd hdeletes (by simp [ServiceStep.deletes])
  | request call =>
      have hdb := db_of_deletes call.latencyMs hdeletes
      have hrows : (serviceStep D w (.request call)).db.voiceSessions
          = w.db.voiceSessions.erase s.id := congrArg Db.voiceSessions hdb
      have hcount := Table.count_erase
        (p := fun s : VoiceSession => dateTrunc s.startedAt = day) (Table.find?_of_mem hmem)
      rw [if_pos (decide_eq_true hday), ← hrows] at hcount
      unfold sessionsOn group
      rw [← List.countP_eq_length_filter, ← List.countP_eq_length_filter]
      exact hcount

/-- **One step**: the row of the day changes exactly with a deletion. -/
theorem stats_step_iff (hover : ∀ t ∈ i.clock, dateTrunc t ≠ day)
    (hended : w.db.DayEnded dateTrunc day) :
    (voiceSessionStatsDaily dateTrunc (serviceStep D w i).db).find? day
        = (voiceSessionStatsDaily dateTrunc w.db).find? day
      ↔ i.KeepsDay dateTrunc day D w := by
  rw [find?_voiceSessionStatsDaily, find?_voiceSessionStatsDaily]
  constructor
  · intro hsame s hs hdeletes
    -- one session less, and so another row or none
    have hless := length_of_deleted hs hdeletes
    rw [if_neg (List.ne_nil_of_mem hs)] at hsame
    split at hsame
    · -- the row is gone
      exact absurd hsame (by simp)
    · have hlengths : (sessionsOn dateTrunc (serviceStep D w i).db day).length
          = (sessionsOn dateTrunc w.db day).length :=
        congrArg DailyStats.totalSessions (Option.some.inj hsame)
      omega
  · intro hkept
    have hperm := select_step_of_keepsDay hover hended hkept
    have hnil : sessionsOn dateTrunc (serviceStep D w i).db day = []
        ↔ sessionsOn dateTrunc w.db day = [] := by
      have hlength := hperm.length_eq
      rw [List.length_map, List.length_map] at hlength
      rw [← List.length_eq_zero_iff, hlength, List.length_eq_zero_iff]
    simp only [hnil, select_of_perm day hperm]

end

/-- **The statistics of a day are final** once it is over and its sessions have ended: in every run
of the API at later times its row stays as it is, exactly as long as nobody deletes a session of
that day. -/
theorem daily_stats_final_iff (dateTrunc : Instant → Instant) (day : Instant) (D : Deployment)
    (w : World) (hended : w.db.DayEnded dateTrunc day) (is : List (ServiceStep py))
    (hover : ∀ i ∈ is, ∀ t ∈ i.clock, dateTrunc t ≠ day) :
    AllStates (serviceStep D) (fun w' => (voiceSessionStatsDaily dateTrunc w'.db).find? day
        = (voiceSessionStatsDaily dateTrunc w.db).find? day) w is
      ↔ AllSteps (serviceStep D) (fun w' i => i.KeepsDay dateTrunc day D w') w is := by
  apply allStates_iff_allSteps_of_inputs (K := fun w' => w'.db.DayEnded dateTrunc day)
    (I := fun i => ∀ t ∈ i.clock, dateTrunc t ≠ day)
  -- ended sessions stay ended
  · intro w' i hi hended'
    exact dayEnded_step hi hended'
  · intro w' i hi hended' hsame
    rw [← hsame]
    exact stats_step_iff hi hended'
  · exact hended
  · rfl
  · exact hover

/-- Two days later the clean-up has ended the session of the demo guest. -/
def demoTwoDaysLater : World :=
  { demoDesk with db := cleanupExpiredSessions demoDesk.db (2 * 24 * 3600 * second) }

/-- The demo guest opens another session a day after that. -/
def muchLaterSession : ServiceStep plainPython :=
  .request ⟨.write (.bearer 1) [] (.voice (.create (.data none)
    { demoSessionFresh 6 with now := 3 * 24 * 3600 * second })), []⟩

theorem demo_day_is_final :
    AllStates (serviceStep plainDeployment)
      (fun w => (voiceSessionStatsDaily dateTruncUtc w.db).find? 0
        = (voiceSessionStatsDaily dateTruncUtc demoTwoDaysLater.db).find? 0) demoTwoDaysLater
      [muchLaterSession] := by
  have hended : demoTwoDaysLater.db.DayEnded dateTruncUtc 0 := dayEnded_cleanup (by decide +kernel)
  refine (daily_stats_final_iff dateTruncUtc 0 plainDeployment demoTwoDaysLater hended _ ?_).mpr ?_
  · intro i hi t ht
    rw [List.mem_singleton.mp hi] at ht
    rw [← Option.some.inj ht]
    decide
  · exact ⟨fun s _ h => Option.some_ne_none s.id h.symm, trivial⟩

end HotelAgent

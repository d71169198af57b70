/-
  HotelAgent.Lib.Regex — searching and substituting with a regular expression.

  The engine tries the ways a pattern can match at a position in order and takes
  the first; a lazy repetition tries the shorter text first.  `attempts` lists
  them in that order.  `search` moves the position through the text, and `sub`
  goes on behind each match.

  For `a.*?b`, with or without a group for what stands between the words:
    * `search_delimited` — the match starts at the first `a` and ends with the
      first `b` behind it; where this `a` has no `b` behind it, no later one has.
    * `sub_eq` — the substitution replaces the first match and goes on behind it,
      until there is none.
-/
import HotelAgent.Lib.Occurrences

namespace HotelAgent.Lib

/-! ## §1. Patterns. -/

/-- Literal text, `.*?` with DOTALL, a group, and one pattern after the other. -/
inductive Regex (α : Type*) where
  | lit (w : List α)
  | lazyAny
  | group (r : Regex α)
  | seq (r s : Regex α)

/-- A match: what is matched, the groups in it, and the text behind it. -/
structure Match (α : Type*) where
  text : List α
  groups : List (List α)
  rest : List α

/-- What is matched by one pattern and then by another. -/
def Match.before {α : Type*} (m m' : Match α) : Match α where
  text := m.text ++ m'.text
  groups := m.groups ++ m'.groups
  rest := m'.rest

/-- The ways to cut a text in two, the shortest beginning first. -/
def cuts {α : Type*} : List α → List (List α × List α)
  | [] => [([], [])]
  | c :: t => ([], c :: t) :: (cuts t).map fun p => (c :: p.1, p.2)

namespace Regex

variable {α : Type*} [DecidableEq α]

/-- The matches at the beginning of a text, in the order in which they are tried. -/
def attempts : Regex α → List α → List (Match α)
  | .lit w, t => if w.isPrefixOf t then [⟨w, [], t.drop w.length⟩] else []
  | .lazyAny, t => (cuts t).map fun p => ⟨p.1, [], p.2⟩
  | .group r, t => (r.attempts t).map fun m => { m with groups := m.text :: m.groups }
  | .seq r s, t => (r.attempts t).flatMap fun m => (s.attempts m.rest).map m.before

/-- `re.match`. -/
def matchAt (r : Regex α) (t : List α) : Option (Match α) := (r.attempts t).head?

/-- `re.search`: the text before the match, and the match. -/
def search (r : Regex α) : List α → Option (List α × Match α)
  | [] => (r.matchAt []).map fun m => ([], m)
  | c :: t =>
    match r.matchAt (c :: t) with
    | some m => some ([], m)
    | none => (r.search t).map fun p => (c :: p.1, p.2)

/-- `re.sub(r, repl, t)` in at most `n` rounds, for a pattern that does not match nothing. -/
def subUpTo (r : Regex α) (repl : List α) : Nat → List α → List α
  | 0, t => t
  | n + 1, t =>
    match r.search t with
    | none => t
    | some (front, m) => front ++ repl ++ r.subUpTo repl n m.rest

/-- `re.sub(r, repl, t)`: every match takes up a character. -/
def sub (r : Regex α) (repl t : List α) : List α := r.subUpTo repl t.length t

/-- One pattern after the other: the second decides which match of the first is taken. -/
theorem matchAt_seq (r s : Regex α) (t : List α) :
    (seq r s).matchAt t
      = (r.attempts t).findSome? fun m => (s.matchAt m.rest).map m.before := by
  unfold matchAt
  rw [attempts, List.head?_flatMap]
  congr 1
  funext m
  rw [List.head?_map]

/-- What is matched and what is behind it make up the text. -/
theorem text_append_rest {r : Regex α} {t : List α} {m : Match α} (h : m ∈ r.attempts t) :
    m.text ++ m.rest = t := by
  induction r generalizing t m with
  | lit w =>
      rw [attempts] at h
      split at h
      next hw =>
        obtain ⟨rest, rfl⟩ := List.isPrefixOf_iff_prefix.mp hw
        rw [List.mem_singleton.mp h, List.drop_left]
      next => exact absurd h List.not_mem_nil
  | lazyAny =>
      rw [attempts] at h
      obtain ⟨p, hp, rfl⟩ := List.mem_map.mp h
      show p.1 ++ p.2 = t
      clear h
      -- a cut loses nothing of the text
      induction t generalizing p with
      | nil => rw [List.mem_singleton.mp hp, List.append_nil]
      | cons c t ih =>
          rcases List.mem_cons.mp hp with rfl | hp
          · exact List.nil_append (c :: t)
          · obtain ⟨q, hq, rfl⟩ := List.mem_map.mp hp
            rw [List.cons_append, ih q hq]
  | group r ih =>
      rw [attempts] at h
      obtain ⟨m', hm, rfl⟩ := List.mem_map.mp h
      show m'.text ++ m'.rest = t
      exact ih hm
  | seq r s ihr ihs =>
      rw [attempts] at h
      obtain ⟨m₁, h₁, h⟩ := List.mem_flatMap.mp h
      obtain ⟨m₂, h₂, rfl⟩ := List.mem_map.mp h
      show m₁.text ++ m₂.text ++ m₂.rest = t
      rw [List.append_assoc, ihs h₂, ihr h₁]

/-- The text before a match, the match, and the text behind it make up the text. -/
theorem append_of_search {r : Regex α} {t front : List α} {m : Match α}
    (h : r.search t = some (front, m)) : front ++ m.text ++ m.rest = t := by
  induction t generalizing front m with
  | nil =>
      obtain ⟨m', hm, heq⟩ := Option.map_eq_some_iff.mp h
      injection heq with hfront heq
      rw [← hfront, ← heq, List.nil_append]
      exact text_append_rest (List.mem_of_head? hm)
  | cons c t ih =>
      rw [search] at h
      split at h
      next m' hm =>
        injection h with h
        injection h with hfront heq
        rw [← hfront, ← heq, List.nil_append]
        exact text_append_rest (List.mem_of_head? hm)
      next =>
        obtain ⟨⟨front', m'⟩, hsearch, heq⟩ := Option.map_eq_some_iff.mp h
        injection heq with hfront heq
        rw [← hfront, ← heq, ← ih hsearch]
        rfl

/-- Nothing is found where no position has a match. -/
theorem search_eq_none {r : Regex α} {t : List α} (h : ∀ u, u <:+ t → r.matchAt u = none) :
    r.search t = none := by
  induction t with
  | nil => rw [search, h [] (List.suffix_refl []), Option.map_none]
  | cons c t ih =>
      rw [search, h (c :: t) (List.suffix_refl _)]
      rw [ih fun u hu => h u (hu.trans (List.suffix_cons c t)), Option.map_none]

/-- Every match takes up a character. -/
def Consumes (r : Regex α) : Prop := ∀ t, ∀ m ∈ r.attempts t, m.text ≠ []

/-- What is found has matched somewhere. -/
theorem mem_attempts_of_search {r : Regex α} {t front : List α} {m : Match α}
    (h : r.search t = some (front, m)) : ∃ u, m ∈ r.attempts u := by
  induction t generalizing front m with
  | nil =>
      obtain ⟨m', hm, heq⟩ := Option.map_eq_some_iff.mp h
      injection heq with _ heq
      exact ⟨[], heq ▸ List.mem_of_head? hm⟩
  | cons c t ih =>
      rw [search] at h
      split at h
      next m' hm =>
        injection h with h
        injection h with _ heq
        exact ⟨c :: t, heq ▸ List.mem_of_head? hm⟩
      next =>
        obtain ⟨⟨front', m'⟩, hsearch, heq⟩ := Option.map_eq_some_iff.mp h
        injection heq with _ heq
        exact heq ▸ ih hsearch

section
variable {r : Regex α} (hr : Consumes r)
include hr

/-- The text behind a match is shorter. -/
theorem length_rest_of_search {t front : List α} {m : Match α}
    (h : r.search t = some (front, m)) : m.rest.length < t.length := by
  obtain ⟨u, hu⟩ := mem_attempts_of_search h
  have hpos := List.length_pos_of_ne_nil (hr u m hu)
  rw [← append_of_search h, List.length_append, List.length_append]
  omega

/-- As many rounds as there are characters are enough. -/
theorem subUpTo_of_length_le (repl : List α) {n n' : Nat} {t : List α} (hn : t.length ≤ n)
    (hn' : t.length ≤ n') : r.subUpTo repl n t = r.subUpTo repl n' t := by
  induction n generalizing n' t with
  | zero =>
      cases n' with
      | zero => rfl
      | succ n' =>
          rw [subUpTo, subUpTo]
          split
          · rfl
          next front m hsearch =>
            have hlt := length_rest_of_search hr hsearch
            omega
  | succ n ih =>
      rw [subUpTo]
      cases hsearch : r.search t with
      | none =>
          cases n' with
          | zero => rfl
          | succ n' =>
              rw [subUpTo]
              simp only [hsearch]
      | some p =>
          -- the text behind the match is shorter, so a round less is enough for it
          have hlt := length_rest_of_search (m := p.2) hr hsearch
          cases n' with
          | zero => omega
          | succ n' =>
              rw [subUpTo]
              simp only [hsearch]
              have hrest : r.subUpTo repl n p.2.rest = r.subUpTo repl n' p.2.rest :=
                ih (by omega) (by omega)
              rw [hrest]

/-- **The substitution** replaces the first match and goes on behind it. -/
theorem sub_eq (repl t : List α) :
    r.sub repl t
      = match r.search t with
        | none => t
        | some (front, m) => front ++ repl ++ r.sub repl m.rest := by
  have hmore := subUpTo_of_length_le hr repl (Nat.le_refl t.length) (Nat.le_succ t.length)
  rw [sub, hmore, subUpTo]
  split
  · rfl
  next front m hsearch =>
    have hlt := length_rest_of_search hr hsearch
    rw [sub, subUpTo_of_length_le hr repl (Nat.le_of_lt hlt) (Nat.le_refl m.rest.length)]

end

/-! ## §2. What stands between two words. -/

/-- `.*?`, in a group or not. -/
def filler (grouped : Bool) : Regex α := if grouped then .group .lazyAny else .lazyAny

/-- `a.*?b`, or `a(.*?)b`. -/
def delimited (grouped : Bool) (a b : List α) : Regex α :=
  .seq (.lit a) (.seq (filler grouped) (.lit b))

/-- The match of `a.*?b` that has `inside` between the words. -/
def delimitedMatch (grouped : Bool) (a b inside after : List α) : Match α where
  text := a ++ (inside ++ b)
  groups := if grouped then [inside] else []
  rest := after

theorem matchAt_lit (w t : List α) :
    (lit w).matchAt t = if w.isPrefixOf t then some ⟨w, [], t.drop w.length⟩ else none := by
  unfold matchAt
  rw [attempts]
  split
  · rfl
  · rfl

theorem attempts_filler (grouped : Bool) (t : List α) :
    (filler grouped).attempts t
      = (cuts t).map fun p => ⟨p.1, if grouped then [p.1] else [], p.2⟩ := by
  cases grouped with
  | false => rfl
  | true =>
      show ((cuts t).map _).map _ = _
      rw [List.map_map]
      rfl

end Regex

/-- **The first cut behind which `b` begins** is where `b` first occurs. -/
theorem findSome?_cuts (b t : Text) :
    ((cuts t).findSome? fun p =>
        if b.isPrefixOf p.2 then some (p.1, p.2.drop b.length) else none)
      = splitOnce b t := by
  induction t with
  | nil =>
      rw [cuts, splitOnce]
      cases b with
      | nil => rfl
      | cons c b => rfl
  | cons c t ih =>
      rw [cuts, splitOnce, List.findSome?_cons]
      -- the empty beginning is tried before any that takes `c`
      by_cases hb : b.isPrefixOf (c :: t) = true
      · rw [if_pos hb, if_pos hb]
      · rw [if_neg hb, if_neg hb, ← ih, List.findSome?_map, List.map_findSome?]
        simp only
        congr 1
        funext p
        simp only [Function.comp_apply]
        split
        · rfl
        · rfl

namespace Regex

/-- Up to the first `b`. -/
theorem matchAt_filler (grouped : Bool) (b t : Text) :
    (seq (filler grouped) (lit b)).matchAt t
      = (splitOnce b t).map fun p => ⟨p.1 ++ b, if grouped then [p.1] else [], p.2⟩ := by
  rw [matchAt_seq, attempts_filler, List.findSome?_map, ← findSome?_cuts, List.map_findSome?]
  congr 1
  funext p
  simp only [Function.comp_apply, matchAt_lit]
  by_cases hp : b.isPrefixOf p.2 = true
  · rw [if_pos hp, if_pos hp, Option.map_some, Option.map_some, Match.before, List.append_nil]
  · rw [if_neg hp, if_neg hp]
    rfl

/-- **At a position**: the text begins with `a`, and the match ends with the first `b` behind. -/
theorem matchAt_delimited (grouped : Bool) (a b t : Text) :
    (delimited grouped a b).matchAt t
      = if a.isPrefixOf t then
          (splitOnce b (t.drop a.length)).map fun p => delimitedMatch grouped a b p.1 p.2
        else none := by
  unfold delimited
  rw [matchAt_seq, attempts]
  split
  next ha =>
    rw [List.findSome?_singleton, matchAt_filler, Option.map_map]
    congr 1
  next ha => rfl

/-- The words are not empty, so neither is the match. -/
theorem consumes_delimited (grouped : Bool) {a : Text} (ha : a ≠ []) (b : Text) :
    Consumes (delimited grouped a b) := by
  intro t m hm hnil
  unfold delimited at hm
  rw [attempts, attempts] at hm
  split at hm
  · obtain ⟨m₁, h₁, hm⟩ := List.mem_flatMap.mp hm
    obtain ⟨m₂, _, rfl⟩ := List.mem_map.mp hm
    rw [List.mem_singleton.mp h₁] at hnil
    exact ha (List.append_eq_nil_iff.mp hnil).1
  · exact absurd hm List.not_mem_nil

section
variable {a b : Text} (ha : a ≠ []) (hb : b ≠ [])
include ha hb

/-- **The search**: the first `a`, and the first `b` behind it. -/
theorem search_delimited (grouped : Bool) (t : Text) :
    (delimited grouped a b).search t
      = match splitOnce a t with
        | none => none
        | some (front, rest) =>
          (splitOnce b rest).map fun p => (front, delimitedMatch grouped a b p.1 p.2) := by
  induction t with
  | nil =>
      rw [search, matchAt_delimited, splitOnce, if_neg ha]
      rw [if_neg fun h => ha (List.prefix_nil.mp (List.isPrefixOf_iff_prefix.mp h))]
      rfl
  | cons c t ih =>
      rw [search, matchAt_delimited, splitOnce]
      by_cases hstart : a.isPrefixOf (c :: t) = true
      · rw [if_pos hstart, if_pos hstart]
        simp only
        cases hsplit : splitOnce b ((c :: t).drop a.length) with
        | some p => rfl
        | none =>
            -- this `a` has no `b` behind it, so a later one has none either
            have hnot := (splitOnce_eq_none_iff hb).mp hsplit
            have hlater : (delimited grouped a b).search t = none := by
              refine search_eq_none fun u hu => ?_
              rw [matchAt_delimited]
              split
              · have hdrop : u.drop a.length <:+ (c :: t).drop a.length := by
                  obtain ⟨front, hfront⟩ := hu.trans (List.suffix_cons c t)
                  rw [← hfront, List.drop_append]
                  exact List.suffix_append_of_suffix (List.drop_suffix_drop_left u (by omega))
                rw [(splitOnce_eq_none_iff hb).mpr fun h => hnot (h.trans hdrop.isInfix)]
                rfl
              · rfl
            simp only [Option.map_none, hlater]
      · rw [if_neg hstart, if_neg hstart]
        simp only
        rw [ih]
        cases splitOnce a t with
        | none => rfl
        | some p =>
            simp only [Option.map_some, Option.map_map]
            rfl

end

end Regex

end HotelAgent.Lib

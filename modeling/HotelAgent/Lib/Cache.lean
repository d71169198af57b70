/-
  HotelAgent.Lib.Cache — a cache whose entries disappear at a set time.

  An entry is a value and the instant it expires at; from that instant on it
  is as if it were not there.  `set` replaces an entry, `incr` changes the value
  of one and keeps its expiry.  Nothing else removes an entry.
-/
import Mathlib.Logic.Function.Basic
import Mathlib.Data.Option.Basic
import Mathlib.Order.Lattice
import Mathlib.Tactic.Common

namespace HotelAgent.Lib

/-- A stored value and the instant it disappears at. -/
structure Entry (V T : Type*) where
  value : V
  expiry : T
  deriving DecidableEq

/-- What is stored under each key, expired entries included. -/
def Cache (K V T : Type*) := K → Option (Entry V T)

namespace Cache

variable {K V T : Type*}

def empty : Cache K V T := fun _ => none

/-! ## §1. Writing. -/

section
variable [DecidableEq K]

/-- `cache.set(key, value, timeout)`; `expiry` is the timeout counted from now. -/
def set (cache : Cache K V T) (key : K) (value : V) (expiry : T) : Cache K V T :=
  Function.update cache key (some ⟨value, expiry⟩)

@[simp] theorem set_self (cache : Cache K V T) (key : K) (value : V) (expiry : T) :
    cache.set key value expiry key = some ⟨value, expiry⟩ :=
  Function.update_self ..

theorem set_of_ne (cache : Cache K V T) {key key' : K} (h : key' ≠ key) (value : V) (expiry : T) :
    cache.set key value expiry key' = cache key' :=
  Function.update_of_ne h ..

end

/-! ## §2. Reading. -/

variable [LinearOrder T]

/-- The entry of a key, unless it has expired. -/
def live (cache : Cache K V T) (now : T) (key : K) : Option (Entry V T) :=
  (cache key).filter fun e => now < e.expiry

/-- `cache.get(key)`. -/
def get (cache : Cache K V T) (now : T) (key : K) : Option V := (cache.live now key).map (·.value)

theorem live_eq_some_iff {cache : Cache K V T} {now : T} {key : K} {e : Entry V T} :
    cache.live now key = some e ↔ cache key = some e ∧ now < e.expiry := by
  rw [live, Option.filter_eq_some_iff, decide_eq_true_eq]

theorem live_congr {cache cache' : Cache K V T} {key : K} (h : cache key = cache' key) (now : T) :
    cache.live now key = cache'.live now key := by
  rw [live, live, h]

theorem get_congr {cache cache' : Cache K V T} {key : K} (h : cache key = cache' key) (now : T) :
    cache.get now key = cache'.get now key := by
  rw [get, get, live_congr h]

variable [DecidableEq K]

/-- What was set is read until it expires. -/
theorem get_set_self (cache : Cache K V T) (key : K) (value : V) {now expiry : T}
    (h : now < expiry) : (cache.set key value expiry).get now key = some value := by
  rw [get, live, set_self, Option.filter_some, decide_eq_true h]
  rfl

theorem get_set_of_ne (cache : Cache K V T) {key key' : K} (h : key' ≠ key) (value : V)
    (now expiry : T) : (cache.set key value expiry).get now key' = cache.get now key' :=
  get_congr (cache.set_of_ne h value expiry) now

/-! ## §3. Counting. -/

variable [Add V] [One V]

/-- `cache.incr(key)`; `none` is the ValueError of a key that is not there. -/
def incr (cache : Cache K V T) (now : T) (key : K) : Option (Cache K V T) :=
  (cache.live now key).map fun e => cache.set key (e.value + 1) e.expiry

/-- `incr` raises exactly when nothing is read. -/
theorem incr_eq_none_iff {cache : Cache K V T} {now : T} {key : K} :
    cache.incr now key = none ↔ cache.get now key = none := by
  rw [incr, get, Option.map_eq_none_iff, Option.map_eq_none_iff]

/-- `incr` writes what `set` would with the expiry of the entry. -/
theorem incr_of_live {cache : Cache K V T} {now : T} {key : K} {e : Entry V T}
    (h : cache.live now key = some e) :
    cache.incr now key = some (cache.set key (e.value + 1) e.expiry) := by
  rw [incr, h, Option.map_some]

end Cache

end HotelAgent.Lib

import Colloquy.Value.Assoc

/-!
# Timed maps

Values stored under keys together with the time at which they were stored.  A value is fresh while its age
is below a given life.  A lookup drops the value that it finds too old, and a store drops all that are;
a value is never made any younger by being looked up.  Times are any numbers that can be subtracted and
compared.
-/

namespace Colloquy

/-- Values with the times at which they were stored. -/
abbrev TimedMap (T α : Type) := Assoc (α × T)

namespace TimedMap

variable {T α : Type} [Sub T] [LT T] [DecidableLT T] [LE T] [DecidableLE T]

/-- What a lookup finds. -/
inductive Found (α : Type) where
  | nothing
  | fresh (value : α)
  | stale

/-- Looks a key up at a time. -/
def find (life now : T) (key : String) (m : TimedMap T α) : Found α :=
  match Assoc.lookup key m with
  | none => .nothing
  | some (value, stored) => if now - stored < life then .fresh value else .stale

/-- The map after a lookup: without the value that was found too old. -/
def afterFind (life now : T) (key : String) (m : TimedMap T α) : TimedMap T α :=
  match find life now key m with
  | .stale => Assoc.erase key m
  | _ => m

/-- Drops all values that are too old. -/
def prune (life now : T) (m : TimedMap T α) : TimedMap T α :=
  m.filter fun (_, _, stored) => !decide (life ≤ now - stored)

/-- Stores a value at a time, after dropping all that are too old. -/
def store (life now : T) (key : String) (value : α) (m : TimedMap T α) : TimedMap T α :=
  Assoc.insert key (value, now) (prune life now m)

/-- Drops the value under a key. -/
def evict (key : String) (m : TimedMap T α) : TimedMap T α :=
  Assoc.erase key m

/-- Whether a value is stored under a key, fresh or not. -/
def holds (key : String) (m : TimedMap T α) : Bool :=
  (Assoc.lookup key m).isSome

end TimedMap

end Colloquy

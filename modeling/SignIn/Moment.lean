import SignIn.Text.Utf8

/-!
# Moments

A moment is read off two clocks. The wall clock tells the date and may be set, forwards or
backwards; the uptime only tells how long the service has been running. Both count milliseconds,
and may be read between two of them. Whatever is written into a cookie is dated by the wall clock,
in whole seconds; whatever is kept in memory is dated by the uptime.
-/

namespace SignIn

/-- A reading of both clocks. -/
structure Moment where
  /-- Milliseconds since the beginning of 1970. -/
  wall : Rat
  /-- Milliseconds since some moment that stays the same. -/
  uptime : Rat
  deriving DecidableEq, Repr

namespace Moment

/-- The second that the wall clock is in, since the beginning of 1970. -/
def wallSecond (t : Moment) : Int := (t.wall / 1000).floor

/-- The same in 64 bits, as it is written down; a second beyond those is taken for the last of
them. -/
def second (t : Moment) : Int64 := Int64.ofIntClamp t.wallSecond

/-- The moment at which the two clocks have moved on by the given amounts. -/
def advance (t : Moment) (wall uptime : Rat) : Moment := ⟨t.wall + wall, t.uptime + uptime⟩

/-- A second that has begun before 1970 is the one below. -/
example : (Moment.mk (-1) 0).second = -1 := by decide +kernel

end Moment

end SignIn

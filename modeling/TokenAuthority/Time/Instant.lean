/-!
# Instants

A point on the time line of UTC: whole seconds since the start of 1970 and nanoseconds after that
second. The seconds of the years -262143 to 262142 are representable, and arithmetic that leaves them
fails instead of wrapping. A leap second belongs to the second before it and has more than a billion
nanoseconds.
-/

namespace TokenAuthority
namespace Time

/-- A point in time. -/
structure Instant where
  seconds : Int
  nanoseconds : Nat := 0
deriving DecidableEq, Repr, Inhabited

namespace Instant

/-- The first representable second, the start of the year -262143. -/
def firstSecond : Int := -8334601228800

/-- The last representable second, the end of the year 262142. -/
def lastSecond : Int := 8210266876799

/-- A second that lies in a representable year. -/
def isRepresentable (seconds : Int) : Bool :=
  firstSecond ≤ seconds && seconds ≤ lastSecond

theorem isRepresentable_iff {seconds : Int} :
    isRepresentable seconds = true ↔ -8334601228800 ≤ seconds ∧ seconds ≤ 8210266876799 := by
  rw [isRepresentable, Bool.and_eq_true, decide_eq_true_eq, decide_eq_true_eq]
  rfl

/-- The instant at the start of a second, if it is representable. -/
def ofSeconds? (seconds : Int) : Option Instant :=
  if isRepresentable seconds then some { seconds } else none

/-- The instant without its fraction of a second. -/
def truncate (instant : Instant) : Instant :=
  { seconds := instant.seconds }

/-- Earlier or the same. -/
def le (earlier later : Instant) : Bool :=
  earlier.seconds < later.seconds ||
    (earlier.seconds == later.seconds && earlier.nanoseconds ≤ later.nanoseconds)

/-- The longest duration, in whole seconds, that can be added to an instant: its milliseconds are a
signed number of 64 bits. -/
def longestDuration : Nat := 9223372036854775807 / 1000

/-- The instant that many seconds later, if the duration and the result are representable. -/
def addSeconds? (instant : Instant) (duration : Nat) : Option Instant :=
  if duration ≤ longestDuration then
    if isRepresentable (instant.seconds + duration) then
      some { instant with seconds := instant.seconds + duration }
    else none
  else none

end Instant
end Time
end TokenAuthority

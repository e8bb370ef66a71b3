/-!
# Clocks

What a run needs of time: the date, and a way to measure how long something takes.

Main definition: `Clock`.
-/

namespace HttpConformance

/-- The two clocks of a run: microseconds from the beginning of 1970, and milliseconds from some
moment that stays the same during the run. -/
structure Clock (m : Type → Type) where
  date : m Int
  milliseconds : m Nat

end HttpConformance

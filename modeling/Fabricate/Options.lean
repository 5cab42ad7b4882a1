import Fabricate.Calendar.Date

/-!
# Options

The limits and defaults under which templates are filled and checked.
-/

namespace Fabricate

/-- Limits and defaults. -/
structure Options where
  /-- The locale of a request that names none. -/
  defaultLocale : String
  /-- The greatest number of documents in a batch. -/
  maxCount : Nat
  /-- The greatest number of elements of one array. -/
  maxArrayCount : Nat
  /-- The number of elements above which an array is warned about. -/
  arrayWarnThreshold : Nat
  /-- The number of workers that share a batch. -/
  concurrency : Nat
  /-- The number of names suggested for an unknown one. -/
  suggestionLimit : Nat
  /-- The day that relative dates count from; the current day when missing. -/
  referenceDate : Option Calendar.Date
  deriving DecidableEq

/-- The options where nothing else is said, for a machine that runs the given number of workers. -/
def Options.standard (workers : Nat) : Options where
  defaultLocale := "en_US"
  maxCount := 100
  maxArrayCount := 1000
  arrayWarnThreshold := 100
  concurrency := workers
  suggestionLimit := 3
  referenceDate := none

end Fabricate

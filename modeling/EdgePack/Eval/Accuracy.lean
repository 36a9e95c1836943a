import EdgePack.Float.Text

/-!
# Accuracy

A running count of samples: scored ones, of which some correct, and failed
ones. A failed sample counts towards the total but never as correct, so a batch
where half the samples fail cannot score above one half.
-/

namespace EdgePack

/-- The running counts. -/
structure AccuracyCounter where
  total : Nat := 0
  correct : Nat := 0
  failed : Nat := 0
  deriving Inhabited

/-- The counts and the share of correct samples. -/
structure AccuracyReport where
  total : Nat
  correct : Nat
  failed : Nat
  /-- `correct / total` in double precision, zero when there are no samples. -/
  accuracy : Float

namespace AccuracyCounter

/-- Counts a scored sample. -/
def record (c : AccuracyCounter) (ok : Bool) : AccuracyCounter :=
  { c with total := c.total + 1, correct := c.correct + (if ok then 1 else 0) }

/-- Counts a failed sample. -/
def recordFailure (c : AccuracyCounter) : AccuracyCounter :=
  { c with total := c.total + 1, failed := c.failed + 1 }

/-- The report of the counts so far. -/
def report (c : AccuracyCounter) : AccuracyReport :=
  { total := c.total, correct := c.correct, failed := c.failed
    accuracy := if c.total == 0 then 0 else Float.doubleOfNat c.correct / Float.doubleOfNat c.total }

end AccuracyCounter

namespace AccuracyReport

/-- The accuracy in percent. -/
def percent (r : AccuracyReport) : Float := r.accuracy * 100

/-- `Accuracy: c/t = p%`, with the failed count when there are failures. -/
def summary (r : AccuracyReport) : String :=
  s!"Accuracy: {r.correct}/{r.total} = {Float.fixedDouble 2 r.percent}%" ++
    (if r.failed > 0 then s!" ({r.failed} failed)" else "")

end AccuracyReport

end EdgePack

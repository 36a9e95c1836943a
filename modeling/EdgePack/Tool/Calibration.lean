import EdgePack.Tool.Error
import EdgePack.Host.Basic
import EdgePack.Float.Read
import EdgePack.Data.Bytes

/-!
# Calibration sets

Samples that the compiler uses to choose its quantisation: rows of features,
each column standardised by its own mean and population deviation. Means and
variances are summed and divided in double precision from the single-precision
values and then rounded to singles; each value is then shifted by its
column's mean and divided by its deviation in single precision, except in a
constant column (deviation zero), which is only centred.
-/

namespace EdgePack

/-- Standardised calibration samples, with the figures they were standardised by. -/
structure CalibrationSet where
  columns : List String
  samples : List (List Single)
  /-- The mean of each column of the raw data. -/
  means : List Float32
  /-- The population deviation of each column of the raw data. -/
  stds : List Float32
  deriving Inhabited

namespace CalibrationSet

/-- The sum of doubles in order, starting from a negative zero. -/
def sumDoubles (xs : List Float) : Float := xs.foldl (· + ·) (-0.0)

/-- The mean and the population deviation of a column, as singles. -/
def columnFigures (values : List Float32) : Float32 × Float32 :=
  let n := Float.doubleOfNat values.length
  let mean := sumDoubles (values.map Float32.toFloat) / n
  let var := sumDoubles (values.map fun v => (v.toFloat - mean) * (v.toFloat - mean)) / n
  (mean.toFloat32, var.sqrt.toFloat32)

/-- A value standardised by a column's mean and deviation. -/
def standardise (v mean std : Float32) : Float32 :=
  let c := v - mean
  if std != 0 then c / std else c

/-- Standardises rows of raw features; every row must have a value per column. -/
def ofRows (columns : List String) (rows : List (List Float32)) : Except ToolError CalibrationSet := do
  if rows.isEmpty then throw (.calibration "no samples")
  let width := columns.length
  match (rows.zipIdx.find? fun (r, _) => r.length ≠ width) with
  | some (r, i) => throw (.calibration s!"row {i + 1} has {r.length} values, expected {width}")
  | none => pure ()
  let figures := (List.range width).map fun c => columnFigures (rows.map fun r => r.getD c 0)
  let means := figures.map Prod.fst
  let stds := figures.map Prod.snd
  let samples := rows.map fun r =>
    (r.zip (means.zip stds)).map fun (v, m, s) => Single.ofFloat32 (standardise v m s)
  pure ⟨columns, samples, means, stds⟩

/-- The warnings about constant columns, in column order. -/
def warnings (s : CalibrationSet) : List String :=
  (s.columns.zip s.stds).filterMap fun (name, sd) =>
    if sd == 0 then some s!"calibration column '{name}' is constant; centring only" else none

/-- The number of samples. -/
def len (s : CalibrationSet) : Nat := s.samples.length

/-- The number of features of a sample. -/
def numFeatures (s : CalibrationSet) : Nat := s.columns.length

end CalibrationSet

/-- Standardises rows, warning on the host's log about constant columns. -/
def CalibrationSet.ofRowsLogged (columns : List String) (rows : List (List Float32)) :
    HostM (Except ToolError CalibrationSet) := do
  match CalibrationSet.ofRows columns rows with
  | .ok s =>
    for w in s.warnings do Host.log .warn "toolchain::calibration" w
    pure (.ok s)
  | .error e => pure (.error e)

end EdgePack

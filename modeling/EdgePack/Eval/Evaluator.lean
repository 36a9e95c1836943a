import EdgePack.Eval.Interpret
import EdgePack.Eval.Label
import EdgePack.Eval.Accuracy
import EdgePack.Json.Writer

/-!
# Evaluating a directory of samples

The samples of a directory are its regular files with the extension `raw`
(exactly), in the order of their file names, the first `limit` of them. Each
sample is scored in turn: its label is read from its file name first, and only
a labelled sample is handed to the inference backend, whose output is then
interpreted. A sample that fails is recorded with its reason and the batch goes
on; the report counts correct, wrong and failed samples.
-/

namespace EdgePack

/-- What became of one sample. -/
inductive Outcome where
  | scored (i : Interpretation)
  | failed (reason : String)

/-- One sample of an evaluation: its path, its label when it has one, its outcome. -/
structure SampleRecord where
  sample : Path
  expected : Option Nat
  outcome : Outcome

/-- The result of an evaluation. -/
structure EvaluationReport where
  accuracy : AccuracyReport
  samples : List SampleRecord

/-- An inference backend: the raw output of the model for a sample file. -/
abbrev Backend := Path → HostM (Except EvalError (List Float32))

/-- The samples of `dir`, ordered by file name, at most `limit` of them. -/
def listSamples (dir : Path) (limit : Option Nat) : HostM (Except EvalError (List Path)) := do
  match ← Host.listDir dir with
  | .error e => pure (.error (.io dir e))
  | .ok names =>
    let mut found : List Path := []
    for n in names do
      let p := dir / n
      if (← Host.isFile p) && p.extension? == some "raw" then found := found ++ [p]
    let sorted := found.mergeSort fun a b => a.fileName ≤ b.fileName
    pure (.ok (match limit with
      | some k => sorted.take k
      | none => sorted))

/-- Scores one sample: its label first, then the backend's output. -/
def scoreSample (backend : Backend) (sample : Path) : HostM (Except EvalError Interpretation) := do
  match parseLabel sample with
  | .error e => pure (.error e)
  | .ok expected =>
    match ← backend sample with
    | .error e => pure (.error e)
    | .ok raw => pure (interpret raw expected)

/-- Scores one sample of a batch: its record, with the outcome, is added to
    `records` and the outcome counted in `counter`; the sample is reported on the
    log. -/
def evaluateStep (backend : Backend) (sample : Path) (counter : AccuracyCounter)
    (records : List SampleRecord) : HostM (AccuracyCounter × List SampleRecord) := do
  let name := sample.text
  let expected := (parseLabel sample).toOption
  match ← scoreSample backend sample with
  | .ok i => do
    Host.log .info "inference_eval::evaluator" (s!"{name}: expected {expected.getD 0}, predicted {i.predicted} (" ++
      Float.fixedSingle 2 i.confidencePct ++ "%)" ++ (if i.correct then "" else " MISS"))
    Host.log .debug "inference_eval::evaluator" s!"{name} distribution:\n{i.distribution}"
    pure (counter.record i.correct, records ++ [⟨sample, expected, .scored i⟩])
  | .error e => do
    Host.log .warn "inference_eval::evaluator" s!"{name}: {e.message}"
    pure (counter.recordFailure, records ++ [⟨sample, expected, .failed e.message⟩])

/-- Scores samples in order, reporting each on the log, and the accuracy at the end. -/
def evaluateSamples (backend : Backend) (samples : List Path) : HostM EvaluationReport := do
  let mut counter : AccuracyCounter := {}
  let mut records : List SampleRecord := []
  for sample in samples do
    (counter, records) ← evaluateStep backend sample counter records
  let accuracy := counter.report
  Host.log .info "inference_eval::evaluator" accuracy.summary
  pure ⟨accuracy, records⟩

/-- Evaluates the first `limit` samples of `dir`. -/
def evaluateDir (backend : Backend) (dir : Path) (limit : Option Nat) :
    HostM (Except EvalError EvaluationReport) := do
  match ← listSamples dir limit with
  | .error e => pure (.error e)
  | .ok samples =>
    if samples.isEmpty then Host.log .warn "inference_eval::evaluator" s!"no .raw samples found in {dir}"
    pure (.ok (← evaluateSamples backend samples))

namespace EvaluationReport

/-- A single as a JSON number of its own precision; NaN and the infinities are null. -/
def single (x : Float32) : Json := .num (.single x)

/-- The report as JSON: the accuracy figures, then each sample with its outcome
    tagged by `status`. -/
def toJson (r : EvaluationReport) : Json :=
  .obj [("accuracy", .obj [("total", Json.ofNat r.accuracy.total),
      ("correct", Json.ofNat r.accuracy.correct), ("failed", Json.ofNat r.accuracy.failed),
      ("accuracy", .num (.float r.accuracy.accuracy))]),
    ("samples", .arr (r.samples.map fun s => .obj [("sample", .str s.sample.text),
      ("expected", match s.expected with | some n => Json.ofNat n | none => .null),
      ("outcome", match s.outcome with
        | .scored i => .obj [("status", .str "scored"), ("predicted", Json.ofNat i.predicted),
            ("confidence_pct", single i.confidencePct), ("correct", .bool i.correct),
            ("probabilities", .arr (i.probabilities.map single))]
        | .failed reason => .obj [("status", .str "failed"), ("reason", .str reason)])]))]

end EvaluationReport

end EdgePack

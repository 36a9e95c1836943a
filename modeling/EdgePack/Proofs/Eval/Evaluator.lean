import Mathlib
import EdgePack.Eval.Evaluator

/-!
# Evaluating a batch

`evaluateSamples` scores samples one at a time and never stops early: every
sample gets a record, in input order, whose outcome is what its label, the
backend's output and the interpretation of that output give, the first failure
failing it (`expectedScore`). The backend is asked about each sample whose
label reads, once and in order, and about no other; a failed sample is counted
once, as failed, and never as correct.

To watch the backend, the statements use a spy (`spyBackend f`): it answers
with the function `f` and writes the path of each sample it is asked about to
standard output, which the evaluator itself never writes to.
-/

namespace EdgePack

/-! ## Standard output -/

namespace Host

/-- The texts written to standard output, in order. -/
def stdoutTexts (h : Host) : List String :=
  h.out.toList.filterMap fun o => match o with
    | .stdout s => some s
    | _ => none

@[simp] theorem stdoutTexts_log (lv : Level) (target message : String) (h : Host) :
    ((log lv target message).run h).run.2.stdoutTexts = h.stdoutTexts := by
  simp [log, stdoutTexts]

@[simp] theorem stdoutTexts_print (s : String) (h : Host) :
    ((print s).run h).run.2.stdoutTexts = h.stdoutTexts ++ [s] := by
  simp [print, stdoutTexts]

end Host

/-! ## The spy -/

/-- A backend answering with `f`, which writes the path of every sample it is
    asked about to standard output. -/
def spyBackend (f : Path → Except EvalError (List Float32)) : Backend := fun p => do
  Host.print p.text
  pure (f p)

/-- The score a sample should get: its label, the backend's output for it and
    the interpretation of that output, the first failure failing it. -/
def expectedScore (f : Path → Except EvalError (List Float32)) (p : Path) :
    Except EvalError Interpretation := do
  let label ← parseLabel p
  let raw ← f p
  interpret raw label

variable (f : Path → Except EvalError (List Float32))

/-- The spy answers a labelled sample with its score, writing its path; about
    an unlabelled one it is never asked. -/
theorem scoreSample_spy (p : Path) (h : Host) :
    ((scoreSample (spyBackend f) p).run h).run.1 = expectedScore f p ∧
    ((scoreSample (spyBackend f) p).run h).run.2.stdoutTexts =
      h.stdoutTexts ++ (if (parseLabel p).isOk then [p.text] else []) := by
  have hscore : expectedScore f p =
      (parseLabel p).bind fun label => (f p).bind fun raw => interpret raw label := rfl
  unfold scoreSample
  cases hl : parseLabel p with
  | error e => simp [hscore, hl, Except.bind, Except.isOk, Except.toBool]
  | ok n =>
    cases hf : f p <;> simp [spyBackend, hscore, hl, hf, Except.bind, Except.isOk, Except.toBool]

/-! ## One sample -/

/-- What became of a sample, from its score. -/
def Outcome.ofScore : Except EvalError Interpretation → Outcome
  | .ok i => .scored i
  | .error e => .failed e.message

/-- Whether an outcome is a failure. -/
def Outcome.isFailed : Outcome → Bool
  | .scored _ => false
  | .failed _ => true

/-- Whether an outcome is a correct prediction. -/
def Outcome.isCorrect : Outcome → Bool
  | .scored i => i.correct
  | .failed _ => false

@[simp] theorem Outcome.isFailed_scored (i : Interpretation) :
    (Outcome.scored i).isFailed = false := rfl
@[simp] theorem Outcome.isFailed_failed (r : String) : (Outcome.failed r).isFailed = true := rfl
@[simp] theorem Outcome.isCorrect_scored (i : Interpretation) :
    (Outcome.scored i).isCorrect = i.correct := rfl
@[simp] theorem Outcome.isCorrect_failed (r : String) : (Outcome.failed r).isCorrect = false := rfl

/-- The record a sample should get: its path, its label when it has one, and
    the outcome of its score. -/
def expectedRecord (p : Path) : SampleRecord :=
  ⟨p, (parseLabel p).toOption, .ofScore (expectedScore f p)⟩

/-- Counts an outcome: a scored sample as correct or not, a failed one as failed. -/
def AccuracyCounter.count (c : AccuracyCounter) : Outcome → AccuracyCounter
  | .scored i => c.record i.correct
  | .failed _ => c.recordFailure

/-- One step of a batch records the sample's expected record and counts its
    outcome; the backend is asked about the sample only when its label reads. -/
theorem evaluateStep_spy (p : Path) (c : AccuracyCounter) (rs : List SampleRecord) (h : Host) :
    ((evaluateStep (spyBackend f) p c rs).run h).run.1 =
      (c.count (expectedRecord f p).outcome, rs ++ [expectedRecord f p]) ∧
    ((evaluateStep (spyBackend f) p c rs).run h).run.2.stdoutTexts =
      h.stdoutTexts ++ (if (parseLabel p).isOk then [p.text] else []) := by
  obtain ⟨hscore, hout⟩ := scoreSample_spy f p h
  have hpair : ((scoreSample (spyBackend f) p).run h).run =
      (expectedScore f p, ((scoreSample (spyBackend f) p).run h).run.2) := Prod.ext hscore rfl
  unfold evaluateStep
  rw [StateT.run_bind, Id.run_bind, hpair]
  -- the score decides the outcome; the log lines in between write nothing out
  cases hsc : expectedScore f p with
  | ok i => simp [hout, expectedRecord, Outcome.ofScore, AccuracyCounter.count, hsc]
  | error e => simp [hout, expectedRecord, Outcome.ofScore, AccuracyCounter.count, hsc]

/-! ## The batch -/

/-- A run of steps from a counter and records adds each sample's expected
    record in order, counts each outcome, and asks the backend about the
    labelled samples in order. -/
theorem foldlM_evaluateStep_spy : ∀ (ps : List Path) (c : AccuracyCounter)
    (rs : List SampleRecord) (h : Host),
    ((ps.foldlM (fun s p => evaluateStep (spyBackend f) p s.1 s.2) (c, rs)).run h).run.1 =
      (ps.foldl (fun c p => c.count (expectedRecord f p).outcome) c,
        rs ++ ps.map (expectedRecord f)) ∧
    ((ps.foldlM (fun s p => evaluateStep (spyBackend f) p s.1 s.2) (c, rs)).run h).run.2.stdoutTexts =
      h.stdoutTexts ++ (ps.filter fun p => (parseLabel p).isOk).map (·.text)
  | [], c, rs, h => by simp
  | p :: ps, c, rs, h => by
    obtain ⟨h₁, h₂⟩ := evaluateStep_spy f p c rs h
    have hpair : ((evaluateStep (spyBackend f) p c rs).run h).run =
        ((c.count (expectedRecord f p).outcome, rs ++ [expectedRecord f p]),
          ((evaluateStep (spyBackend f) p c rs).run h).run.2) := Prod.ext h₁ rfl
    obtain ⟨ih₁, ih₂⟩ := foldlM_evaluateStep_spy ps (c.count (expectedRecord f p).outcome)
      (rs ++ [expectedRecord f p]) ((evaluateStep (spyBackend f) p c rs).run h).run.2
    rw [List.foldlM_cons, StateT.run_bind, Id.run_bind, hpair]
    refine ⟨by simp [ih₁], ?_⟩
    rw [ih₂, h₂]
    by_cases hp : (parseLabel p).isOk <;> simp [hp]

/-- Counting outcomes one by one counts every sample, the failed ones and the
    correct ones. -/
theorem foldl_count (os : List Outcome) (c : AccuracyCounter) :
    (os.foldl AccuracyCounter.count c).total = c.total + os.length ∧
    (os.foldl AccuracyCounter.count c).failed = c.failed + os.countP (·.isFailed) ∧
    (os.foldl AccuracyCounter.count c).correct = c.correct + os.countP (·.isCorrect) := by
  induction os generalizing c with
  | nil => simp
  | cons o os ih =>
    obtain ⟨h₁, h₂, h₃⟩ := ih (c.count o)
    rw [List.foldl_cons, h₁, h₂, h₃, List.countP_cons, List.countP_cons, List.length_cons]
    cases o with
    | scored i =>
      cases hc : i.correct <;> simp [AccuracyCounter.count, AccuracyCounter.record, hc] <;> omega
    | failed r =>
      simp [AccuracyCounter.count, AccuracyCounter.recordFailure]
      omega

/-- No outcome is both failed and correct, so the two never count past the
    total. -/
theorem countP_isFailed_add_countP_isCorrect_le (os : List Outcome) :
    os.countP (·.isFailed) + os.countP (·.isCorrect) ≤ os.length := by
  induction os with
  | nil => simp
  | cons o os ih =>
    -- a scored outcome counts at most as correct, a failed one only as failed
    rw [List.countP_cons, List.countP_cons, List.length_cons]
    cases o with
    | scored i => cases hc : i.correct <;> simp [hc] <;> omega
    | failed r =>
      simp
      omega

/-- A batch evaluated against a backend that answers as `f`: one record per
    sample, in input order, with the sample's label and the outcome of its
    score; the backend asked about each sample whose label reads, once and in
    order, and about no other; every sample counted, each failure once as
    failed and never as correct; and the accuracy, the quotient of the correct
    samples by all of them in double precision, or zero for no samples. -/
theorem evaluateSamples_spec (samples : List Path) (h : Host) :
    let run := ((evaluateSamples (spyBackend f) samples).run h).run
    run.1.samples = samples.map (expectedRecord f) ∧
    run.2.stdoutTexts = h.stdoutTexts ++ (samples.filter fun p => (parseLabel p).isOk).map (·.text) ∧
    run.1.accuracy.total = samples.length ∧
    run.1.accuracy.failed = run.1.samples.countP (·.outcome.isFailed) ∧
    run.1.accuracy.correct = run.1.samples.countP (·.outcome.isCorrect) ∧
    run.1.accuracy.correct + run.1.accuracy.failed ≤ run.1.accuracy.total ∧
    run.1.accuracy.accuracy = if run.1.accuracy.total = 0 then 0
      else Float.doubleOfNat run.1.accuracy.correct / Float.doubleOfNat run.1.accuracy.total := by
  intro run
  -- the loop is a fold of `evaluateStep`, followed by one line on the log
  have hfold : evaluateSamples (spyBackend f) samples = (do
      let s ← samples.foldlM (fun s p => evaluateStep (spyBackend f) p s.1 s.2)
        (({} : AccuracyCounter), ([] : List SampleRecord))
      Host.log .info "inference_eval::evaluator" s.1.report.summary
      pure ⟨s.1.report, s.2⟩) := by
    simp [evaluateSamples]
  obtain ⟨h₁, h₂⟩ := foldlM_evaluateStep_spy f samples {} [] h
  obtain ⟨htotal, hfailed, hcorrect⟩ :=
    foldl_count (samples.map fun p => (expectedRecord f p).outcome) {}
  rw [List.foldl_map] at htotal hfailed hcorrect
  have hres : run.1 = ⟨(samples.foldl (fun (c : AccuracyCounter) p =>
      c.count (expectedRecord f p).outcome) {}).report, samples.map (expectedRecord f)⟩ := by
    simp only [run, hfold, StateT.run_bind, Id.run_bind, StateT.run_pure, Id.run_pure, h₁,
      List.nil_append]
  have hout : run.2.stdoutTexts =
      h.stdoutTexts ++ (samples.filter fun p => (parseLabel p).isOk).map (·.text) := by
    simp only [run, hfold, StateT.run_bind, Id.run_bind, StateT.run_pure, Id.run_pure,
      Host.stdoutTexts_log, h₂]
  have hle := countP_isFailed_add_countP_isCorrect_le
    (samples.map fun p => (expectedRecord f p).outcome)
  simp only [List.countP_map, List.length_map, Function.comp_def] at hle hfailed hcorrect htotal
  rw [hres]
  refine ⟨rfl, hout, ?_, ?_, ?_, ?_, ?_⟩ <;>
    simp only [AccuracyCounter.report, List.countP_map, Function.comp_def, beq_iff_eq] <;>
    omega

end EdgePack

import EdgePack.Tool.Run
import EdgePack.Tool.Compile

/-!
# Compiling a model

`NccCompiler.compile` has the model compiler turn a model file into a
compiled model with the configured options, and reports where it went, how
large it is, and whether it exceeds the size the board can hold (which is a
warning, not a failure). A missing model is an error before the tool runs;
a tool that finishes without writing its output has failed.
-/

namespace EdgePack

/-- A compiled model: where it is, its size, and whether it is larger than expected. -/
structure CompiledModel where
  path : String
  sizeBytes : Nat
  oversized : Bool
  deriving Inhabited

/-- The model compiler with its options. -/
structure NccCompiler where
  tool : ToolCommand
  options : CompileOptions
  deriving Inhabited

/-- A shape as a list in brackets: `[1, 28, 28, 1]`. -/
def shapeText (dims : List Nat) : String := "[" ++ ", ".intercalate (dims.map toString) ++ "]"

namespace NccCompiler

/-- Compiles `model` into `output`, with a directory of calibration samples when given. -/
def compile (c : NccCompiler) (model output : Path) (calibration : Option Path) :
    HostM (Except ToolError CompiledModel) := do
  if !(← Host.isFile model) then return .error (.io model.text (.other "model file not found"))
  let o := c.options
  Host.log .info "toolchain::compile"
    s!"Compiling {model.text} for {o.target} (input {shapeText o.inputShape} {o.inputType.name}, quant {o.quantType.name})"
  match ← c.tool.run (o.args model.text output.text (calibration.map (·.text))) with
  | .error e => pure (.error e)
  | .ok _ =>
    let size? ← if ← Host.isDir output then pure (some 4096)
      else do
        match ← Host.readBytes output with
        | .ok d => pure (some d.size)
        | .error _ => pure none
    match size? with
    | none => pure (.error (.failed c.tool.name s!"no compiled model written to {output.text}"))
    | some size =>
      let oversized := size > o.maxModelBytes
      if oversized then
        Host.log .warn "toolchain::compile"
          s!"compiled model is {size} bytes, larger than the expected {o.maxModelBytes} bytes"
      else Host.log .info "toolchain::compile" s!"Compiled {output.text} ({size} bytes)"
      pure (.ok ⟨output.text, size, oversized⟩)

end NccCompiler

end EdgePack

import EdgePack.Float.Binary
import EdgePack.Float.Shortest
import EdgePack.Float.Read
import EdgePack.Float.Text
import EdgePack.Json.Value
import EdgePack.Json.Reader
import EdgePack.Json.Writer
import EdgePack.Host.Path
import EdgePack.Host.Fs
import EdgePack.Host.Basic
import EdgePack.Data.Bytes
import EdgePack.Tensor.DType
import EdgePack.Tensor.Shape
import EdgePack.Tensor.Raw
import EdgePack.Tensor.Activation
import EdgePack.Eval.Error
import EdgePack.Eval.Interpret
import EdgePack.Eval.Label
import EdgePack.Eval.Accuracy
import EdgePack.Text.Quoted
import EdgePack.Serde.Datum
import EdgePack.Serde.Decode
import EdgePack.Input.Spec
import EdgePack.Data.Chunks
import EdgePack.Input.Error
import EdgePack.Input.Raster
import EdgePack.Input.Stats
import EdgePack.Text.Hex
import EdgePack.Flash.Layout
import EdgePack.Flash.Image
import EdgePack.Codec.Crc32
import EdgePack.Codec.Deflate
import EdgePack.Text.Cp437
import EdgePack.Text.Utf8
import EdgePack.Archive.Zip
import EdgePack.Archive.Format
import EdgePack.Archive.Error
import EdgePack.Archive.FlashList
import EdgePack.Archive.Policy
import EdgePack.Archive.Staging
import EdgePack.Archive.Package
import EdgePack.Archive.Builder
import EdgePack.Tool.Error
import EdgePack.Tool.Command
import EdgePack.Tool.Compile
import EdgePack.Tool.Calibration
import EdgePack.Input.RawFile
import EdgePack.Eval.Evaluator
import EdgePack.Image.Picture
import EdgePack.Image.Png
import EdgePack.Image.Open
import EdgePack.Input.Source
import EdgePack.Input.Convert
import EdgePack.Flash.Slots
import EdgePack.Text.Blank
import EdgePack.Text.Pad
import EdgePack.Float.Literal
import EdgePack.Data.Csv
import EdgePack.Tool.CalibrationFile
import EdgePack.Toml.Rule
import EdgePack.Toml.Value
import EdgePack.Toml.Lexical
import EdgePack.Toml.Document
import EdgePack.Toml.Complaint
import EdgePack.Toml.Printer
import EdgePack.Pipeline.Config
import EdgePack.Pipeline.Error
import EdgePack.Cli.Failure
import EdgePack.Shell.Syntax
import EdgePack.Shell.Machine
import EdgePack.Shell.Utility.Basic
import EdgePack.Shell.Utility.Files
import EdgePack.Shell.Regex
import EdgePack.Shell.Format
import EdgePack.Shell.Utility.Text
import EdgePack.Shell.Builtin
import EdgePack.Shell.Utility.Sed
import EdgePack.Shell.Read
import EdgePack.Shell.Pattern
import EdgePack.Shell.Arith
import EdgePack.Shell.Expand
import EdgePack.Shell.Run
import EdgePack.Tool.Run
import EdgePack.Tool.Inference
import EdgePack.Tool.Compiler
import EdgePack.Pipeline.Stages
import EdgePack.Cli.Commands
import EdgePack.Cli.Grammar
import EdgePack.Text.Similarity
import EdgePack.Cli.Parse
import EdgePack.Log.Filter
import EdgePack.Cli.Run
import EdgePack.Main
import EdgePack.Proofs.Bytes
import EdgePack.Proofs.Flash.Layout
import EdgePack.Proofs.Flash.Pack
import EdgePack.Proofs.Eval.Evaluator
import EdgePack.Proofs.Host.Path
import EdgePack.Proofs.Host.Tree
import EdgePack.Proofs.Host.Run
import EdgePack.Proofs.Eval.Label
import EdgePack.Proofs.Archive.Build
import EdgePack.Proofs.Codec.Stored
import EdgePack.Proofs.Text.Decode
import EdgePack.Proofs.Archive.Zip
import EdgePack.Proofs.Archive.Package
import EdgePack.Proofs.Tensor.Raw
import EdgePack.Proofs.Flash.Slots
import EdgePack.Proofs.Input.Encode
import EdgePack.Proofs.Pipeline.Pack
import EdgePack.Proofs.Tool.CalibrationFile
import EdgePack.Proofs.Tool.Singles
import EdgePack.Proofs.Float.Order
import EdgePack.Proofs.Float.Value
import EdgePack.Proofs.Tensor.Activation
import EdgePack.Proofs.Eval.Interpret
import EdgePack.Proofs.Input.Raster
import EdgePack.Proofs.Input.RawFile
import EdgePack.Proofs.Input.Convert
import EdgePack.Proofs.Text.Order
import EdgePack.Proofs.Host.Listing
import EdgePack.Proofs.Eval.Samples
import EdgePack.Proofs.Archive.Lint
import EdgePack.Proofs.Input.Preview
import EdgePack.Proofs.Archive.Staging

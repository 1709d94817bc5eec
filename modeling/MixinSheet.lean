import MixinSheet.Evaluation.Sheet
import MixinSheet.Function.Builtin
import MixinSheet.Json.Diagnostic
import MixinSheet.Json.Options
import MixinSheet.Json.Sheet
import MixinSheet.Proofs.CallDepth
import MixinSheet.Proofs.CallLimit
import MixinSheet.Proofs.Chains
import MixinSheet.Proofs.Confinement
import MixinSheet.Proofs.Exports
import MixinSheet.Proofs.Flattening
import MixinSheet.Proofs.Formula
import MixinSheet.Proofs.Inlining
import MixinSheet.Proofs.LexicalScoping
import MixinSheet.Proofs.Namespace
import MixinSheet.Proofs.NativeCalls
import MixinSheet.Proofs.NonemptyRules
import MixinSheet.Proofs.OpenCalls
import MixinSheet.Proofs.PlainText
import MixinSheet.Proofs.SelectorContext
import MixinSheet.Proofs.SourceOrder
import MixinSheet.Proofs.StrictUnits
import MixinSheet.Proofs.UnusedMixin
import MixinSheet.Proofs.MixinPlace
import MixinSheet.Proofs.Positions
import MixinSheet.Proofs.Reading
import MixinSheet.Proofs.RoundTrip
import MixinSheet.Proofs.Parameters
import MixinSheet.Proofs.Bytes
import MixinSheet.Proofs.Rows
import MixinSheet.Proofs.LineColumn
import MixinSheet.Proofs.SourceText
import MixinSheet.Proofs.NumberText
import MixinSheet.Proofs.HexColors
import MixinSheet.Proofs.Coercion
import MixinSheet.Proofs.Placeholders
import MixinSheet.Proofs.ValueMatching

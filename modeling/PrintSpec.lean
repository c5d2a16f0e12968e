import PrintSpec.Main
import PrintSpec.Showcase
import PrintSpec.Proofs.Decomposition
import PrintSpec.Proofs.Diagnostics
import PrintSpec.Proofs.DryRun
import PrintSpec.Proofs.Json.RoundTrip
import PrintSpec.Proofs.Meaning
import PrintSpec.Proofs.Outcome
import PrintSpec.Proofs.Unambiguous
import PrintSpec.Proofs.Yaml.RoundTrip
import PrintSpec.Proofs.Awk.Quoting
import PrintSpec.Proofs.FieldSpec
import PrintSpec.Proofs.Slices
import PrintSpec.Proofs.WellFormed
import PrintSpec.Proofs.Rejection
import PrintSpec.Proofs.PatternOrder
import PrintSpec.Proofs.Verbatim
import PrintSpec.Proofs.ArgumentSplit
import PrintSpec.Proofs.Spellings
import PrintSpec.Proofs.NegativeField
import PrintSpec.Proofs.DigitLimit
import PrintSpec.Proofs.Dump.Normalisation
import PrintSpec.Proofs.LowerCase
import PrintSpec.Proofs.NormalForm
import PrintSpec.Proofs.Awk.RangeJoin
import PrintSpec.Proofs.Dump.Shown
import PrintSpec.Proofs.Cutting

import AttrLint.Inspect
import AttrLint.Main
import AttrLint.Registry
import AttrLint.Proofs.Findings
import AttrLint.Proofs.Building
import AttrLint.Proofs.Histories
import AttrLint.Proofs.Output
import AttrLint.Proofs.Runs
import AttrLint.Proofs.Streaming
import AttrLint.Proofs.ExitStatus
import AttrLint.Proofs.FailFast
import AttrLint.Proofs.TomlLimits
import AttrLint.Proofs.Utf8
import AttrLint.Proofs.RuleFiles
import AttrLint.Proofs.Failures
import AttrLint.Proofs.NameParts
import AttrLint.Proofs.Reading
import AttrLint.Proofs.Parsing
import AttrLint.Proofs.SourceOrder
import AttrLint.Proofs.Renaming
import AttrLint.Proofs.Strictness
import AttrLint.Proofs.Json
import AttrLint.Proofs.Formats
import AttrLint.Proofs.Independence
import AttrLint.Proofs.Escaping
import AttrLint.Proofs.Verbosity
import AttrLint.Proofs.TomlWriting
import AttrLint.Proofs.RuleFileWriting
import AttrLint.Proofs.Printing
import AttrLint.Proofs.Values
import AttrLint.Proofs.StartTags
import AttrLint.Proofs.RoundTrip
import AttrLint.Proofs.DefaultNamespace
import AttrLint.Proofs.Shapes
import AttrLint.Proofs.Paths
import AttrLint.Proofs.Discovery
import AttrLint.Proofs.Reports
import AttrLint.Proofs.Messages
import AttrLint.Proofs.TextReports
import AttrLint.Proofs.Registries
import AttrLint.Proofs.EntityDeclarations

import CircuitPrint.Proofs.Message.Built
import CircuitPrint.Proofs.Message.Default
import CircuitPrint.Proofs.Statement.History
import CircuitPrint.Proofs.Statement.Unique
import CircuitPrint.Proofs.Template.Agreement
import CircuitPrint.Proofs.Datum.Integer
import CircuitPrint.Proofs.Datum.Sentence
import CircuitPrint.Proofs.Format.Exact
import CircuitPrint.Proofs.Circuit.Names
import CircuitPrint.Proofs.Circuit.Elements
import CircuitPrint.Proofs.Message.Directive
import CircuitPrint.Proofs.Message.Qualified
import CircuitPrint.Proofs.Message.References
import CircuitPrint.Proofs.Message.Untyped
import CircuitPrint.Proofs.Template.Tokens
import CircuitPrint.Proofs.Circuit.LeastWidth
import CircuitPrint.Proofs.Template.Holes
import CircuitPrint.Proofs.Circuit.TypeText

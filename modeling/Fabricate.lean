import Fabricate.CommandLine.Machine
import Fabricate.CommandLine.Program
import Fabricate.Generator.Scripted
import Fabricate.Main
import Fabricate.Proofs.Batch.Accounting
import Fabricate.Proofs.Batch.Cancellation
import Fabricate.Proofs.Batch.Context
import Fabricate.Proofs.Batch.Independence
import Fabricate.Proofs.Batch.Reason
import Fabricate.Proofs.CommandLine.Generate
import Fabricate.Proofs.Csv.Rectangle
import Fabricate.Proofs.Decimal.Literal
import Fabricate.Proofs.FieldPath
import Fabricate.Proofs.Generator.Birth
import Fabricate.Proofs.Generator.Catalog
import Fabricate.Proofs.Generator.DateRange
import Fabricate.Proofs.Generator.Grid
import Fabricate.Proofs.Generator.Prose
import Fabricate.Proofs.Generator.WrittenDate
import Fabricate.Proofs.Name.EditDistance
import Fabricate.Proofs.Param.Coercion
import Fabricate.Proofs.Param.Declared
import Fabricate.Proofs.Param.Literal
import Fabricate.Proofs.Param.Verbatim
import Fabricate.Proofs.Request.RoundTrip
import Fabricate.Proofs.Seed.Separation
import Fabricate.Proofs.Settings
import Fabricate.Proofs.Template.Agreement
import Fabricate.Proofs.Template.ArrayCount
import Fabricate.Proofs.Template.Collection
import Fabricate.Proofs.Template.Rendering
import Fabricate.Proofs.Template.Suggestion

import Intake.Pipeline.Registry
import Intake.Proofs.Agreement
import Intake.Proofs.BreadthFirst
import Intake.Proofs.Cleanup
import Intake.Proofs.Isolation
import Intake.Scripted.Calls
import Intake.Scripted.Journal
import Intake.Scripted.Sample
import Intake.Scripted.Settings
import Intake.Status.Check
import Intake.Workflow.Build
import Intake.Workflow.Execute
import Intake.Workflow.Progress
import Intake.Proofs.RunOnce
import Intake.Proofs.Moments
import Intake.Proofs.Accounting
import Intake.Proofs.BulkSinks
import Intake.Proofs.CutShort
import Intake.Proofs.Abandonment
import Intake.Proofs.Escape
import Intake.Proofs.Independence
import Intake.Proofs.Override
import Intake.Proofs.Entries
import Intake.Proofs.Classification
import Intake.Proofs.Concealment
import Intake.Proofs.Warnings
import Intake.Proofs.Assembly
import Intake.Proofs.RoundTrip
import Intake.Proofs.Verdict
import Intake.Proofs.SourceTypes
import Intake.Proofs.Dates
import Intake.Proofs.Reports
import Intake.Proofs.TwoWays

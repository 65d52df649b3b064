import DiagnosticRepair.Main
import DiagnosticRepair.Text.Utf8RoundTrip
import DiagnosticRepair.Proofs.Disk.Place
import DiagnosticRepair.Proofs.Text.Decoding
import DiagnosticRepair.Proofs.Disk.Change
import DiagnosticRepair.Proofs.Patch.Edit
import DiagnosticRepair.Proofs.Patch.NamedFiles
import DiagnosticRepair.Proofs.Diagnostic.Grouping
import DiagnosticRepair.Proofs.Pass.Execution
import DiagnosticRepair.Proofs.Pass.FileByFile
import DiagnosticRepair.Proofs.Text.Occurrence
import DiagnosticRepair.Proofs.Text.Reading
import DiagnosticRepair.Proofs.Source.Edits
import DiagnosticRepair.Proofs.Path.Reading
import DiagnosticRepair.Proofs.Patch.Reports
import DiagnosticRepair.Proofs.Pass.Accounting
import DiagnosticRepair.Proofs.Diagnostic.Digits
import DiagnosticRepair.Proofs.Patch.Isolation
import DiagnosticRepair.Proofs.Disk.Listing
import DiagnosticRepair.Proofs.Component
import DiagnosticRepair.Proofs.Disk.Creation
import DiagnosticRepair.Proofs.Patch.Generation
import DiagnosticRepair.Proofs.Patch.Failures
import DiagnosticRepair.Proofs.TestFile
import DiagnosticRepair.Proofs.Patch.TestFixes
import DiagnosticRepair.Proofs.Pass.Completion
import DiagnosticRepair.Proofs.Settings.Loading
import DiagnosticRepair.Proofs.Console.ExitStatus
import DiagnosticRepair.Proofs.Source.LineEndings
import DiagnosticRepair.Proofs.Source.TestImportEndings
import DiagnosticRepair.Proofs.Source.LibraryImport
import DiagnosticRepair.Proofs.Source.Widening
import DiagnosticRepair.Proofs.Source.InsertedLine
import DiagnosticRepair.Proofs.Source.TestImports
import DiagnosticRepair.Proofs.Source.Growth
import DiagnosticRepair.Proofs.Patch.Touched
import DiagnosticRepair.Proofs.Pass.Touched
import DiagnosticRepair.Proofs.Pass.TestsFileByFile
import DiagnosticRepair.Proofs.Log.Merging
import DiagnosticRepair.Proofs.Pass.Course
import DiagnosticRepair.Proofs.Pass.Repeats
import DiagnosticRepair.Proofs.Patch.Regeneration
import DiagnosticRepair.Proofs.Diagnostic.Rendering
import DiagnosticRepair.Proofs.Pass.Verdict
import DiagnosticRepair.Proofs.Diagnostic.Routing
import DiagnosticRepair.Proofs.Diagnostic.Grammar
import DiagnosticRepair.Proofs.Disk.Making
import DiagnosticRepair.Proofs.Patch.Operations
import DiagnosticRepair.Proofs.ComponentName
import DiagnosticRepair.Proofs.Source.GeneratedTest
import DiagnosticRepair.Proofs.Patch.FreshTests
import DiagnosticRepair.Proofs.Pass.FreshTests
import DiagnosticRepair.Proofs.Diagnostic.JoinedOutput
import DiagnosticRepair.Proofs.Source.ImportRun
import DiagnosticRepair.Proofs.Text.Cutting
import DiagnosticRepair.Proofs.Source.Insertion
import DiagnosticRepair.Proofs.Source.Renaming
import DiagnosticRepair.Proofs.Source.RenamingOrder
import DiagnosticRepair.Proofs.Path.Way
import DiagnosticRepair.Proofs.Source.AliasTarget
import DiagnosticRepair.Proofs.Source.AliasScan
import DiagnosticRepair.Proofs.Source.AliasSubstitution
import DiagnosticRepair.Proofs.Source.ImportedNames
import DiagnosticRepair.Proofs.Source.RepeatedNames
import DiagnosticRepair.Proofs.Source.TypeImport
import DiagnosticRepair.Proofs.Source.TypeImportKept
import DiagnosticRepair.Proofs.Source.Directives
import DiagnosticRepair.Proofs.Source.Markup
import DiagnosticRepair.Proofs.Source.DirectiveMarkup
import DiagnosticRepair.Proofs.Source.LineSplices
import DiagnosticRepair.Proofs.Disk.Ordering
import DiagnosticRepair.Proofs.TestSearch
import DiagnosticRepair.Proofs.SourceChoice

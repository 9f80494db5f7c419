import RegisterFile.Main
import RegisterFile.Proofs.Repeats
import RegisterFile.Proofs.Width
import RegisterFile.Proofs.Session
import RegisterFile.Proofs.PlanOutcome
import RegisterFile.Proofs.AddressMap
import RegisterFile.Proofs.Json.Leaves
import RegisterFile.Proofs.Json.RoundTrip
import RegisterFile.Proofs.DeclarationText
import RegisterFile.Proofs.Template.Assembly
import RegisterFile.Proofs.Template.Printing
import RegisterFile.Proofs.BitString
import RegisterFile.Proofs.Vhdl.RegisterFileText
import RegisterFile.Proofs.Vhdl.TemplateBody
import RegisterFile.Proofs.Vhdl.StandardRendering
import RegisterFile.Proofs.Template.Limits
import RegisterFile.Proofs.Logged
import RegisterFile.Proofs.Vhdl.Limits
import RegisterFile.Proofs.GenerationLimits
import RegisterFile.Proofs.Vhdl.TemplateLines
import RegisterFile.Proofs.Vhdl.DeclaredNames
import RegisterFile.Proofs.LabelCollisions
import RegisterFile.Proofs.Files.Walking
import RegisterFile.Proofs.Files.Writing
import RegisterFile.Proofs.FileGeneration
import RegisterFile.Proofs.Json.Bindings
import RegisterFile.Proofs.DeclarationConditions
import RegisterFile.Proofs.DeclarationOutcome
import RegisterFile.Proofs.Outcome
import RegisterFile.Proofs.EntryPoints
import RegisterFile.Proofs.Warnings
import RegisterFile.Proofs.Files.Searching
import RegisterFile.Proofs.Files.PlainDirectories
import RegisterFile.Proofs.Template.Naming
import RegisterFile.Proofs.TemplateDirectory
import RegisterFile.Proofs.CommandLine.Spelling
import RegisterFile.Proofs.CommandLine.Agreement
import RegisterFile.Proofs.RelatedPlans
import RegisterFile.Proofs.IntegerGrammar
import RegisterFile.Proofs.Json.NumberLiteral
import RegisterFile.Proofs.Json.Documents
import RegisterFile.Proofs.Json.NumberValue
import RegisterFile.Proofs.DeclaredIntegers
import RegisterFile.Proofs.Text.ByteOrder
import RegisterFile.Proofs.TableOrder
import RegisterFile.Proofs.TableColumns
import RegisterFile.Proofs.BitStringDigits
import RegisterFile.Proofs.PlanSummary
import RegisterFile.Proofs.WidthArithmetic
import RegisterFile.Proofs.Json.IntegerNumeral
import RegisterFile.Proofs.IntegerSpellings
import RegisterFile.Proofs.Files.Rewriting
import RegisterFile.Proofs.Files.WellFormed
import RegisterFile.Proofs.Files.SearchAfterWriting
import RegisterFile.Proofs.Regeneration
import RegisterFile.Proofs.Text.Uppercase
import RegisterFile.Proofs.ConstantColumns
import RegisterFile.Proofs.Text.Padding
import RegisterFile.Proofs.LabelColumn

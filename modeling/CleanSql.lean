import CleanSql.Main
import CleanSql.Table.Tree
import CleanSql.Proofs.Frame.Stage
import CleanSql.Proofs.TypeText
import CleanSql.Proofs.NumeralText
import CleanSql.Proofs.Frame.Column
import CleanSql.Proofs.Frame.Tight
import CleanSql.Proofs.Containment
import CleanSql.Proofs.LiteralIndependence
import CleanSql.Proofs.Malformed
import CleanSql.Proofs.Predicate.Formula
import CleanSql.Proofs.Predicate.NullTest
import CleanSql.Proofs.Predicate.Outline
import CleanSql.Proofs.OutputNames
import CleanSql.Proofs.RowFilter
import CleanSql.Proofs.Channels
import CleanSql.Proofs.InactiveSettings
import CleanSql.Proofs.Capability
import CleanSql.Proofs.Composition
import CleanSql.Proofs.StartExpression
import CleanSql.Proofs.Template.Opening
import CleanSql.Proofs.Template.Model
import CleanSql.Proofs.Template.Source
import CleanSql.Proofs.Value.Expression
import CleanSql.Proofs.Value.NotNull
import CleanSql.Proofs.SchemaFile
import CleanSql.Proofs.Decode.Agreement
import CleanSql.Proofs.Json.RoundTrip
import CleanSql.Proofs.Json.Variation
import CleanSql.Proofs.ReportSummary
import CleanSql.Proofs.SyntaxCheck
import CleanSql.Proofs.EffectiveSettings
import CleanSql.Proofs.AddedColumns
import CleanSql.Proofs.Quoting.Relation
import CleanSql.Proofs.Split.Selection
import CleanSql.Proofs.SelectList
import CleanSql.Proofs.Position
import CleanSql.Proofs.SkippedCast
import CleanSql.Proofs.VerbatimCast
import CleanSql.Proofs.Replacement.Bare
import CleanSql.Proofs.ItemClauses
import CleanSql.Proofs.Split.Pattern
import CleanSql.Proofs.Ink.Report
import CleanSql.Proofs.Cases.Selection
import CleanSql.Proofs.TitleCase.Value

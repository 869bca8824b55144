import WidgetMarkup.Action
import WidgetMarkup.Appearance.Alignment
import WidgetMarkup.Appearance.Color
import WidgetMarkup.Appearance.Edges
import WidgetMarkup.AttributeValue
import WidgetMarkup.CommandLine.Command
import WidgetMarkup.CommandLine.FileTree
import WidgetMarkup.CommandLine.LogFilter
import WidgetMarkup.CommandLine.Outcome
import WidgetMarkup.Construction.Assembly
import WidgetMarkup.Construction.Blueprint
import WidgetMarkup.Construction.Build
import WidgetMarkup.Construction.Stack
import WidgetMarkup.Document
import WidgetMarkup.Expansion.Engine
import WidgetMarkup.Expansion.Interpolation
import WidgetMarkup.Expansion.Placeholder
import WidgetMarkup.Expansion.Progress
import WidgetMarkup.Expansion.Scope
import WidgetMarkup.Expansion.Script
import WidgetMarkup.Expression.Evaluate
import WidgetMarkup.Expression.Postfix
import WidgetMarkup.Expression.Reading
import WidgetMarkup.Expression.Token
import WidgetMarkup.Expression.Value
import WidgetMarkup.Interpreter
import WidgetMarkup.Journal
import WidgetMarkup.Main
import WidgetMarkup.Markup.Cursor
import WidgetMarkup.Markup.Fault
import WidgetMarkup.Markup.Forest
import WidgetMarkup.Markup.Node
import WidgetMarkup.Markup.Position
import WidgetMarkup.Markup.Reference
import WidgetMarkup.Markup.Token
import WidgetMarkup.Markup.Token.Reading
import WidgetMarkup.NameTable
import WidgetMarkup.Number.BinaryFormat
import WidgetMarkup.Number.Decimal
import WidgetMarkup.Number.Double
import WidgetMarkup.Number.Natural
import WidgetMarkup.Number.Shortest
import WidgetMarkup.Number.Single
import WidgetMarkup.Problem
import WidgetMarkup.Run
import WidgetMarkup.TagPath
import WidgetMarkup.Text.AlphabeticRanges
import WidgetMarkup.Text.Blank
import WidgetMarkup.Text.Case
import WidgetMarkup.Text.Character
import WidgetMarkup.Text.ExtendingRanges
import WidgetMarkup.Text.NumericRanges
import WidgetMarkup.Text.Quoted
import WidgetMarkup.Text.UnprintableRanges
import WidgetMarkup.Vocabulary.Registry
import WidgetMarkup.Vocabulary.Rule
import WidgetMarkup.Vocabulary.Standard
import WidgetMarkup.Vocabulary.StandardAttributes
import WidgetMarkup.Vocabulary.StandardMacros
import WidgetMarkup.Widget.Kind
import WidgetMarkup.Widget.Outline
import WidgetMarkup.Widget.Table
import WidgetMarkup.Widget.Tree
import WidgetMarkup.Proofs.Text.Lines
import WidgetMarkup.Proofs.Markup.Bracketing
import WidgetMarkup.Proofs.Markup.Nesting
import WidgetMarkup.Proofs.Markup.TokenForests
import WidgetMarkup.Proofs.Markup.Rendering
import WidgetMarkup.Proofs.Markup.RenderedTokens
import WidgetMarkup.Proofs.Markup.RoundTrip
import WidgetMarkup.Proofs.Expression.Grammar
import WidgetMarkup.Proofs.Expression.Meaning
import WidgetMarkup.Proofs.Expression.Sequences
import WidgetMarkup.Proofs.Expression.Grouping
import WidgetMarkup.Proofs.Expression.Evaluation
import WidgetMarkup.Proofs.Expansion.Restoring
import WidgetMarkup.Proofs.Expansion.Filling
import WidgetMarkup.Proofs.Expansion.Recursion
import WidgetMarkup.Proofs.Expansion.Levels
import WidgetMarkup.Proofs.Expansion.Histories
import WidgetMarkup.Proofs.Expansion.Agreement
import WidgetMarkup.Proofs.Vocabulary.Declarations
import WidgetMarkup.Proofs.Vocabulary.StandardScripts
import WidgetMarkup.Proofs.Vocabulary.StandardRules
import WidgetMarkup.Proofs.Widget.Fitness
import WidgetMarkup.Proofs.Widget.Sketch
import WidgetMarkup.Proofs.Vocabulary.StandardDeclarations
import WidgetMarkup.Proofs.Vocabulary.ListedAttributes
import WidgetMarkup.Proofs.Vocabulary.FundedScripts
import WidgetMarkup.Proofs.Vocabulary.LawfulMacros
import WidgetMarkup.Proofs.Expansion.Limits
import WidgetMarkup.Proofs.Expansion.Order
import WidgetMarkup.Proofs.Expansion.Termination
import WidgetMarkup.Proofs.Expansion.OutputSize
import WidgetMarkup.Proofs.Expansion.RaisedLimits
import WidgetMarkup.Proofs.Construction.Alike
import WidgetMarkup.Proofs.Construction.Leads
import WidgetMarkup.Proofs.Construction.Outcomes
import WidgetMarkup.Proofs.Construction.Beginnings
import WidgetMarkup.Proofs.Construction.Pruning
import WidgetMarkup.Proofs.Construction.Refusals
import WidgetMarkup.Proofs.Construction.Leniency
import WidgetMarkup.Proofs.Widget.Search
import WidgetMarkup.Proofs.Construction.Successes
import WidgetMarkup.Proofs.Construction.KeptIds
import WidgetMarkup.Proofs.Construction.DocumentIds
import WidgetMarkup.Proofs.Construction.Conformance
import WidgetMarkup.Proofs.Construction.SoundListeners
import WidgetMarkup.Proofs.Construction.Plans
import WidgetMarkup.Proofs.Construction.SketchEffects
import WidgetMarkup.Proofs.Construction.Structure
import WidgetMarkup.Proofs.Expansion.Recovery
import WidgetMarkup.Proofs.Expansion.Moments
import WidgetMarkup.Proofs.Expansion.ImportChain
import WidgetMarkup.Proofs.Construction.Failures
import WidgetMarkup.Proofs.Expansion.ImportCycles
import WidgetMarkup.Proofs.Vocabulary.ScopedScripts
import WidgetMarkup.Proofs.Expansion.Bindings
import WidgetMarkup.Proofs.Vocabulary.UnmarkedScripts
import WidgetMarkup.Proofs.Expansion.NormalForms
import WidgetMarkup.Proofs.Expression.Lookups
import WidgetMarkup.Proofs.Expansion.WrittenValues
import WidgetMarkup.Proofs.Construction.AttributeRuns
import WidgetMarkup.Proofs.Construction.ActionOrder
import WidgetMarkup.Proofs.Construction.ActionNames
import WidgetMarkup.Proofs.Markup.Respelling
import WidgetMarkup.Proofs.Construction.Parallel
import WidgetMarkup.Proofs.Vocabulary.NamelessRules
import WidgetMarkup.Proofs.Vocabulary.ParallelScripts
import WidgetMarkup.Proofs.Expansion.ParallelFilling
import WidgetMarkup.Proofs.Expansion.ParallelRuns
import WidgetMarkup.Proofs.Construction.ParallelConstruction
import WidgetMarkup.Proofs.Construction.SpellingOfNames
import WidgetMarkup.Proofs.Expansion.UniformFilling
import WidgetMarkup.Proofs.Expansion.Places
import WidgetMarkup.Proofs.Construction.NamelessListeners
import WidgetMarkup.Proofs.Construction.FailurePlaces
import WidgetMarkup.Proofs.Markup.Remarking
import WidgetMarkup.Proofs.Vocabulary.MirroredScripts
import WidgetMarkup.Proofs.Expansion.MirroredRuns
import WidgetMarkup.Proofs.Expansion.MacroMarks
import WidgetMarkup.Proofs.Expression.Identifiers
import WidgetMarkup.Proofs.Expansion.Wrappers
import WidgetMarkup.Proofs.Markup.SubstitutedSizes
import WidgetMarkup.Proofs.Vocabulary.HandledNodes
import WidgetMarkup.Proofs.Expansion.WrittenMacros
import WidgetMarkup.Proofs.Expansion.Growth
import WidgetMarkup.Proofs.Expansion.Doubling
import WidgetMarkup.Proofs.Vocabulary.Combinations
import WidgetMarkup.Proofs.Expansion.NestedLoops
import WidgetMarkup.Proofs.Vocabulary.StyleTables
import WidgetMarkup.Proofs.Expansion.StylesInForce
import WidgetMarkup.Proofs.Vocabulary.OverwritingRules
import WidgetMarkup.Proofs.Construction.OmittedAttributes
import WidgetMarkup.Proofs.Construction.AliasDefaults
import WidgetMarkup.Proofs.Vocabulary.ResemblingScripts
import WidgetMarkup.Proofs.Expansion.ResemblingScopes
import WidgetMarkup.Proofs.Expansion.OverriddenDefaults
import WidgetMarkup.Proofs.Expansion.EnclosingTemplates
import WidgetMarkup.Proofs.Expansion.EntryPoints
import WidgetMarkup.Proofs.Expansion.TemplatesAsMacros
import WidgetMarkup.Proofs.Vocabulary.RangeAttributes
import WidgetMarkup.Proofs.Vocabulary.CellRules
import WidgetMarkup.Proofs.Construction.Surroundings
import WidgetMarkup.Proofs.Construction.Ranges
import WidgetMarkup.Proofs.Widget.TableRows
import WidgetMarkup.Proofs.Construction.CellInheritance
import WidgetMarkup.Proofs.Construction.DeferredReferences
import WidgetMarkup.Proofs.Number.Rounding
import WidgetMarkup.Proofs.Number.Zero
import WidgetMarkup.Proofs.Number.Numerals
import WidgetMarkup.Proofs.Number.DecimalTexts
import WidgetMarkup.Proofs.Number.ShortestDigits
import WidgetMarkup.Proofs.Expression.ReadBack
import WidgetMarkup.Proofs.Expansion.CalculatedConditions
import WidgetMarkup.Proofs.Markup.LongerSources
import WidgetMarkup.Proofs.Markup.BareTokens
import WidgetMarkup.Proofs.Markup.Concatenation
import WidgetMarkup.Proofs.Markup.IgnoredPieces
import WidgetMarkup.Proofs.Markup.NodePlaces
import WidgetMarkup.Proofs.Number.NaturalNumerals
import WidgetMarkup.Proofs.Markup.ReferenceGrammar
import WidgetMarkup.Proofs.Text.LineFeeds
import WidgetMarkup.Proofs.Widget.OutlineLines
import WidgetMarkup.Proofs.Text.SeparatedLists
import WidgetMarkup.Proofs.Markup.Encodings
import WidgetMarkup.Proofs.Markup.SubstitutionLaws
import WidgetMarkup.Proofs.Markup.TokenPlaces

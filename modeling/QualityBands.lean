import QualityBands.Command.Arguments
import QualityBands.Command.Plan
import QualityBands.Command.Session
import QualityBands.Files.FileSystem
import QualityBands.Json
import QualityBands.Main
import QualityBands.Rules.Outline
import QualityBands.Rules.Source
import QualityBands.Rules.Validation
import QualityBands.Snippets
import QualityBands.Tree.Same
import QualityBands.Yaml.Printing
import QualityBands.Proofs.Assembly
import QualityBands.Proofs.Candidates
import QualityBands.Proofs.DocumentOrder
import QualityBands.Proofs.ExactCounts
import QualityBands.Proofs.FieldsRead
import QualityBands.Proofs.FirstFault
import QualityBands.Proofs.Hints
import QualityBands.Proofs.Labels
import QualityBands.Proofs.LosslessPercentages
import QualityBands.Proofs.NestedNames
import QualityBands.Proofs.Numerals
import QualityBands.Proofs.ParsedKeys
import QualityBands.Proofs.Positions
import QualityBands.Proofs.Reachable
import QualityBands.Proofs.ReportCards
import QualityBands.Proofs.RoundTrip
import QualityBands.Proofs.SectionKeys
import QualityBands.Proofs.Sections
import QualityBands.Proofs.TemplateMap
import QualityBands.Proofs.UnseenEdits
import QualityBands.Proofs.Verbosity
import QualityBands.Proofs.Walks

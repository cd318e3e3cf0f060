import QualityBands.Rules.Reading
import QualityBands.Template.Rendering

/-!
The rendered report.

Blocks and cards make up one section each. A section is its pieces separated by blank lines,
without blanks at the two ends; as a file it ends in a line feed. The fragments document holds
the same pieces as named fragments of one page.
-/

namespace QualityBands

structure Snippets where
  dimensionBlocks : List String
  errorCards : List String
  deriving DecidableEq

namespace Snippets

def render (rules : Rules) : Snippets where
  dimensionBlocks :=
    rules.dimensions.map fun d => d.render rules.scores rules.templates.dimensionScore
  errorCards := rules.cards.map fun c => c.render rules.counts rules.templates.errorCard

/-! ### Sections -/

def joined (pieces : List String) : String := Text.trim ("\n\n".intercalate pieces)

/-- A section as a file. -/
def sectionText (pieces : List String) : String := joined pieces ++ "\n"

def dimensionSection (snippets : Snippets) : String := sectionText snippets.dimensionBlocks

def errorSection (snippets : Snippets) : String := sectionText snippets.errorCards

def dimensionFile : String := "dimension-scores-section.snippet.html"

def errorFile : String := "error-distribution-section.snippet.html"

/-! ### The fragments document -/

def dimensionFragment : String := "dimensionScores"

def errorFragment : String := "errorDistributionCards"

/-- A page with the blocks and the cards as fragments; the page brings the line feeds itself. -/
def fragmentsDocument (snippets : Snippets) : String :=
  "<!DOCTYPE html>\n" ++
  "<html xmlns:th=\"http://www.thymeleaf.org\">\n" ++
  "  <body>\n" ++
  "    <th:block th:fragment=\"" ++ dimensionFragment ++ "\">\n" ++
  joined snippets.dimensionBlocks ++ "\n" ++
  "    </th:block>\n" ++
  "\n" ++
  "    <th:block th:fragment=\"" ++ errorFragment ++ "\">\n" ++
  joined snippets.errorCards ++ "\n" ++
  "    </th:block>\n" ++
  "  </body>\n" ++
  "</html>\n"

end Snippets

end QualityBands

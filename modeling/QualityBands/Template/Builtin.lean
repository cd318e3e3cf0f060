/-!
The built-in templates: one block for a dimension score and one card for its errors.
-/

namespace QualityBands.Template

/-- The lines of the block that shows one dimension score. -/
def dimensionScoreLines : List String :=
  ["<!-- @@DIMENSION_NAME@@ -->",
   "<div>",
   "    <div class=\"flex justify-between items-center mb-2\">",
   "        <div>",
   "            <h4 class=\"text-lg font-bold text-gray-900\">@@LABEL_IT@@ (@@LABEL_EN@@)</h4>",
   "            <p class=\"text-sm text-gray-600\">@@DESCRIPTION_IT@@</p>",
   "        </div>",
   "        <div class=\"text-right\">",
   "            <span class=\"text-3xl font-bold\"",
   "                  th:classappend=\"$\x7b@@VAR@@ != null && @@VAR@@ >= @@THRESH_EXCELLENT@@ ? 'text-green-600' :",
   "                                  @@VAR@@ != null && @@VAR@@ >= @@THRESH_ACCEPTABLE@@ ? 'text-amber-600' :",
   "                                  'text-red-600'\x7d\"",
   "                  th:text=\"$\x7b#numbers.formatDecimal((@@VAR@@ != null ? @@VAR@@ : 0), 1, 1)\x7d + '%'\"><span>0.0%</span></span>",
   "            <p class=\"text-xs font-semibold\"",
   "               th:classappend=\"$\x7b@@VAR@@ != null && @@VAR@@ >= @@THRESH_EXCELLENT@@ ? 'text-green-600' :",
   "                               @@VAR@@ != null && @@VAR@@ >= @@THRESH_ACCEPTABLE@@ ? 'text-amber-600' :",
   "                               'text-red-600'\x7d\"><span th:text=\"$\x7b@@ERROR_VAR@@\x7d\">0</span> @@ERROR_LABEL_IT@@</p>",
   "        </div>",
   "    </div>",
   "    <div class=\"w-full bg-gray-200 rounded-full h-4\">",
   "        <div class=\"h-4 rounded-full\"",
   "             th:style=\"$\x7b'width: ' + (@@VAR@@ != null ? @@VAR@@ : 0) + '%'\x7d\"",
   "             th:classappend=\"$\x7b@@VAR@@ != null && @@VAR@@ >= @@THRESH_EXCELLENT@@ ? 'bg-green-600' :",
   "                             @@VAR@@ != null && @@VAR@@ >= @@THRESH_ACCEPTABLE@@ ? 'bg-amber-500' :",
   "                             'bg-red-600'\x7d\"></div>",
   "    </div>",
   "</div>"]

/-- The lines of the card that shows the errors of one dimension. -/
def errorCardLines : List String :=
  ["<!-- @@DIMENSION_NAME@@ Error Card -->",
   "<div class=\"rounded-lg p-6 border-2\"",
   "   th:with=\"severity=$\x7b@@ERROR_VAR@@ > @@THRESH_CRITICAL@@ ? 'critical' : @@ERROR_VAR@@ > @@THRESH_HIGH@@ ? 'high' : @@ERROR_VAR@@ > @@THRESH_MEDIUM@@ ? 'medium' : 'low'\x7d\"",
   "   th:classappend=\"$\x7bseverity == 'critical' ? 'bg-red-50 border-red-200' :",
   "           severity == 'high' ? 'bg-orange-50 border-orange-200' :",
   "           severity == 'medium' ? 'bg-yellow-50 border-yellow-200' :",
   "           'bg-green-50 border-green-200'\x7d\">",
   "  <div class=\"flex justify-between items-start mb-4\">",
   "    <div>",
   "      <p class=\"text-sm font-semibold\"",
   "         th:classappend=\"$\x7bseverity == 'critical' ? 'text-red-800' :",
   "                 severity == 'high' ? 'text-orange-800' :",
   "                 severity == 'medium' ? 'text-yellow-800' :",
   "                 'text-green-800'\x7d\">@@DIMENSION_LABEL@@</p>",
   "      <p class=\"text-xs mt-1\"",
   "         th:classappend=\"$\x7bseverity == 'critical' ? 'text-red-600' :",
   "                 severity == 'high' ? 'text-orange-600' :",
   "                 severity == 'medium' ? 'text-yellow-600' :",
   "                 'text-green-600'\x7d\"",
   "         th:text=\"$\x7bseverity == 'critical' ? '@@LABEL_CRITICAL_IT@@' :",
   "             severity == 'high' ? '@@LABEL_HIGH_IT@@' :",
   "             severity == 'medium' ? '@@LABEL_MEDIUM_IT@@' :",
   "             '@@LABEL_LOW_IT@@'\x7d\">@@SUBTITLE_FALLBACK_IT@@</p>",
   "    </div>",
   "    <span class=\"text-3xl font-bold\"",
   "        th:classappend=\"$\x7bseverity == 'critical' ? 'text-red-600' :",
   "                severity == 'high' ? 'text-orange-600' :",
   "                severity == 'medium' ? 'text-yellow-600' :",
   "                'text-green-600'\x7d\"",
   "        th:text=\"$\x7b@@ERROR_VAR@@\x7d\">0</span>",
   "  </div>",
   "  <div class=\"w-full rounded-full h-3\"",
   "     th:classappend=\"$\x7bseverity == 'critical' ? 'bg-red-200' :",
   "             severity == 'high' ? 'bg-orange-200' :",
   "             severity == 'medium' ? 'bg-yellow-200' :",
   "             'bg-green-200'\x7d\">",
   "    <div class=\"h-3 rounded-full\"",
   "       th:classappend=\"$\x7bseverity == 'critical' ? 'bg-red-600' :",
   "               severity == 'high' ? 'bg-orange-600' :",
   "               severity == 'medium' ? 'bg-yellow-600' :",
   "               'bg-green-600'\x7d\"",
   "       th:style=\"$\x7b'width: ' + (maxCnt > 0 ? ((@@ERROR_VAR@@ * 100.0) / maxCnt) : 0) + '%'\x7d\" style=\"width: 100%\"></div>",
   "  </div>",
   "    <p class=\"text-xs mt-2\"",
   "     th:classappend=\"$\x7bseverity == 'critical' ? 'text-red-700' :",
   "             severity == 'high' ? 'text-orange-700' :",
   "             severity == 'medium' ? 'text-yellow-700' :",
   "             'text-green-700'\x7d\"><span th:text=\"$\x7bqualityResults.totalErrors > 0 ? #numbers.formatDecimal((@@ERROR_VAR@@ * 100.0) / qualityResults.totalErrors, 1, 1) : '0.0'\x7d\">62.5</span>% degli errori totali</p>",
   "    </div>"]

def ofLines (lines : List String) : String := String.join (lines.map (· ++ "\n"))

def builtinDimensionScore : String := ofLines dimensionScoreLines

def builtinErrorCard : String := ofLines errorCardLines

end QualityBands.Template

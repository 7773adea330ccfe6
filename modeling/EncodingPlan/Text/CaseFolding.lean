import EncodingPlan.Text.CaseFoldingTable

/-! Characters that count as equal when letter case is ignored: those with one representative. -/

namespace EncodingPlan.Text

/-- The set with all characters that differ from a member in letter case only. -/
def anyCase (table : CodeTable) : CodeTable := table.closeUnder foldRuns

/-- The same among ASCII letters. -/
def anyAsciiCase (table : CodeTable) : CodeTable := table.closeUnder [(0x41, 0x5A, 1, 0x61)]

end EncodingPlan.Text

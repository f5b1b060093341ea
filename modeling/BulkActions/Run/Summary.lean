import BulkActions.Run.Samples
import BulkActions.Settings.Basic

/-! The log of a finished job: a headline, the first error lines, and how many more there are. -/

namespace BulkActions.Run

/-- Cuts a text to at most `limit` characters; where there is room for them, three dots take the
place of the last ones. -/
def truncate (limit : Nat) (cs : List Char) : List Char :=
  if cs.length ≤ limit then cs
  else if limit ≤ 3 then cs.take limit
  else cs.take (limit - 3) ++ ['.', '.', '.']

/-- The whole text before it is cut. -/
def fullSummary (headline : String) (lines : List String) (maxLines : Nat) : String :=
  let shown := lines.take maxLines
  let quoted := if shown.isEmpty then headline else headline ++ ": " ++ "; ".intercalate shown
  let hidden := lines.length - shown.length
  if hidden = 0 then quoted else quoted ++ s!" (and {hidden} more)"

/-- Nothing is logged where nothing failed. -/
def summary (failed : Nat) (headline : String) (samples : Samples) (settings : SummarySettings) :
    Option String :=
  if failed = 0 then none
  else
    let full := fullSummary headline samples.lines settings.maxErrorLines
    some (String.ofList (truncate settings.maxLogChars full.toList))

theorem length_truncate (limit : Nat) (cs : List Char) :
    (truncate limit cs).length = min cs.length limit := by
  unfold truncate
  split
  · omega
  · split
    · simp only [List.length_take]; omega
    · simp only [List.length_append, List.length_take, List.length_cons, List.length_nil]; omega

theorem length_le_of_summary {failed : Nat} {headline log : String} {samples : Samples}
    {settings : SummarySettings} (logged : summary failed headline samples settings = some log) :
    log.length ≤ settings.maxLogChars := by
  unfold summary at logged
  split at logged
  · cases logged
  · rw [← Option.some.inj logged, String.length_ofList, length_truncate]
    exact Nat.min_le_right _ _

end BulkActions.Run

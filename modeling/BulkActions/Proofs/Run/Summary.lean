import BulkActions.Run.Summary

/-! What the log of a job says. The full text is the headline, the lines it quotes and the number of
those it does not. A text that is too long keeps its first characters, and shows by three dots that it
was cut wherever there is room for more than the dots. -/

namespace BulkActions.Run

/-- What follows the headline: the lines that are shown, if any. -/
def quotation (shown : List String) : String :=
  if shown = [] then "" else ": " ++ "; ".intercalate shown

/-- What closes the text: how many lines are not shown, if any. -/
def remainder (hidden : List String) : String :=
  if hidden = [] then "" else s!" (and {hidden.length} more)"

/-- Three dots in the place of the last characters, where there are more than three. -/
def dotted (cs : List Char) : List Char :=
  if 3 < cs.length then cs.take (cs.length - 3) ++ ['.', '.', '.'] else cs

theorem fullSummary_eq (headline : String) (lines : List String) (maxLines : Nat) :
    fullSummary headline lines maxLines =
      headline ++ quotation (lines.take maxLines) ++ remainder (lines.drop maxLines) := by
  have hidden : lines.length - (lines.take maxLines).length = (lines.drop maxLines).length := by
    rw [List.length_take, List.length_drop]
    omega
  have quoted : (if (lines.take maxLines).isEmpty then headline
      else headline ++ ": " ++ "; ".intercalate (lines.take maxLines)) =
        headline ++ quotation (lines.take maxLines) := by
    by_cases unquoted : lines.take maxLines = []
    · simp [quotation, unquoted]
    · simp [quotation, unquoted, String.append_assoc]
  simp only [fullSummary, hidden, quoted]
  by_cases complete : lines.drop maxLines = []
  · simp [remainder, complete]
  · simp only [remainder, complete, List.length_eq_zero_iff, if_false]

theorem truncate_of_le {limit : Nat} {cs : List Char} (fits : cs.length ≤ limit) :
    truncate limit cs = cs := if_pos fits

theorem truncate_of_lt {limit : Nat} {cs : List Char} (long : limit < cs.length) :
    truncate limit cs = dotted (cs.take limit) := by
  have kept : (cs.take limit).length = limit := List.length_take_of_le (Nat.le_of_lt long)
  rw [truncate, if_neg (Nat.not_le.mpr long), dotted, kept]
  by_cases tiny : limit ≤ 3
  · rw [if_pos tiny, if_neg (Nat.not_lt.mpr tiny)]
  · rw [if_neg tiny, if_pos (Nat.not_le.mp tiny), List.take_take, Nat.min_eq_left (Nat.sub_le _ _)]

/-- Where something failed there is a log, and it has the characters of the full text, but no more than
its limit. A text that fits is the log. Of one that does not fit, the log is as many characters from
its start as the limit allows, the last three of them dots if the limit is more than three. -/
theorem summary_is_full_or_cut {failed : Nat} (failures : 0 < failed) (headline : String)
    (samples : Samples) (settings : SummarySettings) :
    let full := headline ++ quotation (samples.lines.take settings.maxErrorLines) ++
      remainder (samples.lines.drop settings.maxErrorLines)
    ∃ log, summary failed headline samples settings = some log ∧
      log.length = min full.length settings.maxLogChars ∧
      (full.length ≤ settings.maxLogChars → log = full) ∧
      (settings.maxLogChars < full.length → ∃ kept, kept <+: full.toList ∧
        kept.length = settings.maxLogChars ∧ log.toList = dotted kept) := by
  intro full
  have logged : summary failed headline samples settings =
      some (String.ofList (truncate settings.maxLogChars full.toList)) := by
    rw [summary, if_neg (Nat.ne_of_gt failures), fullSummary_eq]
  refine ⟨_, logged, ?_, ?_, ?_⟩
  · rw [String.length_ofList, length_truncate, String.length_toList]
  · intro fits
    rw [← String.length_toList] at fits
    rw [truncate_of_le fits, String.ofList_toList]
  · intro long
    rw [← String.length_toList] at long
    refine ⟨full.toList.take settings.maxLogChars, List.take_prefix _ _, ?_, ?_⟩
    · exact List.length_take_of_le (Nat.le_of_lt long)
    · rw [String.toList_ofList, truncate_of_lt long]

/-- Two lines of three are shown, and of the 31 characters of the text, 37 bytes, there is room for 20.
The dots stand in the place of the last three of these. -/
theorem summary_is_full_or_cut_accented :
    0 < 2 ∧ ∃ log kept, summary 2 "2 échecs" ⟨["Ω ≠ ω", "ß", "ü"], 5⟩ ⟨2, 20⟩ = some log ∧
      log.length = 20 ∧ kept <+: "2 échecs: Ω ≠ ω; ß (and 1 more)".toList ∧ kept.length = 20 ∧
      log.toList = dotted kept ∧ log = "2 échecs: Ω ≠ ω; ..." := by
  have failures : 0 < 2 := by decide
  obtain ⟨log, logged, length, -, cut⟩ := summary_is_full_or_cut failures "2 échecs"
    ⟨["Ω ≠ ω", "ß", "ü"], 5⟩ ⟨2, 20⟩
  obtain ⟨kept, starts, many, dots⟩ := cut (by decide)
  refine ⟨failures, log, kept, logged, length, starts, many, dots, ?_⟩
  exact (Option.some.inj logged).symm

end BulkActions.Run

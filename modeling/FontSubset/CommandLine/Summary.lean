import FontSubset.CommandLine.Paint
import FontSubset.Report.Table
/-! The summary of a report: the table, what failing tools had to say, and the totals. -/
namespace FontSubset.CommandLine.Summary

def cross (colored : Bool) : String := Paint.red.on colored "✗"

def detail? (colored : Bool) (file : FileReport) : Option String :=
  match file.outcome with
  | .failed _ stderr =>
    if stderr.isEmpty then none
    else some (cross colored ++ " " ++ Paint.bold.on colored file.font.display ++ "\n" ++
      stderr ++ "\n\n")
  | .succeeded _ | .spawnFailed _ | .timedOut _ | .skipped => none

def details (colored : Bool) (report : Report) : List String :=
  report.files.filterMap (detail? colored)

def total (mark : String) (count : Nat) (what : String) : String :=
  "  " ++ mark ++ " " ++ toString count ++ " " ++ what ++ "\n"

/-- Failures are counted only if there are any. -/
def totals (colored : Bool) (report : Report) : String :=
  if report.dryRun then
    total (Paint.yellow.on colored "○") report.skipped "fonts would be subset (dry run)"
  else
    total (Paint.green.on colored "✓") report.succeeded "subset" ++
      (if report.failed > 0 then total (cross colored) report.failed "failed" else "")

def render (colored : Bool) (report : Report) : String :=
  if report.files.isEmpty then Paint.yellow.on colored "No .ttf files found" ++ "\n"
  else report.table ++ "\n\n" ++ String.join (details colored report) ++ totals colored report

end FontSubset.CommandLine.Summary

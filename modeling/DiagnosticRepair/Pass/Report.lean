import DiagnosticRepair.Diagnostic.Basic
import DiagnosticRepair.Log.Journal

namespace DiagnosticRepair

structure Report where
  tool : Text
  clean : Bool
  journal : Journal
  diagnostics : List Diagnostic
  remaining : List Diagnostic
  finalOutput : Option Text
  limit : Int

namespace Report

def numTouched (report : Report) : Nat :=
  report.journal.touched.length

def numRemaining (report : Report) : Nat :=
  report.remaining.length

def upTo {α : Type} (limit : Int) (items : List α) : List α :=
  items.take (if limit < 0 then (Int.ofNat items.length + limit).toNat else limit.toNat)

def verdict (report : Report) : List Text :=
  if report.clean then [report.tool ++ ": clean, nothing to fix."]
  else if report.finalOutput.isNone then [report.tool ++ ": all issues resolved."]
  else
    (report.tool ++ ": " ++ Text.ofNat report.numRemaining
        ++ " diagnostic(s) remain (may require manual review)")
      :: (upTo report.limit report.remaining).map ("  " ++ ·.render)

def summary (report : Report) : Text :=
  Text.join ['\n'] <|
    (report.tool ++ ": fixed files " ++ Text.ofNat report.numTouched) :: report.verdict

end Report

end DiagnosticRepair

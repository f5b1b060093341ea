import BulkActions.Decode.Document
import BulkActions.Path.Evaluate

/-! What testing a path against a sample document reports. -/

namespace BulkActions.Path

open Decode

/-- The report of one test. Nothing ties the error to failure when a report is read. -/
structure Verdict where
  success : Bool
  error : Option String
  deriving DecidableEq, Repr

/-- A crash leaves no report. -/
def Verdict.ofTest? : Except Stop Unit → Option Verdict
  | .ok _ => some ⟨true, none⟩
  | .error (.refused e) => some ⟨false, some e.reason⟩
  | .error .crashed => none

def Verdict.decoder : Decoder Document Verdict :=
  Record.decoder "PathTestResult" (Verdict.mk
    <$> .required "success" truth
    <*> .optional "error" (option text))

def Verdict.toJson (v : Verdict) : Json :=
  .obj (("success", .bool v.success) :: Assoc.optional "error" (v.error.map Json.str))

end BulkActions.Path

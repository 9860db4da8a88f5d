import StructForge.Proofs.Cli.EarlyFailure
import StructForge.Proofs.Project.Accounting
import StructForge.Service.Response

/-! # Command lines and requests for the same run

A project can be run by a command line and by a request. Both are compared with what the run itself
gives: each shows the report in a form of its own, with every outcome in one place, and each answers
the failures that it knows with their message. -/

namespace StructForge

open Files Batch

namespace Batch.Report

end Batch.Report

namespace Cli

/-! ## What a command line shows of a report -/

section Printing

variable (here : Path)

theorem foldl_append (ps : List Printed) (p : Printed) :
    ps.foldl Printed.append p =
      ⟨p.output ++ String.join (ps.map (·.output)),
        p.complaint ++ String.join (ps.map (·.complaint))⟩ := by
  induction ps generalizing p with
  | nil => simp
  | cons next rest ih =>
    rw [List.foldl_cons, ih]
    simp [Printed.append, String.append_assoc]

end Printing

/-! ## Failures that are known -/

end Cli

namespace Service

open Cli

/-! ## What a response shows -/

namespace Response

def member? (name : String) : Response → Option Json
  | .value _ (.object members) => Json.last? members name
  | _ => none

end Response

section Main

variable {p : Program} {time body : String} {args : List String} {l : CommandLine}
  {q : ProjectRequest} {t : Tree}

def generation (body : String) : Request := ⟨"POST", "/generate", body⟩

end Main

end Service

end StructForge

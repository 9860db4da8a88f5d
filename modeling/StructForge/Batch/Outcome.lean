import StructForge.Fault
import StructForge.Files.Path
import StructForge.Schema.FieldSet
import StructForge.Schema.Target

/-! # Outcomes

Every candidate of a batch ends in one of six ways, and a class that could not be described in a
seventh. A report lists the outcomes in the order of the candidates. -/

namespace StructForge.Batch

open Files Schema

/-- How a candidate ends. -/
inductive Outcome where
  | undescribed (source error : String)
  | unnamed (source error : String)
  | unrendered (source : String) (target : Target) (dropped : List Dropped) (error : String)
  | skipped (source : String) (target : Target) (dropped : List Dropped)
  | previewed (source : String) (target : Target) (dropped : List Dropped) (path : Path)
      (text : String)
  | unwritten (source : String) (target : Target) (dropped : List Dropped) (text error : String)
  | written (source : String) (target : Target) (dropped : List Dropped) (path : Path)
      (text : String)
  deriving DecidableEq, Repr

inductive Status where
  | written
  | previewed
  | skipped
  | failed
  deriving DecidableEq, Repr

def Status.name : Status → String
  | .written => "written"
  | .previewed => "previewed"
  | .skipped => "skipped"
  | .failed => "failed"

namespace Outcome

def status : Outcome → Status
  | .undescribed .. | .unnamed .. | .unrendered .. | .unwritten .. => .failed
  | .skipped .. => .skipped
  | .previewed .. => .previewed
  | .written .. => .written

def source : Outcome → String
  | .undescribed source _ | .unnamed source _ | .unrendered source .. | .skipped source ..
  | .previewed source .. | .unwritten source .. | .written source .. => source

def target? : Outcome → Option Target
  | .undescribed .. | .unnamed .. => none
  | .unrendered _ target .. | .skipped _ target _ | .previewed _ target ..
  | .unwritten _ target .. | .written _ target .. => some target

def dropped : Outcome → List Dropped
  | .undescribed .. | .unnamed .. => []
  | .unrendered _ _ dropped _ | .skipped _ _ dropped | .previewed _ _ dropped ..
  | .unwritten _ _ dropped .. | .written _ _ dropped .. => dropped

def path? : Outcome → Option Path
  | .previewed _ _ _ path _ | .written _ _ _ path _ => some path
  | _ => none

def text? : Outcome → Option String
  | .previewed _ _ _ _ text | .written _ _ _ _ text | .unwritten _ _ _ text _ => some text
  | _ => none

def error? : Outcome → Option String
  | .undescribed _ error | .unnamed _ error | .unrendered _ _ _ error
  | .unwritten _ _ _ _ error => some error
  | _ => none

end Outcome

structure Report where
  outcomes : List Outcome
  deriving DecidableEq, Repr

namespace Report

def withStatus (r : Report) (s : Status) : List Outcome := r.outcomes.filter (·.status = s)

def written (r : Report) : List Outcome := r.withStatus .written

def previewed (r : Report) : List Outcome := r.withStatus .previewed

def skipped (r : Report) : List Outcome := r.withStatus .skipped

def failed (r : Report) : List Outcome := r.withStatus .failed

def isOk (r : Report) : Bool := r.failed.isEmpty

def failureMessage (r : Report) : String :=
  let names := ", ".intercalate (r.failed.map (·.source))
  s!"Generation failed for: {names}"

def fault? (r : Report) : Option Fault :=
  if r.isOk then none else some ⟨.generation, r.failureMessage⟩

end Report

/-- How a batch is concluded: its report is returned, or raised with a failure. -/
inductive Conclusion where
  | returned (report : Report)
  | raised (fault : Fault) (report : Report)
  deriving DecidableEq, Repr

def Conclusion.report : Conclusion → Report
  | .returned report | .raised _ report => report

def Conclusion.raised? : Conclusion → Option Fault
  | .returned _ => none
  | .raised f _ => some f

def Report.conclude (r : Report) (raiseOnError : Bool) : Conclusion :=
  match r.fault? with
  | some f => if raiseOnError then .raised f r else .returned r
  | none => .returned r

end StructForge.Batch

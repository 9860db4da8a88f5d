/-! # Failures

A failure that leaves an operation has a kind, which callers use to decide whether they handle it,
and a message. The kinds form a small hierarchy, given by the predicates below. -/

namespace StructForge

/-- The errors of the file system, with the number that each is known by. -/
inductive OsErrorKind where
  | notFound
  | exists
  | notDirectory
  | isDirectory
  | nameTooLong
  | permission
  | noSpace
  deriving DecidableEq, Repr

inductive FaultKind where
  | badValue
  | badText
  | badType
  | badIndex
  | missingKey
  | missingAttribute
  | overflow
  | exhausted
  | outOfMemory
  | notImportable
  | missingModule
  | badState
  | disposed
  | configuration
  | emission
  | generation
  | missingTemplate
  | templateForm
  | undefinedName
  | unboundName
  | os (kind : OsErrorKind)
  deriving DecidableEq, Repr

structure Fault where
  kind : FaultKind
  message : String
  deriving DecidableEq, Repr

namespace FaultKind

/-- Failures of reading a value, undecodable text among them. -/
def isBadValue : FaultKind → Bool
  | .badValue | .badText => true
  | _ => false

def isImport : FaultKind → Bool
  | .notImportable | .missingModule => true
  | _ => false

def isBadState : FaultKind → Bool
  | .badState | .disposed | .configuration | .emission | .generation => true
  | _ => false

def isTemplate : FaultKind → Bool
  | .missingTemplate | .templateForm | .undefinedName => true
  | _ => false

def isOs : FaultKind → Bool
  | .os _ => true
  | _ => false

end FaultKind

end StructForge

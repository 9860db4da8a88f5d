/-! # Balanced text

A text is balanced when each bracket in it is closed by one of its kind and each quoted part is
closed: a part in single quotes of either kind on its own line, a part in triple quotes anywhere.
Comments run to the end of their line. -/

namespace StructForge.Text

/-- Where a reader of brackets and quotes stands. -/
inductive Reading where
  | code
  | comment
  | line (quote : Char)
  | block (quote : Char)
  deriving DecidableEq, Repr

/-- The bracket that a closing bracket closes. -/
def opening? : Char → Option Char
  | ')' => some '('
  | ']' => some '['
  | '\x7d' => some '\x7b'
  | _ => none

/-- Reads on with the brackets that are still open, the innermost first. -/
def balancedFrom : Reading → List Char → List Char → Bool
  | .code, stack, [] | .comment, stack, [] => stack.isEmpty
  | .line _, _, [] | .block _, _, [] => false
  | .comment, stack, c :: rest => balancedFrom (if c = '\n' then .code else .comment) stack rest
  | .line quote, stack, '\\' :: _ :: rest => balancedFrom (.line quote) stack rest
  | .line quote, stack, c :: rest =>
    if c = '\n' then false
    else balancedFrom (if c = quote then .code else .line quote) stack rest
  | .block quote, stack, '\\' :: _ :: rest => balancedFrom (.block quote) stack rest
  | .block quote, stack, a :: b :: c :: rest =>
    if a = quote ∧ b = quote ∧ c = quote then balancedFrom .code stack rest
    else balancedFrom (.block quote) stack (b :: c :: rest)
  | .block quote, stack, _ :: rest => balancedFrom (.block quote) stack rest
  | .code, stack, c :: rest =>
    if c = '#' then balancedFrom .comment stack rest
    else if c = '\x22' ∨ c = '\x27' then
      match rest with
      | a :: b :: after =>
        if a = c ∧ b = c then balancedFrom (.block c) stack after
        else balancedFrom (.line c) stack (a :: b :: after)
      | rest => balancedFrom (.line c) stack rest
    else if c = '(' ∨ c = '[' ∨ c = '\x7b' then balancedFrom .code (c :: stack) rest
    else match opening? c, stack with
      | none, stack => balancedFrom .code stack rest
      | some o, top :: stack => o == top && balancedFrom .code stack rest
      | some _, [] => false

def isBalanced (s : String) : Bool := balancedFrom .code [] s.toList

end StructForge.Text

/-! # Templates

A template is text with expressions to print and with blocks that choose between texts or repeat
them. Its values are texts, numbers, flags, tuples and records; a name or attribute that does not
exist has a value of its own, which prints as nothing. -/

namespace StructForge.Template

/-- Values that a template works on. A missing value knows what to say when it is asked for more. -/
inductive Value where
  | text (s : String)
  | number (n : Nat)
  | flag (b : Bool)
  | tuple (items : List Value)
  | record (type : String) (fields : List (String × Value))
  | missing (reason : String)
  deriving Repr

instance : Inhabited Value := ⟨.missing ""⟩

inductive Expr where
  | name (s : String)
  | text (s : String)
  | number (n : Nat)
  | flag (b : Bool)
  | attribute (e : Expr) (name : String)
  | item (e index : Expr)
  | filter (e : Expr) (name : String)
  | filterWith (e : Expr) (name : String) (argument : Expr)
  | negation (e : Expr)
  | equal (a b : Expr)
  | both (a b : Expr)
  | either (a b : Expr)
  deriving Repr, Inhabited

/-- Parts of a template. A choice runs its first part if the condition holds and its second one if
not; a repetition runs its second part if there is nothing to repeat. -/
inductive Node where
  | text (s : String)
  | print (e : Expr)
  | choice (condition : Expr) (yes no : List Node)
  | repetition (names : List String) (items : Expr) (body empty : List Node)
  deriving Repr

instance : Inhabited Node := ⟨.text ""⟩

end StructForge.Template

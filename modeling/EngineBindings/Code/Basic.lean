import EngineBindings.Number.Numeral
import EngineBindings.Text.Segment

/-! Emitted code as data.

Bodies of emitted functions are short: they box arguments, call the engine and unwrap the
result. Their statements and expressions are kept as data until the last step, so that one can
ask which names an expression reads (`Expr.reads`) and which a statement binds (`Stmt.binds?`);
`Expr.text` and `Stmt.lines` give the text. -/
namespace EngineBindings.Code

mutual

/-- An expression. -/
inductive Expr where
  /-- A name, possibly dotted, as it is written. -/
  | name (path : String)
  /-- A literal as it is written; it reads no name. -/
  | literal (text : String)
  | attr (target : Expr) (field : String)
  | call (callee : Expr) (arguments : Arguments)
  | item (target : Expr) (index : Nat)
  /-- A fixed number of cells of one type, in parentheses. -/
  | cells (type : Expr) (count : Nat)
  | isNone (subject : Expr)
  /-- The first operand, or the second where the first is empty. -/
  | orElse (first second : Expr)
  /-- The first operand where the condition holds, else the last. -/
  | choose (value condition otherwise : Expr)

/-- Arguments of a call, each with an optional keyword. -/
inductive Arguments where
  | nil
  | cons (keyword : Option String) (value : Expr) (rest : Arguments)

end

/-- Arguments without keywords. -/
def Arguments.ofList : List Expr → Arguments
  | [] => .nil
  | e :: rest => .cons none e (ofList rest)

/-- A statement. -/
inductive Stmt where
  | assign (target : String) (value : Expr)
  | exec (value : Expr)
  | result (value : Expr)
  | pass
  /-- Ends the function where a value is empty. -/
  | stopUnless (value : Expr)
  /-- Ends the function where a value is missing. -/
  | stopIfNone (value : Expr)

namespace Expr

/-- A call with positional arguments. -/
def invoke (callee : Expr) (arguments : List Expr) : Expr :=
  call callee (.ofList arguments)

/-- A call of a named function with positional arguments. -/
def apply (callee : String) (arguments : List Expr) : Expr :=
  invoke (name callee) arguments

/-- A name of the module of native types. -/
def native (field : String) : Expr :=
  attr (name "ctypes") field

/-- The missing value. -/
def none : Expr := literal "None"

end Expr

/-! ### Text -/

mutual

/-- The text of an expression. -/
def Expr.text : Expr → String
  | .name path => path
  | .literal text => text
  | .attr target field => target.text ++ "." ++ field
  | .call callee arguments => callee.text ++ "(" ++ Text.join ", " arguments.texts ++ ")"
  | .item target index => target.text ++ "[" ++ Number.decimal index ++ "]"
  | .cells type count => "(" ++ type.text ++ " * " ++ Number.decimal count ++ ")"
  | .isNone subject => subject.text ++ " is None"
  | .orElse first second => "(" ++ first.text ++ " or " ++ second.text ++ ")"
  | .choose value condition otherwise =>
    value.text ++ " if " ++ condition.text ++ " else " ++ otherwise.text

/-- The texts of arguments. -/
def Arguments.texts : Arguments → List String
  | .nil => []
  | .cons .none value rest => value.text :: rest.texts
  | .cons (some keyword) value rest => (keyword ++ "=" ++ value.text) :: rest.texts

end

/-- The lines of a statement. -/
def Stmt.lines : Stmt → List String
  | .assign target value => [target ++ " = " ++ value.text]
  | .exec value => [value.text]
  | .result value => ["return " ++ value.text]
  | .pass => ["pass"]
  | .stopUnless value => ["if not " ++ value.text ++ ":", "    return"]
  | .stopIfNone value => ["if " ++ value.text ++ " is None:", "    return"]

/-- The lines of statements one after another. -/
def linesOf (body : List Stmt) : List String :=
  body.flatMap Stmt.lines

/-! ### Names -/

/-- The name that a dotted path starts from. -/
def root (path : String) : String :=
  String.ofList (path.toList.takeWhile (· ≠ '.'))

mutual

/-- The names that an expression reads, in order. -/
def Expr.reads : Expr → List String
  | .name path => [root path]
  | .literal _ => []
  | .attr target _ => target.reads
  | .call callee arguments => callee.reads ++ arguments.reads
  | .item target _ => target.reads
  | .cells type _ => type.reads
  | .isNone subject => subject.reads
  | .orElse first second => first.reads ++ second.reads
  | .choose value condition otherwise => condition.reads ++ value.reads ++ otherwise.reads

/-- The names that arguments read, in order. -/
def Arguments.reads : Arguments → List String
  | .nil => []
  | .cons _ value rest => value.reads ++ rest.reads

end

/-- The names that a statement reads. -/
def Stmt.reads : Stmt → List String
  | .assign _ value => value.reads
  | .exec value => value.reads
  | .result value => value.reads
  | .pass => []
  | .stopUnless value => value.reads
  | .stopIfNone value => value.reads

/-- The name that a statement binds. -/
def Stmt.binds? : Stmt → Option String
  | .assign target _ => some target
  | _ => none

end EngineBindings.Code

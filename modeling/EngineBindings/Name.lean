import EngineBindings.Insertion
import EngineBindings.Json.Basic
import EngineBindings.Text.Identifier

/-! Names of declarations.

A name is a text. A document may put another value in a name's place all the same, and such a
name is carried along as it is written: it can be shown, it may be told apart from others and
looked up, but only a text can become an identifier. Names are the same where their keys are, so
that a number is one name however it is written, and an object is one however its fields are
ordered. -/
namespace EngineBindings

/-- A name as the document writes it. -/
structure Name where
  value : Json

namespace Name

instance : Coe String Name := ⟨fun text => ⟨.str text⟩⟩

instance : Inhabited Name := ⟨⟨.null⟩⟩

/-- The text that a name is, if it is one. -/
def text? (n : Name) : Option String := n.value.text?

/-- A name inside a text. -/
def display (n : Name) : String := n.value.display

/-- A name as a table spells it. -/
def literal (n : Name) : String := n.value.literal

/-- Lists and objects, which nothing can be looked up by. -/
def isComposite (n : Name) : Bool := n.value.isComposite

/-- Whether a name counts as given. -/
def isGiven (n : Name) : Bool := n.value.isTruthy

/-! ### Identity -/

/-- What tells a name apart from others. -/
inductive Key where
  | text (text : String)
  /-- A number or a truth value, in units of the least positive floating point number. -/
  | number (units : Int)
  | other (literal : String)
  deriving DecidableEq

/-- The number that a value stands for, if it stands for one. -/
def units? : Json → Option Int
  | .bool b => some (Number.Binary64.unitsOfInt (if b then 1 else 0))
  | .int n => some (Number.Binary64.unitsOfInt n)
  | .float x => x.units?
  | _ => none

mutual

/-- A value in the one form that stands for all its equals: numbers that are whole as whole
numbers, the fields of an object in ascending order. -/
def canonical : Json → Json
  | .bool b => .int (if b then 1 else 0)
  | .float x => if x.isWhole then .int x.truncate else .float x
  | .arr items => .arr (canonicals items)
  | .obj fields => .obj ((canonicalFields fields).mergeSort fun a b => decide (a.1 ≤ b.1))
  | other => other

/-- The canonical forms of several values. -/
def canonicals : List Json → List Json
  | [] => []
  | item :: rest => canonical item :: canonicals rest

/-- The canonical forms of fields. -/
def canonicalFields : List (String × Json) → List (String × Json)
  | [] => []
  | (key, value) :: rest => (key, canonical value) :: canonicalFields rest

end

/-- The key of a name. -/
def key (n : Name) : Key :=
  match n.value with
  | .str text => .text text
  | value =>
    match units? value with
    | some units => .number units
    | none => .other (canonical value).literal

instance : BEq Name := ⟨fun a b => decide (a.key = b.key)⟩

theorem beq_iff (a b : Name) : (a == b) = true ↔ a.key = b.key :=
  decide_eq_true_iff

instance : EquivBEq Name where
  rfl := by simp [beq_iff]
  symm h := by simpa [beq_iff] using ((beq_iff _ _).1 h).symm
  trans h g := by simpa [beq_iff] using ((beq_iff _ _).1 h).trans ((beq_iff _ _).1 g)

/-- Texts are the same name where they are the same text. -/
theorem beq_text (s t : String) : ((s : Name) == (t : Name)) = decide (s = t) := by
  rw [Bool.eq_iff_iff, beq_iff]
  simp [key]

/-- Whether a name is the number that is none. -/
def isNaN (n : Name) : Bool :=
  match n.value with
  | .float x => x.isNaN
  | _ => false

/-- Whether a name equals another one. What is no number equals nothing, not even itself, although
it is found where names are looked up. -/
def equals (a b : Name) : Bool :=
  a == b && !a.isNaN

/-- A name that something is looked up by. -/
def keyed (n : Name) : Except ValueFault Name :=
  if n.isComposite then .error .compositeName else .ok n

/-! ### Identifiers -/

/-- A name as an identifier. One that is not given counts as the empty text; of the others only
texts have one. -/
def sanitize (n : Name) : Except ValueFault String :=
  match n.text? with
  | some text => .ok (Text.sanitize text)
  | none => if n.isGiven then .error .notText else .ok (Text.sanitize "")

theorem sanitize_text (s : String) : sanitize (s : Name) = .ok (Text.sanitize s) := rfl

/-! ### Order -/

/-- Whether a name comes before another one of its kind. What is no number has no place: it comes
before no other, and no other before it. -/
def isBefore (a b : Name) : Bool :=
  match a.key, b.key with
  | .text s, .text t => decide (s < t)
  | .number m, .number n => decide (m < n)
  | _, _ => false

/-- Whether names have an order: texts among each other, and numbers among each other. -/
def haveOrder (names : List Name) : Bool :=
  names.length ≤ 1 ||
    names.all (fun n => n.key matches .text _) ||
    names.all fun n => n.isNaN || n.key matches .number _

/-- Items in ascending order of their names. -/
def sortBy (name : α → Name) (items : List α) : Except ValueFault (List α) :=
  let before (a b : α) : Bool := isBefore (name a) (name b)
  if !haveOrder (items.map name) then .error .unorderedNames
  else if items.any fun item => (name item).isNaN then .ok (sortByInsertion before items)
  else .ok (items.mergeSort fun a b => !before b a)

/-- Distinct names in ascending order. -/
def sortDistinct (names : List Name) : Except ValueFault (List Name) :=
  sortBy id names.eraseDups

end Name

end EngineBindings

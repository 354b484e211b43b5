import EngineBindings.Json.Basic

/-! Handles that the engine is asked for on first use.

A handle is known by a key. The engine answers with a number, an address or nothing; an answer
that counts as given is kept and the engine is not asked again. An answer that does not leaves
the handle unresolved, and so does a failure of the engine. -/
namespace EngineBindings

/-- What the engine answers when it is asked for a handle. -/
inductive EngineAnswer where
  | value (value : Json)
  /-- An address; zero is no address. -/
  | address (address : Nat)
  | failure (message : String)

/-- A handle, and what has come of asking for it. -/
structure LazyHandle where
  key : List Json
  handle : Option Int := none
  /-- How many times the engine has been asked. -/
  asked : Nat := 0

namespace LazyHandle

/-- A key inside messages. -/
def keyText (b : LazyHandle) : String :=
  Text.tuple (b.key.map Json.literal)

/-- Whether the handle is known. -/
def isResolved (b : LazyHandle) : Bool :=
  b.handle.isSome

/-- The handle as a reader sees it. -/
def text (b : LazyHandle) : String :=
  "LazyBinding(" ++ b.keyText ++ ", resolved=" ++ (if b.isResolved then "True" else "False") ++ ")"

/-- The number that an answer gives for a handle. -/
def accept (b : LazyHandle) : EngineAnswer → Except Fault Int
  | .failure message => .error (.engine message)
  | .address address =>
    if address = 0 then .error (.slot (.noBinding b.keyText)) else .ok address
  | .value value =>
    if value.isTruthy then value.integer.mapError .value
    else .error (.slot (.noBinding b.keyText))

/-- Resolves the handle. `engine n` is the answer to the question number `n`, from zero on; it is
looked at only while the handle is unknown. -/
def resolve (engine : Nat → EngineAnswer) (b : LazyHandle) : LazyHandle × Except Fault Int :=
  match b.handle with
  | some handle => (b, .ok handle)
  | none =>
    let asked := { b with asked := b.asked + 1 }
    match b.accept (engine b.asked) with
    | .ok handle => ({ asked with handle := some handle }, .ok handle)
    | .error fault => (asked, .error fault)

end LazyHandle

end EngineBindings

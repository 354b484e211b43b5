import EngineBindings.Proofs.Package.LocalImports
import EngineBindings.Proofs.Plan.Dispatch
import EngineBindings.Proofs.Plan.Handing
import EngineBindings.Proofs.Text.Segment

/-! Emitted code without the imports inside functions.

In a package a function imports the classes that it uses; in a single module they are there
already. `Sheds` says that two emissions differ in these imports alone: the second has the lines of
the first that are no imports. Functions, members and properties are emitted so, and nothing else
in them reads as such an import. -/
namespace EngineBindings.Package

open Attempt EngineBindings.Code EngineBindings.Text

/-! ### Imports among other lines -/

/-- A line that imports from the package that it stands in, however far it is shifted right. -/
def isInnerImport (line : String) : Bool :=
  isRelative (String.ofList (line.toList.dropWhile (· = ' ')))

/-- Lines without their imports from the package. -/
def withoutImports (lines : List String) : List String :=
  lines.filter (!isInnerImport ·)

/-- Lines none of which imports from the package. -/
def Plain (lines : List String) : Prop :=
  ∀ line ∈ lines, isInnerImport line = false

instance (lines : List String) : Decidable (Plain lines) :=
  inferInstanceAs (Decidable (∀ line ∈ lines, isInnerImport line = false))

@[simp] theorem plain_nil : Plain [] :=
  List.forall_mem_nil _

@[simp] theorem plain_cons {line : String} {lines : List String} :
    Plain (line :: lines) ↔ isInnerImport line = false ∧ Plain lines :=
  List.forall_mem_cons

@[simp] theorem plain_append {first second : List String} :
    Plain (first ++ second) ↔ Plain first ∧ Plain second :=
  List.forall_mem_append

theorem plain_flatMap {α : Type} {xs : List α} {lines : α → List String}
    (h : ∀ x ∈ xs, Plain (lines x)) : Plain (xs.flatMap lines) := by
  intro line hline
  obtain ⟨x, hx, hline⟩ := List.mem_flatMap.mp hline
  exact h x hx line hline

/-- What a line starts with, blanks aside, tells it from an import. -/
def startsPlainly (lead : String) : Bool :=
  match lead.toList.dropWhile (· = ' ') with
  | [] => false
  | c :: _ => c ≠ 'f'

theorem startsPlainly_append {lead : String} (h : startsPlainly lead = true) (rest : String) :
    startsPlainly (lead ++ rest) = true := by
  unfold startsPlainly at h ⊢
  rw [String.toList_append, List.dropWhile_append]
  cases hlead : lead.toList.dropWhile (· = ' ') with
  | nil =>
    rw [hlead] at h
    cases h
  | cons c others =>
    rw [hlead] at h
    exact h

theorem startsPlainly_ofList {c : Char} (hblank : c ≠ ' ') (hf : c ≠ 'f') (cs : List Char) :
    startsPlainly (String.ofList (c :: cs)) = true := by
  rw [startsPlainly, String.toList_ofList, List.dropWhile_cons_of_neg (by simpa using hblank)]
  exact decide_eq_true hf

theorem isInnerImport_of_startsPlainly {line : String} (h : startsPlainly line = true) :
    isInnerImport line = false := by
  unfold startsPlainly at h
  split at h
  · cases h
  · next c others hline =>
    refine isRelative_of_head (of_decide_eq_true h) ?_
    rw [String.toList_ofList, hline]
    rfl

theorem isInnerImport_append {lead : String} (h : startsPlainly lead = true) (rest : String) :
    isInnerImport (lead ++ rest) = false :=
  isInnerImport_of_startsPlainly (startsPlainly_append h rest)

@[simp] theorem isInnerImport_spaces (width : Int) (line : String) :
    isInnerImport (spaces width ++ line) = isInnerImport line := by
  have blanks : (List.replicate width.toNat ' ').dropWhile (· = ' ') = [] := by
    rw [List.dropWhile_eq_nil_iff]
    intro c hc
    rw [List.eq_of_mem_replicate hc]
    decide
  rw [isInnerImport, String.toList_append, spaces, String.toList_ofList, List.dropWhile_append,
    blanks]
  rfl

/-- An assignment to a name without a dot: its equals sign comes before any dot. -/
theorem isInnerImport_assignment {target : String} (h : '.' ∉ target.toList) (value : String) :
    isInnerImport (target ++ " = " ++ value) = false := by
  rw [Bool.eq_false_iff]
  intro himport
  let mark (c : Char) : Bool := c = '.' || c = '='
  have equals : (target ++ " = " ++ value).toList.find? mark = some '=' := by
    rw [String.toList_append, String.toList_append, List.append_assoc, List.find?_append]
    cases hfound : target.toList.find? mark with
    | none => rfl
    | some c =>
      have hc : c = '.' ∨ c = '=' := by simpa [mark] using List.find?_some hfound
      rcases hc with rfl | rfl
      · exact absurd (List.mem_of_find?_eq_some hfound) h
      · rfl
  have dot : (target ++ " = " ++ value).toList.find? mark = some '.' := by
    obtain ⟨rest, hrest⟩ := Option.isSome_iff_exists.mp himport
    have hrest := eq_append_of_dropPrefix? hrest
    rw [String.toList_ofList] at hrest
    have split := List.takeWhile_append_dropWhile (p := (· = ' '))
      (l := (target ++ " = " ++ value).toList)
    have blanks : ((target ++ " = " ++ value).toList.takeWhile (· = ' ')).find? mark = none := by
      rw [List.find?_eq_none]
      intro c hc
      have := List.mem_takeWhile_imp hc
      rw [of_decide_eq_true this]
      decide
    rw [← split, List.find?_append, blanks, hrest]
    rfl
  rw [equals] at dot
  cases dot

/-! ### Emissions that differ in imports -/

/-- Among lines, only imports of classes read as imports from the package. -/
def ImportsClasses (package : String) (lines : List String) : Prop :=
  ∀ line ∈ lines, isInnerImport line = true →
    ∃ (width : Int) (name : String), line = spaces width ++ importLine (package ++ name) [name]

/-- The second of two emissions is the first without its imports, which are of classes. The last
line that is not empty is none of them. -/
structure Sheds (package : String) (inner outer : List String) : Prop where
  outer : withoutImports inner = outer
  imports : ImportsClasses package inner
  closed : ∀ line, lastLine? inner = some line → isInnerImport line = false

namespace Sheds

variable {package : String} {inner outer inner' outer' : List String}

theorem of_plain {lines : List String} (h : Plain lines) : Sheds package lines lines := by
  constructor
  case outer =>
    refine List.filter_eq_self.mpr fun line hline => ?_
    rw [h line hline]
    rfl
  case imports =>
    intro line hline himport
    rw [h line hline] at himport
    cases himport
  case closed =>
    intro line hline
    exact h line (List.mem_reverse.mp (List.mem_of_find?_eq_some hline))

theorem append (h : Sheds package inner outer) (h' : Sheds package inner' outer') :
    Sheds package (inner ++ inner') (outer ++ outer') := by
  constructor
  case outer => rw [withoutImports, List.filter_append, ← h.outer, ← h'.outer]; rfl
  case imports =>
    intro line hline
    rcases List.mem_append.mp hline with hline | hline
    · exact h.imports line hline
    · exact h'.imports line hline
  case closed =>
    intro line hline
    rw [lastLine?_append] at hline
    rcases Option.or_eq_some_iff.mp hline with hline | ⟨_, hline⟩
    · exact h'.closed line hline
    · exact h.closed line hline

theorem cons {line : String} (hline : isInnerImport line = false) (h : Sheds package inner outer) :
    Sheds package (line :: inner) (line :: outer) :=
  (of_plain (plain_cons.mpr ⟨hline, plain_nil⟩)).append h

theorem flatMap {α : Type} {xs : List α} {inner outer : α → List String}
    (h : ∀ x ∈ xs, Sheds package (inner x) (outer x)) :
    Sheds package (xs.flatMap inner) (xs.flatMap outer) := by
  induction xs with
  | nil => exact of_plain plain_nil
  | cons x xs ih =>
    obtain ⟨hx, hxs⟩ := List.forall_mem_cons.mp h
    exact hx.append (ih hxs)

/-- Dropping the empty lines at the end does not bring an import to the end. -/
theorem dropTrailingEmpty (h : Sheds package inner outer) :
    Sheds package (Text.dropTrailingEmpty inner) (Text.dropTrailingEmpty outer) := by
  constructor
  case outer =>
    rw [← h.outer]
    refine (dropTrailingEmpty_filter (by decide) fun line hline => ?_).symm
    rw [h.closed line hline]
    rfl
  case imports =>
    intro line hline
    refine h.imports line (List.Sublist.mem hline ?_)
    rw [Text.dropTrailingEmpty, ← List.sublist_reverse_iff]
    exact List.dropWhile_sublist _
  case closed =>
    intro line hline
    rw [lastLine?_dropTrailingEmpty] at hline
    exact h.closed line hline

end Sheds

/-! ### Functions -/

section Functions

variable {package : String} (skip : List Name)

theorem plain_indent {width : Nat} {lines : List String} (h : Plain lines) :
    Plain (indent width lines) := by
  intro line hline
  obtain ⟨unshifted, hunshifted, rfl⟩ := List.mem_map.mp hline
  rw [isInnerImport_spaces]
  exact h unshifted hunshifted

/-- The imports at the head of a function are among those that are taken out. -/
theorem isInnerImport_of_mem (hpackage : startsWith package "." = true)
    {requires : List Requirement} {line : String}
    (h : line ∈ classImports package skip requires) :
    isInnerImport line = true ∧ ∃ name, line = importLine (package ++ name) [name] := by
  obtain ⟨name, _, rfl⟩ := mem_of_classImports h
  refine ⟨?_, name, rfl⟩
  have shown : importLine (package ++ name) [name] =
      "from " ++ (package ++ name ++ " import " ++ join ", " [name]) := by
    simp only [importLine, String.append_assoc]
  have unshifted : (importLine (package ++ name) [name]).toList.dropWhile (· = ' ') =
      (importLine (package ++ name) [name]).toList := by
    rw [shown, String.toList_append]
    rfl
  rw [isInnerImport, unshifted, String.ofList_toList, isRelative_importLine]
  obtain ⟨rest, hrest⟩ := Option.isSome_iff_exists.mp hpackage
  rw [startsWith, String.toList_append, eq_append_of_dropPrefix? hrest]
  rfl

/-- The imports at the head of a body are what it loses. -/
theorem withoutImports_body (hpackage : startsWith package "." = true)
    (requires : List Requirement) {body : List String} (hbody : Plain body) :
    withoutImports (classImports package skip requires ++ body) = body := by
  have imports : withoutImports (classImports package skip requires) = [] := by
    refine List.filter_eq_nil_iff.mpr fun line hline => ?_
    rw [(isInnerImport_of_mem skip hpackage hline).1]
    decide
  have kept : withoutImports body = body := (show Sheds package body body from .of_plain hbody).outer
  rw [withoutImports, List.filter_append, ← withoutImports, ← withoutImports, imports, kept,
    List.nil_append]

theorem importsClasses_body (hpackage : startsWith package "." = true)
    (requires : List Requirement) {body : List String} (hbody : Plain body) :
    ImportsClasses package (classImports package skip requires ++ body) := by
  intro line hline himport
  rcases List.mem_append.mp hline with hline | hline
  · obtain ⟨_, name, rfl⟩ := isInnerImport_of_mem skip hpackage hline
    exact ⟨0, name, rfl⟩
  · rw [hbody line hline] at himport
    cases himport

theorem withoutImports_indent (width : Nat) (lines : List String) :
    withoutImports (indent width lines) = indent width (withoutImports lines) := by
  rw [withoutImports, indent, List.filter_map]
  simp only [Function.comp_def, isInnerImport_spaces]
  rfl

/-- The body of a function, which imports classes in a package before it does anything else. -/
theorem sheds_body (hpackage : startsWith package "." = true) {width : Nat} (hwidth : 0 < width)
    (requires : List Requirement) {body : List String} (hbody : Plain body) (hne : body ≠ []) :
    Sheds package (indent width (classImports package skip requires ++ body))
      (indent width body) := by
  constructor
  case outer => rw [withoutImports_indent, withoutImports_body skip hpackage requires hbody]
  case imports =>
    intro line hline himport
    obtain ⟨unshifted, hunshifted, rfl⟩ := List.mem_map.mp hline
    rw [isInnerImport_spaces] at himport
    obtain ⟨inside, name, rfl⟩ :=
      importsClasses_body skip hpackage requires hbody unshifted hunshifted himport
    refine ⟨width + inside.toNat, name, ?_⟩
    have whole : spaces (width + inside.toNat) = spaces width ++ spaces inside := by
      rw [spaces, spaces, spaces, ← String.ofList_append, List.replicate_append_replicate]
      exact congrArg (fun n => String.ofList (List.replicate n ' ')) (by omega)
    rw [whole, String.append_assoc]
  case closed =>
    intro line hline
    rw [indent, List.map_append, lastLine?_append] at hline
    rcases Option.or_eq_some_iff.mp hline with hline | ⟨hnone, _⟩
    · exact plain_indent hbody line (List.mem_reverse.mp (List.mem_of_find?_eq_some hline))
    · -- A body has a line, and shifted to the right it is not empty.
      obtain ⟨first, rest, rfl⟩ := List.exists_cons_of_ne_nil hne
      have hfirst := List.find?_eq_none.mp hnone (spaces width ++ first) (by simp)
      simp [spaces, hwidth.ne'] at hfirst

/-- A function that imports classes in a package. -/
theorem sheds_functionLines (hpackage : startsWith package "." = true)
    (name parameters result : String) (requires : List Requirement) {body : List String}
    (hbody : Plain body) (hne : body ≠ []) :
    Sheds package
      (functionLines name parameters result
        (Site.imports ⟨true, package, skip⟩ requires ++ body))
      (functionLines name parameters result
        (Site.imports ⟨false, package, skip⟩ requires ++ body)) := by
  refine (sheds_body skip hpackage (by decide) requires hbody hne).cons ?_
  simp only [String.append_assoc]
  exact isInnerImport_append (by decide) _

end Functions

/-! ### Statements -/

theorem plain_assign {target : String} (h : '.' ∉ target.toList) (value : Expr) :
    Plain (Stmt.assign target value).lines := by
  rw [Stmt.lines, plain_cons]
  exact ⟨isInnerImport_assignment h value.text, plain_nil⟩

theorem plain_result (value : Expr) : Plain (Stmt.result value).lines := by
  rw [Stmt.lines, plain_cons]
  exact ⟨isInnerImport_append (by decide) value.text, plain_nil⟩

theorem plain_exec {value : Expr} {lead : String} (h : ∃ rest, value.text = lead ++ rest)
    (hlead : startsPlainly lead = true) : Plain (Stmt.exec value).lines := by
  obtain ⟨rest, hrest⟩ := h
  rw [Stmt.lines, hrest, plain_cons]
  exact ⟨isInnerImport_append hlead rest, plain_nil⟩

theorem plain_linesOf {body : List Stmt} (h : ∀ s ∈ body, Plain s.lines) : Plain (linesOf body) :=
  plain_flatMap h

/-- A call of a method starts with the name of what the method is of. -/
theorem text_methodCall (target method : String) (arguments : List Expr) :
    ∃ rest, (Expr.invoke (.attr (.name target) method) arguments).text = target ++ rest := by
  refine ⟨"." ++ (method ++ ("(" ++ (join ", " (Arguments.ofList arguments).texts ++ ")"))), ?_⟩
  simp only [Expr.invoke, Expr.text, String.append_assoc]

theorem text_call (b : MethodBinding) : ∃ rest, b.call.text = "gi" ++ rest := by
  unfold MethodBinding.call
  dsimp only
  split <;> exact text_methodCall _ _ _

section Bindings

variable {r : Registry} {use : TypeUse} {lead : String} {b : MethodBinding}

theorem plain_bodyLines (h : b.Planned r use lead) : Plain b.bodyLines := by
  refine plain_linesOf fun s hs => ?_
  simp only [MethodBinding.body, List.mem_append, List.mem_singleton] at hs
  rcases hs with (((hs | hs) | hs) | rfl) | hs
  · obtain ⟨slot, hslot, hs⟩ := List.mem_flatMap.mp hs
    obtain ⟨a, _, _, handed⟩ := h.args slot hslot
    rw [handed.setup] at hs
    obtain ⟨cell, hcell, rfl⟩ := List.mem_map.mp hs
    exact plain_assign (Handing.notMem_of_cell? handed.name (Option.mem_toList.mp hcell)) _
  · split at hs
    · cases hs
    · rw [List.mem_singleton.mp hs]
      exact plain_assign (by decide) _
  · split at hs
    · rw [List.mem_singleton.mp hs]
      exact plain_assign (by decide) _
    · cases hs
  · exact plain_exec (text_call b) (by decide)
  · split at hs
    · rw [List.mem_singleton.mp hs]
      exact plain_result _
    · cases hs

theorem bodyLines_ne_nil (b : MethodBinding) : b.bodyLines ≠ [] := by
  simp [MethodBinding.bodyLines, MethodBinding.body, linesOf, Stmt.lines]

/-! ### Members -/

theorem sheds_bindingLines {package : String} (skip : List Name)
    (hpackage : startsWith package "." = true) (h : b.Planned r use lead) :
    Sheds package (bindingLines ⟨true, package, skip⟩ b) (bindingLines ⟨false, package, skip⟩ b) := by
  have decorators : Plain (if b.method.isStatic then ["    @staticmethod"] else []) := by
    split <;> decide
  exact ((Sheds.of_plain decorators).append (sheds_functionLines skip hpackage _ _ _ _
    (plain_bodyLines h) (bodyLines_ne_nil b))).append (.of_plain (by decide))

end Bindings

section Members

variable {package : String} (skip : List Name) (hpackage : startsWith package "." = true)
include hpackage

theorem sheds_virtualLines (t : Trampoline) :
    Sheds package (virtualLines ⟨true, package, skip⟩ t)
      (virtualLines ⟨false, package, skip⟩ t) := by
  unfold virtualLines Trampoline.baseBody
  refine .append ?_ (.of_plain (by decide))
  cases t.default with
  | some value =>
    refine sheds_functionLines skip hpackage _ _ _ _ ?_ (by simp [linesOf, Stmt.lines])
    exact plain_linesOf fun s hs => List.mem_singleton.mp hs ▸ plain_result value
  | none =>
    refine .cons ?_ (.of_plain (show Plain (indent 8 ["pass"]) by decide))
    simp only [String.append_assoc]
    exact isInnerImport_append (by decide) _

theorem sheds_propertyLines (a : PropertyAccessor) :
    Sheds package (propertyLines ⟨true, package, skip⟩ a)
      (propertyLines ⟨false, package, skip⟩ a) := by
  have getter : Plain (linesOf a.getterBody) :=
    plain_linesOf fun s hs => List.mem_singleton.mp hs ▸ plain_result _
  have setter : Plain (linesOf a.setterBody) := by
    refine plain_linesOf fun s hs => List.mem_singleton.mp hs ▸ ?_
    exact plain_exec (text_methodCall "self" _ _) (by decide)
  have decorator : isInnerImport ("    @" ++ a.exposedName ++ ".setter") = false := by
    rw [String.append_assoc]
    exact isInnerImport_append (by decide) _
  have function (parameters result : String) {body : List Stmt} (hbody : Plain (linesOf body))
      (hne : linesOf body ≠ []) :=
    sheds_functionLines skip hpackage a.exposedName parameters result a.requires hbody hne
  have blank : Sheds package [""] [""] := .of_plain (by decide)
  refine .append (.append (.append (.cons (by decide) ?_) blank) (.cons decorator ?_)) blank
  · exact function _ _ getter (by simp [linesOf, PropertyAccessor.getterBody, Stmt.lines])
  · exact function _ _ setter (by simp [linesOf, PropertyAccessor.setterBody, Stmt.lines])

end Members

end EngineBindings.Package

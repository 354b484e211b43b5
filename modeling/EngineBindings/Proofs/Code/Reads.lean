import EngineBindings.Code.Basic
import EngineBindings.Proofs.Text.Segment

/-! The names that code reads stand in its text.

Whether a module needs a name can be asked of the code as data or of its text. Whatever an
expression reads occurs in its text (`infix_of_reads`), so that looking for a name in a text misses
no reader of it. -/
namespace EngineBindings.Code

open EngineBindings.Text

/-! ### Names of statements -/

/-- The names that statements read. -/
def readsOf (body : List Stmt) : List String :=
  body.flatMap Stmt.reads

/-- The names that statements bind. -/
def bindsOf (body : List Stmt) : List String :=
  body.filterMap Stmt.binds?

section Reads

variable {callee : Expr} {arguments : List Expr}

@[simp] theorem reads_ofList : (Arguments.ofList arguments).reads = arguments.flatMap Expr.reads := by
  induction arguments with
  | nil => rfl
  | cons e rest ih => rw [Arguments.ofList, Arguments.reads, ih, List.flatMap_cons]

@[simp] theorem reads_invoke :
    (Expr.invoke callee arguments).reads = callee.reads ++ arguments.flatMap Expr.reads := by
  rw [Expr.invoke, Expr.reads, reads_ofList]

@[simp] theorem reads_apply (path : String) :
    (Expr.apply path arguments).reads = root path :: arguments.flatMap Expr.reads := by
  rw [Expr.apply, reads_invoke, Expr.reads, List.singleton_append]

@[simp] theorem reads_native (field : String) : (Expr.native field).reads = ["ctypes"] :=
  rfl

@[simp] theorem readsOf_nil : readsOf [] = [] :=
  rfl

@[simp] theorem readsOf_cons (s : Stmt) (rest : List Stmt) :
    readsOf (s :: rest) = s.reads ++ readsOf rest :=
  List.flatMap_cons

@[simp] theorem readsOf_append (first second : List Stmt) :
    readsOf (first ++ second) = readsOf first ++ readsOf second :=
  List.flatMap_append

@[simp] theorem bindsOf_append (first second : List Stmt) :
    bindsOf (first ++ second) = bindsOf first ++ bindsOf second :=
  List.filterMap_append

end Reads

/-! ### Names in texts -/

theorem root_infix (path : String) : (root path).toList <:+: path.toList := by
  rw [root, String.toList_ofList]
  exact (List.takeWhile_prefix _).isInfix

mutual

/-- A name that an expression reads occurs in its text. -/
theorem infix_of_reads {name : String} :
    ∀ e : Expr, name ∈ e.reads → name.toList <:+: e.text.toList
  | .name path, h => by
    rw [Expr.reads, List.mem_singleton] at h
    rw [h, Expr.text]
    exact root_infix path
  | .literal _, h => nomatch h
  | .attr target field, h => by
    refine (infix_of_reads target h).trans ?_
    exact ⟨[], ("." ++ field).toList, by simp [Expr.text]⟩
  | .call callee arguments, h => by
    rcases List.mem_append.mp h with h | h
    · refine (infix_of_reads callee h).trans ?_
      exact ⟨[], ("(" ++ join ", " arguments.texts ++ ")").toList, by simp [Expr.text]⟩
    · obtain ⟨text, htext, hname⟩ := exists_text_of_reads arguments h
      refine (hname.trans (infix_join ", " htext)).trans ?_
      exact ⟨(callee.text ++ "(").toList, ")".toList, by simp [Expr.text]⟩
  | .item target index, h => by
    refine (infix_of_reads target h).trans ?_
    exact ⟨[], ("[" ++ Number.decimal index ++ "]").toList, by simp [Expr.text]⟩
  | .cells type count, h => by
    refine (infix_of_reads type h).trans ?_
    exact ⟨"(".toList, (" * " ++ Number.decimal count ++ ")").toList, by simp [Expr.text]⟩
  | .isNone subject, h => by
    refine (infix_of_reads subject h).trans ?_
    exact ⟨[], " is None".toList, by simp [Expr.text]⟩
  | .orElse first second, h => by
    rcases List.mem_append.mp h with h | h
    · refine (infix_of_reads first h).trans ?_
      exact ⟨"(".toList, (" or " ++ second.text ++ ")").toList, by simp [Expr.text]⟩
    · refine (infix_of_reads second h).trans ?_
      exact ⟨("(" ++ first.text ++ " or ").toList, ")".toList, by simp [Expr.text]⟩
  | .choose value condition otherwise, h => by
    rcases List.mem_append.mp h with h | h
    · rcases List.mem_append.mp h with h | h
      · refine (infix_of_reads condition h).trans ?_
        exact ⟨(value.text ++ " if ").toList, (" else " ++ otherwise.text).toList,
          by simp [Expr.text]⟩
      · refine (infix_of_reads value h).trans ?_
        exact ⟨[], (" if " ++ condition.text ++ " else " ++ otherwise.text).toList,
          by simp [Expr.text]⟩
    · refine (infix_of_reads otherwise h).trans ?_
      exact ⟨(value.text ++ " if " ++ condition.text ++ " else ").toList, [],
        by simp [Expr.text]⟩

/-- A name that arguments read occurs in the text of one of them. -/
theorem exists_text_of_reads {name : String} :
    ∀ arguments : Arguments, name ∈ arguments.reads →
      ∃ text ∈ arguments.texts, name.toList <:+: text.toList
  | .nil, h => nomatch h
  | .cons keyword value rest, h => by
    rcases List.mem_append.mp h with h | h
    · have hname := infix_of_reads value h
      cases keyword with
      | none => exact ⟨_, List.mem_cons_self, hname⟩
      | some keyword =>
        refine ⟨_, List.mem_cons_self, hname.trans ?_⟩
        exact ⟨(keyword ++ "=").toList, [], by simp⟩
    · obtain ⟨text, htext, hname⟩ := exists_text_of_reads rest h
      cases keyword <;> exact ⟨text, List.mem_cons_of_mem _ htext, hname⟩

end

/-- A name that statements read occurs in one of their lines. -/
theorem exists_line_of_reads {name : String} {body : List Stmt} (h : name ∈ readsOf body) :
    ∃ line ∈ linesOf body, name.toList <:+: line.toList := by
  obtain ⟨s, hs, hname⟩ := List.mem_flatMap.mp h
  have inLine : ∃ line ∈ s.lines, name.toList <:+: line.toList := by
    cases s with
    | assign target value =>
      refine ⟨_, List.mem_singleton_self _, (infix_of_reads value hname).trans ?_⟩
      exact ⟨(target ++ " = ").toList, [], by simp⟩
    | exec value => exact ⟨_, List.mem_singleton_self _, infix_of_reads value hname⟩
    | result value =>
      refine ⟨_, List.mem_singleton_self _, (infix_of_reads value hname).trans ?_⟩
      exact ⟨"return ".toList, [], by simp⟩
    | pass => cases hname
    | stopUnless value =>
      refine ⟨_, List.mem_cons_self, (infix_of_reads value hname).trans ?_⟩
      exact ⟨"if not ".toList, ":".toList, by simp⟩
    | stopIfNone value =>
      refine ⟨_, List.mem_cons_self, (infix_of_reads value hname).trans ?_⟩
      exact ⟨"if ".toList, " is None:".toList, by simp⟩
  obtain ⟨line, hline, hname⟩ := inLine
  exact ⟨line, List.mem_flatMap.mpr ⟨s, hs, hline⟩, hname⟩

end EngineBindings.Code

import EngineBindings.Proofs.Package.Erasure

/-! Classes without the imports inside their functions.

Proxies, class statements and whole classes are emitted into a single module as they are into their
own, without the imports inside functions (`sheds_classBody`). -/
namespace EngineBindings.Package

open Attempt EngineBindings.Code EngineBindings.Text

/-! ### Proxies and dispatch -/

theorem plain_stopUnless (value : Expr) : Plain (Stmt.stopUnless value).lines := by
  rw [Stmt.lines, plain_cons, String.append_assoc]
  exact ⟨isInnerImport_append (by decide) _, by decide⟩

theorem plain_stopIfNone (value : Expr) : Plain (Stmt.stopIfNone value).lines := by
  rw [Stmt.lines, plain_cons, String.append_assoc]
  exact ⟨isInnerImport_append (by decide) _, by decide⟩

theorem plain_load {kind : SlotKind} {name : String} (h : '.' ∉ name.toList) (index : Nat) :
    Plain (linesOf (kind.load name index)) := by
  refine plain_linesOf fun s hs => ?_
  cases kind with
  | object host =>
    rcases List.mem_pair.mp hs with rfl | rfl
    · exact plain_assign (by simpa [handleName] using h) _
    · exact plain_assign h _
  | scalar _ | struct _ _ | content _ _ =>
    rw [List.mem_singleton.mp hs]
    exact plain_assign h _

theorem plain_store (kind : StoreKind) : Plain (kind.statement).lines := by
  have slots (capacity : Expr) (method : String) (arguments : List Expr) :
      ∃ rest, (slotCall (slotAt (.name "ret_ptr") capacity) method arguments).text =
        "SlotBuffer" ++ rest := by
    simp only [slotCall, slotAt, Expr.invoke, Expr.text, String.append_assoc]
    exact ⟨_, rfl⟩
  cases kind <;> exact plain_exec (slots _ _ _) (by decide)

theorem plain_proxyBody {r : Registry} {t : Trampoline} (h : t.Settled r) :
    Plain (linesOf t.proxyBody) := by
  refine plain_linesOf fun s hs => ?_
  simp only [Trampoline.proxyBody, List.mem_append] at hs
  rcases hs with ((hs | hs) | hs) | hs
  · simp only [List.mem_cons, List.not_mem_nil, or_false] at hs
    rcases hs with rfl | rfl | rfl
    · exact plain_stopUnless _
    · exact plain_assign (by decide) _
    · exact plain_stopIfNone _
  · split at hs
    · cases hs
    · rw [List.mem_singleton.mp hs]
      exact plain_assign (by decide) _
  · obtain ⟨a, ha, hs⟩ := List.mem_flatMap.mp hs
    rw [← List.zipIdx_map_fst 0 t.args] at ha
    obtain ⟨entry, hentry, rfl⟩ := List.mem_map.mp ha
    obtain ⟨hname, hload⟩ := h.args entry hentry
    rw [hload] at hs
    intro line hline
    exact plain_load hname entry.2 line (List.mem_flatMap.mpr ⟨s, hs, hline⟩)
  · split at hs
    · next ret hret =>
      rw [h.store ret hret] at hs
      rcases List.mem_pair.mp hs with rfl | rfl
      · exact plain_assign (by decide) _
      · exact plain_store _
    · rw [List.mem_singleton.mp hs]
      exact plain_exec (text_methodCall "target" _ _) (by decide)

theorem sheds_proxyLines {package : String} (skip : List Name)
    (hpackage : startsWith package "." = true) {r : Registry} {t : Trampoline} (h : t.Settled r) :
    Sheds package (proxyLines ⟨true, package, skip⟩ t) (proxyLines ⟨false, package, skip⟩ t) := by
  have proxy (site : Site) : proxyLines site t =
      ["", "", t.proxyHead] ++ indent 4 (site.imports t.requires ++ linesOf t.proxyBody) := by
    simp only [proxyLines, indent, List.map_append, List.append_assoc]
    rfl
  have head : isInnerImport t.proxyHead = false := by
    rw [Trampoline.proxyHead, String.append_assoc]
    exact isInnerImport_append (by decide) _
  rw [proxy, proxy]
  refine .append (.of_plain ?_) (sheds_body skip hpackage (by decide) _ (plain_proxyBody h) ?_)
  · simp only [plain_cons, head, plain_nil, and_true]
    decide
  · simp [linesOf, Trampoline.proxyBody, Stmt.lines]

theorem plain_dispatcherLines (t : DispatchTable) : Plain (dispatcherLines t) := by
  have table : isInnerImport ("        proxy = " ++ t.tableName ++ ".get(str(name))") = false := by
    rw [String.append_assoc]
    exact isInnerImport_append (by decide) _
  have before : Plain ["    @classmethod", "    def get_virtual_dispatcher(cls, name):"] := by
    decide
  have behind : Plain ["        if proxy is not None:", "            return proxy",
      "        return super().get_virtual_dispatcher(name)", ""] := by
    decide
  exact plain_append.mpr ⟨before, plain_cons.mpr ⟨table, behind⟩⟩

theorem isGiven_of_sanitize {n : Name} {s : String} (h : n.sanitize = .ok s)
    (htext : n.text? = none) : n.isGiven = false := by
  unfold Name.sanitize at h
  rw [htext] at h
  dsimp only at h
  split at h
  · cases h
  · next absent => exact Bool.eq_false_iff.mpr absent

theorem startsPlainly_zero {x : Number.Binary64} (h : x.isZero = true) :
    startsPlainly (x.text Number.Binary64.plainSpelling) = true := by
  simp only [Number.Binary64.text, h, if_true]
  cases x.isNaN <;> cases x.isInfinite <;> cases x.isNegative <;> decide

/-- A name that becomes an identifier is a text, or counts as not given. The spelling of neither
reads as an import. -/
theorem startsPlainly_literal {n : Name} {s : String} (h : n.sanitize = .ok s) :
    startsPlainly n.literal = true := by
  obtain ⟨value⟩ := n
  cases value with
  | str text =>
    have quote : quoteFor text.toList = '"' ∨ quoteFor text.toList = '\'' := by
      unfold quoteFor
      split
      · exact .inl rfl
      · exact .inr rfl
    show startsPlainly (quoted text) = true
    unfold quoted
    rcases quote with quote | quote <;>
      (simp only [quote]
       exact startsPlainly_ofList (by decide) (by decide) _)
  | null => decide
  | bool b => cases b <;> decide
  | int i =>
    have zero : i = 0 := by
      simpa [Name.isGiven, Json.isTruthy] using isGiven_of_sanitize h rfl
    subst zero
    decide
  | float x =>
    have zero : x.isZero = true := by
      simpa [Name.isGiven, Json.isTruthy] using isGiven_of_sanitize h rfl
    exact startsPlainly_zero zero
  | arr items => exact startsPlainly_append (startsPlainly_append (by decide) _) _
  | obj fields => exact startsPlainly_append (startsPlainly_append (by decide) _) _

theorem plain_tableLines {c : ClassDef} {virtuals : List Trampoline} {t : DispatchTable}
    (h : DispatchTable.ofTrampolines c virtuals = .ok t)
    (names : ∀ v ∈ virtuals, ∃ s, v.method.name.sanitize = .ok s) : Plain (tableLines t) := by
  obtain ⟨entries, hentries, h⟩ := bind_eq_ok.mp h
  have literals : ∀ entry ∈ t.entries.entries, startsPlainly entry.1.literal = true := by
    cases h
    intro entry hentry
    obtain ⟨e, he, hkey⟩ := List.mem_map.mp (OrderedMap.mem_ofList hentry).1
    obtain ⟨v, hv, he⟩ := exists_left (mapM_eq_ok.mp hentries) he
    obtain ⟨name, hname, he⟩ := bind_eq_ok.mp he
    cases he
    obtain ⟨s, hs⟩ := names v hv
    rw [← hkey, (Name.keyed_eq_ok.mp hname).2]
    exact startsPlainly_literal hs
  have head : isInnerImport (t.tableName ++ " = \x7b") = false := by
    simp only [DispatchTable.tableName, String.append_assoc]
    exact isInnerImport_append (by decide) _
  have body : Plain (t.entries.entries.map fun entry =>
      "    " ++ entry.1.literal ++ ": " ++ entry.2.proxyName ++ ",") := by
    intro line hline
    obtain ⟨entry, hentry, rfl⟩ := List.mem_map.mp hline
    have shifted := isInnerImport_spaces 4 (entry.1.literal ++ (": " ++ (entry.2.proxyName ++ ",")))
    rw [isInnerImport_append (literals entry hentry)] at shifted
    simp only [String.append_assoc]
    exact shifted
  have rest : Plain ["", "\x7d"] := by decide
  simp only [plain_cons, plain_nil, and_true] at rest
  simp [tableLines, head, body, rest]

/-! ### Class statements -/

theorem isInnerImport_handleLine {name : String} (h : startsPlainly name = true)
    (key resolver : String) : isInnerImport (handleLine name key resolver) = false := by
  have shifted := isInnerImport_spaces 4
    (name ++ (" = LazyBinding(" ++ (key ++ (", " ++ (resolver ++ ")")))))
  rw [isInnerImport_append h] at shifted
  simp only [handleLine, String.append_assoc]
  exact shifted

/-- A member of an enumeration, or a constant, is assigned to a name without a dot. -/
theorem isInnerImport_value {name : Name} {text : String} (h : name.sanitize = .ok text)
    (value : Int) : isInnerImport ("    " ++ text ++ " = " ++ Number.decimal value) = false :=
  isInnerImport_assignment (by simpa using notMem_of_sanitize h) _

theorem plain_enumLines {e : EnumDef} {host : String} {d : EnumDecl}
    (h : enumDecl e host = .ok d) : Plain d.lines := by
  obtain ⟨values, hvalues, h⟩ := bind_eq_ok.mp h
  cases h
  have empty : Plain (if values.isEmpty then ["    pass"] else []) := by
    split <;> decide
  unfold EnumDecl.lines
  refine plain_append.mpr ⟨plain_cons.mpr ⟨?_, empty⟩, ?_⟩
  · simp only [String.append_assoc]
    exact isInnerImport_append (by decide) _
  · intro line hline
    obtain ⟨v, hv, rfl⟩ := List.mem_map.mp hline
    obtain ⟨declared, _, hv⟩ := exists_left (mapM_eq_ok.mp hvalues) hv
    obtain ⟨name, hname, hv⟩ := bind_eq_ok.mp hv
    cases hv
    exact isInnerImport_value hname declared.value

theorem plain_classHead {p : ClassPlan} {base : String} {lines : List String}
    (handles : ∀ b ∈ p.bindings, startsPlainly b.handleName = true)
    (h : classHead p base = .ok lines) : Plain lines := by
  obtain ⟨enums, henums, h⟩ := bind_eq_ok.mp h
  obtain ⟨constants, hconstants, h⟩ := bind_eq_ok.mp h
  cases h
  have enumerations : Plain enums.flatten := by
    rw [← List.flatMap_id]
    refine plain_flatMap fun block hblock => ?_
    obtain ⟨e, _, he⟩ := exists_left (mapM_eq_ok.mp henums) hblock
    obtain ⟨host, _, he⟩ := bind_eq_ok.mp he
    obtain ⟨decl, hdecl, he⟩ := bind_eq_ok.mp he
    cases he
    exact plain_append.mpr ⟨plain_indent (plain_enumLines hdecl), by decide⟩
  have values : Plain constants := by
    intro line hline
    obtain ⟨c, _, hc⟩ := exists_left (mapM_eq_ok.mp hconstants) hline
    obtain ⟨name, hname, hc⟩ := bind_eq_ok.mp hc
    cases hc
    exact isInnerImport_value hname c.value
  have attributes : Plain (p.bindings.map fun b => handleLine b.handleName
      (handleKey b.owner b.method.name b.method.hash) "classdb_method_bind") := by
    intro line hline
    obtain ⟨b, hb, rfl⟩ := List.mem_map.mp hline
    exact isInnerImport_handleLine (handles b hb) _ _
  have blank : Plain [""] := by decide
  refine plain_append.mpr ⟨plain_append.mpr ⟨plain_append.mpr ⟨?_, enumerations⟩, ?_⟩, ?_⟩
  · have head : isInnerImport ("class " ++ p.name.display ++ "(" ++ base ++ "):") = false := by
      simp only [String.append_assoc]
      exact isInnerImport_append (by decide) _
    have doc : isInnerImport ("    \"\"\"Engine class " ++ p.name.display ++ ".\"\"\"") = false := by
      simp only [String.append_assoc]
      exact isInnerImport_append (by decide) _
    have name : isInnerImport ("    class_name = " ++ p.name.literal) = false :=
      isInnerImport_append (by decide) _
    simpa [head, doc, name] using blank
  · split
    · exact plain_nil
    · exact plain_append.mpr ⟨values, blank⟩
  · split
    · exact plain_nil
    · exact plain_append.mpr ⟨attributes, blank⟩

/-! ### Whole classes -/

theorem settled_of_virtual {r : Registry} {flags : Flags} {c : ClassDef} {p : ClassPlan}
    {t : Trampoline} (h : r.planClass flags c = .ok p) (ht : t ∈ p.virtuals) : t.Settled r := by
  obtain ⟨m, _, haccept⟩ := Registry.acceptVirtual_of_virtual h ht
  exact Registry.settled_of_acceptVirtual haccept

section Classes

variable {r : Registry} {flags : Flags} {c : ClassDef} {p : ClassPlan}

theorem sheds_memberLines {package : String} (skip : List Name)
    (hpackage : startsWith package "." = true) (h : r.planClass flags c = .ok p) {x : Member}
    (hx : x ∈ p.members) :
    Sheds package (memberLines ⟨true, package, skip⟩ x) (memberLines ⟨false, package, skip⟩ x) := by
  cases x with
  | bound b =>
    have hb : b ∈ p.bindings := List.mem_filterMap.mpr ⟨_, hx, rfl⟩
    exact sheds_bindingLines skip hpackage (Registry.planned_of_binding h hb).1
  | overridable t => exact sheds_virtualLines skip hpackage t

/-- What becomes of a class's plan in a package and in a single module. -/
theorem sheds_classParts (h : r.planClass flags c = .ok p) {base : String} {head : List String}
    (hhead : classHead p base = .ok head) (skip : List Name) :
    let parts (inPackage : Bool) : List String :=
      let site : Site := ⟨inPackage, ".", skip⟩
      dropTrailingEmpty
        (head ++ p.properties.flatMap (propertyLines site) ++ p.members.flatMap (memberLines site) ++
          if hasTable p then dispatcherLines p.dispatch else []) ++
        if hasTable p then p.virtuals.flatMap (proxyLines site) ++ tableLines p.dispatch else []
    Sheds "." (parts true) (parts false) := by
  have hpackage : startsWith "." "." = true := by decide
  have handles : ∀ b ∈ p.bindings, startsPlainly b.handleName = true := by
    intro b hb
    rw [(Registry.planned_of_binding h hb).1.handle]
    exact startsPlainly_append (by decide) _
  have dispatcher : Plain (if hasTable p then dispatcherLines p.dispatch else []) := by
    split
    · exact plain_dispatcherLines _
    · exact plain_nil
  refine .append (.dropTrailingEmpty (.append (.append (.append
    (.of_plain (plain_classHead handles hhead)) ?_) ?_) (.of_plain dispatcher))) ?_
  · exact .flatMap fun a _ => sheds_propertyLines skip hpackage a
  · exact .flatMap fun x hx => sheds_memberLines skip hpackage h hx
  · split
    · have table := (Registry.dispatches_of_planClass h).table
      refine .append (.flatMap fun t ht => sheds_proxyLines skip hpackage (settled_of_virtual h ht))
        (.of_plain (plain_tableLines table fun t ht => ?_))
      obtain ⟨m, _, haccept⟩ := Registry.acceptVirtual_of_virtual h ht
      have answers := Registry.answers_of_acceptVirtual haccept
      exact ⟨t.exposedName, answers.method ▸ answers.exposedName⟩
    · exact .of_plain plain_nil

/-- A class is emitted into a single module as it is into its own, without the imports. -/
theorem sheds_classBody (h : r.planClass flags c = .ok p) :
    classBody p false = (classBody p true).map withoutImports ∧
      ∀ lines, classBody p true = .ok lines → Sheds "." lines (withoutImports lines) := by
  unfold classBody classStatement
  dsimp only
  cases hhead : classHead p ((p.parent.map Name.display).getD "Wrapped") with
  | error e => exact ⟨rfl, fun lines hlines => by cases hlines⟩
  | ok head =>
    have sheds := sheds_classParts h hhead (p.name :: p.parent.toList)
    refine ⟨congrArg Except.ok sheds.outer.symm, fun lines hlines => ?_⟩
    cases hlines
    rw [sheds.outer]
    exact sheds

end Classes

end EngineBindings.Package

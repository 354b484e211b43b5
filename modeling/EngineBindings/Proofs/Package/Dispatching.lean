import EngineBindings.Proofs.Package.Answers
import EngineBindings.Proofs.Plan.Dispatch

/-! The emitted dispatchers against what planning resolves.

Each module takes over from the registry the name, the parent and the accepted methods of its class
(`Encodes`), so the answer of a class is compared with the resolved one along the line of its
parents (`runs_along`). They agree exactly where every class that is asked is `Clear`. -/
namespace EngineBindings.Package

open Attempt EngineBindings.Code EngineBindings.Text Registry

variable {r : Registry} {flags : Flags} {g : Generation}

/-! ### From plans to modules -/

/-- A class dispatches exactly where one of its virtual methods was accepted. -/
theorem hasTable_iff {c : ClassDef} {p : ClassPlan} (h : Dispatches r flags c p) :
    hasTable p = true ↔ r.acceptedVirtuals flags c ≠ [] := by
  unfold hasTable
  rw [Bool.not_eq_true', List.isEmpty_eq_false_iff]
  constructor
  · intro hne hnone
    obtain ⟨entry, rest, hentries⟩ := List.exists_cons_of_ne_nil hne
    have hfind := h.find? entry.1
    rw [hnone, OrderedMap.find?, hentries, List.find?_cons_of_pos (by simp)] at hfind
    cases hfind
  · intro hne hnone
    obtain ⟨t, rest, haccepted⟩ := List.exists_cons_of_ne_nil hne
    have hfind := h.find? t.method.name
    rw [OrderedMap.find?, hnone, eq_comm, List.find?_nil, Option.map_none, haccepted,
      lastNamed_eq_none] at hfind
    simpa using hfind t (List.mem_cons_self ..)

/-- What the module of a class takes over from the registry. -/
structure Encodes (r : Registry) (flags : Flags) (cls : ClassDef) (c : ClassCode) : Prop where
  name : c.name = cls.name
  parent : c.parent = cls.parent
  table : c.table.isSome ↔ r.acceptedVirtuals flags cls ≠ []
  own : ∀ m : String, c.own? m = lastNamed m (r.acceptedVirtuals flags cls)
  wellFormed : c.WellFormed

theorem encodes_of_classCode {cls : ClassDef} {p : ClassPlan} {runtimeModule : String}
    {c : ClassCode} (hp : Dispatches r flags cls p) (h : classCode runtimeModule p = .ok c) :
    Encodes r flags cls c := by
  obtain ⟨blocks, _, h⟩ := bind_eq_ok.mp h
  cases h
  have hown (m : String) : ClassCode.own? ⟨p.name, p.parent, standardImports p,
      projectImports runtimeModule p, blocks, if hasTable p then p.virtuals else [],
      if hasTable p then some p.dispatch else none⟩ m =
        lastNamed m (r.acceptedVirtuals flags cls) := by
    unfold ClassCode.own?
    cases ht : hasTable p with
    | true => exact hp.find? m
    | false =>
      have hnone : r.acceptedVirtuals flags cls = [] := by
        by_contra hne
        rw [(hasTable_iff hp).mpr hne] at ht
        cases ht
      rw [hnone]
      rfl
  constructor
  case name => exact congrArg ClassDef.name hp.cls
  case parent => exact congrArg ClassDef.parent hp.cls
  case table =>
    rw [← hasTable_iff hp]
    cases hasTable p <;> simp
  case own => exact hown
  case wellFormed =>
    constructor
    case owner =>
      intro t ht
      dsimp only at ht ⊢
      split at ht
      · cases ht
        rw [hp.owner, ClassPlan.name, hp.cls]
      · cases ht
    case proxies =>
      intro m entry hentry
      have hmem : entry ∈ r.acceptedVirtuals flags cls := by
        rw [hown m] at hentry
        exact List.mem_reverse.mp (List.mem_of_find?_eq_some hentry)
      have ht : hasTable p = true := (hasTable_iff hp).mpr (List.ne_nil_of_mem hmem)
      dsimp only
      rw [if_pos ht, hp.virtuals]
      exact hmem

theorem encodes_of_generate (h : r.generate flags = .ok g) {runtimeModule : String}
    {codes : List ClassCode} (hcodes : g.plans.mapM (classCode runtimeModule) = .ok codes) :
    List.Forall₂ (Encodes r flags) r.classes codes := by
  have dispatches := (generates_of_generate h).plans.imp fun _ _ => dispatches_of_planClass
  replace hcodes := mapM_eq_ok.mp hcodes
  generalize r.classes = classes, g.plans = plans at dispatches hcodes
  induction dispatches generalizing codes with
  | nil =>
    cases hcodes
    exact .nil
  | cons hp _ ih =>
    cases hcodes with
    | cons hc hrest => exact .cons (encodes_of_classCode hp hc) (ih hrest)

/-- The module of a declared class is found under its name. -/
theorem find?_codes {codes : List ClassCode} (h : List.Forall₂ (Encodes r flags) r.classes codes)
    {name : Name} {cls : ClassDef} (hcls : r.class? name = some cls) :
    ∃ c, codes.find? (·.name == name) = some c ∧ Encodes r flags cls c := by
  unfold class? at hcls
  generalize r.classes = classes at h hcls
  induction h with
  | nil => cases hcls
  | @cons a c _ _ hac _ ih =>
    rw [List.find?_cons, hac.name]
    rw [List.find?_cons] at hcls
    cases ha : a.name == name with
    | true =>
      rw [ha] at hcls
      cases hcls
      exact ⟨c, rfl, hac⟩
    | false =>
      rw [ha] at hcls
      exact ih hcls

/-! ### Along the chain of parents -/

/-- The classes of a chain are clear, up to the first that has a proxy for the method. -/
def ClearAlong (codes : List ClassCode) (m : String) (found : Name → Option Trampoline) :
    List Name → Prop
  | [] => True
  | name :: rest =>
    (∀ c, codes.find? (·.name == name) = some c → c.Clear m) ∧
      (found name = none → ClearAlong codes m found rest)

theorem clearAlong_cons {codes : List ClassCode} {m : String} {found : Name → Option Trampoline}
    {name : Name} {rest : List Name} {c : ClassCode}
    (hc : codes.find? (·.name == name) = some c) :
    ClearAlong codes m found (name :: rest) ↔
      c.Clear m ∧ (found name = none → ClearAlong codes m found rest) := by
  rw [ClearAlong, hc]
  simp

/-- A class with a proxy for the method answers by itself, whatever is above it. -/
theorem runs_of_own {codes : List ClassCode} {m : String} {name : Name} {c : ClassCode}
    {entry : Trampoline} (hfind : codes.find? (·.name == name) = some c) (hc : c.WellFormed)
    (hfound : c.own? m = some entry) (hown : r.lastAccepted flags m name = c.own? m)
    (above : List Name) :
    ∃ answer, Runs codes m name answer ∧
      (answer = .ofResolved ((name :: above).findSome? (r.lastAccepted flags m)) ↔
        ClearAlong codes m (r.lastAccepted flags m) (name :: above)) := by
  obtain ⟨answer, hanswer, hclear⟩ := answer?_of_own hc hfound
  refine ⟨answer, .answers hfind hanswer, ?_⟩
  rw [clearAlong_cons hfind, List.findSome?_cons, hown, hfound]
  simpa [Answer.ofResolved] using hclear

/-- A class that has been asked gives an answer, and it is the resolved one exactly where every
class that had to be asked is clear. -/
theorem runs_along (hs : Sound r) {codes : List ClassCode}
    (hcodes : List.Forall₂ (Encodes r flags) r.classes codes) (m : String) {name : Name}
    {line : List Name} (hline : Line r.classes name line) {cls : ClassDef}
    (hcls : r.class? name = some cls) :
    ∃ answer, Runs codes m name answer ∧
      (answer = .ofResolved ((name :: line).findSome? (r.lastAccepted flags m)) ↔
        ClearAlong codes m (r.lastAccepted flags m) (name :: line)) := by
  induction hline generalizing cls with
  | @top name hp =>
    obtain ⟨c, hfind, hc⟩ := find?_codes hcodes hcls
    have hown : r.lastAccepted flags m name = c.own? m := by rw [hc.own, lastAccepted, hcls]; rfl
    have hparent : c.parent = none := by
      rw [hc.parent]
      rwa [parentAmong, show r.classes.find? (·.name == name) = some cls from hcls] at hp
    cases hfound : c.own? m with
    | some entry => exact runs_of_own hfind hc.wellFormed hfound hown []
    | none =>
      rw [clearAlong_cons hfind, List.findSome?_cons, hown, hfound]
      rcases answer?_of_own_none hc.wellFormed hfound with ⟨hclear, hanswer⟩ | ⟨hclear, hanswer⟩
      · exact ⟨.base, .ends hfind hanswer hparent, by simp [Answer.ofResolved, hclear, ClearAlong]⟩
      · exact ⟨.stray, .answers hfind hanswer, by simp [Answer.ofResolved, hclear]⟩
  | @up name parent line hp rest ih =>
    obtain ⟨c, hfind, hc⟩ := find?_codes hcodes hcls
    have hown : r.lastAccepted flags m name = c.own? m := by rw [hc.own, lastAccepted, hcls]; rfl
    have hparent : cls.parent = some parent := by
      rwa [parentAmong, show r.classes.find? (·.name == name) = some cls from hcls] at hp
    obtain ⟨above, habove⟩ := hs.parents cls (List.mem_of_find?_eq_some hcls) parent hparent
    obtain ⟨answer, hruns, hexact⟩ := ih habove
    cases hfound : c.own? m with
    | some entry => exact runs_of_own hfind hc.wellFormed hfound hown (parent :: line)
    | none =>
      rw [clearAlong_cons hfind, List.findSome?_cons, hown, hfound]
      rcases answer?_of_own_none hc.wellFormed hfound with ⟨hclear, hanswer⟩ | ⟨hclear, hanswer⟩
      · refine ⟨answer, .defers hfind hanswer (hc.parent.trans hparent) hruns, ?_⟩
        dsimp only
        rw [hexact]
        exact ⟨fun h => ⟨hclear, fun _ => h⟩, fun h => h.2 rfl⟩
      · refine ⟨.stray, .answers hfind hanswer, iff_of_false (fun h => ?_) fun h => hclear h.1⟩
        cases hresolved : (parent :: line).findSome? (r.lastAccepted flags m) with
        | some t => rw [hresolved] at h; cases h
        | none => rw [hresolved] at h; cases h

/-- Resolving finds nothing exactly where no class of the chain has an accepted trampoline of the
name. -/
theorem findSome?_lastAccepted_eq_none {m : Name} {names : List Name} :
    names.findSome? (r.lastAccepted flags m) = none ↔
      ∀ name ∈ names, ∀ cls, r.class? name = some cls →
        ∀ t ∈ r.acceptedVirtuals flags cls, (t.method.name == m) = false := by
  rw [List.findSome?_eq_none_iff]
  refine forall₂_congr fun name _ => ?_
  rw [lastAccepted, Option.bind_eq_none_iff]
  exact forall₂_congr fun cls _ => lastNamed_eq_none

/-- Planning and the emitted modules agree on what the engine gets for a virtual method.

Planning resolves the last accepted trampoline of the nearest class that has one, and nothing
exactly where no class of the chain has one, whether the class is declared or not. The module of
a class holds a dispatch table exactly where a virtual method of the class was accepted. Asking
the module of a declared class gives one answer, and that is the resolved one exactly where every
class that has to be asked is clear. -/
theorem dispatch_as_resolved {d : Declarations} (hd : build d = .ok r)
    (hg : r.generate flags = .ok g) :
    (∀ className m : Name, m.isComposite = false → ∃ line, r.ancestors className = .ok line ∧
        r.resolveDispatch g.dispatchTables className m =
          .ok ((className :: line).findSome? (r.lastAccepted flags m)) ∧
        ((className :: line).findSome? (r.lastAccepted flags m) = none ↔
          ∀ name ∈ className :: line, ∀ cls, r.class? name = some cls →
            ∀ t ∈ r.acceptedVirtuals flags cls, (t.method.name == m) = false)) ∧
      ∀ runtimeModule codes, g.plans.mapM (classCode runtimeModule) = .ok codes →
        List.Forall₂ (Encodes r flags) r.classes codes ∧
          ∀ (className : Name) (m : String), (r.class? className).isSome →
            ∃ line answer, r.ancestors className = .ok line ∧ Runs codes m className answer ∧
              (∀ other, Runs codes m className other → other = answer) ∧
              (answer = .ofResolved ((className :: line).findSome? (r.lastAccepted flags m)) ↔
                ClearAlong codes m (r.lastAccepted flags m) (className :: line)) := by
  have sound := sound_of_build hd
  constructor
  · intro className m hm
    obtain ⟨line, hline⟩ := sound.exists_ancestors className
    exact ⟨line, hline, resolveDispatch_eq hg hm hline, findSome?_lastAccepted_eq_none⟩
  · intro runtimeModule codes hcodes
    have encodes := encodes_of_generate hg hcodes
    refine ⟨encodes, fun className m hdeclared => ?_⟩
    obtain ⟨cls, hcls⟩ := Option.isSome_iff_exists.mp hdeclared
    obtain ⟨line, hline⟩ := sound.exists_ancestors className
    obtain ⟨answer, hruns, hexact⟩ :=
      runs_along sound encodes m (line_of_ancestors hline) hcls
    exact ⟨line, answer, hline, hruns, fun other hother => hother.unique hruns, hexact⟩

/-- A class that declares a virtual method, and one that inherits it. -/
def doors : List ClassDef :=
  [.declaring "Door" none [{ name := "_open", isVirtual := true }] [],
   .declaring "Gate" (some "Door") [] []]

/-- A gate gets what a door has. -/
theorem dispatch_as_resolved_doors :
    ∃ g line, (ofClasses doors).generate {} = .ok g ∧
      (ofClasses doors).ancestors "Gate" = .ok line ∧
      (ofClasses doors).resolveDispatch g.dispatchTables "Gate" "_open" =
        .ok ((("Gate" : Name) :: line).findSome? ((ofClasses doors).lastAccepted {} "_open")) := by
  have returns : ((ofClasses doors).generate {}).toOption.isSome := by rfl
  obtain ⟨g, hg⟩ := exists_eq_ok returns
  have built : build (.ofClasses doors) = .ok (ofClasses doors) := by rfl
  obtain ⟨line, hline, hresolve, _⟩ := (dispatch_as_resolved built hg).1 "Gate" "_open" rfl
  exact ⟨g, line, hg, hline, hresolve⟩

/-- A class whose name hides its dispatch table, and one whose method stands where a dispatcher is
looked for. -/
def strays : List ClassDef :=
  [.declaring "_Door" none [{ name := "_open", isVirtual := true }] [],
   .declaring "Wall" none [{ name := "get_virtual_dispatcher", hash := some 7 }] []]

/-- The module of a class without virtual methods whose own method stands where a dispatcher is
looked for. -/
def wallStrays (codes : List ClassCode) : Bool :=
  match codes.find? (·.name == ("Wall" : Name)) with
  | some c => c.table.isNone && c.inner.contains "get_virtual_dispatcher"
  | none => false

/-- Neither class answers what is resolved for it: the dispatcher of the first reads a name that
nothing has, and the second has no dispatch table and answers by its own method. -/
theorem dispatch_stray :
    ∃ g codes t, (ofClasses strays).generate {} = .ok g ∧
      g.plans.mapM (classCode "godot.runtime") = .ok codes ∧
      (ofClasses strays).resolveDispatch g.dispatchTables "_Door" "_open" = .ok (some t) ∧
      Runs codes "_open" "_Door" .stray ∧
      (ofClasses strays).resolveDispatch g.dispatchTables "Wall" "_open" = .ok none ∧
      Runs codes "_open" "Wall" .stray := by
  have computed : (do
      let g ← (ofClasses strays).generate {}
      let codes ← (g.plans.mapM (classCode "godot.runtime")).mapError .value
      return (g, codes)).toOption.any (fun x : Generation × List ClassCode => wallStrays x.2) := by
    rfl
  obtain ⟨⟨g, codes⟩, hrun, hwall⟩ := exists_eq_ok_of_any computed
  obtain ⟨_, hg, hrun⟩ := bind_eq_ok.mp hrun
  obtain ⟨_, hcodes, hrun⟩ := bind_eq_ok.mp hrun
  cases hrun
  have encodes := encodes_of_generate hg (mapError_eq_ok.mp hcodes)
  have resolves {name : Name} (hline : (ofClasses strays).ancestors name = .ok []) :=
    resolveDispatch_eq hg (show ("_open" : Name).isComposite = false from rfl) hline
  have accepted : (([("_Door" : Name)].findSome?
      ((ofClasses strays).lastAccepted {} "_open")).isSome) = true := by rfl
  obtain ⟨t, ht⟩ := Option.isSome_iff_exists.mp accepted
  have door : Runs codes "_open" "_Door" .stray := by
    have declared : ((ofClasses strays).class? "_Door").isSome := by rfl
    obtain ⟨cls, hcls⟩ := Option.isSome_iff_exists.mp declared
    obtain ⟨c, hfind, hc⟩ := find?_codes encodes hcls
    cases hcls
    have htable : c.table.isSome := hc.table.mpr (by decide +kernel)
    refine .answers hfind (answer?_of_hidesTable hc.wellFormed htable ?_)
    rw [hc.name]
    decide
  have wall : Runs codes "_open" "Wall" .stray := by
    unfold wallStrays at hwall
    split at hwall
    · next c hfind =>
      rw [Bool.and_eq_true, Option.isNone_iff_eq_none] at hwall
      refine .answers hfind ?_
      rw [ClassCode.answer?, hwall.1]
      exact if_pos hwall.2
    · cases hwall
  exact ⟨g, codes, t, hg, mapError_eq_ok.mp hcodes, (resolves rfl).trans (congrArg _ ht), door,
    resolves rfl, wall⟩

end EngineBindings.Package

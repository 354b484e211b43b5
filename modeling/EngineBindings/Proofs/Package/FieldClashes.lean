import EngineBindings.Proofs.Layout.Tiling
import EngineBindings.Proofs.Package.Carriers
import EngineBindings.Proofs.Plan.Accounting

/-! Methods and fields of one name.

A structure is declared with the fields of its layout, which come from the offsets of the build
configuration, and with the methods of its builtin. A method is left out for a clash by the members
that the builtin declares (`Registry.clashes_or_bound`), so no bound method has the name of one of
these. But the structure can have fields besides them: what the offsets list and no member is
declared for, and the padding of gaps (`Registry.UndeclaredField`). A bound method can have the name
of such a field and of no other. -/
namespace EngineBindings

open Attempt EngineBindings.Text

/-! ### Names of entries -/

namespace Layout

/-- A place where bytes are left over: in front of the first field, between two neighbours, or
behind the last field. -/
def HasGap (l : Layout Int) (start : Int) : Prop :=
  ∃ front behind, l.sortedFields = front ++ behind ∧
    start = front.getLast?.elim 0 (fun f => f.offset + f.size) ∧
    start < behind.head?.elim l.size (·.offset)

/-- What an entry is called that is no field: padding by the place where it starts, and storage
that nothing is known of by a name of its own. -/
inductive FillerName (l : Layout Int) : String → Prop
  | padding {start : Int} (given : l.fields ≠ []) (gap : l.HasGap start) :
    FillerName l ("_pad" ++ Number.decimal start)
  | storage (none : l.fields = []) (size : l.size ≠ 0) : FillerName l "_opaque"

end Layout

variable {l : Layout Int} {fields : List (LayoutField Int)} {specs : List (FieldSpec Int)}
  {cursor stop start : Int}

theorem exists_padding_gapTiles :
    (∃ count, Tile.padding start count ∈ gapTiles cursor stop) ↔ start = cursor ∧ start < stop := by
  unfold gapTiles
  constructor
  · rintro ⟨count, hmem⟩
    split at hmem
    · next room =>
      cases List.mem_singleton.mp hmem
      exact ⟨rfl, room⟩
    · cases hmem
  · rintro ⟨rfl, room⟩
    rw [if_pos room]
    exact ⟨_, List.mem_singleton_self _⟩

theorem field_mem_tilesFrom {f : LayoutField Int} :
    Tile.field f ∈ tilesFrom stop cursor fields ↔ f ∈ fields := by
  have kept : f ∈ (tilesFrom stop cursor fields).filterMap Tile.field? ↔ f ∈ fields := by
    rw [filterMap_tilesFrom]
  rw [← kept, List.mem_filterMap]
  constructor
  · exact fun htile => ⟨_, htile, rfl⟩
  · rintro ⟨tile, htile, isField⟩
    cases tile with
    | field g =>
      cases isField
      exact htile
    | padding => cases isField

theorem elim_getLast?_cons (f : LayoutField Int) (front : List (LayoutField Int)) :
    (f :: front).getLast?.elim cursor (fun f => f.offset + f.size) =
      front.getLast?.elim (f.offset + f.size) fun f => f.offset + f.size := by
  rw [List.getLast?_cons]
  cases front.getLast? <;> rfl

/-- Padding starts where one field ends and the next one does not start yet. -/
theorem exists_padding_tilesFrom :
    (∃ count, Tile.padding start count ∈ tilesFrom stop cursor fields) ↔
      ∃ front behind, fields = front ++ behind ∧
        start = front.getLast?.elim cursor (fun f => f.offset + f.size) ∧
        start < behind.head?.elim stop (·.offset) := by
  induction fields generalizing cursor with
  | nil =>
    rw [tilesFrom, exists_padding_gapTiles]
    constructor
    · exact fun gap => ⟨[], [], rfl, gap⟩
    · rintro ⟨front, behind, cut, gap⟩
      obtain ⟨rfl, rfl⟩ := List.append_eq_nil_iff.mp cut.symm
      exact gap
  | cons f rest ih =>
    have parted : (∃ count, Tile.padding start count ∈ tilesFrom stop cursor (f :: rest)) ↔
        (∃ count, Tile.padding start count ∈ gapTiles cursor f.offset) ∨
          ∃ count, Tile.padding start count ∈ tilesFrom stop (f.offset + f.size) rest := by
      simp only [tilesFrom, List.mem_append, List.mem_cons, reduceCtorEq, false_or, exists_or]
    rw [parted, exists_padding_gapTiles, ih]
    constructor
    · rintro (gap | ⟨front, behind, rfl, start, room⟩)
      · exact ⟨[], f :: rest, rfl, gap⟩
      · exact ⟨f :: front, behind, rfl, start.trans (elim_getLast?_cons f front).symm, room⟩
    · rintro ⟨front, behind, cut, start, room⟩
      cases front with
      | nil =>
        obtain rfl : f :: rest = behind := cut
        exact .inl ⟨start, room⟩
      | cons first front =>
        obtain ⟨rfl, rfl⟩ := List.cons.inj cut
        exact .inr ⟨front, behind, rfl, start.trans (elim_getLast?_cons f front), room⟩

/-- The entries of a covered layout are called as its fields are, or by what they fill. -/
theorem Layout.exists_named_iff (h : l.specs = .ok specs) (text : String) :
    (∃ spec ∈ specs, spec.name = text) ↔
      (∃ f ∈ l.fields, f.name = text) ∨ l.FillerName text := by
  by_cases given : l.fields = []
  · rw [Layout.specs, isOpaque, if_pos (by simpa using given)] at h
    obtain rfl := Except.ok.inj h
    constructor
    · rintro ⟨spec, hspec, named⟩
      unfold unknownStorage at hspec
      split at hspec
      · cases hspec
      · next size =>
        cases List.mem_singleton.mp hspec
        cases named
        exact .inr (.storage given size)
    · rintro (⟨f, hf, -⟩ | named)
      · rw [given] at hf
        cases hf
      · cases named with
        | padding given' gap => exact absurd given given'
        | storage _ size =>
          have filled : unknownStorage l.size = [⟨("_opaque" : String), .bytes l.size⟩] :=
            if_neg size
          rw [filled]
          exact ⟨_, List.mem_singleton_self _, rfl⟩
  · obtain ⟨-, rfl⟩ := (Layout.specs_eq_ok_iff given).mp h
    constructor
    · rintro ⟨spec, hspec, named⟩
      obtain ⟨tile, htile, rfl⟩ := List.mem_map.mp hspec
      cases tile with
      | field f =>
        exact .inl ⟨f, l.sortedFields_perm.mem_iff.mp (field_mem_tilesFrom.mp htile), named⟩
      | padding start count =>
        cases named
        exact .inr (.padding given (exists_padding_tilesFrom.mp ⟨count, htile⟩))
    · rintro (⟨f, hf, named⟩ | named)
      · have htile : Tile.field f ∈ tilesFrom l.size 0 l.sortedFields :=
          field_mem_tilesFrom.mpr (l.sortedFields_perm.mem_iff.mpr hf)
        exact ⟨_, List.mem_map_of_mem htile, named⟩
      · cases named with
        | padding _ gap =>
          obtain ⟨count, htile⟩ := exists_padding_tilesFrom.mpr gap
          exact ⟨_, List.mem_map_of_mem htile, rfl⟩
        | storage none _ => exact absurd none given

namespace Registry

variable {r : Registry} {name : Name} {b : BuiltinDef} {m : MethodDef}

/-! ### Names of fields -/

theorem name_of_offsetField {owner : Name} {o : MemberOffset} {f : LayoutField Int}
    (h : r.offsetField owner o = .ok f) : f.name = o.member := by
  obtain ⟨content, -, h⟩ := bind_eq_ok.mp h
  split at h
  · cases h
    rfl
  · split at h <;> cases h
    rfl

theorem name_of_memberField {owner : Name} {offset : Int} {m : BuiltinMember} {f : LayoutField Int}
    (h : r.memberField owner offset m = .ok f) : f.name = m.name := by
  obtain ⟨type, -, h⟩ := bind_eq_ok.mp h
  split at h
  · obtain ⟨target, -, h⟩ := bind_eq_ok.mp h
    split at h <;> cases h
    rfl
  · split at h <;> cases h
    rfl

theorem names_of_sequentialFields {owner : Name} {offset : Int} {members : List BuiltinMember}
    (h : r.sequentialFields owner offset members = .ok fields) :
    fields.map (·.name) = members.map (·.name) := by
  induction members generalizing offset fields with
  | nil =>
    cases h
    rfl
  | cons m rest ih =>
    obtain ⟨f, hf, h⟩ := bind_eq_ok.mp h
    obtain ⟨others, hothers, h⟩ := bind_eq_ok.mp h
    cases h
    rw [List.map_cons, List.map_cons, name_of_memberField hf, ih hothers]

/-- The fields of a value type are those that its offsets list, and the declared members where
there are no offsets. -/
theorem exists_field_named_iff (h : r.layout name = .ok l) (text : String) :
    (∃ f ∈ l.fields, f.name = text) ↔
      (∃ o ∈ r.memberOffsets name, o.member = text) ∨
        r.memberOffsets name = [] ∧ ∃ b, r.builtin? name = some b ∧ ∃ m ∈ b.members, m.name = text := by
  obtain ⟨size, fields, -, hfields, rfl, -⟩ := layout_eq_ok.mp h
  have among : ∀ names : List Name, fields.map (·.name) = names →
      ((∃ f ∈ fields, f.name = text) ↔ (text : Name) ∈ names) := by
    rintro _ rfl
    exact List.mem_map.symm
  unfold layoutFields at hfields
  split at hfields
  · next unlisted =>
    simp only [unlisted, List.not_mem_nil, false_and, exists_false, true_and, false_or]
    split at hfields
    · next b found =>
      simp only [found, Option.some.injEq, exists_eq_left']
      rw [among _ (names_of_sequentialFields hfields), List.mem_map]
    · next unfound =>
      cases hfields
      simp [unfound]
  · next listed =>
    have names : fields.map (·.name) = (r.memberOffsets name).map (·.member) :=
      map_eq_map (mapM_eq_ok.mp hfields) fun _ _ _ => name_of_offsetField
    rw [among _ names, List.mem_map]
    exact (or_iff_left fun unlisted => listed unlisted.1).symm

/-- A field of a structure that is none of its builtin's declared members: one that the offsets
list, one of another builtin of the same name, or what fills bytes that are left over. -/
inductive UndeclaredField (r : Registry) (b : BuiltinDef) (l : Layout Int) (text : String) : Prop
  | listed {o : MemberOffset} (listed : o ∈ r.memberOffsets l.name) (named : o.member = text)
    (undeclared : ∀ m ∈ b.members, m.name ≠ text)
  | namesake {other : BuiltinDef} {m : BuiltinMember} (unlisted : r.memberOffsets l.name = [])
    (found : r.builtin? l.name = some other) (declared : m ∈ other.members) (named : m.name = text)
    (undeclared : ∀ m ∈ b.members, m.name ≠ text)
  | filler (named : l.FillerName text)

theorem declared_named_iff {fields : List (Name × Name)} (hl : r.layout name = .ok l)
    (h : r.declarationFields name = .ok fields) (text : String) :
    (∃ f ∈ fields, f.1 = text) ↔ (∃ f ∈ l.fields, f.name = text) ∨ l.FillerName text := by
  obtain ⟨l', hl', h⟩ := bind_eq_ok.mp h
  obtain rfl := Except.ok.inj (hl.symm.trans hl')
  obtain ⟨specs, hspecs, h⟩ := bind_eq_ok.mp h
  have names : fields.map (·.1) = specs.map (·.name) :=
    map_eq_map (mapM_eq_ok.mp h) fun spec _ field hfield => by
      obtain ⟨type, -, hfield⟩ := bind_eq_ok.mp hfield
      cases hfield
      rfl
  rw [← Layout.exists_named_iff (mapError_eq_ok.mp hspecs), ← List.mem_map, names, List.mem_map]

/-- What is declared besides the declared members. -/
theorem declared_iff_undeclaredField {fields : List (Name × Name)} (hl : r.layout l.name = .ok l)
    (h : r.declarationFields l.name = .ok fields) {text : String}
    (undeclared : ∀ m ∈ b.members, m.name ≠ text) :
    (∃ f ∈ fields, f.1 = text) ↔ r.UndeclaredField b l text := by
  rw [declared_named_iff hl h, exists_field_named_iff hl]
  constructor
  · rintro ((⟨o, ho, named⟩ | ⟨unlisted, other, found, m, hm, named⟩) | named)
    · exact .listed ho named undeclared
    · exact .namesake unlisted found hm named undeclared
    · exact .filler named
  · intro field
    cases field with
    | listed ho named => exact .inl (.inl ⟨_, ho, named⟩)
    | namesake unlisted found hm named => exact .inl (.inr ⟨unlisted, _, found, _, hm, named⟩)
    | filler named => exact .inr named

end Registry

/-! ### What becomes of methods -/

theorem any_name_beq_iff {members : List BuiltinMember} {text : String} :
    members.any (·.name == (text : Name)) = true ↔ ∃ member ∈ members, member.name = text := by
  rw [List.any_eq_true]
  exact exists_congr fun member => and_congr_right fun _ =>
    Name.beq_iff_eq_of_isText (Name.isText_text text)

namespace Registry

variable {r : Registry} {flags : Flags} {g : Generation} {p : BuiltinPlan}

/-- No bound method has the name of a declared member. -/
theorem undeclared_of_bound (hg : r.generate flags = .ok g) (hp : p ∈ g.builtins)
    {b : MethodBinding} (hb : b ∈ p.bindings) :
    ∀ member ∈ p.builtin.members, member.name ≠ b.exposedName := by
  obtain ⟨v, -, hplan⟩ := exists_left (generates_of_generate hg).builtins hp
  have accounts := accountsForBuiltin_of_planBuiltin hplan
  obtain rfl := accounts.builtin
  obtain ⟨m, -, hbind⟩ := bindBuiltin_of_mem hplan b hb
  obtain ⟨exposed, hexposed, carries⟩ := carries_of_bindBuiltin hbind
  have kept : b.method ∈ p.bindings.map (·.method) := List.mem_map_of_mem hb
  rw [accounts.bindings, carries.method] at kept
  have silent := Option.isNone_iff_eq_none.mp (List.mem_filter.mp kept).2
  unfold builtinDiagnostic? at silent
  rw [hexposed] at silent
  split at silent
  · cases silent
  · dsimp only at silent
    split at silent
    · cases silent
    · next clear =>
      rw [any_name_beq_iff] at clear
      rw [carries.exposedName]
      exact fun member hmember named => clear ⟨member, hmember, named⟩

/-- A method that can be called is left out where it has the name of a declared member, and bound
anywhere else. -/
theorem clashes_or_bound (hg : r.generate flags = .ok g) (hp : p ∈ g.builtins) {m : MethodDef}
    (hm : m ∈ p.builtin.methods) (callable : signatureObstacle m = none) :
    ∃ exposed, m.name.sanitize = .ok exposed ∧
      ((∃ member ∈ p.builtin.members, member.name = exposed) ∧
          ⟨p.name, m.name, "name clashes with a struct field"⟩ ∈ p.diagnostics ∨
        (∀ member ∈ p.builtin.members, member.name ≠ exposed) ∧
          ∃ b ∈ p.bindings, b.method = m ∧ b.exposedName = exposed) := by
  obtain ⟨v, -, hplan⟩ := exists_left (generates_of_generate hg).builtins hp
  have accounts := accountsForBuiltin_of_planBuiltin hplan
  obtain rfl := accounts.builtin
  obtain ⟨exposed, hexposed⟩ : ∃ exposed, m.name.sanitize = .ok exposed := by
    obtain ⟨_, -, hresults⟩ := bind_eq_ok.mp hplan
    obtain ⟨results, hresults, -⟩ := bind_eq_ok.mp hresults
    obtain ⟨result, -, hresult⟩ := exists_right (mapM_eq_ok.mp hresults) hm
    obtain ⟨binding, hbind, -⟩ := bind_eq_ok.mp hresult
    obtain ⟨exposed, hexposed, -⟩ := carries_of_bindBuiltin hbind
    exact ⟨exposed, hexposed⟩
  refine ⟨exposed, hexposed, ?_⟩
  have reported : builtinDiagnostic? p.builtin m =
      if p.builtin.members.any (·.name == (exposed : Name)) then
        some ⟨p.name, m.name, "name clashes with a struct field"⟩ else none := by
    rw [builtinDiagnostic?, callable, hexposed]
    rfl
  by_cases clash : ∃ member ∈ p.builtin.members, member.name = exposed
  · rw [if_pos (any_name_beq_iff.mpr clash)] at reported
    refine .inl ⟨clash, ?_⟩
    rw [accounts.diagnostics]
    exact List.mem_filterMap.mpr ⟨m, hm, reported⟩
  · rw [if_neg (mt any_name_beq_iff.mp clash)] at reported
    have kept : m ∈ p.bindings.map (·.method) := by
      rw [accounts.bindings]
      exact List.mem_filter.mpr ⟨hm, by rw [reported]; rfl⟩
    obtain ⟨b, hb, rfl⟩ := List.mem_map.mp kept
    obtain ⟨m, -, hbind⟩ := bindBuiltin_of_mem hplan b hb
    obtain ⟨exposed', hexposed', carries⟩ := carries_of_bindBuiltin hbind
    rw [← carries.method, hexposed] at hexposed'
    exact .inr ⟨fun member hmember named => clash ⟨member, hmember, named⟩, b, hb, rfl,
      carries.exposedName.trans (Except.ok.inj hexposed').symm⟩

end Registry

namespace Package

theorem parts_of_structDecl {r : Registry} {bound : OrderedMap Name BuiltinPlan} {inPackage : Bool}
    {l : Layout Int} {s : StructDecl} (h : structDecl r bound inPackage l = .ok s) :
    r.declarationFields l.name = .ok s.fields ∧ (bound.find? l.name = none → s.methods = []) ∧
      ∀ p, bound.find? l.name = some p → builtinMethodLines inPackage p = .ok s.methods := by
  obtain ⟨fields, hfields, h⟩ := bind_eq_ok.mp h
  split at h
  · next p found =>
    obtain ⟨methods, hmethods, h⟩ := bind_eq_ok.mp h
    cases h
    refine ⟨hfields, fun none => ?_, fun q hq => ?_⟩
    · cases found.symm.trans none
    · cases found.symm.trans hq
      exact hmethods
  · next unfound =>
    cases h
    exact ⟨hfields, fun _ => rfl, fun q hq => by cases unfound.symm.trans hq⟩

/-- A method of a builtin is left out for a clash exactly where the builtin declares a member of
its name. What the structure of the builtin carries can still have the name of a field: of one that
is not declared, and of no other. -/
theorem clashes_iff_undeclared {r : Registry} {flags : Flags} {g : Generation}
    {options : RenderOptions} {own : Templates} {artifacts : OrderedMap Name String}
    (hg : r.generate flags = .ok g) (hrender : render g options own = .ok artifacts) :
    ∃ defs layouts, coreDefs g options.runtimeModule (!options.singleFile) = .ok defs ∧
      r.structLayouts = .ok layouts ∧
      List.Forall₂ (fun (l : Layout Int) (s : StructDecl) =>
          ((boundBuiltins g).find? l.name = none → s.methods = []) ∧
          ∀ p, (boundBuiltins g).find? l.name = some p →
            builtinMethodLines (!options.singleFile) p = .ok s.methods ∧
            ∀ b ∈ p.bindings, (∀ m ∈ p.builtin.members, m.name ≠ b.exposedName) ∧
              ((∃ f ∈ s.fields, f.1 = b.exposedName) ↔
                r.UndeclaredField p.builtin l b.exposedName))
        layouts defs.structs ∧
      ∀ p ∈ g.builtins,
        (p.builtin.isStruct = true → ∃ l ∈ layouts, (l.name == p.name) = true) ∧
        ∀ m ∈ p.builtin.methods, signatureObstacle m = none →
          ∃ exposed, m.name.sanitize = .ok exposed ∧
            ((∃ member ∈ p.builtin.members, member.name = exposed) ∧
                ⟨p.name, m.name, "name clashes with a struct field"⟩ ∈ p.diagnostics ∨
              (∀ member ∈ p.builtin.members, member.name ≠ exposed) ∧
                ∃ b ∈ p.bindings, b.method = m ∧ b.exposedName = exposed) := by
  obtain ⟨defs, hdefs, _⟩ := bind_eq_ok.mp hrender
  have hdefs := mapError_eq_ok.mp hdefs
  obtain ⟨layouts, hlayouts, declared⟩ := (gathers_of_coreDefs hdefs).structs
  rw [(Registry.generates_of_generate hg).registry] at hlayouts declared
  refine ⟨defs, layouts, hdefs, hlayouts, ?_, fun p hp => ⟨fun hstruct => ?_, fun m hm callable =>
    Registry.clashes_or_bound hg hp hm callable⟩⟩
  · have made : ∀ l ∈ layouts, r.layout l.name = .ok l := fun l =>
      Registry.layout_of_structLayouts hlayouts
    refine ((List.forall₂_and_left layouts _).mpr ⟨made, declared⟩).imp fun l s ⟨hl, hs⟩ => ?_
    obtain ⟨hfields, bare, methods⟩ := parts_of_structDecl hs
    refine ⟨bare, fun p found => ⟨methods p found, fun b hb => ?_⟩⟩
    have undeclared := Registry.undeclared_of_bound hg (mem_of_find?_boundBuiltins found) hb
    exact ⟨undeclared, Registry.declared_iff_undeclaredField hl hfields undeclared⟩
  · obtain ⟨n, same, l, hl, hmade⟩ := Registry.exists_structLayout hlayouts
      (Registry.mem_sizedStructs_of_generate hg hp hstruct)
    exact ⟨l, hl, by rw [Registry.name_of_layout hmade]; exact BEq.symm same⟩

/-- A color that is stored in other parts than the one that it declares, with bytes behind them. It
has methods that are called as both parts and as the padding. -/
def colors : Json :=
  documentOf [.obj [("name", .str "Color"), ("size", .int 8)]]
    [("builtin_class_member_offsets",
      [.obj [("build_configuration", .str "float_64"),
        ("classes", .arr [.obj [("name", .str "Color"),
          ("members", .arr [
            .obj [("member", .str "r"), ("offset", .int 0), ("meta", .str "float")]])]])]]),
     ("builtin_classes",
      [.obj [("name", .str "Color"),
        ("members", .arr [.obj [("name", .str "h"), ("type", .str "float")]]),
        ("methods", .arr [
          .obj [("name", .str "h"), ("hash", .int 1)],
          .obj [("name", .str "r"), ("hash", .int 2)],
          .obj [("name", .str "_pad4"), ("hash", .int 3)],
          .obj [("name", .str "inverted"), ("hash", .int 4)]])]])]

theorem underscore_of_fillerName {l : Layout Int} {text : String} (h : l.FillerName text) :
    text.toList.head? = some '_' := by
  cases h with
  | padding => simp
  | storage => rfl

/-- A color's method is left out where it is called as the declared part. One that is called as no
field at all is carried and clashes with nothing. -/
theorem clashes_iff_undeclared_colors :
    ∃ r g artifacts defs, Registry.ofDocument "float_64" colors = .ok r ∧
      r.generate {} = .ok g ∧ render g {} [] = .ok artifacts ∧
      coreDefs g "godot.runtime" true = .ok defs ∧
      ∃ p ∈ g.builtins,
        (∃ m ∈ p.builtin.methods, m.name.text? = some "h" ∧
          ⟨p.name, m.name, "name clashes with a struct field"⟩ ∈ p.diagnostics) ∧
        ∃ s ∈ defs.structs, builtinMethodLines true p = .ok s.methods ∧
          ∃ b ∈ p.bindings, b.exposedName = "inverted" ∧
            ¬∃ f ∈ s.fields, f.1 = (("inverted" : String) : Name) := by
  have returns : (packageOf colors).toOption.any (fun (r, g, _) =>
      decide ((g.builtins.Pairwise fun p q => (p.name == q.name) = false) ∧
        ∃ p ∈ g.builtins, p.builtin.isStruct = true ∧ p.name.text? = some "Color" ∧
          (∃ m ∈ p.builtin.methods, m.name.text? = some "h" ∧ signatureObstacle m = none ∧
            ∃ member ∈ p.builtin.members, member.name.text? = some "h") ∧
          (∃ b ∈ p.bindings, b.exposedName = "inverted") ∧
          r.memberOffsets ("Color" : String) ≠ [] ∧
          ∀ o ∈ r.memberOffsets ("Color" : String), o.member.text? ≠ some "inverted")) := by
    decide +kernel
  obtain ⟨⟨r, g, modules⟩, hpackage, hfacts⟩ := exists_eq_ok_of_any returns
  obtain ⟨distinct, p, hp, hstruct, hname, ⟨m, hm, called, callable, member, hmember, named⟩,
    ⟨b, hb, hinverted⟩, listed, unlisted⟩ := of_decide_eq_true hfacts
  obtain ⟨hr, hg, hmodules⟩ := packageOf_eq_ok hpackage
  have hrender := render_of_packageModules hmodules
  obtain ⟨defs, layouts, hdefs, hlayouts, declared, fates⟩ := clashes_iff_undeclared hg hrender
  obtain ⟨structs, reported⟩ := fates p hp
  refine ⟨r, g, _, defs, hr, hg, hrender, hdefs, p, hp, ⟨m, hm, called, ?_⟩, ?_⟩
  · obtain ⟨exposed, hexposed, ⟨-, clash⟩ | ⟨undeclared, -⟩⟩ := reported m hm callable
    · exact clash
    · rw [Name.eq_text_of_text? called] at hexposed
      obtain rfl : "h" = exposed := Except.ok.inj ((by decide : _ = _).symm.trans hexposed)
      exact absurd (Name.eq_text_of_text? named) (undeclared member hmember)
  · obtain ⟨l, hl, same⟩ := structs hstruct
    have hcolor := Name.eq_text_of_text? hname
    rw [hcolor] at same
    have hlayout := Name.eq_text_of_beq same
    obtain ⟨s, hs, -, carried⟩ := exists_right declared hl
    have found : (boundBuiltins g).find? l.name = some p := by
      rw [hlayout, ← hcolor]
      exact find?_boundBuiltins distinct hp (List.ne_nil_of_mem hb)
    obtain ⟨hmethods, clashes⟩ := carried p found
    refine ⟨s, hs, hmethods, b, hb, hinverted, ?_⟩
    rw [← hinverted, (clashes b hb).2, hinverted]
    intro field
    cases field with
    | listed ho named =>
      rw [hlayout] at ho
      exact unlisted _ ho (congrArg Name.text? named)
    | namesake empty =>
      rw [hlayout] at empty
      exact listed empty
    | filler named => exact absurd (underscore_of_fillerName named) (by decide)

/-- A color's structure carries methods that are called as its undeclared part and as its padding. -/
theorem carried_beside_fields :
    ∃ r g artifacts defs, Registry.ofDocument "float_64" colors = .ok r ∧
      r.generate {} = .ok g ∧ render g {} [] = .ok artifacts ∧
      coreDefs g "godot.runtime" true = .ok defs ∧
      ∃ p ∈ g.builtins, p.builtin.isStruct = true ∧
        ∃ s ∈ defs.structs, (builtinMethodLines true p).toOption = some s.methods ∧
          ∀ name ∈ ["r", "_pad4"], (∃ b ∈ p.bindings, b.exposedName = name) ∧
            ∃ f ∈ s.fields, f.1.text? = some name := by
  have returns : (packageOf colors).toOption.any (fun (_, g, _) =>
      (coreDefs g "godot.runtime" true).toOption.any fun defs => decide (
        ∃ p ∈ g.builtins, p.builtin.isStruct = true ∧
          ∃ s ∈ defs.structs, (builtinMethodLines true p).toOption = some s.methods ∧
            ∀ name ∈ ["r", "_pad4"], (∃ b ∈ p.bindings, b.exposedName = name) ∧
              ∃ f ∈ s.fields, f.1.text? = some name)) := by
    decide +kernel
  obtain ⟨⟨r, g, modules⟩, hpackage, returns⟩ := exists_eq_ok_of_any returns
  obtain ⟨defs, hdefs, hfacts⟩ := exists_eq_ok_of_any returns
  obtain ⟨hr, hg, hmodules⟩ := packageOf_eq_ok hpackage
  exact ⟨r, g, _, defs, hr, hg, render_of_packageModules hmodules, hdefs, of_decide_eq_true hfacts⟩

end Package

end EngineBindings

import EngineBindings.Proofs.Plan.EngineCall

/-! Names that the arguments of a bound callable capture.

The body of a bound callable is one scope for its parameters, whose names the document chooses, for
the cells that are named after them and for the names of the module that it reads. `CaptureFree`
says that none of these takes the name of another that is still read. Such a callable calls the
engine the way it is meant to (`run_of_captureFree`). Where names are plain it is enough that they
are written differently (`Apart.captureFree`). -/
namespace EngineBindings

open EngineBindings.Code Attempt

namespace MethodBinding

/-- A callable calls the engine the way it is meant to, whatever the engine and the runtime do. -/
def Faithful (r : Registry) (b : MethodBinding) : Prop :=
  ∀ (M : Type → Type) [Monad M] [LawfulMonad M] (V : Type) (w : World M V) (receiver : V)
    (values : List V), values.length = b.args.length →
      b.run w receiver values = b.callEngine w r receiver values

/-- No name of a callable is taken by another while it is still read. -/
structure CaptureFree (r : Registry) (b : MethodBinding) : Prop where
  module : ∀ name ∈ b.moduleNames r, spelled name ∉ b.locals
  parameters : (b.parameters.map spelled).Nodup
  /-- No cell takes the name of an argument that is prepared later. -/
  unread : b.args.Pairwise fun first later => ¬first.Rebinds later.name
  /-- No cell takes the name under which an earlier argument is kept. -/
  kept : b.args.Pairwise fun first later => ¬later.Rebinds first.kept

end MethodBinding

namespace ArgSlot

variable {slot : ArgSlot} {handing : Handing}

/-- No cell takes the name of the object. -/
theorem Handed.not_rebinds_self (h : slot.Handed handing) : ¬slot.Rebinds "self" := by
  intro hself
  obtain ⟨cell, hcell, hspelled⟩ := h.rebinds_iff.mp hself
  rw [MethodBinding.spelled_own List.mem_cons_self, spelled] at hspelled
  -- The names of cells start with letters of their own, also in normal form.
  have first : (Text.normal cell.toList).head? = some 's' := by
    have chars := congrArg String.toList hspelled
    rw [String.toList_ofList] at chars
    rw [chars]
    rfl
  cases handing with
  | content => cases hcell
  | number | scalar _ | struct _ =>
    cases hcell
    have copied : ("copy_" ++ slot.name).toList = 'c' :: 'o' :: ("py_" ++ slot.name).toList := by
      simp
    rw [copied, Text.head?_normal (by decide) (by decide)] at first
    cases first
  | object =>
    cases hcell
    have handled :
        ("handle_" ++ slot.name).toList = 'h' :: 'a' :: ("ndle_" ++ slot.name).toList := by
      simp
    rw [handled, Text.head?_normal (by decide) (by decide)] at first
    cases first

end ArgSlot

namespace MethodBinding

variable {r : Registry} {b : MethodBinding}

theorem map_fst_arguments {V : Type} (receiver : V) {values : List V}
    (h : values.length = b.args.length) :
    (b.arguments receiver values).map (·.1) = b.parameters := by
  unfold arguments parameters
  rw [List.map_append, List.map_fst_zip (by simp [h])]
  cases b.hasReceiver <;> rfl

theorem run_eq {M : Type → Type} [Monad M] {V : Type} {w : World M V} {receiver : V}
    {values : List V} (h : values.length = b.args.length) :
    b.run w receiver values =
      execute w b.locals (b.args.flatMap (·.setup) ++ b.ending)
        (entering (b.arguments receiver values)) := by
  rw [run, runFunction, map_fst_arguments receiver h, ← locals, body_eq]

theorem mem_arguments_self {V : Type} {receiver : V} {values : List V}
    (h : b.hasReceiver = true) : ("self", receiver) ∈ b.arguments receiver values := by
  unfold arguments
  rw [h, if_pos rfl]
  exact List.mem_append_left _ List.mem_cons_self

/-! ### Callables without captures -/

section Free

variable {M : Type → Type} [Monad M] [LawfulMonad M] {V : Type} {w : World M V}

/-- Preparing arguments one after another holds every one of them, where no name that is still
needed is taken. -/
theorem execute_setups {locals : List String} {rest : List Stmt} {slots : List ArgSlot}
    {handings : List Handing} (handed : List.Forall₂ ArgSlot.Handed slots handings)
    (hfree : ∀ handing ∈ handings, ∀ n ∈ handing.moduleNames, spelled n ∉ locals)
    (hlocal : ∀ slot ∈ slots, spelled slot.name ∈ locals)
    (unread : slots.Pairwise fun first later => ¬first.Rebinds later.name)
    (kept : slots.Pairwise fun first later => ¬later.Rebinds first.kept)
    {env : String → Option V} {values : List V}
    (hvalues : List.Forall₂ (fun slot v => env (spelled (ArgSlot.name slot)) = some v) slots values)
    {next : List V → M (Option V)}
    (hnext : ∀ env' held,
      (∀ n, (∀ slot ∈ slots, ¬slot.Rebinds n) → env' (spelled n) = env (spelled n)) →
      List.Forall₂ (fun slot v => env' (spelled (ArgSlot.kept slot)) = some v) slots held →
      execute w locals rest env' = next held) :
    execute w locals (slots.flatMap (·.setup) ++ rest) env =
      (List.zipWith (fun handing v => handing.hold w v) handings values).mapM id >>= next := by
  induction handed generalizing env values next with
  | nil =>
    simpa using hnext env [] (fun _ _ => rfl) .nil
  | @cons slot handing slots handings first handed ih =>
    obtain ⟨v, values, hv, hrest, rfl⟩ := List.forall₂_cons_left_iff.mp hvalues
    rw [List.forall_mem_cons] at hfree hlocal
    obtain ⟨unread_first, unread⟩ := List.pairwise_cons.mp unread
    obtain ⟨kept_first, kept⟩ := List.pairwise_cons.mp kept
    rw [List.flatMap_cons, List.append_assoc, List.zipWith_cons_cons, List.mapM_cons, bind_assoc,
      first.setup]
    simp only [id, bind_assoc, pure_bind]
    cases hcell : handing.cell? slot.name with
    | none =>
      have name_kept : slot.kept = slot.name := by
        rw [first.kept_eq, Handing.kept_of_no_cell hcell]
      rw [Handing.setup_of_no_cell hcell, List.nil_append, Handing.hold_of_no_cell hcell, pure_bind]
      refine ih hfree.2 hlocal.2 unread kept hrest fun env' held hkeeps hheld => ?_
      refine hnext env' (v :: held) (fun n hn => hkeeps n (List.forall_mem_cons.mp hn).2)
        (.cons ?_ hheld)
      rw [hkeeps slot.kept kept_first, name_kept, hv]
    | some cell =>
      have cell_kept : slot.kept = cell := by
        rw [first.kept_eq, Handing.kept_of_cell hcell]
      have stays {n : String} (hn : ¬slot.Rebinds n) (held : V) :
          bindName env cell held (spelled n) = env (spelled n) :=
        bindName_of_ne fun heq => hn (first.rebinds_iff.mpr ⟨cell, hcell, heq.symm⟩)
      rw [Handing.execute_setup _ first.name hfree.1 hlocal.1 hv hcell]
      refine bind_congr fun found => ?_
      refine ih hfree.2 hlocal.2 unread kept ?_ fun env' held hkeeps hheld => ?_
      · have later := List.forall₂_iff_zip.mp hrest
        refine List.forall₂_iff_zip.mpr ⟨later.1, fun {other v} hmem => ?_⟩
        rw [stays (unread_first other (List.of_mem_zip hmem).1), later.2 hmem]
      · refine hnext env' (found :: held) (fun n hn => ?_) (.cons ?_ hheld)
        · rw [List.forall_mem_cons] at hn
          rw [hkeeps n hn.2, stays hn.1]
        · rw [hkeeps slot.kept kept_first, cell_kept, bindName_self]

/-- A callable without captures calls the engine the way it is meant to. -/
theorem run_of_captureFree (hs : b.Settled r) (hc : b.CaptureFree r) (receiver : V)
    {values : List V} (h : values.length = b.args.length) :
    b.run w receiver values = b.callEngine w r receiver values := by
  obtain ⟨_, _, _, handed, _⟩ := forall_moduleNames.mp hc.module
  have distinct : ((b.arguments receiver values).map fun a => spelled a.1).Nodup := by
    have names := hc.parameters
    rwa [← map_fst_arguments receiver h, List.map_map] at names
  have starts := entering_of_nodup distinct
  have given : List.Forall₂ (fun slot v =>
      entering (b.arguments receiver values) (spelled (ArgSlot.name slot)) = some v)
      b.args values := by
    refine List.forall₂_iff_zip.mpr ⟨h.symm, fun {slot v} hmem => starts (slot.name, v) ?_⟩
    refine List.mem_append_right _ ?_
    rw [List.zip_map_left]
    exact List.mem_map_of_mem (f := Prod.map ArgSlot.name id) hmem
  rw [run_eq h, callEngine]
  refine execute_setups hs.args handed (fun slot hslot => mem_locals_name hslot) hc.unread hc.kept
    given fun env held hkeeps hheld => execute_ending hs hc.module (fun has => ?_) hheld
  rw [hkeeps "self" fun slot hslot => ?_, starts _ (mem_arguments_self has)]
  obtain ⟨handing, _, hhanded⟩ := exists_right hs.args hslot
  exact hhanded.not_rebinds_self

end Free

end MethodBinding

/-! ### Names as they are written -/

namespace MethodBinding

variable {r : Registry} {b : MethodBinding}

/-- No name of a callable is taken by another while it is still read, names being compared as they
are written. -/
structure Apart (r : Registry) (b : MethodBinding) : Prop where
  module : ∀ name ∈ b.moduleNames r, name ∉ b.parameters ++ bindsOf b.body
  parameters : b.parameters.Nodup
  unread : b.args.Pairwise fun first later => later.name ∉ bindsOf first.setup
  kept : b.args.Pairwise fun first later => first.kept ∉ bindsOf later.setup

instance (r : Registry) (b : MethodBinding) : Decidable (b.Apart r) :=
  decidable_of_iff
    ((∀ name ∈ b.moduleNames r, name ∉ b.parameters ++ bindsOf b.body) ∧ b.parameters.Nodup ∧
      (b.args.Pairwise fun first later => later.name ∉ bindsOf first.setup) ∧
      b.args.Pairwise fun first later => first.kept ∉ bindsOf later.setup)
    ⟨fun ⟨h₁, h₂, h₃, h₄⟩ => ⟨h₁, h₂, h₃, h₄⟩, fun ⟨h₁, h₂, h₃, h₄⟩ => ⟨h₁, h₂, h₃, h₄⟩⟩

/-- Names that are told apart are written differently. -/
theorem CaptureFree.apart (h : b.CaptureFree r) : b.Apart r where
  module name hname hown := h.module name hname (List.mem_map_of_mem hown)
  parameters := h.parameters.of_map spelled
  unread := h.unread.imp fun free taken => free (List.mem_map_of_mem taken)
  kept := h.kept.imp fun free taken => free (List.mem_map_of_mem taken)

/-- Where all names are plain, it is enough that they are written differently. -/
theorem Apart.captureFree (h : b.Apart r)
    (plain : ∀ name ∈ b.moduleNames r ++ b.parameters ++ bindsOf b.body,
      name.toList.all Text.isPlain = true) : b.CaptureFree r := by
  rw [List.append_assoc, List.forall_mem_append] at plain
  obtain ⟨module, own⟩ := plain
  have mem_of_spelled {name : String} {names : List String}
      (hname : name.toList.all Text.isPlain = true)
      (hnames : names ⊆ b.parameters ++ bindsOf b.body)
      (h : spelled name ∈ names.map spelled) : name ∈ names := by
    obtain ⟨other, hother, heq⟩ := List.mem_map.mp h
    rw [spelled_of_plain hname, spelled_of_plain (own other (hnames hother))] at heq
    exact heq ▸ hother
  have cells {slot : ArgSlot} (hslot : slot ∈ b.args) :
      bindsOf slot.setup ⊆ b.parameters ++ bindsOf b.body := by
    refine List.Subset.trans ?_ (List.subset_append_right _ _)
    rw [bindsOf_body, List.append_assoc]
    refine List.Subset.trans ?_ (List.subset_append_left _ _)
    exact fun name hname => List.mem_flatMap.mpr ⟨slot, hslot, hname⟩
  have argument {slot : ArgSlot} (hslot : slot ∈ b.args) :
      slot.name ∈ b.parameters ++ bindsOf b.body :=
    List.mem_append_left _ (List.mem_append_right _ (List.mem_map_of_mem hslot))
  have kept {slot : ArgSlot} (hslot : slot ∈ b.args) :
      slot.kept ∈ b.parameters ++ bindsOf b.body := by
    unfold ArgSlot.kept
    cases hbound : (bindsOf slot.setup).head? with
    | none => exact argument hslot
    | some cell => exact cells hslot (List.mem_of_mem_head? hbound)
  refine ⟨fun name hname taken => ?_, ?_, ?_, ?_⟩
  · exact h.module name hname (mem_of_spelled (module name hname) (List.Subset.refl _) taken)
  · refine h.parameters.map_on fun name hname other hother heq => ?_
    rwa [spelled_of_plain (own name (List.mem_append_left _ hname)),
      spelled_of_plain (own other (List.mem_append_left _ hother))] at heq
  · refine h.unread.imp_of_mem fun hfirst hlater free taken => ?_
    exact free (mem_of_spelled (own _ (argument hlater)) (cells hfirst) taken)
  · refine h.kept.imp_of_mem fun hfirst hlater free taken => ?_
    exact free (mem_of_spelled (own _ (kept hfirst)) (cells hlater) taken)

end MethodBinding

end EngineBindings

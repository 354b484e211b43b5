import EngineBindings.Proofs.Plan.Requirements
import EngineBindings.Proofs.Registry.Built
import EngineBindings.Proofs.Text.Literal

/-! Which arguments of a bound callable may be left out.

Defaults are attached from the last argument on, as far as each argument has a usable literal
(`exists_run_of_attachDefaults`). So there is a place from which on all parameters have a default
and before which none has one, and it lies as far in front as the literals allow
(`defaults_trail`). -/
namespace EngineBindings

open Attempt Text

/-! ### Literals -/

/-- The missing value is the only default of an object; truth values, numbers and enumerations
have truth values and numerals as defaults. Nothing else has any. -/
def Target.IsDefault : Target → String → Prop
  | .object _ _, literal => literal = "None"
  | .bool, literal | .int _ _, literal | .float _ _, literal | .enum _ _ _, literal
  | .bitfield _ _ _, literal =>
    (literal = "True" ∨ literal = "False" ∨ isNumeral literal.toList = true) ∧
      literal ≠ "None" ∧ startsWith literal "\"" = false
  | _, _ => False

theorem startsWith_of_isPlainString {text : String} (h : isPlainString text.toList = true) :
    startsWith text "\"" = true := by
  simp only [isPlainString, Bool.and_eq_true, beq_iff_eq] at h
  obtain ⟨rest, hrest⟩ := List.head?_eq_some_iff.mp h.1.1.2
  rw [startsWith, hrest]
  rfl

/-- A usable literal is one that values of the type may have. -/
theorem isDefault_of_defaultLiteral {a : ArgumentDef} {target : Target} {literal : String}
    (h : defaultLiteral a target = .ok (some literal)) : target.IsDefault literal := by
  unfold defaultLiteral at h
  split at h
  · cases h
  · next text _ =>
    obtain ⟨found, usable⟩ := Option.filter_eq_some_iff.mp (Except.ok.inj h)
    cases target with
    | object =>
      have missing : literal = "None" := of_decide_eq_true usable
      exact missing
    | bool | int | float | enum | bitfield =>
      obtain ⟨named, unquoted⟩ := Bool.and_eq_true_iff.mp usable
      have named : literal ≠ "None" := of_decide_eq_true named
      have unquoted : startsWith literal "\"" = false := by simpa using unquoted
      refine ⟨?_, named, unquoted⟩
      rcases literal?_cases found with word | ⟨-, numeral | quoted⟩
      · simp only [List.mem_cons, Prod.mk.injEq, List.not_mem_nil, or_false] at word
        rcases word with ⟨-, h⟩ | ⟨-, h⟩ | ⟨-, h⟩
        · exact .inl h
        · exact .inr (.inl h)
        · exact absurd h named
      · exact .inr (.inr numeral)
      · rw [startsWith_of_isPlainString quoted] at unquoted
        cases unquoted
    | _ => cases usable
  · cases h

/-! ### The run of defaults -/

/-- An argument in a parameter list, without its default. -/
def ArgSlot.declaration (slot : ArgSlot) : String :=
  slot.name ++ ": " ++ slot.target.annotation

/-- A slot has been given the default of its argument. -/
def Defaulted (a : ArgumentDef) (slot : ArgSlot) : Prop :=
  ∃ literal, defaultLiteral a slot.target = .ok (some literal) ∧ slot.default = some literal

/-- Defaults are given up to an argument without a usable literal; the slots from there on stay as
they are. -/
theorem exists_run_of_attachDefaults {pairs : List (ArgumentDef × ArgSlot)} {slots : List ArgSlot}
    (h : attachDefaults pairs = .ok slots) :
    ∃ run rest given, pairs = run ++ rest ∧ slots = given ++ rest.map (·.2) ∧
      List.Forall₂ (fun entry slot => Defaulted entry.1 slot) run given ∧
      ∀ entry ∈ rest.head?, defaultLiteral entry.1 entry.2.target = .ok none := by
  induction pairs generalizing slots with
  | nil =>
    cases h
    exact ⟨[], [], [], rfl, rfl, .nil, nofun⟩
  | cons entry rest ih =>
    obtain ⟨a, slot⟩ := entry
    obtain ⟨literal?, hliteral, h⟩ := bind_eq_ok.mp h
    cases literal? with
    | none =>
      cases h
      refine ⟨[], (a, slot) :: rest, [], rfl, rfl, .nil, ?_⟩
      rintro _ ⟨⟩
      exact hliteral
    | some literal =>
      obtain ⟨others, hothers, h⟩ := bind_eq_ok.mp h
      cases h
      obtain ⟨run, behind, given, rfl, rfl, filled, stop⟩ := ih hothers
      exact ⟨(a, slot) :: run, behind, _ :: given, rfl, rfl,
        .cons ⟨literal, hliteral, rfl⟩ filled, stop⟩

namespace Registry

variable {r : Registry} {use : TypeUse}

/-- The arguments before place `k` have to be given and those from there on have a default. The
place is the first one for which that can be: the argument in front of it has no usable literal. -/
structure DefaultsFrom (r : Registry) (use : TypeUse) (args : List ArgumentDef)
    (slots : List ArgSlot) (k : Nat) : Prop where
  le : k ≤ slots.length
  targets : List.Forall₂ (fun a slot => r.argumentTarget a use = .ok slot.target) args slots
  given : ∀ slot ∈ slots.take k, slot.default = none
  defaulted : List.Forall₂ Defaulted (args.drop k) (slots.drop k)
  least : k = 0 ∨ ∃ a slot, args[k - 1]? = some a ∧ slots[k - 1]? = some slot ∧
    defaultLiteral a slot.target = .ok none

theorem exists_defaultsFrom {args : List ArgumentDef} {slots : List ArgSlot}
    (h : r.argSlots use args = .ok slots) : ∃ k, r.DefaultsFrom use args slots k := by
  have targets : List.Forall₂ (fun a slot => r.argumentTarget a use = .ok slot.target) args slots :=
    (planned_of_argSlots h).imp fun a slot ⟨fresh, hfresh, default, hslot⟩ => by
      rw [hslot]
      exact (fresh_of_argSlot hfresh).target
  obtain ⟨bare, hbare, h⟩ := bind_eq_ok.mp h
  obtain ⟨attached, hattached, h⟩ := bind_eq_ok.mp h
  cases h
  obtain ⟨run, rest, given, hpairs, rfl, filled, stop⟩ := exists_run_of_attachDefaults hattached
  have planned := List.forall₂_iff_zip.mp (mapM_eq_ok.mp hbare)
  have hpairs : args.zip bare = rest.reverse ++ run.reverse := by
    rw [← List.reverse_append, ← hpairs, List.reverse_reverse]
  have hargs : args = rest.reverse.map (·.1) ++ run.reverse.map (·.1) := by
    rw [← List.map_append, ← hpairs, List.map_fst_zip (Nat.le_of_eq planned.1)]
  have hslots : (given ++ rest.map (·.2)).reverse = rest.reverse.map (·.2) ++ given.reverse := by
    rw [List.reverse_append, List.map_reverse]
  have split : (rest.reverse.map (·.1)).length = rest.length := by
    rw [List.length_map, List.length_reverse]
  have split' : (rest.reverse.map (·.2)).length = rest.length := by
    rw [List.length_map, List.length_reverse]
  refine ⟨rest.length, ?le, targets, ?given, ?defaulted, ?least⟩ <;> rw [hslots]
  case le =>
    rw [List.length_append, split']
    exact Nat.le_add_right ..
  case given =>
    rw [List.take_left' split']
    intro slot hslot
    obtain ⟨entry, hentry, rfl⟩ := List.mem_map.mp hslot
    have hentry : entry ∈ args.zip bare := by
      rw [hpairs]
      exact List.mem_append_left _ hentry
    exact (fresh_of_argSlot (planned.2 hentry)).default
  case defaulted =>
    rw [hargs, List.drop_left' split, List.drop_left' split']
    exact List.forall₂_map_left_iff.mpr (List.rel_reverse filled)
  case least =>
    rw [hargs]
    cases rest with
    | nil => exact .inl rfl
    | cons entry others =>
      refine .inr ⟨entry.1, entry.2, ?_, ?_, stop entry rfl⟩ <;> simp

namespace DefaultsFrom

variable {args : List ArgumentDef} {slots : List ArgSlot} {k : Nat}

/-- Parameters without a default stand in front of those with one. -/
theorem signatures (h : r.DefaultsFrom use args slots k) :
    slots.map ArgSlot.signature = (slots.take k).map (·.declaration) ++
      (slots.drop k).map fun slot => slot.declaration ++ " = " ++ slot.default.getD "" := by
  conv_lhs => rw [← List.take_append_drop k slots, List.map_append]
  congr 1
  · refine List.map_congr_left fun slot hslot => ?_
    rw [ArgSlot.signature, h.given slot hslot]
    rfl
  · refine List.map_congr_left fun slot hslot => ?_
    obtain ⟨a, _, literal, _, hdefault⟩ := exists_left h.defaulted hslot
    rw [ArgSlot.signature, hdefault]
    rfl

theorem isDefault (h : r.DefaultsFrom use args slots k) {slot : ArgSlot} (hslot : slot ∈ slots)
    {literal : String} (hdefault : slot.default = some literal) :
    slot.target.IsDefault literal := by
  rw [← List.take_append_drop k slots] at hslot
  rcases List.mem_append.mp hslot with hslot | hslot
  · rw [h.given slot hslot] at hdefault
    cases hdefault
  · obtain ⟨a, _, found, hliteral, hfound⟩ := exists_left h.defaulted hslot
    obtain rfl := Option.some.inj (hfound.symm.trans hdefault)
    exact isDefault_of_defaultLiteral hliteral

end DefaultsFrom

/-- From some place on all arguments of a bound callable have a default, each the literal of its
own argument, and that place is as far in front as the literals allow. So in the list of parameters
those with a default stand behind those without one, and only objects may be missing. -/
theorem defaults_trail {b : MethodBinding} (h : r.Binds use b) (supported : b.unsupported = none) :
    ∃ k, r.DefaultsFrom use b.method.arguments b.args k ∧
      b.parameterList = join ", " ((if b.hasReceiver then ["self"] else []) ++
        ((b.args.take k).map (·.declaration) ++ (b.args.drop k).map fun slot =>
          slot.declaration ++ " = " ++ slot.default.getD "")) ∧
      ∀ slot ∈ b.args, ∀ literal, slot.default = some literal → slot.target.IsDefault literal := by
  obtain ⟨k, trailing⟩ := exists_defaultsFrom (h.supports supported).args
  refine ⟨k, trailing, ?_, fun slot hslot literal => trailing.isDefault hslot⟩
  rw [MethodBinding.parameterList, ← trailing.signatures]
  split <;> rfl

/-- A method with a literal in front of an argument that has none. -/
def placing : MethodDef where
  name := "place"
  hash := some 1
  arguments :=
    [{ name := "row", type := .primitive .int, defaultValue := .str "1" },
     { name := "label", type := .object "Tile", defaultValue := .str "Tile()" },
     { name := "parent", type := .object "Tile", defaultValue := .str "null" },
     { name := "scale", type := .primitive .float, defaultValue := .str "0.5" }]

def tile : ClassDef :=
  .declaring "Tile" none [placing] []

theorem defaults_trail_placing : ∃ b, (ofClasses [tile]).Binds .member b ∧ b.unsupported = none ∧
    (∃ k, (ofClasses [tile]).DefaultsFrom .member b.method.arguments b.args k) ∧
    b.parameterList = "self, row: int, label: Optional[Tile], " ++
      "parent: Optional[Tile] = None, scale: float = 0.5" := by
  have planned : ((ofClasses [tile]).bindMethod tile placing []).toOption.any fun b =>
      b.unsupported.isNone && decide (b.parameterList = "self, row: int, label: Optional[Tile], " ++
        "parent: Optional[Tile] = None, scale: float = 0.5") := by decide +kernel
  obtain ⟨b, hb, checked⟩ := exists_eq_ok_of_any planned
  obtain ⟨supported, parameters⟩ := Bool.and_eq_true_iff.mp checked
  have supported := Option.isNone_iff_eq_none.mp supported
  obtain ⟨k, trailing, _⟩ := defaults_trail (.method hb) supported
  exact ⟨b, .method hb, supported, ⟨k, trailing⟩, of_decide_eq_true parameters⟩

end Registry

end EngineBindings

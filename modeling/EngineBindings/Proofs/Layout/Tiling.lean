import EngineBindings.Proofs.Layout.Covered
import Mathlib

/-! Covered layouts as tiles.

Covering compares each field with the place where the one before it ends, and the last place with
the size. On fields in order of their offsets that is enough to tell whether any two of them
overlap and whether any of them leaves the layout (`Layout.exists_specs_iff`). The entries are
then tiles that stand end to end from the first byte to the last: every field where it is declared,
and padding between them (`Layout.tiled_of_specs`). Only one order of the fields can be covered, so
that the entries do not depend on the order in which they are declared (`Layout.specs_perm`). -/
namespace EngineBindings

/-! ### Fields and the bytes they take -/

namespace LayoutField

/-- The bytes that a field takes. -/
def bytes (f : LayoutField Int) : Set Int :=
  Set.Ico f.offset (f.offset + f.size)

/-- Of two fields apart from each other one ends before the other one starts. -/
theorem disjoint_bytes_iff {f g : LayoutField Int} (hf : 0 < f.size) (hg : 0 < g.size) :
    Disjoint f.bytes g.bytes ↔ f.offset + f.size ≤ g.offset ∨ g.offset + g.size ≤ f.offset := by
  unfold bytes
  rw [Set.Ico_disjoint_Ico]
  omega

end LayoutField

/-- Fields that start one behind the other, or at one place. -/
def Ascending (fields : List (LayoutField Int)) : Prop :=
  fields.Pairwise fun f g => f.offset ≤ g.offset

theorem Layout.ascending_sortedFields (l : Layout Int) : Ascending l.sortedFields := by
  refine (List.pairwise_mergeSort (fun f g h hfg hgh => ?_) (fun f g => ?_) l.fields).imp ?_
  · simp only [Bool.not_eq_true', decide_eq_false_iff_not] at *
    omega
  · simp only [Bool.or_eq_true, Bool.not_eq_true', decide_eq_false_iff_not]
    omega
  · intro f g h
    simp only [Bool.not_eq_true', decide_eq_false_iff_not] at h
    omega

/-! ### Fields that follow one another -/

/-- Fields that each start where the one before ends or behind that, up to a last place. -/
def Follows (stop : Int) : (cursor : Int) → List (LayoutField Int) → Prop
  | cursor, [] => cursor ≤ stop
  | cursor, f :: rest => cursor ≤ f.offset ∧ Follows stop (f.offset + f.size) rest

/-- Fields that each end before any later one starts, between two places. -/
structure Between (cursor stop : Int) (fields : List (LayoutField Int)) : Prop where
  le : cursor ≤ stop
  start : ∀ f ∈ fields, cursor ≤ f.offset
  apart : fields.Pairwise fun f g => f.offset + f.size ≤ g.offset
  stop : ∀ f ∈ fields, f.offset + f.size ≤ stop

variable {stop cursor : Int} {fields : List (LayoutField Int)}

/-- Each field needs to be compared with the one in front of it only. -/
theorem follows_iff (sizes : ∀ f ∈ fields, 0 < f.size) :
    Follows stop cursor fields ↔ Between cursor stop fields := by
  induction fields generalizing cursor with
  | nil => exact ⟨fun h => ⟨h, nofun, .nil, nofun⟩, Between.le⟩
  | cons f rest ih =>
    obtain ⟨hf, hrest⟩ := List.forall_mem_cons.mp sizes
    rw [Follows, ih hrest]
    constructor
    · rintro ⟨hcursor, le, start, apart, last⟩
      refine ⟨by omega, List.forall_mem_cons.mpr ⟨hcursor, fun g hg => ?_⟩, .cons start apart,
        List.forall_mem_cons.mpr ⟨le, last⟩⟩
      have behind := start g hg
      omega
    · rintro ⟨_, start, apart, last⟩
      obtain ⟨behind, apart⟩ := List.pairwise_cons.mp apart
      exact ⟨start f (List.mem_cons_self ..), last f (List.mem_cons_self ..), behind, apart,
        (List.forall_mem_cons.mp last).2⟩

/-- Fields that are apart from each other and lie between two places, in whatever order. -/
structure Separate (cursor stop : Int) (fields : List (LayoutField Int)) : Prop where
  le : cursor ≤ stop
  start : ∀ f ∈ fields, cursor ≤ f.offset
  disjoint : fields.Pairwise fun f g => Disjoint f.bytes g.bytes
  stop : ∀ f ∈ fields, f.offset + f.size ≤ stop

theorem Separate.perm {others : List (LayoutField Int)} (h : Separate cursor stop fields)
    (perm : fields.Perm others) : Separate cursor stop others where
  le := h.le
  start f hf := h.start f (perm.mem_iff.mpr hf)
  disjoint := perm.pairwise h.disjoint fun h => h.symm
  stop f hf := h.stop f (perm.mem_iff.mpr hf)

/-- Fields in order of their offsets follow one another if they are apart from each other. -/
theorem Ascending.follows_iff (ascending : Ascending fields) (sizes : ∀ f ∈ fields, 0 < f.size) :
    Follows stop cursor fields ↔ Separate cursor stop fields := by
  rw [EngineBindings.follows_iff sizes]
  constructor
  · intro ⟨le, start, apart, last⟩
    refine ⟨le, start, apart.imp_of_mem fun {f g} hf hg hfg => ?_, last⟩
    exact (LayoutField.disjoint_bytes_iff (sizes f hf) (sizes g hg)).mpr (.inl hfg)
  · intro ⟨le, start, apart, last⟩
    refine ⟨le, start, (apart.and ascending).imp_of_mem fun {f g} hf hg hfg => ?_, last⟩
    have disjoint := (LayoutField.disjoint_bytes_iff (sizes f hf) (sizes g hg)).mp hfg.1
    -- The later field takes a byte, so it does not end where the earlier one starts.
    have positive := sizes g hg
    have order := hfg.2
    omega

theorem Between.eq_of_perm {others : List (LayoutField Int)} (h : Between cursor stop fields)
    (h' : Between cursor stop others) (perm : fields.Perm others)
    (sizes : ∀ f ∈ fields, 0 < f.size) : fields = others := by
  -- No two fields can each end before the other one starts.
  refine perm.eq_of_pairwise (fun f g hf hg hfg hgf => ?_) h.apart h'.apart
  have first := sizes f hf
  have second := sizes g (perm.mem_iff.mpr hg)
  omega

/-- Fields that follow one another in one order of their offsets do so in every such order, and
there is only one. -/
theorem Follows.eq_of_perm {others : List (LayoutField Int)} (h : Follows stop cursor others)
    (perm : others.Perm fields) (ascending : Ascending others) (ascending' : Ascending fields)
    (sizes : ∀ f ∈ fields, 0 < f.size) : others = fields := by
  have sizes' : ∀ f ∈ others, 0 < f.size := fun f hf => sizes f (perm.mem_iff.mp hf)
  have apart := ((ascending.follows_iff sizes').mp h).perm perm
  have follows := (ascending'.follows_iff sizes).mpr apart
  exact ((follows_iff sizes').mp h).eq_of_perm ((follows_iff sizes).mp follows) perm sizes'

/-! ### Tiles -/

/-- An entry of a covered layout together with its place. -/
inductive Tile where
  | field (f : LayoutField Int)
  /-- Bytes from a place on. -/
  | padding (start count : Int)

namespace Tile

/-- The entry that a tile stands for. -/
def spec : Tile → FieldSpec Int
  | field f => f.spec
  | padding start count => ⟨("_pad" ++ Number.decimal start : String), .bytes count⟩

/-- Where a tile starts; a field starts where it is declared. -/
def start : Tile → Int
  | field f => f.offset
  | padding start _ => start

/-- How many bytes a tile takes. -/
def size : Tile → Int
  | field f => f.size
  | padding _ count => count

/-- The bytes that a tile takes. -/
def bytes (t : Tile) : Set Int :=
  Set.Ico t.start (t.start + t.size)

/-- The field that a tile is. -/
def field? : Tile → Option (LayoutField Int)
  | field f => some f
  | padding .. => none

end Tile

/-- Tiles that stand end to end from one place to another. -/
inductive EndToEnd : (start : Int) → List Tile → (stop : Int) → Prop
  | nil (place : Int) : EndToEnd place [] place
  | cons {t : Tile} {tiles : List Tile} {stop : Int}
    (h : EndToEnd (t.start + t.size) tiles stop) : EndToEnd t.start (t :: tiles) stop

namespace EndToEnd

variable {start middle stop : Int} {tiles others : List Tile}

theorem append (h : EndToEnd start tiles middle) (h' : EndToEnd middle others stop) :
    EndToEnd start (tiles ++ others) stop := by
  induction h with
  | nil place => exact h'
  | cons _ ih => exact .cons (ih h')

/-- The sizes make up the whole way. -/
theorem add_sum (h : EndToEnd start tiles stop) : start + (tiles.map Tile.size).sum = stop := by
  induction h with
  | nil place => simp
  | cons _ ih =>
    rw [List.map_cons, List.sum_cons]
    omega

/-- A tile starts behind the sizes of all tiles in front of it. -/
theorem start_eq (h : EndToEnd start tiles stop) {front behind : List Tile} {t : Tile}
    (cut : tiles = front ++ t :: behind) : t.start = start + (front.map Tile.size).sum := by
  induction h generalizing front with
  | nil place => simp at cut
  | @cons first tiles stop _ ih =>
    cases front with
    | nil =>
      obtain ⟨rfl, rfl⟩ := List.cons.inj cut
      simp
    | cons head front =>
      obtain ⟨rfl, others⟩ := List.cons.inj cut
      rw [ih others, List.map_cons, List.sum_cons]
      omega

theorem le (h : EndToEnd start tiles stop) (positive : ∀ t ∈ tiles, 0 < t.size) :
    start ≤ stop := by
  induction h with
  | nil place => exact Int.le_refl _
  | cons _ ih =>
    obtain ⟨ht, rest⟩ := List.forall_mem_cons.mp positive
    have forward := ih rest
    omega

theorem start_le (h : EndToEnd start tiles stop) (positive : ∀ t ∈ tiles, 0 < t.size) :
    ∀ t ∈ tiles, start ≤ t.start := by
  induction h with
  | nil place => nofun
  | cons _ ih =>
    obtain ⟨ht, rest⟩ := List.forall_mem_cons.mp positive
    refine List.forall_mem_cons.mpr ⟨Int.le_refl _, fun t ht => ?_⟩
    have behind := ih rest t ht
    omega

/-- Every tile ends before any later one starts. -/
theorem pairwise (h : EndToEnd start tiles stop) (positive : ∀ t ∈ tiles, 0 < t.size) :
    tiles.Pairwise fun s t => s.start + s.size ≤ t.start := by
  induction h with
  | nil place => exact .nil
  | cons h ih =>
    have rest := (List.forall_mem_cons.mp positive).2
    exact .cons (h.start_le rest) (ih rest)

/-- The tiles take the bytes from the first place to the last, and no others. -/
theorem mem_bytes_iff (h : EndToEnd start tiles stop) (positive : ∀ t ∈ tiles, 0 < t.size)
    (byte : Int) : (∃ t ∈ tiles, byte ∈ t.bytes) ↔ byte ∈ Set.Ico start stop := by
  induction h with
  | nil place => simp
  | @cons t tiles stop h ih =>
    obtain ⟨ht, rest⟩ := List.forall_mem_cons.mp positive
    have forward := h.le rest
    rw [List.exists_mem_cons_iff, ih rest]
    simp only [Tile.bytes, Set.mem_Ico]
    omega

end EndToEnd

/-! ### The tiles of a covered layout -/

/-- Padding from one place to another, if there is any to fill. -/
def gapTiles (start stop : Int) : List Tile :=
  if start < stop then [.padding start (stop - start)] else []

/-- Fields with padding in front of each and behind the last. -/
def tilesFrom (stop : Int) : (cursor : Int) → List (LayoutField Int) → List Tile
  | cursor, [] => gapTiles cursor stop
  | cursor, f :: rest =>
    gapTiles cursor f.offset ++ .field f :: tilesFrom stop (f.offset + f.size) rest

theorem map_spec_gapTiles (start stop : Int) :
    (gapTiles start stop).map Tile.spec = padding start stop := by
  unfold gapTiles padding
  split <;> rfl

theorem endToEnd_gapTiles {start stop : Int} (h : start ≤ stop) :
    EndToEnd start (gapTiles start stop) stop := by
  unfold gapTiles
  split
  · next hlt =>
    have last : EndToEnd (start + (stop - start)) [] stop := by
      rw [Int.add_comm, Int.sub_add_cancel]
      exact .nil stop
    exact .cons (t := .padding start (stop - start)) last
  · next hge =>
    obtain rfl : start = stop := by omega
    exact .nil start

theorem positive_of_mem_gapTiles {start stop : Int} {t : Tile} (h : t ∈ gapTiles start stop) :
    0 < t.size := by
  unfold gapTiles at h
  split at h
  · rw [List.mem_singleton.mp h, Tile.size]
    omega
  · cases h

theorem filterMap_gapTiles (start stop : Int) :
    (gapTiles start stop).filterMap Tile.field? = [] := by
  unfold gapTiles
  split <;> rfl

theorem endToEnd_tilesFrom (h : Follows stop cursor fields) :
    EndToEnd cursor (tilesFrom stop cursor fields) stop := by
  induction fields generalizing cursor with
  | nil => exact endToEnd_gapTiles h
  | cons f rest ih => exact (endToEnd_gapTiles h.1).append (.cons (t := .field f) (ih h.2))

theorem filterMap_tilesFrom : (tilesFrom stop cursor fields).filterMap Tile.field? = fields := by
  induction fields generalizing cursor with
  | nil => exact filterMap_gapTiles cursor stop
  | cons f rest ih =>
    rw [tilesFrom, List.filterMap_append, filterMap_gapTiles, List.nil_append,
      List.filterMap_cons]
    exact congrArg (f :: ·) ih

theorem positive_of_mem_tilesFrom (sizes : ∀ f ∈ fields, 0 < f.size) :
    ∀ t ∈ tilesFrom stop cursor fields, 0 < t.size := by
  induction fields generalizing cursor with
  | nil => exact fun t => positive_of_mem_gapTiles
  | cons f rest ih =>
    obtain ⟨hf, hrest⟩ := List.forall_mem_cons.mp sizes
    rw [tilesFrom, List.forall_mem_append]
    exact ⟨fun t => positive_of_mem_gapTiles, List.forall_mem_cons.mpr ⟨hf, ih hrest⟩⟩

/-- Covering returns exactly on fields that follow one another, and it returns their tiles. -/
theorem Layout.cover_eq_ok_iff {l : Layout Int} {specs : List (FieldSpec Int)} :
    l.cover cursor fields = .ok specs ↔
      Follows l.size cursor fields ∧ (tilesFrom l.size cursor fields).map Tile.spec = specs := by
  induction fields generalizing cursor specs with
  | nil =>
    rw [cover, Follows, tilesFrom, map_spec_gapTiles]
    split
    · next past => simp [Int.not_le.mpr past]
    · next le => simp [Int.not_lt.mp le]
  | cons f rest ih =>
    rw [cover, Follows, tilesFrom, List.map_append, List.map_cons, map_spec_gapTiles]
    split
    · next overlap => simp [Int.not_le.mpr overlap]
    · next clear =>
      rw [Attempt.map_eq_ok]
      constructor
      · rintro ⟨others, hothers, rfl⟩
        obtain ⟨follows, rfl⟩ := ih.mp hothers
        exact ⟨⟨Int.not_lt.mp clear, follows⟩, rfl⟩
      · rintro ⟨⟨_, follows⟩, rfl⟩
        exact ⟨_, ih.mpr ⟨follows, rfl⟩, rfl⟩

/-! ### What the entries are -/

/-- Whether an entry of a covered layout is padding. -/
def FieldSpec.isPadding (spec : FieldSpec Int) : Bool :=
  match spec.content with
  | .bytes _ => true
  | _ => false

/-- Tiles that fill a layout from its first byte to its last. -/
structure Layout.Tiled (l : Layout Int) (tiles : List Tile) : Prop where
  /-- Every field is a tile, and it is one only once. -/
  fields : (tiles.filterMap Tile.field?).Perm l.fields
  positive : ∀ t ∈ tiles, 0 < t.size
  /-- Every tile starts where the sizes of the tiles in front of it lead to. -/
  start : ∀ front t behind, tiles = front ++ t :: behind → t.start = (front.map Tile.size).sum
  total : (tiles.map Tile.size).sum = l.size
  apart : tiles.Pairwise fun s t => Disjoint s.bytes t.bytes
  whole : ∀ byte, (∃ t ∈ tiles, byte ∈ t.bytes) ↔ byte ∈ Set.Ico 0 l.size
  /-- No two runs of padding have one name. -/
  names : ((tiles.map Tile.spec).filter FieldSpec.isPadding).Pairwise
    fun a b => (a.name == b.name) = false

theorem LayoutField.isPadding_spec (f : LayoutField Int) : f.spec.isPadding = false := by
  unfold FieldSpec.isPadding spec
  cases f.scalar <;> rfl

theorem Tile.name_ne {s t : Tile} (hs : s.spec.isPadding = true) (ht : t.spec.isPadding = true)
    (starts : 0 ≤ s.start) (h : s.start < t.start) : (s.spec.name == t.spec.name) = false := by
  cases s with
  | field f => simp [Tile.spec, LayoutField.isPadding_spec] at hs
  | padding m count =>
    cases t with
    | field f => simp [Tile.spec, LayoutField.isPadding_spec] at ht
    | padding n count' =>
      rw [spec, spec, Name.beq_text, decide_eq_false_iff_not, String.append_right_inj]
      intro same
      simp only [start] at starts h
      lift m to Nat using starts
      lift n to Nat using by omega
      rw [Number.decimal_injective same] at h
      omega

theorem tiled_of_endToEnd {l : Layout Int} {tiles : List Tile} (h : EndToEnd 0 tiles l.size)
    (fields : (tiles.filterMap Tile.field?).Perm l.fields) (positive : ∀ t ∈ tiles, 0 < t.size) :
    l.Tiled tiles where
  fields := fields
  positive := positive
  start front t behind cut := by rw [h.start_eq cut, Int.zero_add]
  total := by rw [← h.add_sum, Int.zero_add]
  apart := by
    refine (h.pairwise positive).imp fun {s t} hst => ?_
    rw [Tile.bytes, Tile.bytes, Set.Ico_disjoint_Ico]
    omega
  whole := h.mem_bytes_iff positive
  names := by
    rw [List.pairwise_filter, List.pairwise_map]
    refine (h.pairwise positive).imp_of_mem fun {s t} hs _ hst hpadding hpadding' => ?_
    have taken := positive s hs
    exact Tile.name_ne hpadding hpadding' (h.start_le positive s hs) (by omega)

/-! ### Layouts with fields -/

namespace Layout

variable {l : Layout Int} {specs : List (FieldSpec Int)}

theorem specs_eq_ok_iff (given : l.fields ≠ []) :
    l.specs = .ok specs ↔
      Follows l.size 0 l.sortedFields ∧
        (tilesFrom l.size 0 l.sortedFields).map Tile.spec = specs := by
  rw [Layout.specs, isOpaque, if_neg (by simpa using given)]
  exact cover_eq_ok_iff

theorem sizes_sortedFields (sizes : ∀ f ∈ l.fields, 0 < f.size) :
    ∀ f ∈ l.sortedFields, 0 < f.size :=
  fun f hf => sizes f (l.sortedFields_perm.mem_iff.mp hf)

/-- A layout is covered exactly if its fields are apart from each other and inside of it. -/
theorem exists_specs_iff (given : l.fields ≠ []) (sizes : ∀ f ∈ l.fields, 0 < f.size) :
    (∃ specs, l.specs = .ok specs) ↔ Separate 0 l.size l.fields := by
  simp only [specs_eq_ok_iff given, exists_and_left, exists_eq', and_true,
    l.ascending_sortedFields.follows_iff (sizes_sortedFields sizes)]
  exact ⟨fun h => h.perm l.sortedFields_perm, fun h => h.perm l.sortedFields_perm.symm⟩

/-- Fields in order of their offsets are covered as the layout is. -/
theorem cover_perm {l' : Layout Int} {others : List (LayoutField Int)} (given : l.fields ≠ [])
    (sizes : ∀ f ∈ l.fields, 0 < f.size) (size : l'.size = l.size) (perm : others.Perm l.fields)
    (ascending : Ascending others) : l'.cover 0 others = .ok specs ↔ l.specs = .ok specs := by
  have sizes' : ∀ f ∈ others, 0 < f.size := fun f hf => sizes f (perm.mem_iff.mp hf)
  have perm' := perm.trans l.sortedFields_perm.symm
  rw [specs_eq_ok_iff given, cover_eq_ok_iff, size]
  constructor
  · rintro ⟨follows, rfl⟩
    obtain rfl := follows.eq_of_perm perm' ascending l.ascending_sortedFields
      (sizes_sortedFields sizes)
    exact ⟨follows, rfl⟩
  · rintro ⟨follows, rfl⟩
    obtain rfl := follows.eq_of_perm perm'.symm l.ascending_sortedFields ascending sizes'
    exact ⟨follows, rfl⟩

/-- The order in which the fields are declared does not matter. -/
theorem specs_perm (given : l.fields ≠ []) (sizes : ∀ f ∈ l.fields, 0 < f.size)
    {fields : List (LayoutField Int)} (perm : fields.Perm l.fields) :
    ({ l with fields := fields } : Layout Int).specs = .ok specs ↔ l.specs = .ok specs := by
  have given' : fields ≠ [] := fun none => given (List.nil_perm.mp (none ▸ perm))
  let l' : Layout Int := { l with fields := fields }
  rw [Layout.specs, isOpaque, if_neg (by simpa using given')]
  exact cover_perm given sizes rfl (l'.sortedFields_perm.trans perm) l'.ascending_sortedFields

/-- The entries of a covered layout tile it. -/
theorem tiled_of_specs (given : l.fields ≠ []) (sizes : ∀ f ∈ l.fields, 0 < f.size)
    (h : l.specs = .ok specs) : ∃ tiles, tiles.map Tile.spec = specs ∧ l.Tiled tiles := by
  obtain ⟨follows, rfl⟩ := (specs_eq_ok_iff given).mp h
  refine ⟨_, rfl, tiled_of_endToEnd (endToEnd_tilesFrom follows) ?_
    (positive_of_mem_tilesFrom (sizes_sortedFields sizes))⟩
  rw [filterMap_tilesFrom]
  exact l.sortedFields_perm

end Layout

end EngineBindings

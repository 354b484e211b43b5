import EngineBindings.Files.Write
import EngineBindings.Proofs.Files.Contents
import EngineBindings.Proofs.Files.Directories
import Mathlib.Data.List.Nodup
import Mathlib.Data.List.Perm.Subperm

/-! What writing a text file leaves behind.

A text goes into a temporary file, at a place that nothing lies at, before it takes its target's
place; whatever is refused on the way, all places are as they were (`replaceFile_spec`). So a text
is written as a whole or not at all, and one that a file holds already is not written again
(`writeText_of_holdsText`). -/
namespace EngineBindings.Tree

variable {t t' : Tree} {path place : Path}

/-! ### Temporary files -/

theorem toList_temporaryName (target : String) (n : Nat) :
    (temporaryName target n).toList = '.' :: target.toList ++ '.' ::
      (List.replicate (8 - (Nat.toDigits 10 n).length) '0' ++ Nat.toDigits 10 n) := by
  simp [temporaryName, Number.toList_decimal]

theorem temporaryName_injective (target : String) : Function.Injective (temporaryName target) := by
  intro m n h
  have hlists := congrArg String.toList h
  rw [toList_temporaryName, toList_temporaryName, List.cons_append, List.cons_append,
    List.cons.injEq, List.append_cancel_left_eq, List.cons.injEq] at hlists
  -- Zeros in front of its digits do not change the number that they spell.
  have hnumbers := congrArg (Nat.ofDigitChars 10 · 0) hlists.2.2
  simpa [Nat.ofDigitChars_append, Nat.ofDigitChars_replicate_zero, Nat.ofDigitChars_ten_toDigits]
    using hnumbers

theorem temporaryName_ne (target : String) (n : Nat) : temporaryName target n ≠ target := by
  intro h
  have hlength := congrArg (·.toList.length) h
  simp only [toList_temporaryName, List.length_append, List.length_cons] at hlength
  omega

/-- There are more temporary names than entries, so one of them is free. -/
theorem freshPlace_spec (t : Tree) (directory : Path) (target : String) :
    t.node? (t.freshPlace directory target) = none ∧
      ∃ n, t.freshPlace directory target = directory ++ [temporaryName target n] := by
  let places := (List.range (t.nodes.entries.length + 1)).map fun n =>
    directory ++ [temporaryName target n]
  cases hfound : places.find? fun place => (t.node? place).isNone with
  | some place =>
    have hplace : t.freshPlace directory target = place := by
      rw [freshPlace, hfound, Option.getD_some]
    obtain ⟨n, -, hn⟩ := List.mem_map.1 (List.mem_of_find?_eq_some hfound)
    rw [hplace]
    exact ⟨by simpa using List.find?_some hfound, n, hn.symm⟩
  | none =>
    have htaken : places ⊆ t.nodes.keys := by
      intro place hplace
      obtain ⟨n, -, rfl⟩ := List.mem_map.1 hplace
      have hsome := List.find?_eq_none.1 hfound _ hplace
      simp only [node?, List.append_eq_nil_iff, List.cons_ne_self, and_false, if_false,
        Option.isNone_iff_eq_none, ← Option.isSome_iff_ne_none, OrderedMap.isSome_find?,
        OrderedMap.contains_iff, beq_iff_eq] at hsome
      obtain ⟨key, hkey, rfl⟩ := hsome
      exact hkey
    have hdistinct : places.Nodup := by
      refine List.Nodup.map (fun m n h => temporaryName_injective target ?_) List.nodup_range
      simpa using h
    have hcount := (List.Nodup.subperm hdistinct htaken).length_le
    simp only [places, List.length_map, List.length_range, OrderedMap.keys] at hcount
    omega

theorem createTemporary_eq_ok {temporary : Path}
    (h : t.createTemporary path = .ok (temporary, t')) :
    t.node? temporary = none ∧ (∃ above n, temporary = above ++ [temporaryName path.name n]) ∧
      t' = t.put temporary (.file ByteArray.empty temporaryMode) := by
  obtain ⟨likely, -, h⟩ := Attempt.bind_eq_ok.1 h
  have hpair := Prod.mk.inj (Attempt.pure_eq_ok.1 h)
  obtain ⟨hfree, n, hn⟩ := t.freshPlace_spec likely.parent path.name
  rw [hpair.1] at hfree hn
  exact ⟨hfree, ⟨_, n, hn⟩, by rw [← hpair.2, hpair.1]⟩

/-! ### Taking the target's place -/

@[simp] theorem attempt_undisturbed (step : WriteStep) (result : Except FileFault α) :
    attempt undisturbed step result = result :=
  rfl

theorem attempt_eq_ok {disturbed : Disturbance} {step : WriteStep} {result : Except FileFault α}
    {a : α} (h : attempt disturbed step result = .ok a) : result = .ok a := by
  unfold attempt at h
  split at h
  · cases h
  · exact h

theorem moveFile_eq_ok {source : Path} (h : t.moveFile source path = .ok t') :
    ∃ place node, t.locate path = .ok place ∧ path.name ≠ Path.up ∧ path ≠ [] ∧
      t.node? place ≠ some .directory ∧ t.node? source = some node ∧
      t' = (t.remove source).replace place node := by
  obtain ⟨place, hplace, h⟩ := Attempt.bind_eq_ok.1 h
  by_cases hnamed : (path.isEmpty || decide (path.name = Path.up)) = true
  · rw [if_pos hnamed] at h
    cases h
  · rw [if_neg hnamed] at h
    simp only [Bool.or_eq_true, List.isEmpty_iff, decide_eq_true_eq, not_or] at hnamed
    split at h
    · cases h
    · next node hnode hnot =>
      exact ⟨place, node, hplace, hnamed.2, hnamed.1, hnot, hnode, by simpa using h.symm⟩
    · cases h

/-- Whether a tree is another but for an entry at the place that a path leads to, where no directory
lay. A log that lay there is out of sight. -/
structure Replaces (path place : Path) (node : Node) (t t' : Tree) : Prop where
  leads : t.locate path = .ok place
  named : ∃ above, place = above ++ [path.name]
  notDirectory : t.node? place ≠ some .directory
  log : t'.log = t.log.filter (· ≠ place)
  node (p : Path) : t'.node? p = if place = p then some node else t.node? p

namespace Replaces

variable {node : Node}

theorem keeps (h : Replaces path place node t t') : t.KeepsDirectories t' := by
  intro p hp
  rw [h.node, if_neg, hp]
  rintro rfl
  exact h.notDirectory hp

theorem leads_after (h : Replaces path place node t t') : t'.locate path = .ok place :=
  locate_of_keeps h.keeps h.leads

theorem node?_place (h : Replaces path place node t t') : t'.node? place = some node := by
  rw [h.node, if_pos rfl]

end Replaces

/-- A temporary file that takes the target's place leaves no other trace. -/
theorem replaces_of_moveFile {filled : Tree} {temporary above : Path} {n : Nat}
    {bytes : ByteArray} {mode : Nat} (hfree : t.node? temporary = none)
    (htemporary : temporary = above ++ [temporaryName path.name n]) (hlog : filled.log = t.log)
    (hentry : ∀ p, filled.node? p =
      if temporary = p then some (.file bytes mode) else t.node? p)
    (h : filled.moveFile temporary path = .ok t') :
    ∃ place, Replaces path place (.file bytes mode) t t' := by
  have hroot := ne_root_of_node?_eq_none hfree
  obtain ⟨place, node, hplace, hname, hpath, hnot, hnode, rfl⟩ := moveFile_eq_ok h
  have hnode : node = .file bytes mode := by simpa [hentry] using hnode.symm
  subst hnode
  have hkeeps : filled.KeepsDirectories t := by
    intro p hp
    rw [hentry] at hp
    split at hp
    · cases hp
    · exact hp
  -- The target and its temporary file have different names, so they lie at different places.
  obtain ⟨directory, -, -, hlast⟩ := follow_concat ((parent_append_name hpath).symm ▸ hplace)
  have hlast := hlast hname
  have hother : temporary ≠ place := by
    intro hsame
    have hnames := (List.append_inj' (htemporary.symm.trans (hsame.trans hlast)) rfl).2
    exact temporaryName_ne path.name n (List.singleton_inj.1 hnames)
  have hplaceRoot : place ≠ [] := by simp [hlast]
  refine ⟨place, locate_of_keeps hkeeps hplace, ⟨directory, hlast⟩, ?_,
    by simp [replace, remove, hlog], fun p => ?_⟩
  · rwa [hentry, if_neg hother] at hnot
  · have hput := node?_put (filled.remove temporary) (.file bytes mode) hplaceRoot p
    have hremove := node?_remove filled hroot p
    change ((filled.remove temporary).put place (.file bytes mode)).node? p = _
    rw [hput, hremove, hentry]
    split
    · rfl
    · split
      · next hp => rw [← hp, hfree]
      · rfl

/-- A text that has been written lies at the target, and all else is as it was. -/
theorem completeWrite_eq_ok {disturbed : Disturbance} {temporary above : Path} {n : Nat}
    {content : String} (hfree : t.node? temporary = none)
    (htemporary : temporary = above ++ [temporaryName path.name n])
    (h : completeWrite disturbed {} (t.put temporary (.file ByteArray.empty temporaryMode))
      temporary path content = .ok t') :
    ∃ place bytes, Encoding.utf8.encode content = .ok bytes ∧
      Replaces path place (.file bytes 0o644) t t' := by
  have hroot := ne_root_of_node?_eq_none hfree
  obtain ⟨bytes, hbytes, h⟩ := Attempt.bind_eq_ok.1 h
  obtain ⟨filled, hfilled, h⟩ := Attempt.bind_eq_ok.1 h
  have hencode : Encoding.utf8.encode content = .ok bytes := by
    have hnamed := attempt_eq_ok hbytes
    rwa [Except.bind, Encoding.named_utf8] at hnamed
  obtain ⟨mode, hmode, hrights⟩ := Attempt.map_eq_ok.1 (attempt_eq_ok hfilled)
  cases hmode
  subst hrights
  have hmoved : Tree.moveFile (Tree.put _ _ _) temporary path = .ok t' := attempt_eq_ok h
  obtain ⟨place, hspec⟩ := replaces_of_moveFile hfree htemporary (by rfl)
    (fun p => by simp only [node?_put _ _ hroot]; split <;> rfl) hmoved
  exact ⟨place, bytes, hencode, hspec⟩

/-- Whatever is refused, a file is replaced as a whole or nothing has changed. -/
theorem replaceFile_spec (disturbed : Disturbance) (t : Tree) (path : Path) (content : String) :
    match t.replaceFile disturbed {} path content with
    | (t', .ok true) => ∃ place bytes, Encoding.utf8.encode content = .ok bytes ∧
        Replaces path place (.file bytes 0o644) t t'
    | (_, .ok false) => False
    | (t', .error _) => t'.log = t.log ∧ ∀ p, t'.node? p = t.node? p := by
  unfold replaceFile
  cases htemporary : attempt disturbed .createTemporary (t.createTemporary path) with
  | error fault => simp
  | ok created =>
    obtain ⟨temporary, t₁⟩ := created
    obtain ⟨hfree, ⟨above, n, hname⟩, rfl⟩ := createTemporary_eq_ok (attempt_eq_ok htemporary)
    have hroot := ne_root_of_node?_eq_none hfree
    simp only
    split
    · next hmatch =>
      split at hmatch
      · next hcomplete =>
        cases hmatch
        exact completeWrite_eq_ok hfree hname hcomplete
      · cases hmatch
    · next hmatch => split at hmatch <;> cases hmatch
    · next hmatch =>
      split at hmatch
      · cases hmatch
      · cases hmatch
        refine ⟨rfl, fun p => ?_⟩
        rw [node?_remove _ hroot, node?_put _ _ hroot]
        split
        · next hp => rw [← hp, hfree]
        · rfl

/-! ### Files that hold a text -/

theorem isSpelt_fileText (text : String) : Text.IsSpelt (fileText text) :=
  Text.isSpelt_normalizeNewlines (Text.isSpelt_respelt text)

theorem normalizeNewlines_fileText (text : String) :
    Text.normalizeNewlines (fileText text) = fileText text :=
  Text.normalizeNewlines_normalizeNewlines _

theorem fileText_ofCharacters (s : String) :
    fileText (Text.ofCharacters s) = Text.ofCharacters (Text.normalizeNewlines s) := by
  rw [fileText, Text.respelt_of_isSpelt (Text.isSpelt_ofCharacters s),
    Text.normalizeNewlines_ofCharacters]

/-- Whether a path leads to a file that holds a text, line ends aside. -/
def HoldsText (t : Tree) (path : Path) (text : String) : Prop :=
  ∃ place bytes mode old, t.locate path = .ok place ∧ t.node? place = some (.file bytes mode) ∧
    Encoding.utf8.decode bytes = .ok old ∧ Text.normalizeNewlines old = fileText text

theorem read_eq_ok {bytes : ByteArray} :
    t.read path = .ok bytes ↔
      ∃ place mode, t.locate path = .ok place ∧ t.node? place = some (.file bytes mode) := by
  unfold read
  rw [Attempt.bind_eq_ok]
  refine exists_congr fun place => ?_
  split <;> simp_all

theorem holds_iff {text : String} :
    t.holds path (.ok "utf-8") (fileText text) = .ok true ↔ t.HoldsText path text := by
  have hnul : ("utf-8".toList.contains (Char.ofNat 0)) = false := by decide
  have hread : t.HoldsText path text ↔ ∃ bytes old, t.read path = .ok bytes ∧
      Encoding.utf8.decode bytes = .ok old ∧ Text.normalizeNewlines old = fileText text := by
    simp only [HoldsText, read_eq_ok]
    constructor
    · rintro ⟨place, bytes, mode, old, hplace, hfile, hold⟩
      exact ⟨bytes, old, ⟨place, mode, hplace, hfile⟩, hold⟩
    · rintro ⟨bytes, old, ⟨place, mode, hplace, hfile⟩, hold⟩
      exact ⟨place, bytes, mode, old, hplace, hfile, hold⟩
  rw [hread, holds, Attempt.ok_bind, hnul, if_neg Bool.false_ne_true]
  beta_reduce
  cases hbytes : t.read path with
  | error fault => cases fault <;> simp [pure, Except.pure, throw, throwThe, MonadExceptOf.throw]
  | ok bytes =>
    simp only [Encoding.named_utf8, Attempt.ok_bind, Attempt.bind_eq_ok, Attempt.pure_eq_ok,
      decide_eq_true_eq, Except.ok.injEq, exists_and_left, exists_eq_left']

theorem HoldsText.of_keeps {text : String} (h : t.HoldsText path text)
    (hkeeps : t.KeepsDirectories t') (hnode : ∀ place bytes mode, t.locate path = .ok place →
      t.node? place = some (.file bytes mode) → t'.node? place = some (.file bytes mode)) :
    t'.HoldsText path text := by
  obtain ⟨place, bytes, mode, old, hplace, hfile, hold⟩ := h
  exact ⟨place, bytes, mode, old, locate_of_keeps hkeeps hplace, hnode _ _ _ hplace hfile, hold⟩

/-! ### Writing -/

/-- A file that holds a text is left alone. -/
theorem writeText_of_holdsText {text : String} (h : t.HoldsText path text) :
    t.writeText undisturbed {} path text = (t, .ok false) := by
  have hpath : path ≠ [] := by
    rintro rfl
    obtain ⟨place, bytes, mode, old, hplace, hfile, -⟩ := h
    cases (locate_eq_ok.1 hplace).2
    simp [node?_root] at hfile
  obtain ⟨place, bytes, mode, old, hplace, -⟩ := id h
  have hparents : t.prepareParents undisturbed {} path = (t, .ok ()) := by
    simp [prepareParents, undisturbed,
      ensureDirectory_of_leads (leads_parent_of_locate hplace hpath)]
  simp [writeText, hparents, holds_iff.2 h]

theorem adds_prepareParents (disturbed : Disturbance) (t : Tree) (path : Path) :
    AddsDirectories path.parent t (t.prepareParents disturbed {} path).1 := by
  unfold prepareParents
  rw [if_pos rfl]
  split
  · exact .refl _ t
  · exact adds_ensureDirectory t path.parent

/-- Whatever is refused, a text is written as a whole, is there already, or nothing has changed;
but for the file only directories above it may have been added. -/
theorem writeText_spec (disturbed : Disturbance) (t : Tree) (path : Path) (text : String) :
    match t.writeText disturbed {} path text with
    | (t', .ok true) => ∃ t₁ place bytes, AddsDirectories path.parent t t₁ ∧
        Encoding.utf8.encode (fileText text) = .ok bytes ∧
        Replaces path place (.file bytes 0o644) t₁ t'
    | (t', .ok false) => AddsDirectories path.parent t t' ∧ t'.HoldsText path text
    | (t', .error _) => AddsDirectories path.parent t t' := by
  have hparents := adds_prepareParents disturbed t path
  unfold writeText
  cases hprepared : t.prepareParents disturbed {} path with
  | mk t₁ outcome =>
    rw [hprepared] at hparents
    cases outcome with
    | error fault => exact hparents
    | ok =>
      simp only [if_true]
      cases hold : attempt disturbed .readOld (t₁.holds path (.ok "utf-8") (fileText text)) with
      | error fault => exact hparents
      | ok same =>
        cases same with
        | true => exact ⟨hparents, holds_iff.1 (attempt_eq_ok hold)⟩
        | false =>
          have hreplaced := replaceFile_spec disturbed t₁ path (fileText text)
          simp only
          split
          · next hmatch =>
            rw [hmatch] at hreplaced
            obtain ⟨place, bytes, hencode, hspec⟩ := hreplaced
            exact ⟨t₁, place, bytes, hparents, hencode, hspec⟩
          · next hmatch =>
            rw [hmatch] at hreplaced
            exact hreplaced.elim
          · next hmatch =>
            rw [hmatch] at hreplaced
            exact hparents.trans ⟨hreplaced.1, fun p => .inl (hreplaced.2 p)⟩

/-- A text that has been written, or left, is held afterwards. -/
theorem holdsText_of_writeText {disturbed : Disturbance} {text : String} {written : Bool}
    (h : t.writeText disturbed {} path text = (t', .ok written)) : t'.HoldsText path text := by
  have hspec := writeText_spec disturbed t path text
  rw [h] at hspec
  cases written with
  | true =>
    obtain ⟨t₁, place, bytes, -, hencode, hreplaces⟩ := hspec
    exact ⟨place, bytes, 0o644, fileText text, hreplaces.leads_after, hreplaces.node?_place,
      Encoding.decode_of_encode (isSpelt_fileText text) hencode, normalizeNewlines_fileText text⟩
  | false => exact hspec.2

end EngineBindings.Tree

import EngineBindings.Files.Encoding
import EngineBindings.Proofs.Attempt
import EngineBindings.Text.Segment

/-! Texts in files.

A text is spelt as it is to be when it is the text of its own code points (`IsSpelt`). Such a text
comes back when it is encoded and decoded in UTF-8 (`decode_of_encode`), and it still is one when
its line ends have been normalised (`isSpelt_normalizeNewlines`), which is done once and for all
(`normalizeNewlines_normalizeNewlines`). -/
namespace EngineBindings.Text

/-! ### Line ends -/

theorem unixNewlines_cons {c : Char} (h : c ≠ '\r') (cs : List Char) :
    unixNewlines (c :: cs) = c :: unixNewlines cs := by
  rw [unixNewlines, if_neg h]
  exact fun _ same => absurd same h

theorem unixNewlines_append {cs : List Char} (h : '\r' ∉ cs) (rest : List Char) :
    unixNewlines (cs ++ rest) = cs ++ unixNewlines rest := by
  induction cs with
  | nil => rfl
  | cons c cs ih =>
    rw [List.mem_cons, not_or] at h
    rw [List.cons_append, unixNewlines_cons (Ne.symm h.1), ih h.2, List.cons_append]

theorem unixNewlines_of_not_mem {cs : List Char} (h : '\r' ∉ cs) : unixNewlines cs = cs := by
  simpa [unixNewlines] using unixNewlines_append h []

theorem not_mem_unixNewlines (cs : List Char) : '\r' ∉ unixNewlines cs := by
  fun_induction unixNewlines cs with
  | case1 => simp
  | case2 cs ih => simpa using ih
  | case3 c cs _ ih =>
    rw [List.mem_cons, not_or]
    refine ⟨?_, ih⟩
    split
    · decide
    · next h => exact Ne.symm h

/-- Line ends that have been normalised stay as they are. -/
theorem normalizeNewlines_normalizeNewlines (s : String) :
    normalizeNewlines (normalizeNewlines s) = normalizeNewlines s := by
  rw [normalizeNewlines, normalizeNewlines, String.toList_ofList,
    unixNewlines_of_not_mem (not_mem_unixNewlines s.toList)]

/-! ### Code points -/

/-- Whether a number is the code point of a character or of half of a pair. -/
def IsCode (code : Nat) : Prop :=
  isHalf code ∨ code.isValidChar

theorem isCode_iff {code : Nat} : IsCode code ↔ code < 0x110000 := by
  simp only [IsCode, isHalf, Nat.isValidChar, Bool.and_eq_true, decide_eq_true_eq]
  omega

theorem isCode_toNat (c : Char) : IsCode c.toNat :=
  .inr c.valid

theorem isCode_markedCode (c : Char) : IsCode (markedCode c) := by
  have hbound := isCode_iff.1 (isCode_toNat c)
  unfold markedCode
  split
  · exact isCode_toNat c
  · exact isCode_iff.2 (Nat.lt_of_le_of_lt (Nat.sub_le _ _) hbound)

theorem isCode_of_mem_codes (cs : List Char) : ∀ code ∈ codes cs, IsCode code := by
  fun_induction codes cs with
  | case1 => simp
  | case2 c => simpa using isCode_toNat c
  | case3 d rest ih =>
    simpa using ⟨isCode_markedCode d, ih⟩
  | case4 c d rest _ ih =>
    simpa using ⟨isCode_toNat c, ih⟩

theorem codesOf_ofCodes {cs : List Nat} (h : ∀ code ∈ cs, IsCode code) :
    codesOf (ofCodes cs) = cs := by
  rw [codesOf, ofCodes, String.toList_ofList, codes_flatMap_spelling h]

theorem isHalf_toNat (c : Char) : isHalf c.toNat = false := by
  have hvalid : c.toNat < 0xD800 ∨ 0xDFFF < c.toNat ∧ c.toNat < 0x110000 := c.valid
  simp only [isHalf, Bool.and_eq_false_iff, decide_eq_false_iff_not]
  omega

theorem spelling_toNat {c : Char} (h : c ≠ mark) : spelling c.toNat = [c] := by
  have notMark : c.toNat ≠ mark.toNat := fun same => h (Char.toNat_inj.1 same)
  simp [spelling, isHalf_toNat, notMark]

theorem flatMap_spelling_toNat {cs : List Char} (h : mark ∉ cs) :
    (cs.map (·.toNat)).flatMap spelling = cs := by
  induction cs with
  | nil => rfl
  | cons c cs ih =>
    rw [List.mem_cons, not_or] at h
    rw [List.map_cons, List.flatMap_cons, ih h.2, spelling_toNat (Ne.symm h.1),
      List.singleton_append]

theorem ofCharacters_eq (s : String) : ofCharacters s = ofCodes (s.toList.map (·.toNat)) := by
  unfold ofCharacters
  split
  · rfl
  · next h =>
    rw [ofCodes, flatMap_spelling_toNat (by simpa using h), String.ofList_toList]

/-! ### Texts that are spelt as they are to be -/

/-- Whether a text is that of its own code points. -/
def IsSpelt (s : String) : Prop :=
  ∃ cs, (∀ code ∈ cs, IsCode code) ∧ ofCodes cs = s

theorem IsSpelt.ofCodes_codesOf {s : String} (h : IsSpelt s) : ofCodes (codesOf s) = s := by
  obtain ⟨cs, hcs, rfl⟩ := h
  rw [codesOf_ofCodes hcs]

theorem isSpelt_ofCharacters (s : String) : IsSpelt (ofCharacters s) :=
  ⟨s.toList.map (·.toNat), by simpa using fun c _ => isCode_toNat c, (ofCharacters_eq s).symm⟩

theorem isSpelt_respelt (s : String) : IsSpelt (respelt s) := by
  unfold respelt
  split
  · exact ⟨codesOf s, isCode_of_mem_codes s.toList, rfl⟩
  · next h =>
    have hs : ofCharacters s = s := by rw [ofCharacters, if_neg h]
    exact hs ▸ isSpelt_ofCharacters s

theorem respelt_of_isSpelt {s : String} (h : IsSpelt s) : respelt s = s := by
  unfold respelt
  split
  · exact h.ofCodes_codesOf
  · rfl

/-! Normalising line ends is the same for code points as for the characters that spell them. -/

/-- Code points with every line end a line feed. -/
def unixCodes : List Nat → List Nat
  | [] => []
  | 13 :: 10 :: cs => 10 :: unixCodes cs
  | code :: cs => (if code = 13 then 10 else code) :: unixCodes cs

theorem toNat_ofNat_of_isCode {code : Nat} (h : IsCode code) (hhalf : ¬isHalf code = true) :
    (Char.ofNat code).toNat = code :=
  toNat_ofNat (h.resolve_left hhalf)

/-- Only a code point that is a plain character itself is spelt with that character. -/
theorem eq_toNat_of_mem_spelling {code : Nat} (h : IsCode code) {c : Char} (hc : c.toNat < 0x80)
    (hmem : c ∈ spelling code) : code = c.toNat := by
  have hmark : c ≠ mark := by
    rintro rfl
    exact absurd hc (by decide)
  unfold spelling at hmem
  split at hmem
  · next hhalf =>
    have bounds : 0xD800 ≤ code ∧ code < 0xE000 := by simpa [isHalf] using hhalf
    have hstand : c = Char.ofNat (standInOffset + code) := by simpa [hmark] using hmem
    rw [hstand, toNat_ofNat (by right; simp only [standInOffset]; omega)] at hc
    simp only [standInOffset] at hc
    omega
  · next hhalf =>
    split at hmem
    · simp [hmark] at hmem
    · rw [List.mem_singleton] at hmem
      rw [hmem, toNat_ofNat_of_isCode h hhalf]

theorem spelling_ne_nil (code : Nat) : spelling code ≠ [] := by
  unfold spelling
  split
  · simp
  · split <;> simp

theorem unixNewlines_flatMap {cs : List Nat} (h : ∀ code ∈ cs, IsCode code) :
    unixNewlines (cs.flatMap spelling) = (unixCodes cs).flatMap spelling := by
  fun_induction unixCodes cs with
  | case1 => rfl
  | case2 cs ih =>
    have tail : ∀ code ∈ cs, IsCode code := fun code hcode => h code (by simp [hcode])
    change unixNewlines ('\r' :: '\n' :: cs.flatMap spelling) =
      '\n' :: (unixCodes cs).flatMap spelling
    rw [unixNewlines, ih tail]
  | case3 code cs hnotBoth ih =>
    have tail : ∀ code ∈ cs, IsCode code := fun code hcode => h code (by simp [hcode])
    rw [List.flatMap_cons, List.flatMap_cons, ← ih tail]
    split
    · next hcode =>
      -- The line end stands alone, so no line feed is spelt behind it.
      subst hcode
      change unixNewlines ('\r' :: cs.flatMap spelling) = '\n' :: unixNewlines (cs.flatMap spelling)
      rw [unixNewlines, if_pos rfl]
      rintro rest - hrest
      cases cs with
      | nil => simp at hrest
      | cons code cs =>
        have hfeed : '\n' ∈ spelling code := by
          obtain ⟨c, rest', hspelling⟩ := List.exists_cons_of_ne_nil (spelling_ne_nil code)
          rw [List.flatMap_cons, hspelling, List.cons_append, List.cons.injEq] at hrest
          simp [hspelling, hrest.1]
        have hcode := eq_toNat_of_mem_spelling (tail code List.mem_cons_self) (by decide) hfeed
        exact hnotBoth cs rfl (by rw [hcode]; rfl)
    · next hcode =>
      refine unixNewlines_append (fun hmem => hcode ?_) _
      exact eq_toNat_of_mem_spelling (h code List.mem_cons_self) (by decide) hmem

theorem isCode_unixCodes {cs : List Nat} (h : ∀ code ∈ cs, IsCode code) :
    ∀ code ∈ unixCodes cs, IsCode code := by
  fun_induction unixCodes cs with
  | case1 => simp
  | case2 cs ih =>
    have tail := ih fun code hcode => h code (by simp [hcode])
    simpa using ⟨isCode_iff.2 (by decide), tail⟩
  | case3 code cs _ ih =>
    have tail := ih fun code hcode => h code (by simp [hcode])
    have head : IsCode (if code = 13 then 10 else code) := by
      split
      · exact isCode_iff.2 (by decide)
      · exact h code List.mem_cons_self
    simpa using ⟨head, tail⟩

theorem normalizeNewlines_ofCodes {cs : List Nat} (h : ∀ code ∈ cs, IsCode code) :
    normalizeNewlines (ofCodes cs) = ofCodes (unixCodes cs) := by
  rw [normalizeNewlines, ofCodes, String.toList_ofList, unixNewlines_flatMap h, ofCodes]

theorem isSpelt_normalizeNewlines {s : String} (h : IsSpelt s) : IsSpelt (normalizeNewlines s) := by
  obtain ⟨cs, hcs, rfl⟩ := h
  exact ⟨unixCodes cs, isCode_unixCodes hcs, (normalizeNewlines_ofCodes hcs).symm⟩

theorem unixCodes_toNat (cs : List Char) :
    unixCodes (cs.map (·.toNat)) = (unixNewlines cs).map (·.toNat) := by
  fun_induction unixNewlines cs with
  | case1 => rfl
  | case2 cs ih => simpa [unixCodes] using ih
  | case3 c cs hnotBoth ih =>
    have toNat_eq (c d : Char) : c.toNat = d.toNat ↔ c = d := Char.toNat_inj
    rw [List.map_cons, unixCodes, ih, List.map_cons]
    · congr 1
      by_cases hc : c = '\r'
      · subst hc
        rfl
      · have hcode : c.toNat ≠ 13 := fun same => hc ((toNat_eq c '\r').1 same)
        rw [if_neg hc, if_neg hcode]
    · intro rest hcode hrest
      cases cs with
      | nil => simp at hrest
      | cons d ds =>
        rw [List.map_cons, List.cons.injEq] at hrest
        have hc : c = '\r' := (toNat_eq c '\r').1 hcode
        have hd : d = '\n' := (toNat_eq d '\n').1 hrest.1
        exact hnotBoth ds hc (by rw [hd])

theorem normalizeNewlines_ofCharacters (s : String) :
    normalizeNewlines (ofCharacters s) = ofCharacters (normalizeNewlines s) := by
  have hcodes : ∀ code ∈ s.toList.map (·.toNat), IsCode code := by
    simpa using fun c _ => isCode_toNat c
  rw [ofCharacters_eq, ofCharacters_eq, normalizeNewlines_ofCodes hcodes, unixCodes_toNat,
    normalizeNewlines, String.toList_ofList]

end EngineBindings.Text

namespace EngineBindings.Encoding

open EngineBindings.Text

theorem fromUTF8?_toUTF8 (s : String) : String.fromUTF8? s.toUTF8 = some s := by
  have hvalid : s.toUTF8.IsValidUTF8 := s.isValidUTF8
  rw [String.fromUTF8?, dif_pos hvalid]
  rfl

theorem named_utf8 : named "utf-8" = .ok .utf8 := by
  have hfound : (named "utf-8").toOption = some .utf8 := by decide +kernel
  cases hname : named "utf-8" with
  | error fault => simp [hname, Except.toOption] at hfound
  | ok e => simpa [hname, Except.toOption] using hfound

/-- The characters of a text are those that it was spelt from. -/
theorem characters?_ofCharacters (s : String) : characters? (ofCharacters s) = some s := by
  by_cases hmark : mark ∈ s.toList
  · have hcodes : codesOf (ofCharacters s) = s.toList.map (·.toNat) := by
      rw [ofCharacters_eq, codesOf_ofCodes (by simpa using fun c _ => isCode_toNat c)]
    have hspelt : (ofCharacters s).toList.contains mark = true := by
      rw [ofCharacters_eq, ofCodes, String.toList_ofList, List.contains_iff_mem, List.mem_flatMap]
      exact ⟨mark.toNat, List.mem_map_of_mem hmark, by decide⟩
    have hwhole : holdsHalf (ofCharacters s) = false := by
      simp [holdsHalf, hcodes, isHalf_toNat]
    rw [characters?, hspelt, hwhole, hcodes]
    simp [Function.comp_def]
  · have hsame : ofCharacters s = s := by simp [ofCharacters, hmark]
    simp [hsame, characters?, hmark]

theorem ofCharacters_of_characters? {s cs : String} (hs : IsSpelt s)
    (h : characters? s = some cs) : ofCharacters cs = s := by
  unfold characters? at h
  split at h
  · next hplain =>
    cases h
    simp [ofCharacters, show mark ∉ s.toList by simpa using hplain]
  · next hmark =>
    split at h
    · cases h
    · next hhalf =>
      cases h
      have hback : ∀ code ∈ codesOf s, (Char.ofNat code).toNat = code := by
        intro code hcode
        refine toNat_ofNat_of_isCode (isCode_of_mem_codes s.toList code hcode) fun half => hhalf ?_
        rw [holdsHalf, Bool.and_eq_true]
        exact ⟨by simpa using hmark, List.any_eq_true.2 ⟨code, hcode, half⟩⟩
      have hsame : ((codesOf s).map Char.ofNat).map (·.toNat) = codesOf s := by
        rw [List.map_map]
        exact (List.map_congr_left hback).trans (List.map_id' _)
      rw [ofCharacters_eq, String.toList_ofList, hsame, hs.ofCodes_codesOf]

theorem ofCharacters_injective : Function.Injective ofCharacters := by
  intro s s' h
  simpa [characters?_ofCharacters] using congrArg characters? h

/-- Bytes that are decoded are those of some characters. -/
theorem exists_of_decode {bytes : ByteArray} {s : String} (h : utf8.decode bytes = .ok s) :
    ∃ cs : String, bytes = cs.toUTF8 ∧ s = ofCharacters cs := by
  obtain ⟨cs, hcs, rfl⟩ := Attempt.map_eq_ok.1 h
  unfold textOfUtf8 String.fromUTF8? at hcs
  split at hcs
  · next hvalid => exact ⟨cs, by simp at hcs; rw [← hcs]; rfl, rfl⟩
  · cases hcs

theorem encode_ofCharacters (s : String) : utf8.encode (ofCharacters s) = .ok s.toUTF8 := by
  rw [encode, characters?_ofCharacters]
  rfl

/-- A text that is spelt as it is to be comes back. -/
theorem decode_of_encode {s : String} (hs : IsSpelt s) {bytes : ByteArray}
    (h : utf8.encode s = .ok bytes) : utf8.decode bytes = .ok s := by
  cases hcs : characters? s with
  | none => simp [encode, hcs] at h
  | some cs =>
    have hbytes : bytes = cs.toUTF8 := by simpa [encode, hcs, encodeCharacters] using h.symm
    rw [hbytes, decode, textOfUtf8, fromUTF8?_toUTF8]
    exact congrArg Except.ok (ofCharacters_of_characters? hs hcs)

end EngineBindings.Encoding

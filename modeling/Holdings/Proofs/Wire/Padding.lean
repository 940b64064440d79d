/-
# Codes with zero characters are lost

The word of a symbol is filled with zero bytes behind the code, and the reader takes the first zero byte for
the end of the code.  The writer does not ask whether a code has zero characters of its own, though: it
only wants at most seven characters, all of them ASCII.  So a zero character is written like any other,
and then it cannot be told from the filling.

What comes back is settled by the zero characters alone.

* Without any, the symbol reads back (`fills_self_iff`).
* If they all stand at the end, the code comes back without them (`Symbol.Fills`), so symbols that differ
  only in their number have the same bytes (`padded_eq_iff`).
* If another character follows one of them, the bytes that were written are refused
  (`Symbol.Interrupted`).
-/
import Holdings.Proofs.Wire.Framing
import Holdings.Proofs.Wire.Refusal

namespace Holdings

open Wire

namespace Symbol

/-! ## 1. Zero characters -/

/-- The character of the zero byte. -/
def zeroChar : Char := Char.ofNat 0

/-- A row of zero characters. -/
def zeros (n : Nat) : List Char := List.replicate n zeroChar

/-- In the code another character follows a zero character. -/
def Interrupted (s : Symbol) : Prop :=
  ∃ front back, s.code.toList = front ++ zeroChar :: back ∧ ∃ c ∈ back, c ≠ zeroChar

/-- A symbol is another one without zero characters, but for some of them behind its code. -/
structure Fills (s t : Symbol) : Prop where
  precision : s.precision = t.precision
  code : ∃ n, s.code.toList = t.code.toList ++ zeros n
  clean : ∀ c ∈ t.code.toList, c ≠ zeroChar

/-- The codes are the same up to zero characters at the end. -/
def SameFilled (s t : Symbol) : Prop :=
  s.precision = t.precision ∧ ∃ n m, s.code.toList ++ zeros n = t.code.toList ++ zeros m

theorem ne_zeroChar_iff {c : Char} : c ≠ zeroChar ↔ c.toNat ≠ 0 := by
  constructor
  · intro h hc
    exact h (by rw [← Char.ofNat_toNat c, hc]; rfl)
  · rintro h rfl
    exact h rfl

/-- A symbol fills itself when its code has no zero characters. -/
theorem fills_self_iff {s : Symbol} : s.Fills s ↔ ∀ c ∈ s.code.toList, c ≠ zeroChar :=
  ⟨fun h => h.clean, fun h => ⟨rfl, ⟨0, (List.append_nil _).symm⟩, h⟩⟩

/-- Characters follow a zero character, or all zero characters stand at the end. -/
theorem interrupted_or_filled (code : List Char) :
    (∃ front back, code = front ++ zeroChar :: back ∧ ∃ c ∈ back, c ≠ zeroChar) ∨
      ∃ front n, code = front ++ zeros n ∧ ∀ c ∈ front, c ≠ zeroChar := by
  induction code with
  | nil => exact Or.inr ⟨[], 0, rfl, by simp⟩
  | cons c cs ih =>
    rcases ih with ⟨front, back, rfl, hback⟩ | ⟨front, n, rfl, hfront⟩
    · exact Or.inl ⟨c :: front, back, rfl, hback⟩
    · by_cases hc : c = zeroChar
      · cases front with
        | nil => exact Or.inr ⟨[], n + 1, by rw [hc]; rfl, by simp⟩
        | cons d front =>
          refine Or.inl ⟨[], d :: front ++ zeros n, by rw [hc]; rfl, d, by simp, ?_⟩
          exact hfront d List.mem_cons_self
      · exact Or.inr ⟨c :: front, n, rfl, List.forall_mem_cons.mpr ⟨hc, hfront⟩⟩

/-- **A symbol is interrupted by a zero character, or it fills another one.** -/
theorem interrupted_or_fills (s : Symbol) : s.Interrupted ∨ ∃ t, s.Fills t := by
  rcases interrupted_or_filled s.code.toList with h | ⟨front, n, hcode, hclean⟩
  · exact Or.inl h
  · refine Or.inr ⟨⟨String.ofList front, s.precision⟩, rfl, ⟨n, ?_⟩, ?_⟩
    · rw [hcode, String.toList_ofList]
    · rw [String.toList_ofList]
      exact hclean

/-! ## 2. The eight bytes -/

theorem map_charByte_zeros (n : Nat) : (zeros n).map charByte = List.replicate n 0 :=
  List.map_replicate

/-- The bytes of a symbol are those of its code, filled up to seven with zero characters. -/
theorem padded_eq_map (s : Symbol) :
    s.padded = s.precision :: (s.code.toList ++ zeros (7 - s.code.toList.length)).map charByte := by
  have hlen : 8 - s.wordBytes.length = 7 - s.code.toList.length := by
    simp only [wordBytes, List.length_cons, List.length_map]
    omega
  rw [List.map_append, map_charByte_zeros, ← hlen]
  rfl

/-- The same bytes stand for the same characters below 256. -/
theorem map_charByte_inj {cs ds : List Char} (hc : ∀ c ∈ cs, c.toNat < 256)
    (hd : ∀ d ∈ ds, d.toNat < 256) (h : cs.map charByte = ds.map charByte) : cs = ds := by
  rw [← map_byteChar_charByte hc, ← map_byteChar_charByte hd, h]

/-- More zero characters than there is room for make no difference to the first seven characters. -/
theorem take_append_zeros {cs : List Char} (h : cs.length ≤ 7) (n : Nat) :
    (cs ++ zeros (n + 7)).take 7 = cs ++ zeros (7 - cs.length) := by
  rw [List.take_append, List.take_of_length_le h, zeros, List.take_replicate, zeros]
  congr 2
  omega

/-- The filled code of a symbol that fits. -/
theorem lt_of_mem_filled {s : Symbol} (h : fitsWord s.code = true) (n : Nat) :
    ∀ c ∈ s.code.toList ++ zeros n, c.toNat < 256 := by
  intro c hc
  rcases List.mem_append.mp hc with hc | hc
  · have := (fitsWord_iff.mp h).2 c hc
    omega
  · rw [List.eq_of_mem_replicate hc]
    decide

/-- **The same bytes** stand for codes that are the same up to zero characters at the end. -/
theorem padded_eq_iff {s t : Symbol} (hs : fitsWord s.code = true) (ht : fitsWord t.code = true) :
    s.padded = t.padded ↔ s.SameFilled t := by
  rw [padded_eq_map, padded_eq_map]
  constructor
  · intro h
    obtain ⟨hp, hcode⟩ := List.cons.inj h
    exact ⟨hp, _, _, map_charByte_inj (lt_of_mem_filled hs _) (lt_of_mem_filled ht _) hcode⟩
  · rintro ⟨hp, n, m, hcode⟩
    have hfull : s.code.toList ++ zeros (7 - s.code.toList.length) =
        t.code.toList ++ zeros (7 - t.code.toList.length) := by
      rw [← take_append_zeros (fitsWord_iff.mp hs).1 n, ← take_append_zeros (fitsWord_iff.mp ht).1 m]
      have hzeros : ∀ k, zeros (k + 7) = zeros k ++ zeros 7 := fun k => List.replicate_add k 7 _
      rw [hzeros n, hzeros m, ← List.append_assoc, ← List.append_assoc, hcode]
    rw [hp, hfull]

/-! ## 3. What is read from them -/

/-- The bytes of a code without zero characters that was filled with some are read as that code. -/
theorem ofBytes?_padded_of_fills {s t : Symbol} (hs : fitsWord s.code = true) (h : s.Fills t) :
    ofBytes? s.padded = some t := by
  obtain ⟨hp, ⟨n, hcode⟩, hclean⟩ := h
  have ht : fitsWord t.code = true := by
    obtain ⟨hlen, hascii⟩ := fitsWord_iff.mp hs
    rw [hcode] at hlen hascii
    refine fitsWord_iff.mpr ⟨?_, fun c hc => hascii c (List.mem_append_left _ hc)⟩
    rw [List.length_append] at hlen
    omega
  have hsame : s.padded = t.padded :=
    (padded_eq_iff hs ht).mpr ⟨hp, 0, n, by rw [hcode]; exact List.append_nil _⟩
  rw [hsame]
  exact ofBytes?_padded ht fun c hc => ne_zeroChar_iff.mp (hclean c hc)

/-- The bytes of a symbol that is interrupted are not read. -/
theorem ofBytes?_padded_of_interrupted {s : Symbol} (hs : fitsWord s.code = true)
    (h : s.Interrupted) : ofBytes? s.padded = none := by
  obtain ⟨front, back, hcode, c, hc, hne⟩ := h
  have hbytes : Wire.Resumes ((s.code.toList ++ zeros (7 - s.code.toList.length)).map charByte) := by
    refine ⟨front.map charByte, (back ++ zeros (7 - s.code.toList.length)).map charByte, ?_,
      charByte c, List.mem_map_of_mem (List.mem_append_left _ hc), ?_⟩
    · rw [hcode, List.append_assoc, List.map_append]
      rfl
    · have hlow : c.toNat < 256 :=
        lt_of_mem_filled hs 0 c (List.mem_append_left _ (by rw [hcode]; simp [hc]))
      intro h0
      refine ne_zeroChar_iff.mp hne ?_
      rw [← toNat_charByte hlow, h0]
      rfl
  rw [padded_eq_map, ofBytes?, codeOfBytes?_eq_none_iff.mpr hbytes]
  rfl

/-- **The symbol that is read** is the one that was written, without the zero characters at its end. -/
theorem ofBytes?_padded_eq_some_iff {s t : Symbol} (hs : fitsWord s.code = true) :
    ofBytes? s.padded = some t ↔ s.Fills t := by
  refine ⟨fun h => ?_, ofBytes?_padded_of_fills hs⟩
  rcases s.interrupted_or_fills with hr | ⟨u, hu⟩
  · rw [ofBytes?_padded_of_interrupted hs hr] at h
    cases h
  · rw [ofBytes?_padded_of_fills hs hu] at h
    exact Option.some.inj h ▸ hu

/-- **Nothing is read** exactly when the symbol is interrupted. -/
theorem ofBytes?_padded_eq_none_iff {s : Symbol} (hs : fitsWord s.code = true) :
    ofBytes? s.padded = none ↔ s.Interrupted := by
  refine ⟨fun h => ?_, ofBytes?_padded_of_interrupted hs⟩
  rcases s.interrupted_or_fills with hr | ⟨u, hu⟩
  · exact hr
  · rw [ofBytes?_padded_of_fills hs hu] at h
    cases h

end Symbol

/-! ## 4. The codec -/

namespace Wire

/-- **What comes back of a symbol that was written.**  The symbol itself comes back exactly when its code
has no zero character.  In general that symbol comes back which it fills with zero characters; there is none
exactly when another character follows one of them, and then the bytes are refused.  Two symbols have the
same bytes exactly when they differ in nothing but the number of zero characters at the end. -/
theorem symbols_return_without_zeros (s : Symbol) (d : Bytes) (h : encodeSymbol s = .ok d) :
    (decodeSymbol d 0 = .ok (s, 8) ↔ ∀ c ∈ s.code.toList, c.toNat ≠ 0) ∧
    (∀ t, decodeSymbol d 0 = .ok (t, 8) ↔ s.Fills t) ∧
    (decodeSymbol d 0 = .error (.aborted (.codeAfterEnd (value d))) ↔ s.Interrupted) ∧
    ∀ t e, encodeSymbol t = .ok e → (d = e ↔ s.SameFilled t) := by
  obtain ⟨hs, rfl⟩ := encodeSymbol_eq_ok_iff.mp h
  have hread := decodeSymbol_eight (Symbol.length_padded hs)
  have hsome : ∀ t, decodeSymbol s.padded 0 = .ok (t, 8) ↔ s.Fills t := by
    intro t
    rw [← Symbol.ofBytes?_padded_eq_some_iff hs, hread]
    cases Symbol.ofBytes? s.padded <;> simp
  have hnone : decodeSymbol s.padded 0 = .error (.aborted (.codeAfterEnd (value s.padded))) ↔
      s.Interrupted := by
    rw [← Symbol.ofBytes?_padded_eq_none_iff hs, hread]
    cases Symbol.ofBytes? s.padded <;> simp
  refine ⟨?_, hsome, hnone, fun t e ht => ?_⟩
  · rw [hsome s, Symbol.fills_self_iff]
    exact forall₂_congr fun c _ => Symbol.ne_zeroChar_iff
  · obtain ⟨hfits, rfl⟩ := encodeSymbol_eq_ok_iff.mp ht
    exact Symbol.padded_eq_iff hs hfits

/-- A code of one letter, of that letter and a zero character, and of another letter behind that. -/
theorem symbols_return_around_zero :
    ∃ d e, encodeSymbol ⟨"A\x00", 4⟩ = .ok d ∧ encodeSymbol ⟨"A\x00B", 4⟩ = .ok e ∧
      decodeSymbol d 0 = .ok (⟨"A", 4⟩, 8) ∧
      decodeSymbol e 0 = .error (.aborted (.codeAfterEnd (value e))) := by
  have hclean : ∀ c ∈ "A".toList, c ≠ Symbol.zeroChar := by
    intro c hc
    obtain rfl : c = 'A' := List.mem_singleton.mp hc
    decide
  refine ⟨[4, 65, 0, 0, 0, 0, 0, 0], [4, 65, 0, 66, 0, 0, 0, 0], by rfl, by rfl, ?_, ?_⟩
  · exact ((symbols_return_without_zeros ⟨"A\x00", 4⟩ _ (by rfl)).2.1 ⟨"A", 4⟩).mpr
      ⟨rfl, ⟨1, by decide⟩, hclean⟩
  · exact (symbols_return_without_zeros ⟨"A\x00B", 4⟩ _ (by rfl)).2.2.1.mpr
      ⟨['A'], ['B'], by decide, 'B', by decide, by decide⟩

/-- **Not every symbol that can be written comes back**, and two different ones may have the same bytes. -/
theorem zero_character_dropped :
    ¬ (∀ (s : Symbol) (d : Bytes), encodeSymbol s = .ok d → decodeSymbol d 0 = .ok (s, 8)) ∧
    ¬ ∀ (s t : Symbol) (d : Bytes), encodeSymbol s = .ok d → encodeSymbol t = .ok d → s = t := by
  have hlong : encodeSymbol ⟨"A\x00", 4⟩ = .ok [4, 65, 0, 0, 0, 0, 0, 0] := by rfl
  have hshort : encodeSymbol ⟨"A", 4⟩ = .ok [4, 65, 0, 0, 0, 0, 0, 0] := by rfl
  have hread : decodeSymbol [4, 65, 0, 0, 0, 0, 0, 0] 0 = .ok (⟨"A", 4⟩, 8) := by decide +kernel
  refine ⟨fun h => ?_, fun h => ?_⟩
  · have hback := h _ _ hlong
    rw [hread] at hback
    exact absurd hback (by decide)
  · exact absurd (h _ _ _ hlong hshort) (by decide)

end Wire

end Holdings

/-
# Failures of reading and writing bytes

Bytes are the one place where an operation is aborted without a check.  What a codec cannot write it refuses
outright, and so no abort of writing is found by a check (`Codec.encode_failsOnly`).  Reading checks the
length, the fields and the end of the data, and the one thing that it refuses outright is a code that goes on
behind its end (`Codec.checkedBut_decode`).  Both hold for every codec, by induction on it.
-/
import Holdings.Proofs.Checks
import Holdings.Wire.Codec

namespace Holdings

/-! ## 1. What no check finds -/

/-- The reasons that writing finds: a value that does not fit its format, a code that does not fit its word. -/
def Abort.isOfWriting : Abort → Bool
  | unencodable .. => true
  | wideCode _ => true
  | _ => false

/-- The reason that reading finds without a check: a code that goes on behind its end. -/
def Abort.isOfReading : Abort → Bool
  | codeAfterEnd _ => true
  | _ => false

/-- **The three reasons that no check finds** belong to bytes. -/
theorem Abort.isAudited_eq_false_iff {a : Abort} :
    a.isAudited = false ↔ a.isOfWriting = true ∨ a.isOfReading = true := by
  cases a <;> simp [isAudited, isOfWriting, isOfReading]

/-- A failure of writing: no check is made, so no abort is that of a check. -/
def Fault.IsOfWriting (f : Fault) : Prop := ∀ a, f = .aborted a → a.isOfWriting = true

/-- Only a check aborts with this failure, or it is one of these reasons. -/
def Fault.IsCheckedBut (missed : Abort → Bool) (f : Fault) : Prop :=
  ∀ a, f = .aborted a → a.isAudited = true ∨ missed a = true

theorem Fault.IsChecked.but {f : Fault} (h : f.IsChecked) (missed : Abort → Bool) :
    f.IsCheckedBut missed := by
  rintro a rfl
  exact Or.inl h

/-- The operation aborts only by a check or for one of these reasons. -/
def CheckedBut {α : Type} (missed : Abort → Bool) (x : Except Fault α) : Prop :=
  x.FailsOnly (Fault.IsCheckedBut missed)

variable {α : Type} {x : Except Fault α} {missed : Abort → Bool}

theorem Checked.but (h : Checked x) (missed : Abort → Bool) : CheckedBut missed x :=
  h.mono fun _ hf => hf.but missed

/-- More may be missed. -/
theorem CheckedBut.mono {missed' : Abort → Bool} (h : CheckedBut missed x)
    (hm : ∀ a, missed a = true → missed' a = true) : CheckedBut missed' x :=
  Except.FailsOnly.mono h fun _ hf a ha => (hf a ha).imp_right (hm a)

/-- All that writing is aborted for is missed. -/
theorem checkedBut_of_isOfWriting (h : x.FailsOnly Fault.IsOfWriting) :
    CheckedBut Abort.isOfWriting x :=
  h.mono fun _ hf a ha => Or.inr (hf a ha)

namespace Wire

/-! ## 2. Words -/

theorem encode_word_failsOnly (f : WordFormat) (v : Datum) :
    (f.encode v).FailsOnly Fault.IsOfWriting := by
  have hrefused : ∀ why, (f.refuse v why).FailsOnly Fault.IsOfWriting := by
    intro why
    refine (failsOnly_requireWritable (fun a ha => nomatch ha) _).map.bind fun text => ?_
    refine Except.failsOnly_error ?_
    rintro a ha
    cases ha
    rfl
  unfold WordFormat.encode
  split
  · exact hrefused _
  · split
    · exact Except.failsOnly_ok _
    · exact hrefused _

theorem encodeSymbol_failsOnly (s : Symbol) : (encodeSymbol s).FailsOnly Fault.IsOfWriting := by
  unfold encodeSymbol
  split
  · exact encode_word_failsOnly _ _
  · refine Except.failsOnly_error ?_
    rintro a ha
    cases ha
    rfl

theorem checked_decode_word (f : WordFormat) (data : Bytes) (offset : Int) :
    Checked (f.decode data offset) := by
  unfold WordFormat.decode
  refine (failsOnly_requireWritable trivial _).bind fun _ => ?_
  refine (checked_require rfl _).bind fun _ => ?_
  split
  · exact Except.failsOnly_error trivial
  · split
    · exact Except.failsOnly_error trivial
    · exact Except.failsOnly_ok _

theorem checkedBut_decodeSymbol (data : Bytes) (offset : Int) :
    CheckedBut Abort.isOfReading (decodeSymbol data offset) := by
  refine ((checked_decode_word .uint64 data offset).but _).bind ?_
  rintro ⟨raw, next⟩
  dsimp only
  split
  · exact Except.failsOnly_ok _
  · refine Except.failsOnly_error ?_
    rintro a ha
    cases ha
    exact Or.inr rfl
  · refine Except.failsOnly_error ?_
    rintro a ha
    cases ha

theorem checked_decodeIdentity (data : Bytes) (offset : Int) : Checked (decodeIdentity data offset) :=
  (checked_decode_word .uint64 data offset).bind fun _ =>
    (Identity.isChecked_ofFields _).toExcept.bind fun _ => Except.failsOnly_ok _

/-! ## 3. Codecs -/

namespace Codec

mutual

/-- **What a codec cannot write is never found by a check.** -/
theorem encode_failsOnly : ∀ (c : Codec) (v : Datum), (c.encode v).FailsOnly Fault.IsOfWriting
  | .word f, v => by
    rw [encode]
    exact encode_word_failsOnly f v
  | .symbol, v => by
    unfold encode
    split
    · exact encodeSymbol_failsOnly _
    · exact Except.failsOnly_error fun a ha => nomatch ha
  | .identity, v => by
    unfold encode
    split
    · exact encode_word_failsOnly _ _
    · exact Except.failsOnly_error fun a ha => nomatch ha
  | .record kind fields, v => by
    rw [encode]
    exact encodeFields_failsOnly fields v

theorem encodeFields_failsOnly :
    ∀ (fields : List (String × Codec)) (v : Datum),
      (encodeFields fields v).FailsOnly Fault.IsOfWriting
  | [], v => Except.failsOnly_ok []
  | (name, codec) :: rest, v => by
    rw [encodeFields]
    split
    · exact Except.failsOnly_error fun a ha => nomatch ha
    · exact (encode_failsOnly codec _).bind fun _ =>
        (encodeFields_failsOnly rest v).bind fun _ => Except.failsOnly_ok _

end

mutual

/-- **What a codec cannot read is found by a check**, except for a code that goes on behind its end. -/
theorem checkedBut_decode : ∀ (c : Codec) (data : Bytes) (offset : Int),
    CheckedBut Abort.isOfReading (c.decode data offset)
  | .word f, data, offset => by
    rw [decode]
    exact ((checked_decode_word f data offset).but _).map
  | .symbol, data, offset => by
    rw [decode]
    exact (checkedBut_decodeSymbol data offset).map
  | .identity, data, offset => by
    rw [decode]
    exact ((checked_decodeIdentity data offset).but _).map
  | .record kind fields, data, offset => by
    rw [decode]
    refine (checkedBut_decodeFields fields [] data offset).bind fun p => ?_
    exact ((Entity.isChecked_ofCall kind [] p.1).toExcept.but _).bind
      fun _ => Except.failsOnly_ok _

theorem checkedBut_decodeFields :
    ∀ (fields : List (String × Codec)) (values : Fields) (data : Bytes) (offset : Int),
      CheckedBut Abort.isOfReading (decodeFields fields values data offset)
  | [], values, data, offset => Except.failsOnly_ok _
  | (name, codec) :: rest, values, data, offset => by
    rw [decodeFields]
    exact (checkedBut_decode codec data offset).bind fun p =>
      checkedBut_decodeFields rest _ data p.2

end

end Codec

/-- The same holds of a whole string of bytes. -/
theorem checkedBut_decodeEntity (kind : EntityKind) (fields : List (String × Codec)) (data : Bytes) :
    CheckedBut Abort.isOfReading (decodeEntity kind fields data) := by
  unfold decodeEntity
  refine (Codec.checkedBut_decodeFields fields [] data 0).bind fun p => ?_
  refine ((Entity.isChecked_ofCall kind [] p.1).toExcept.but _).bind fun e => ?_
  exact ((checked_require rfl _).but _).bind fun _ => Except.failsOnly_ok _

end Wire

/-- Nothing that writing a quantity is aborted for is found by a check. -/
theorem Quantity.checkedBut_pack (q : Quantity) : CheckedBut Abort.isOfWriting q.pack :=
  checkedBut_of_isOfWriting (Wire.Codec.encodeFields_failsOnly _ _)

theorem Holding.checkedBut_pack (k : Holding) : CheckedBut Abort.isOfWriting k.pack :=
  checkedBut_of_isOfWriting (Wire.Codec.encodeFields_failsOnly _ _)

end Holdings

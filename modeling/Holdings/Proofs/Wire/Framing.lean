/-
# Every layout reads back what it writes

A layout is a tree of codecs, and the two that quantities and holdings come with are only examples: the
fields of a record may stand in any order and more than once, integers may have any format, and a symbol or
an identity may be written by its own codec or as a record of its parts.  As long as the fields of each
record are the parts of its kind (`Codec.Covers`), what was written is read again, whatever bytes stand
around it.

The induction is on the tree.  Its invariant for a row of fields is what is found under each name
afterwards: the attribute of the entity if the name has been read, and else what was found before
(`Codec.decodeFields_encodeFields`).  A later field replaces an earlier one of its name, and that is harmless
because both were written from one attribute.
-/
import Holdings.Proofs.Wire.Bijection

namespace Holdings

open Wire

/-! ## 1. The parts of an entity -/

/-- What a part of an entity is. -/
inductive Part where
  | number
  | entity (kind : EntityKind)
  deriving DecidableEq, Repr

/-- The parts that an entity of a kind is built from, under their names.  A symbol has a word of its own
instead, and settings do not stand in bytes. -/
def EntityKind.parts : EntityKind → List (String × Part)
  | .identity => [("value", .number)]
  | .issuedSymbol => [("symbol", .entity .symbol), ("contract", .entity .identity)]
  | .quantity => [("amount", .number), ("symbol", .entity .symbol)]
  | .holding => [("quantity", .entity .quantity), ("owner", .entity .identity)]
  | .symbol => []
  | .settings => []

/-- What the reader can build again: a quantity passes the checks of a new one, and any other code has no
zero character, which would end it. -/
def Entity.Rebuildable : Entity → Prop
  | .symbol s => ∀ c ∈ s.code.toList, c.toNat ≠ 0
  | .issuedSymbol s => ∀ c ∈ s.symbol.code.toList, c.toNat ≠ 0
  | .quantity q => q.isValid = true
  | .holding k => k.quantity.isValid = true
  | .identity _ => True
  | .settings _ => True

/-- A datum is such a part, and can be built again. -/
def Part.Holds : Part → Datum → Prop
  | .number, v => ∃ n, v = .int n
  | .entity kind, v => ∃ e : Entity, v = .object e ∧ e.kind = kind ∧ e.Rebuildable

/-- The letters of a valid symbol are no zero characters. -/
theorem Quantity.no_zero_of_isValid {q : Quantity} (h : q.isValid = true) :
    ∀ c ∈ q.symbol.code.toList, c.toNat ≠ 0 :=
  (Quantity.admissible_of_isValid h).1.fitsWord.2

/-- **An entity has its parts as attributes.** -/
theorem Entity.attribute_of_parts {e : Entity} (he : e.Rebuildable) {name : String} {p : Part}
    (hp : (name, p) ∈ e.kind.parts) : ∃ v, e.attribute? name = some v ∧ p.Holds v := by
  cases e with
  | symbol s => cases hp
  | settings s => cases hp
  | identity i =>
    simp only [Entity.kind, EntityKind.parts, List.mem_singleton, Prod.mk.injEq] at hp
    obtain ⟨rfl, rfl⟩ := hp
    exact ⟨_, rfl, _, rfl⟩
  | issuedSymbol s =>
    simp only [Entity.kind, EntityKind.parts, List.mem_cons, List.not_mem_nil, or_false,
      Prod.mk.injEq] at hp
    rcases hp with ⟨rfl, rfl⟩ | ⟨rfl, rfl⟩
    · exact ⟨_, rfl, _, rfl, rfl, he⟩
    · exact ⟨_, rfl, _, rfl, rfl, trivial⟩
  | quantity q =>
    simp only [Entity.kind, EntityKind.parts, List.mem_cons, List.not_mem_nil, or_false,
      Prod.mk.injEq] at hp
    rcases hp with ⟨rfl, rfl⟩ | ⟨rfl, rfl⟩
    · exact ⟨_, rfl, _, rfl⟩
    · exact ⟨_, rfl, _, rfl, rfl, Quantity.no_zero_of_isValid he⟩
  | holding k =>
    simp only [Entity.kind, EntityKind.parts, List.mem_cons, List.not_mem_nil, or_false,
      Prod.mk.injEq] at hp
    rcases hp with ⟨rfl, rfl⟩ | ⟨rfl, rfl⟩
    · exact ⟨_, rfl, _, rfl, rfl, he⟩
    · exact ⟨_, rfl, _, rfl, rfl, trivial⟩

/-- The fields of an identity are looked at under one name. -/
theorem Identity.ofFields_of_lookup {fields : Fields} {i : Identity}
    (h : fields.lookup "value" = some (.int i.value.toNat)) : Identity.ofFields fields = .valid i := by
  have hone : Identity.ofFields fields = Identity.ofFields [("value", .int i.value.toNat)] := by
    unfold Identity.ofFields Fields.checkField Fields.check
    rw [h]
    rfl
  rw [hone, Identity.ofFields_word i.value.toNat_lt, UInt64.ofNat_toNat]

theorem IssuedSymbol.ofFields_of_lookup {fields : Fields} {s : IssuedSymbol}
    (hs : fields.lookup "symbol" = some (.object (.symbol s.symbol)))
    (hc : fields.lookup "contract" = some (.object (.identity s.contract))) :
    IssuedSymbol.ofFields fields = .valid s := by
  unfold IssuedSymbol.ofFields Fields.checkField Fields.check
  rw [hs, hc]
  rfl

/-- Two values found under their names are bound. -/
theorem Fields.bindTwo_of_lookup {α : Type} {first second : String} {named : List (String × α)}
    {a b : α} (hself : named.lookup "self" = none) (ha : named.lookup first = some a)
    (hb : named.lookup second = some b) : Fields.bindTwo first second [] named = .ok (a, b) := by
  unfold Fields.bindTwo
  rw [hself, ha, hb]
  rfl

/-- **An entity is built again from its parts**, found under their names and with nothing else. -/
theorem Entity.ofCall_of_lookup {e : Entity} (he : e.Rebuildable) (hparts : e.kind.parts ≠ [])
    {values : Fields} (hv : ∀ name, values.lookup name =
      if name ∈ e.kind.parts.map Prod.fst then e.attribute? name else none) :
    Entity.ofCall e.kind [] values = .valid e := by
  cases e with
  | symbol s => exact absurd rfl hparts
  | settings s => exact absurd rfl hparts
  | identity i =>
    have h : Identity.ofFields values = .valid i := Identity.ofFields_of_lookup (hv "value")
    show (Identity.ofFields values).map Entity.identity = _
    rw [h]
    rfl
  | issuedSymbol s =>
    have h : IssuedSymbol.ofFields values = .valid s :=
      IssuedSymbol.ofFields_of_lookup (hv "symbol") (hv "contract")
    show (IssuedSymbol.ofFields values).map Entity.issuedSymbol = _
    rw [h]
    rfl
  | quantity q =>
    have h : Quantity.check (.int q.amount) (.object (.symbol q.symbol)) = .valid q :=
      Verdict.toExcept_eq_ok_iff.mp (Quantity.check_of_isValid he)
    show (Quantity.ofCall [] values).map Entity.quantity = _
    unfold Quantity.ofCall
    rw [Fields.bindTwo_of_lookup (hv "self") (hv "amount") (hv "symbol")]
    dsimp only
    rw [h]
    rfl
  | holding k =>
    show (Holding.ofCall [] values).map Entity.holding = _
    unfold Holding.ofCall
    rw [Fields.bindTwo_of_lookup (hv "self") (hv "quantity") (hv "owner")]
    rfl

namespace Wire

/-! ## 2. Layouts -/

/-- A record may only stand for a part of its kind; what a leaf cannot write it refuses by itself. -/
def Codec.Suits : Codec → Part → Prop
  | .record kind _, p => p = .entity kind
  | _, _ => True

mutual

/-- In every record of the tree each part of the kind has a field and each field stands for a part, in any
order and any number of times. -/
def Codec.Covers : Codec → Prop
  | .record kind fields => kind.parts ≠ [] ∧
      (∀ part ∈ kind.parts, part.1 ∈ fields.map Prod.fst) ∧ Codec.EachCovers kind fields
  | _ => True

/-- Every field stands for the part of its name. -/
def Codec.EachCovers (kind : EntityKind) : List (String × Codec) → Prop
  | [] => True
  | (name, codec) :: rest =>
    (∃ p, (name, p) ∈ kind.parts ∧ codec.Suits p) ∧ codec.Covers ∧ Codec.EachCovers kind rest

end

/-- The names of the fields are the names of the parts. -/
theorem Codec.Covers.mem_names_iff {kind : EntityKind} {fields : List (String × Codec)}
    (h : (Codec.record kind fields).Covers) (name : String) :
    name ∈ fields.map Prod.fst ↔ name ∈ kind.parts.map Prod.fst := by
  obtain ⟨-, hall, heach⟩ := h
  constructor
  · clear hall
    intro hname
    induction fields with
    | nil => cases hname
    | cons f fields ih =>
      obtain ⟨⟨p, hp, -⟩, -, hrest⟩ := heach
      rcases List.mem_cons.mp hname with rfl | hname
      · exact List.mem_map.mpr ⟨_, hp, rfl⟩
      · exact ih hrest hname
  · intro hname
    obtain ⟨part, hpart, rfl⟩ := List.mem_map.mp hname
    exact hall part hpart

/-! ## 3. Leaves between other bytes -/

/-- The bytes between two others. -/
theorem take_drop_between (pre d post : Bytes) :
    ((pre ++ d ++ post).drop pre.length).take d.length = d := by
  rw [List.append_assoc, List.drop_left' rfl, List.take_left' rfl]

theorem encode_eq_ok_iff {f : WordFormat} {v : Datum} {d : Bytes} :
    f.encode v = .ok d ↔ ∃ n, v.asInt? = some n ∧ f.encode? n = some d := by
  unfold WordFormat.encode
  cases v.asInt? with
  | none => simp [WordFormat.refuse_eq]
  | some n =>
    dsimp only
    cases h : f.encode? n <;> simp [h, WordFormat.refuse_eq]

/-- A place behind some bytes is within any data that they stand in front of. -/
theorem length_le_between (pre d post : Bytes) : pre.length ≤ (pre ++ d ++ post).length := by
  simp only [List.length_append]
  omega

/-- A word is read between any other bytes. -/
theorem decode_between {f : WordFormat} {n : Int} {d : Bytes} (h : f.encode? n = some d)
    (pre post : Bytes) :
    f.decode (pre ++ d ++ post) pre.length = .ok (n, ((pre.length + d.length : Nat) : Int)) := by
  have hlen : d.length = f.size := f.length_encode? h
  have hd : f.decodeBytes d = n := f.decodeBytes_encode? h
  have henough : ¬ (pre ++ d ++ post).length < pre.length + f.size := by
    simp only [List.length_append]
    omega
  rw [f.decode_nat (length_le_between pre d post), if_neg henough, ← hlen, take_drop_between, hd]

theorem encodeSymbol_eq_ok_iff {s : Symbol} {d : Bytes} :
    encodeSymbol s = .ok d ↔ Symbol.fitsWord s.code = true ∧ s.padded = d := by
  by_cases h : Symbol.fitsWord s.code = true
  · rw [encodeSymbol_eq h]
    simp [h]
  · rw [encodeSymbol_of_not_fits h]
    simp [h]

/-- A symbol is read between any other bytes, if its code has no zero character. -/
theorem decodeSymbol_between {s : Symbol} {d : Bytes} (hz : ∀ c ∈ s.code.toList, c.toNat ≠ 0)
    (h : encodeSymbol s = .ok d) (pre post : Bytes) :
    decodeSymbol (pre ++ d ++ post) pre.length = .ok (s, ((pre.length + d.length : Nat) : Int)) := by
  obtain ⟨hf, rfl⟩ := encodeSymbol_eq_ok_iff.mp h
  have hlen : s.padded.length = 8 := Symbol.length_padded hf
  have henough : ¬ (pre ++ s.padded ++ post).length < pre.length + 8 := by
    simp only [List.length_append]
    omega
  rw [decodeSymbol_nat (length_le_between pre _ post), if_neg henough, ← hlen, take_drop_between, Symbol.ofBytes?_padded hf hz]

/-- An identity is read between any other bytes. -/
theorem decodeIdentity_between {i : Identity} {d : Bytes} (h : encodeIdentity i = .ok d)
    (pre post : Bytes) :
    decodeIdentity (pre ++ d ++ post) pre.length =
      .ok (i, ((pre.length + d.length : Nat) : Int)) := by
  rw [encodeIdentity_eq] at h
  cases h
  have hlen : (digits 8 i.value.toNat).length = 8 := length_digits 8 _
  have henough : ¬ (pre ++ digits 8 i.value.toNat ++ post).length < pre.length + 8 := by
    simp only [List.length_append]
    omega
  have hword := take_drop_between pre (digits 8 i.value.toNat) post
  rw [hlen] at hword
  rw [decodeIdentity_nat (length_le_between pre _ post), if_neg henough, hword, Identity.ofNat_value_digits, hlen]

/-- Only symbols are written as such. -/
theorem Codec.of_encode_symbol {v : Datum} {d : Bytes} (h : Codec.symbol.encode v = .ok d) :
    ∃ s, v = .object (.symbol s) ∧ encodeSymbol s = .ok d := by
  unfold Codec.encode at h
  split at h
  · exact ⟨_, rfl, h⟩
  · cases h

/-- Only identities are written as such. -/
theorem Codec.of_encode_identity {v : Datum} {d : Bytes} (h : Codec.identity.encode v = .ok d) :
    ∃ i, v = .object (.identity i) ∧ encodeIdentity i = .ok d := by
  unfold Codec.encode at h
  split at h
  · exact ⟨_, rfl, h⟩
  · cases h

/-! ## 4. Trees between other bytes -/

namespace Codec

mutual

/-- **What a layout writes is read between any other bytes**, and the offset behind it is returned. -/
theorem decode_encode :
    ∀ (c : Codec) {p : Part} {v : Datum} {d : Bytes}, c.Covers → c.Suits p → p.Holds v →
      c.encode v = .ok d → ∀ pre post : Bytes,
        c.decode (pre ++ d ++ post) pre.length = .ok (v, ((pre.length + d.length : Nat) : Int))
  | .word f, p, v, d, _, _, hv, h, pre, post => by
    rw [encode] at h
    obtain ⟨n, hn, hd⟩ := encode_eq_ok_iff.mp h
    have hint : v = .int n := by
      cases p with
      | number =>
        obtain ⟨m, rfl⟩ := hv
        cases hn
        rfl
      | entity kind =>
        obtain ⟨e, rfl, -⟩ := hv
        cases hn
    rw [decode, decode_between hd, hint]
    rfl
  | .symbol, p, v, d, _, _, hv, h, pre, post => by
    obtain ⟨s, rfl, h⟩ := of_encode_symbol h
    have hz : ∀ c ∈ s.code.toList, c.toNat ≠ 0 := by
      cases p with
      | number =>
        obtain ⟨m, hm⟩ := hv
        cases hm
      | entity kind =>
        obtain ⟨e, he, -, hr⟩ := hv
        cases he
        exact hr
    rw [decode, decodeSymbol_between hz h]
    rfl
  | .identity, p, v, d, _, _, hv, h, pre, post => by
    obtain ⟨i, rfl, h⟩ := of_encode_identity h
    rw [decode, decodeIdentity_between h]
    rfl
  | .record kind fields, p, v, d, hc, hp, hv, h, pre, post => by
    have hnames := hc.mem_names_iff
    obtain ⟨hparts, -, heach⟩ := hc
    cases hp
    obtain ⟨e, rfl, rfl, he⟩ := hv
    rw [encode] at h
    obtain ⟨values, hread, hlookup⟩ := decodeFields_encodeFields fields heach he h [] pre post
    have hbuilt : Entity.ofCall e.kind [] values = .valid e := by
      refine Entity.ofCall_of_lookup he hparts fun name => ?_
      rw [hlookup]
      simp only [hnames, List.lookup_nil]
    rw [decode_record, decodeRecord, hread]
    show ((Entity.ofCall e.kind [] values).toExcept.map _).map _ = _
    rw [hbuilt]
    rfl

/-- What a row of fields writes is read between any other bytes; then every name that stands in the row
has the attribute of the entity, and the others have what they had before. -/
theorem decodeFields_encodeFields :
    ∀ (fields : List (String × Codec)) {e : Entity} {d : Bytes}, EachCovers e.kind fields →
      e.Rebuildable → encodeFields fields (.object e) = .ok d →
      ∀ (values : Fields) (pre post : Bytes), ∃ result,
        decodeFields fields values (pre ++ d ++ post) pre.length =
          .ok (result, ((pre.length + d.length : Nat) : Int)) ∧
        ∀ name, result.lookup name =
          if name ∈ fields.map Prod.fst then e.attribute? name else values.lookup name
  | [], e, d, _, _, h, values, pre, post => by
    rw [encodeFields] at h
    cases h
    refine ⟨values, by rw [decodeFields]; rfl, fun name => ?_⟩
    rw [List.map_nil, if_neg List.not_mem_nil]
  | (key, codec) :: rest, e, d, hc, he, h, values, pre, post => by
    obtain ⟨⟨p, hp, hsuits⟩, hcovers, hrest⟩ := hc
    obtain ⟨x, hx, hholds⟩ := Entity.attribute_of_parts he hp
    have hattr : Datum.attribute? (.object e) key = some x := hx
    rw [encodeFields, hattr] at h
    obtain ⟨front, hfront, h⟩ := Except.bind_eq_ok_iff.mp h
    obtain ⟨back, hback, h⟩ := Except.bind_eq_ok_iff.mp h
    cases h
    -- the field stands before the rest of the row, and the rest behind the field
    have hfield : codec.decode (pre ++ front ++ (back ++ post)) pre.length =
        .ok (x, ((pre.length + front.length : Nat) : Int)) :=
      decode_encode codec hcovers hsuits hholds hfront pre (back ++ post)
    obtain ⟨result, hread, hlookup⟩ := decodeFields_encodeFields rest hrest he hback
      (Value.putEntry key x values) (pre ++ front) post
    have hbytes : pre ++ (front ++ back) ++ post = pre ++ front ++ (back ++ post) := by
      simp only [List.append_assoc]
    refine ⟨result, ?_, fun name => ?_⟩
    · rw [decodeFields, hbytes, hfield]
      simp only [List.append_assoc, List.length_append] at hread ⊢
      rw [← Nat.add_assoc]
      exact hread
    · have hmem : name ∈ ((key, codec) :: rest).map Prod.fst ↔
          name = key ∨ name ∈ rest.map Prod.fst := List.mem_cons
      rw [hlookup, Value.lookup_putEntry]
      by_cases hr : name ∈ rest.map Prod.fst
      · rw [if_pos hr, if_pos (hmem.mpr (Or.inr hr))]
      · by_cases hk : name = key
        · rw [if_neg hr, if_pos hk, if_pos (hmem.mpr (Or.inl hk)), hk]
          exact hx.symm
        · rw [if_neg hr, if_neg hk, if_neg fun hm => (hmem.mp hm).elim hk hr]

end

/-- Two rows of fields are written one behind the other. -/
theorem encodeFields_append (front back : List (String × Codec)) (v : Datum) :
    encodeFields (front ++ back) v = (do
      let a ← encodeFields front v
      let b ← encodeFields back v
      return a ++ b) := by
  induction front with
  | nil =>
    show encodeFields back v = _
    rw [encodeFields]
    cases encodeFields back v <;> rfl
  | cons f front ih =>
    obtain ⟨name, codec⟩ := f
    rw [List.cons_append, encodeFields, encodeFields, ih]
    cases v.attribute? name with
    | none => rfl
    | some x =>
      dsimp only
      cases codec.encode x with
      | error r => rfl
      | ok a =>
        cases encodeFields front v with
        | error r => rfl
        | ok b =>
          cases encodeFields back v with
          | error r => rfl
          | ok c => simp [bind, Except.bind, pure, Except.pure]

end Codec

/-! ## 5. Whole strings of bytes -/

/-- What is left over behind an entity that was read is refused. -/
theorem decodeEntity_of_decode {kind : EntityKind} {fields : List (String × Codec)} {e : Entity}
    {d post : Bytes}
    (h : (Codec.record kind fields).decode (d ++ post) 0 = .ok (.object e, (d.length : Int))) :
    decodeEntity kind fields (d ++ post) =
      if post = [] then .ok (e, (d.length : Int))
      else .error (.aborted (.trailing post.length kind)) := by
  rw [decode_record] at h
  obtain ⟨⟨e', n⟩, hr, he⟩ := Except.map_eq_ok_iff.mp h
  obtain ⟨he, hn⟩ : Value.object e' = (.object e : Datum) ∧ n = d.length := by simpa using he
  obtain rfl := Value.object.inj he
  subst hn
  rw [decodeEntity_eq, hr]
  simp only [bind, Except.bind, List.length_append]
  by_cases hpost : post = []
  · rw [if_pos hpost, if_pos (by simp [hpost])]
  · have hpos : 0 < post.length := List.length_pos_of_ne_nil hpost
    have hleft : ((d.length + post.length : Nat) : Int) - d.length = post.length := by omega
    rw [if_neg hpost, if_neg (by omega), hleft]

/-- **Layouts frame what they write.**  Whatever the order and the number of the fields, the formats of
the integers and the nesting of the records: if an entity that can be built again is written, then it is read
from between any other bytes, together with the offset behind it; as a whole string of bytes it is read
alone, and refused with more bytes behind it.  Rows of fields are written one behind the other. -/
theorem layouts_frame :
    (∀ (kind : EntityKind) (fields : List (String × Codec)) (e : Entity) (d : Bytes),
      (Codec.record kind fields).Covers → e.kind = kind → e.Rebuildable →
      (Codec.record kind fields).encode (.object e) = .ok d →
        (∀ pre post : Bytes, (Codec.record kind fields).decode (pre ++ d ++ post) pre.length =
          .ok (.object e, (pre.length : Int) + d.length)) ∧
        decodeEntity kind fields d = .ok (e, (d.length : Int)) ∧
        ∀ post : Bytes, post ≠ [] →
          decodeEntity kind fields (d ++ post) = .error (.aborted (.trailing post.length kind)) ∧
            (Abort.trailing post.length kind).kind = .codec) ∧
    ∀ (front back : List (String × Codec)) (v : Datum),
      Codec.encodeFields (front ++ back) v = (do
        let a ← Codec.encodeFields front v
        let b ← Codec.encodeFields back v
        return a ++ b) := by
  refine ⟨fun kind fields e d hc hk he h => ?_, Codec.encodeFields_append⟩
  have hread : ∀ pre post : Bytes, (Codec.record kind fields).decode (pre ++ d ++ post) pre.length =
      .ok (.object e, (pre.length : Int) + d.length) := by
    intro pre post
    rw [Codec.decode_encode (p := .entity kind) _ hc rfl ⟨e, rfl, hk, he⟩ h pre post]
    rfl
  have hwhole : ∀ post : Bytes, (Codec.record kind fields).decode (d ++ post) 0 =
      .ok (.object e, (d.length : Int)) := by
    intro post
    simpa using hread [] post
  refine ⟨hread, ?_, fun post hpost => ⟨?_, rfl⟩⟩
  · have h₀ := decodeEntity_of_decode (hwhole [])
    rwa [List.append_nil, if_pos rfl] at h₀
  · rw [decodeEntity_of_decode (hwhole post), if_neg hpost]

/-- The layout of a holding with the owner first and again last, and a quantity whose amount stands twice
around its symbol, the first time in two bytes. -/
def mixedFields : List (String × Codec) := [
  ("owner", .identity),
  ("quantity", .record .quantity [
    ("amount", .word ⟨.big, true, .two⟩), ("symbol", .symbol), ("amount", .word .int64)]),
  ("owner", .record .identity [("value", .word .uint64)])]

/-- A holding of minus seven in the mixed layout, behind two other bytes. -/
theorem mixed_layout_frames :
    ∃ d, Codec.encodeFields mixedFields (.object (.holding ⟨⟨-7, ⟨"SYS", 4⟩⟩, ⟨9⟩⟩)) = .ok d ∧
      (Codec.record .holding mixedFields).decode ([1, 2] ++ d ++ [3]) 2 =
        .ok (.object (.holding ⟨⟨-7, ⟨"SYS", 4⟩⟩, ⟨9⟩⟩), 2 + (d.length : Int)) := by
  have hc : (Codec.record .holding mixedFields).Covers := by
    simp [mixedFields, Codec.Covers, Codec.EachCovers, Codec.Suits, EntityKind.parts]
  obtain ⟨d, hd⟩ : ∃ d, (Codec.record .holding mixedFields).encode
      (.object (.holding ⟨⟨-7, ⟨"SYS", 4⟩⟩, ⟨9⟩⟩)) = .ok d := ⟨_, rfl⟩
  have he : (Entity.holding ⟨⟨-7, ⟨"SYS", 4⟩⟩, ⟨9⟩⟩).Rebuildable := by
    show Quantity.isValid _ = true
    decide
  exact ⟨d, hd, (layouts_frame.1 .holding mixedFields _ d hc rfl he hd).1 [1, 2] [3]⟩

end Wire

end Holdings

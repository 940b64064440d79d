/-
# Texts tell objects apart

The text of a composed object is put together from those of its parts with a separator between, and a part may
have that character itself: any character may stand in a code.  Still each text comes from one
object, because at every separator one of the two sides is a decimal number, which has no separators.

* A symbol is its fraction digits, a comma and its code, so it is split at the first comma.
* A quantity is a figure, a space and its code, so it is split at the first space (`Proofs/Text/Amounts.lean`).
* An issued symbol and a holding end with a sign and the number of an identity, so they are split at the last
  such sign.

A quantity that a script can reach has at most eighteen fraction digits, so it can be shown at all.  The two
objects that are compared may come from two scripts.
-/
import Holdings.Proofs.Text.Amounts
import Holdings.Proofs.Ledger.Invariant

namespace Holdings

open Text

/-! ## 1. Texts of contents -/

/-- A separator of texts is no digit, so it does not stand in a decimal number. -/
theorem Text.not_mem_decimal {c : Char} (hc : isDigit c = false) (n : Nat) : c ∉ decimal n :=
  (allDigits_decimal n).not_mem hc

theorem Symbol.text_inj {s t : Symbol} (h : s.text = t.text) : s = t := by
  have hchars := String.ofList_injective h
  obtain ⟨hprecision, hcode⟩ :=
    append_cons_inj (not_mem_decimal (by decide) _) (not_mem_decimal (by decide) _) hchars
  have hp : s.precision = t.precision := UInt8.toNat_inj.mp (decimal_inj hprecision)
  have hc : s.code = t.code := String.toList_inj.mp hcode
  exact congrArg₂ Symbol.mk hc hp

/-- What stands in front of the number of an identity, and the identity. -/
theorem Identity.text_inj {front front' : String} {i j : Identity}
    (h : front ++ IssuedSymbol.separator ++ i.text = front' ++ IssuedSymbol.separator ++ j.text) :
    front = front' ∧ i = j := by
  have split : ∀ (f : String) (k : Identity), (f ++ IssuedSymbol.separator ++ k.text).toList =
      f.toList ++ '@' :: decimal k.value.toNat := by
    intro f k
    rw [String.toList_append, String.toList_append, Identity.text, Text.ofNat, String.toList_ofList,
      List.append_assoc]
    rfl
  have hchars := congrArg String.toList h
  rw [split, split] at hchars
  obtain ⟨hfront, hnumber⟩ :=
    append_cons_inj_last (not_mem_decimal (by decide) _) (not_mem_decimal (by decide) _) hchars
  have hvalue : i.value = j.value := UInt64.toNat_inj.mp (decimal_inj hnumber)
  exact ⟨String.toList_inj.mp hfront, congrArg Identity.mk hvalue⟩

theorem IssuedSymbol.text_inj {s t : IssuedSymbol} (h : s.text = t.text) : s = t := by
  obtain ⟨hsymbol, hcontract⟩ := Identity.text_inj h
  exact congrArg₂ IssuedSymbol.mk (Symbol.text_inj hsymbol) hcontract

/-- Separators in a code move nothing over to the other part. -/
example : Symbol.text ⟨"3,A", 1⟩ ≠ Symbol.text ⟨"A", 13⟩ ∧
    IssuedSymbol.text ⟨⟨"A@1", 0⟩, ⟨2⟩⟩ ≠ IssuedSymbol.text ⟨⟨"A", 0⟩, ⟨12⟩⟩ := by decide +kernel

theorem Quantity.text_inj {q r : Quantity} (hq : q.Admissible) (hr : r.Admissible) {s : String}
    (hs : q.text = .ok s) (ht : r.text = .ok s) : q = r := by
  have hqp := hq.precision_le
  have hrp := hr.precision_le
  obtain ⟨hamount, hprecision, hcode⟩ := Amount.text_inj (by omega) (by omega) hs ht
  have hp : q.symbol.precision = r.symbol.precision := UInt8.toNat_inj.mp (Int.ofNat.inj hprecision)
  exact congrArg₂ Quantity.mk hamount (congrArg₂ Symbol.mk hcode hp)

/-- A holding is shown as its quantity and its owner. -/
theorem Holding.text_eq_ok_iff {h : Holding} {s : String} : h.text = .ok s ↔
    ∃ t, h.quantity.text = .ok t ∧ t ++ IssuedSymbol.separator ++ h.owner.text = s :=
  Except.map_eq_ok_iff

theorem Holding.text_inj {h k : Holding} (hh : h.quantity.Admissible) (hk : k.quantity.Admissible)
    {s : String} (hs : h.text = .ok s) (ht : k.text = .ok s) : h = k := by
  obtain ⟨t, hq, rfl⟩ := Holding.text_eq_ok_iff.mp hs
  obtain ⟨u, hr, hu⟩ := Holding.text_eq_ok_iff.mp ht
  obtain ⟨rfl, howner⟩ := Identity.text_inj hu
  exact congrArg₂ Holding.mk (Quantity.text_inj hh hk hq hr) howner.symm

theorem Holding.text_of_admissible {h : Holding} (hh : h.quantity.Admissible) :
    ∃ s, h.text = .ok s := by
  obtain ⟨t, ht⟩ := hh.text
  exact ⟨_, Holding.text_eq_ok_iff.mpr ⟨t, ht, rfl⟩⟩

namespace Ledger

open Act

/-! ## 2. Texts of objects -/

/-- Two acts show a text each, and the texts are the same exactly when a condition holds. -/
def Act.ShownSame (x : Act Item) (w : World) (y : Act Item) (w' : World) (condition : Prop) : Prop :=
  ∃ s t, x.outcome w = .ok (.text s) ∧ y.outcome w' = .ok (.text t) ∧ (s = t ↔ condition)

section Shown

variable {w w' : World} {x y : Act Item} {condition : Prop} {a b : Except Fault String}

/-- What shows two texts is told by the texts alone. -/
theorem shownSame_of_texts {s t : String} (ha : a = .ok s) (hb : b = .ok t)
    (hx : x w = (perform a >>= fun s => pure (.text s) : Act Item) w)
    (hy : y w' = (perform b >>= fun s => pure (.text s) : Act Item) w') (h : s = t ↔ condition) :
    x.ShownSame w y w' condition := by
  rw [ha] at hx
  rw [hb] at hy
  exact ⟨s, t, outcome_of_ok hx, outcome_of_ok hy, h⟩

end Shown

/-- The texts of objects in two worlds: the same only for the same content. -/
structure TextsApart (w w' : World) : Prop where
  quantities : ∀ r r' : Nat,
    (callMethod (.object (.quantity r)) .toText []).ShownSame w
      (callMethod (.object (.quantity r')) .toText []) w'
      ((w.heap.quantity r).amount = (w'.heap.quantity r').amount ∧
        (w.heap.quantity r).symbol.code = (w'.heap.quantity r').symbol.code ∧
        (w.heap.quantity r).symbol.precision = (w'.heap.quantity r').symbol.precision)
  holdings : ∀ o o' : Nat,
    (callMethod (.object (.holding o)) .toText []).ShownSame w
      (callMethod (.object (.holding o')) .toText []) w'
      ((w.heap.holding o).quantity.amount = (w'.heap.holding o').quantity.amount ∧
        (w.heap.holding o).quantity.symbol.code = (w'.heap.holding o').quantity.symbol.code ∧
        (w.heap.holding o).quantity.symbol.precision =
          (w'.heap.holding o').quantity.symbol.precision ∧
        (w.heap.holding o).owner = (w'.heap.holding o').owner)
  /-- Of a symbol nothing is asked, so its code may have commas and digits. -/
  symbols : ∀ s s' : Tagged Symbol,
    (display (.object (.symbol s))).ShownSame w (display (.object (.symbol s'))) w'
      (s.val.code = s'.val.code ∧ s.val.precision = s'.val.precision)
  issuedSymbols : ∀ (n n' : Nat) (s s' : Tagged Symbol) (c c' : Tagged Identity),
    (display (.object (.issuedSymbol n s c))).ShownSame w
      (display (.object (.issuedSymbol n' s' c'))) w' (s.val = s'.val ∧ c.val = c'.val)

theorem World.Sound.textsApart {w w' : World} (hw : w.Sound) (hw' : w'.Sound) : TextsApart w w' := by
  refine ⟨?_, ?_, ?_, ?_⟩
  · intro r r'
    have hq : (w.heap.quantity r).Admissible := hw.heap.quantity r
    have hq' : (w'.heap.quantity r').Admissible := hw'.heap.quantity r'
    obtain ⟨s, hs⟩ := hq.text
    obtain ⟨t, ht⟩ := hq'.text
    refine shownSame_of_texts hs ht rfl rfl ⟨?_, ?_⟩
    · rintro rfl
      rw [Quantity.text_inj hq hq' hs ht]
      exact ⟨rfl, rfl, rfl⟩
    · rintro ⟨hamount, hcode, hprecision⟩
      unfold Quantity.text at hs ht
      rw [hamount, hcode, hprecision, ht] at hs
      exact (Except.ok.inj hs).symm
  · intro o o'
    have hq : (w.heap.holding o).quantity.Admissible := hw.heap.holding o
    have hq' : (w'.heap.holding o').quantity.Admissible := hw'.heap.holding o'
    obtain ⟨s, hs⟩ := Holding.text_of_admissible hq
    obtain ⟨t, ht⟩ := Holding.text_of_admissible hq'
    refine shownSame_of_texts hs ht rfl rfl ⟨?_, ?_⟩
    · rintro rfl
      rw [Holding.text_inj hq hq' hs ht]
      exact ⟨rfl, rfl, rfl, rfl⟩
    · rintro ⟨hamount, hcode, hprecision, howner⟩
      unfold Holding.text Quantity.text at hs ht
      rw [hamount, hcode, hprecision, howner, ht] at hs
      exact (Except.ok.inj hs).symm
  · intro s s'
    refine ⟨s.val.text, s'.val.text, rfl, rfl, ?_, ?_⟩
    · intro h
      rw [Symbol.text_inj h]
      exact ⟨rfl, rfl⟩
    · rintro ⟨hcode, hprecision⟩
      unfold Symbol.text
      rw [hcode, hprecision]
  · intro n n' s s' c c'
    refine ⟨IssuedSymbol.text ⟨s.val, c.val⟩, IssuedSymbol.text ⟨s'.val, c'.val⟩, rfl, rfl, ?_, ?_⟩
    · intro h
      exact IssuedSymbol.mk.inj (IssuedSymbol.text_inj h)
    · rintro ⟨hs, hc⟩
      rw [hs, hc]

/-- **Texts are unambiguous** for everything that two scripts can reach: quantities and holdings are always
shown, and equal texts are those of equal contents, also of symbols and issued symbols with any code. -/
theorem texts_unambiguous (steps steps' : List Step) :
    TextsApart (World.initial.after steps) (World.initial.after steps') :=
  (World.sound_initial.after steps).textsApart (World.sound_initial.after steps')

end Ledger

end Holdings

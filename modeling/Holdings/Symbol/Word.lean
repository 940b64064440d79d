/-
# Symbols as words

A symbol fits a 64-bit word when its code has at most seven ASCII characters: the lowest byte is
the number of fraction digits, the bytes above it are the characters of the code in order,
and the rest is zero.

Reading takes any integer.  The code ends at the first zero byte, and what follows must be zero
too.  A negative integer has an endless row of bytes 255 above its last other byte: unless a
zero byte stops the scan before, it never ends.
-/
import Holdings.Wire.Bytes
import Holdings.Fault

namespace Holdings.Symbol

/-! ## 1. Writing -/

/-- Whether a code fits the bytes above the lowest one. -/
def fitsWord (code : String) : Bool :=
  code.toList.length ≤ maxCodeLength && code.toList.all (·.toNat < 128)

/-- The bytes of a symbol word, without the zeros above the code. -/
def wordBytes (s : Symbol) : Wire.Bytes :=
  s.precision :: s.code.toList.map fun c => UInt8.ofNat c.toNat

/-- The word of a symbol, if its code fits. -/
def toWord? (s : Symbol) : Option Nat :=
  if fitsWord s.code then some (Wire.value s.wordBytes) else none

/-- The word of a symbol; a code that does not fit is refused. -/
def raw (s : Symbol) : Except Fault Nat :=
  match s.toWord? with
  | some n => .ok n
  | none => .error (.refused (.wideCode s.code))

theorem toWord?_lt {s : Symbol} {n : Nat} (h : s.toWord? = some n) : n < 18446744073709551616 := by
  unfold toWord? at h
  split at h
  · next hf =>
    simp only [Option.some.injEq] at h
    subst h
    have hlen : s.wordBytes.length ≤ 8 := by
      have hc : s.code.toList.length ≤ maxCodeLength := by
        unfold fitsWord at hf
        exact of_decide_eq_true (Bool.and_eq_true_iff.1 hf).1
      unfold maxCodeLength at hc
      simp only [wordBytes, List.length_cons, List.length_map]
      omega
    calc Wire.value s.wordBytes < Nat.pow 256 s.wordBytes.length := Wire.value_lt _
      _ ≤ Nat.pow 256 8 := Nat.pow_le_pow_right (by decide) hlen
      _ = 18446744073709551616 := by decide
  · simp at h

/-! ## 2. Reading -/

/-- What keeps a scan for the end of a code from reaching it. -/
inductive ScanFault where
  | afterEnd
  | endless
  deriving DecidableEq, Repr

/-- The bytes from the lowest one up to the first zero byte, when all is zero from there. -/
def scanCode (rest : Int) : Except ScanFault (List Char) :=
  if rest = 0 then .ok []
  else if rest = -1 then .error .endless
  else if rest % 256 = 0 then .error .afterEnd
  else (scanCode (rest / 256)).map (Char.ofNat (rest % 256).toNat :: ·)
termination_by rest.natAbs
decreasing_by omega

/-- The symbol of a word. -/
def scanWord (raw : Int) : Except ScanFault Symbol :=
  (scanCode (raw / 256)).map fun cs => ⟨String.ofList cs, UInt8.ofNat (raw % 256).toNat⟩

/-- The symbol of a word; bytes after the end of the code are refused. -/
def ofRaw (raw : Int) : Except Fault Symbol :=
  match scanWord raw with
  | .ok s => .ok s
  | .error .afterEnd => .error (.refused (.codeAfterEnd raw))
  | .error .endless => .error .endless

example : (ofRaw 0x53595304) = .ok ⟨"SYS", 4⟩ := by decide +kernel
example : ofRaw 0x42004104 = .error (.refused (.codeAfterEnd 0x42004104)) := by decide +kernel
example : ofRaw (-1) = .error .endless := by decide +kernel

end Holdings.Symbol

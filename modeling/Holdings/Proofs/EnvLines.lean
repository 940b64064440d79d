/-
# Environment files in plain spelling

An environment file may be written in many ways (`Settings/EnvFile.lean`).  In its plain spelling it holds a key, a
sign of equality and a value on each line, without blanks, quotes or references, or a comment on a line of its own
(`Line.Plain`).  Of such a file nothing but the keys and the values is left: every line is read, each as it
stands, and of two lines with one key the later one tells the value (`read_lines`).

The reader sees a line in front of any text, so each line is read on its own (`readStatements_line`), and the
induction on the lines comes last.
-/
import Mathlib.Data.List.TakeDrop
import Holdings.Proofs.Precedence

namespace Holdings.EnvFile

open Holdings.Text

/-! ## 1. Lines -/

/-- A line of an environment file. -/
inductive Line where
  | binding (key value : String)
  | comment (text : String)

/-- What is written for a line. -/
def Line.chars : Line → List Char
  | binding key value => key.toList ++ '=' :: value.toList
  | comment text => '#' :: text.toList

/-- A line in plain spelling: a key of letters, digits and underscores and a value without blanks, quotes
and references, or a comment. -/
def Line.Plain : Line → Prop
  | binding key value => key ≠ "" ∧ (∀ c ∈ key.toList, c.isAlphanum = true ∨ c = '_') ∧
      ∀ c ∈ value.toList, isBlank c = false ∧ c ≠ '\'' ∧ c ≠ '"' ∧ c ≠ '$'
  | comment text => ∀ c ∈ text.toList, isLineEnd c = false

/-- Whether a line is plain. -/
def Line.isPlain : Line → Bool
  | binding key value => key != "" && key.toList.all (fun c => c.isAlphanum || c == '_') &&
      value.toList.all fun c => !isBlank c && c != '\'' && c != '"' && c != '$'
  | comment text => text.toList.all fun c => !isLineEnd c

theorem Line.isPlain_iff {l : Line} : l.isPlain = true ↔ l.Plain := by
  cases l <;> simp [isPlain, Plain, and_assoc]

instance (l : Line) : Decidable l.Plain := decidable_of_iff _ Line.isPlain_iff

/-- What a line binds. -/
def Line.binding? : Line → Option Binding
  | binding key value => some (key, some value)
  | comment _ => none

/-- The characters of a file with these lines. -/
def fileChars (lines : List Line) : List Char := lines.flatMap fun l => l.chars ++ ['\n']

/-- The text of a file with these lines. -/
def fileText (lines : List Line) : String := String.ofList (fileChars lines)

/-! ## 2. Characters -/

theorem isLineEnd_of_not_isBlank {c : Char} (h : isBlank c = false) : isLineEnd c = false := by
  rw [isLineEnd, Bool.or_eq_false_iff, decide_eq_false_iff_not, decide_eq_false_iff_not]
  refine ⟨?_, ?_⟩ <;> rintro rfl <;> simp [isBlank, blankRanges, inRanges] at h

/-- Where letters and digits stand among the characters. -/
theorem toNat_of_isAlphanum {c : Char} (h : c.isAlphanum = true) :
    (65 ≤ c.toNat ∧ c.toNat ≤ 90 ∨ 97 ≤ c.toNat ∧ c.toNat ≤ 122) ∨ 48 ≤ c.toNat ∧ c.toNat ≤ 57 := by
  have hupper : c.isUpper = true → 65 ≤ c.toNat ∧ c.toNat ≤ 90 := of_decide_eq_true
  have hlower : c.isLower = true → 97 ≤ c.toNat ∧ c.toNat ≤ 122 := fun h =>
    (Bool.and_eq_true_iff.mp h).imp of_decide_eq_true of_decide_eq_true
  have hdigit : c.isDigit = true → 48 ≤ c.toNat ∧ c.toNat ≤ 57 := fun h =>
    (Bool.and_eq_true_iff.mp h).imp of_decide_eq_true of_decide_eq_true
  exact (Bool.or_eq_true_iff.mp h).imp
    (fun h => (Bool.or_eq_true_iff.mp h).imp hupper hlower) hdigit

/-- What may stand in a plain key. -/
theorem keyChar {c : Char} (h : c.isAlphanum = true ∨ c = '_') :
    isBlank c = false ∧ c ≠ '=' ∧ c ≠ '#' ∧ c ≠ '\'' ∧ c ≠ '\ufeff' := by
  have hrange : 48 ≤ c.toNat ∧ c.toNat ≤ 122 ∧ c.toNat ≠ 61 := by
    rcases h with h | rfl
    · have hplace := toNat_of_isAlphanum h
      omega
    · decide
  refine ⟨?_, ?_, ?_, ?_, ?_⟩
  · simp [isBlank, blankRanges, inRanges]
    omega
  all_goals
    rintro rfl
    revert hrange
    decide

theorem isKeyChar_of_keyChar {c : Char} (h : c.isAlphanum = true ∨ c = '_') : isKeyChar c = true := by
  obtain ⟨hb, he, hh, -, -⟩ := keyChar h
  simp [isKeyChar, hb, he, hh]

theorem isInnerBlank_of_not_isBlank {c : Char} (h : isBlank c = false) : isInnerBlank c = false := by
  simp [isInnerBlank, h]

/-! ## 3. Parts of a line -/

section Parts

variable {p : Char → Bool} {xs ys : List Char}

/-- What is skipped ends in front of a character that is not. -/
theorem dropWhile_of_head (h : ∀ y ∈ ys.head?, p y = false) : ys.dropWhile p = ys := by
  cases ys with
  | nil => rfl
  | cons y ys => exact List.dropWhile_cons_of_neg (by simp [h y rfl])

/-- The text up to the first character that does not belong to it. -/
theorem span_append (hx : ∀ x ∈ xs, p x = true) (hy : ∀ y ∈ ys.head?, p y = false) :
    (xs ++ ys).span p = (xs, ys) := by
  have htake : ys.takeWhile p = [] := by
    cases ys with
    | nil => rfl
    | cons y ys => exact List.takeWhile_cons_of_neg (by simp [hy y rfl])
  rw [List.span_eq_takeWhile_dropWhile, List.takeWhile_append_of_pos hx, List.dropWhile_append_of_pos hx,
    htake, dropWhile_of_head hy, List.append_nil]

end Parts

section Bindings

variable {key value rest : List Char}

/-- A key is not taken for the word in front of it, which would need a blank behind it. -/
theorem skipExport_key (h : ∀ c ∈ key, c.isAlphanum = true ∨ c = '_') :
    skipExport (key ++ '=' :: rest) = key ++ '=' :: rest := by
  unfold skipExport
  refine if_neg ?_
  rintro ⟨htake, hblank⟩
  have hlen : "export".toList.length ≤ key.length := by
    refine Nat.le_of_not_lt fun hshort => ?_
    -- the word would hold the sign of equality
    have hmem : '=' ∈ (key ++ '=' :: rest).take "export".toList.length := by
      rw [List.take_append]
      refine List.mem_append_right _ ?_
      obtain ⟨k, hk⟩ := Nat.exists_eq_succ_of_ne_zero (Nat.sub_ne_zero_of_lt hshort)
      rw [hk]
      exact List.mem_cons_self
    rw [htake] at hmem
    revert hmem
    decide
  rw [List.drop_append_of_le_length hlen] at hblank
  cases hdrop : key.drop "export".toList.length with
  | nil =>
    rw [hdrop] at hblank
    have hsign : isInnerBlank '=' = true := hblank
    revert hsign
    decide
  | cons c cs =>
    rw [hdrop] at hblank
    have hc := (keyChar (h c (List.mem_of_mem_drop (hdrop ▸ List.mem_cons_self)))).1
    simp [isInnerBlank_of_not_isBlank hc] at hblank

theorem readKey_key (hne : key ≠ []) (h : ∀ c ∈ key, c.isAlphanum = true ∨ c = '_') :
    readKey (key ++ '=' :: rest) = .ok (some key, '=' :: rest) := by
  obtain ⟨c, cs, rfl⟩ := List.exists_cons_of_ne_nil hne
  obtain ⟨-, -, hhash, hquote, -⟩ := keyChar (h c List.mem_cons_self)
  have hspan : (c :: cs ++ '=' :: rest).span isKeyChar = (c :: cs, '=' :: rest) :=
    span_append (fun d hd => isKeyChar_of_keyChar (h d hd)) (by simp [isKeyChar])
  unfold readKey
  split
  · rename_i heq
    exact absurd (List.cons.inj heq).1 hhash
  · rename_i heq
    exact absurd (List.cons.inj heq).1 hquote
  · rw [hspan]
    rfl

/-- Without blanks there is no comment behind a value. -/
theorem cutComment_of_not_isBlank : ∀ {cs : List Char}, (∀ c ∈ cs, isBlank c = false) → cutComment cs = cs
  | [], _ => rfl
  | c :: cs, h => by
    rw [cutComment, if_neg (by simp [h c List.mem_cons_self]),
      cutComment_of_not_isBlank fun d hd => h d (List.mem_cons_of_mem c hd)]

theorem trimEnd_of_not_isBlank (h : ∀ c ∈ value, isBlank c = false) : trimEnd value = value := by
  unfold trimEnd
  rw [dropWhile_of_head, List.reverse_reverse]
  intro y hy
  exact h y (List.mem_reverse.mp (List.mem_of_mem_head? hy))

theorem readValue_value
    (h : ∀ c ∈ value, isBlank c = false ∧ c ≠ '\'' ∧ c ≠ '"' ∧ c ≠ '$') :
    readValue (value ++ '\n' :: rest) = .ok (value, '\n' :: rest) := by
  have hblank : ∀ c ∈ value, isBlank c = false := fun c hc => (h c hc).1
  have hspan : (value ++ '\n' :: rest).span (!isLineEnd ·) = (value, '\n' :: rest) :=
    span_append (fun c hc => by simp [isLineEnd_of_not_isBlank (hblank c hc)]) (by simp [isLineEnd])
  -- a quote in front would be one of the value, or the end of the line
  have hquote : ∀ q cs, (q = '\'' ∨ q = '"') → value ++ '\n' :: rest ≠ q :: cs := by
    intro q cs hq heq
    cases value with
    | nil =>
      have hline := (List.cons.inj heq).1
      rcases hq with rfl | rfl <;> revert hline <;> decide
    | cons c value =>
      obtain ⟨-, h1, h2, -⟩ := h c List.mem_cons_self
      have hc := (List.cons.inj heq).1
      rcases hq with rfl | rfl
      · exact h1 hc
      · exact h2 hc
  unfold readValue
  split
  · rename_i heq
    exact absurd heq (hquote _ _ (Or.inl rfl))
  · rename_i heq
    exact absurd heq (hquote _ _ (Or.inr rfl))
  · rw [hspan]
    show Except.ok (trimEnd (cutComment value), _) = _
    rw [cutComment_of_not_isBlank hblank, trimEnd_of_not_isBlank hblank]

/-- A line ends where it ends. -/
theorem readLineEnd_skipComment : readLineEnd (skipComment ('\n' :: rest)) = .ok ((), rest) := by
  have hdrop : ('\n' :: rest).dropWhile isInnerBlank = '\n' :: rest := dropWhile_of_head (by simp; decide)
  have hskip : skipComment ('\n' :: rest) = '\n' :: rest := by
    unfold skipComment
    rw [hdrop]
    rfl
  unfold readLineEnd
  rw [hskip, hdrop]
  rfl

end Bindings

/-! ## 4. Statements -/

variable {cs : List Char}

theorem readBinding_binding {key value : String} (h : (Line.binding key value).Plain) :
    readBinding ((Line.binding key value).chars ++ '\n' :: cs) = .ok (some (key, some value), cs) := by
  obtain ⟨hne, hkey, hvalue⟩ := h
  have hchars : (Line.binding key value).chars ++ '\n' :: cs =
      key.toList ++ '=' :: (value.toList ++ '\n' :: cs) := by
    simp [Line.chars]
  have hsign : ('=' :: (value.toList ++ '\n' :: cs)).dropWhile isInnerBlank =
      '=' :: (value.toList ++ '\n' :: cs) := dropWhile_of_head (by simp; decide)
  have hstart : (value.toList ++ '\n' :: cs).dropWhile isInnerBlank = value.toList ++ '\n' :: cs := by
    refine dropWhile_of_head fun y hy => ?_
    cases hv : value.toList with
    | nil =>
      rw [hv] at hy
      obtain rfl : '\n' = y := Option.some.inj hy
      decide
    | cons c v =>
      rw [hv] at hy
      obtain rfl : c = y := Option.some.inj hy
      exact isInnerBlank_of_not_isBlank (hvalue c (hv ▸ List.mem_cons_self)).1
  have hkne : key.toList ≠ [] := by simpa using hne
  unfold readBinding
  rw [hchars, skipExport_key hkey, readKey_key hkne hkey]
  simp only [bind, Except.bind, hsign, hstart, readValue_value hvalue, Except.map, readLineEnd_skipComment]
  simp [pure, Except.pure, String.ofList_toList]

theorem readBinding_comment {text : String} (h : (Line.comment text).Plain) :
    readBinding ((Line.comment text).chars ++ '\n' :: cs) = .ok (none, cs) := by
  have hchars : (Line.comment text).chars ++ '\n' :: cs = '#' :: (text.toList ++ '\n' :: cs) := rfl
  have hexport : skipExport ('#' :: (text.toList ++ '\n' :: cs)) =
      '#' :: (text.toList ++ '\n' :: cs) := by
    unfold skipExport
    refine if_neg fun hword => ?_
    have hfirst : some '#' = some 'e' := congrArg List.head? hword.1
    revert hfirst
    decide
  have hblank : ('#' :: (text.toList ++ '\n' :: cs)).dropWhile isInnerBlank =
      '#' :: (text.toList ++ '\n' :: cs) := dropWhile_of_head (by simp; decide)
  have hskip : skipComment ('#' :: (text.toList ++ '\n' :: cs)) = '\n' :: cs := by
    unfold skipComment
    rw [hblank]
    show ('#' :: text.toList ++ '\n' :: cs).dropWhile (!isLineEnd ·) = '\n' :: cs
    rw [List.dropWhile_append_of_pos, dropWhile_of_head (by simp [isLineEnd])]
    intro c hc
    rcases List.mem_cons.mp hc with rfl | hc
    · decide
    · simp [h c hc]
  have hkey : readKey ('#' :: (text.toList ++ '\n' :: cs)) =
      .ok (none, '#' :: (text.toList ++ '\n' :: cs)) := rfl
  have hend : readLineEnd ('\n' :: cs) = .ok ((), cs) := rfl
  unfold readBinding
  rw [hchars, hexport, hkey]
  simp only [bind, Except.bind, hblank]
  show (readLineEnd (skipComment ('#' :: (text.toList ++ '\n' :: cs)))).bind _ = _
  rw [hskip, hend]
  rfl

theorem readBinding_line {l : Line} (h : l.Plain) :
    readBinding (l.chars ++ '\n' :: cs) = .ok (l.binding?, cs) := by
  cases l with
  | binding key value => exact readBinding_binding h
  | comment text => exact readBinding_comment h

/-- A plain line starts with a character that no reader skips. -/
theorem Line.chars_eq_cons {l : Line} (h : l.Plain) :
    ∃ c cs, l.chars = c :: cs ∧ isBlank c = false ∧ c ≠ '\ufeff' := by
  cases l with
  | binding key value =>
    obtain ⟨hne, hkey, -⟩ := h
    obtain ⟨c, k, hk⟩ := List.exists_cons_of_ne_nil (l := key.toList) (by simpa using hne)
    obtain ⟨hblank, -, -, -, hmark⟩ := keyChar (hkey c (hk ▸ List.mem_cons_self))
    exact ⟨c, k ++ '=' :: value.toList, by rw [Line.chars, hk]; rfl, hblank, hmark⟩
  | comment text => exact ⟨'#', text.toList, rfl, by decide, by decide⟩

/-- **A plain line in front of any text** is one statement, or none. -/
theorem readStatements_line {l : Line} (h : l.Plain) (n : Nat) (cs : List Char) :
    ∃ m, readStatements n (l.chars ++ '\n' :: cs) =
      (l.binding?.map Statement.binding).toList ++ readStatements m cs := by
  obtain ⟨c, ds, hchars, hblank, -⟩ := l.chars_eq_cons h
  have hdrop : (l.chars ++ '\n' :: cs).dropWhile isBlank = l.chars ++ '\n' :: cs := by
    rw [hchars]
    exact dropWhile_of_head (by simpa using hblank)
  have hne : ¬ (l.chars ++ '\n' :: cs).isEmpty = true := by simp
  have hshort : cs.length < (l.chars ++ '\n' :: cs).length := by
    rw [List.length_append, List.length_cons]
    omega
  have hstatement : readStatement n (l.chars ++ '\n' :: cs) = (l.binding?.map .binding, cs) := by
    unfold readStatement
    rw [hdrop, readBinding_line h]
  refine ⟨n + ((l.chars ++ '\n' :: cs).count '\n' - cs.count '\n'), ?_⟩
  rw [readStatements, hdrop, if_neg hne, hstatement]
  dsimp only
  rw [if_pos hshort]

/-- **All lines of a plain file are read.**  The induction is on the lines. -/
theorem readStatements_fileChars {lines : List Line} (h : ∀ l ∈ lines, l.Plain) (n : Nat) :
    readStatements n (fileChars lines) = (lines.filterMap Line.binding?).map .binding := by
  induction lines generalizing n with
  | nil => rw [readStatements]; rfl
  | cons l lines ih =>
    have hfile : fileChars (l :: lines) = l.chars ++ '\n' :: fileChars lines := by
      simp [fileChars]
    obtain ⟨m, hline⟩ := readStatements_line (h l List.mem_cons_self) n (fileChars lines)
    rw [hfile, hline, ih fun k hk => h k (List.mem_cons_of_mem l hk), List.filterMap_cons]
    cases l.binding? <;> rfl

/-! ## 5. Files -/

variable {lines : List Line}

theorem normalizeLines_of_not_mem : ∀ {cs : List Char}, '\r' ∉ cs → normalizeLines cs = cs
  | [], _ => rfl
  | c :: cs, h => by
    have hc : c ≠ '\r' := fun hc => h (hc ▸ List.mem_cons_self)
    have hcs : '\r' ∉ cs := fun hr => h (List.mem_cons_of_mem c hr)
    rw [normalizeLines, normalizeLines_of_not_mem hcs]
    · exact fun _ hr _ => hc hr
    · exact hc

/-- Plain files have line feeds at the ends of lines. -/
theorem return_not_mem_fileChars (h : ∀ l ∈ lines, l.Plain) : '\r' ∉ fileChars lines := by
  intro hmem
  obtain ⟨l, hl, hmem⟩ := List.mem_flatMap.mp hmem
  have hline : '\r' ∈ l.chars := by simpa using hmem
  have hplain := h l hl
  cases l with
  | binding key value =>
    obtain ⟨-, hkey, hvalue⟩ := hplain
    rcases List.mem_append.mp hline with hk | hv
    · exact absurd (keyChar (hkey _ hk)).1 (by decide)
    · rcases List.mem_cons.mp hv with hv | hv
      · exact absurd hv (by decide)
      · exact absurd (hvalue _ hv).1 (by decide)
  | comment text =>
    rcases List.mem_cons.mp hline with hc | hc
    · exact absurd hc (by decide)
    · exact absurd (hplain _ hc) (by decide)

/-- Plain files have no mark in front. -/
theorem dropByteOrderMark_fileChars (h : ∀ l ∈ lines, l.Plain) :
    dropByteOrderMark (fileChars lines) = fileChars lines := by
  refine if_neg fun hhead => ?_
  cases lines with
  | nil => cases hhead
  | cons l lines =>
    obtain ⟨c, cs, hchars, -, hmark⟩ := l.chars_eq_cons (h l List.mem_cons_self)
    have hfirst : (fileChars (l :: lines)).head? = some c := by
      simp [fileChars, hchars]
    rw [hfirst, Option.some.injEq] at hhead
    exact hmark hhead

/-- **The statements of a plain file** are its bindings. -/
theorem statements_lines (h : ∀ l ∈ lines, l.Plain) :
    statements (fileText lines) = (lines.filterMap Line.binding?).map .binding := by
  rw [statements, fileText, String.toList_ofList, dropByteOrderMark_fileChars h,
    normalizeLines_of_not_mem (return_not_mem_fileChars h), readStatements_fileChars h]

/-- Without a dollar sign there is no reference. -/
theorem expand_of_not_mem (value? : String → Option String) :
    ∀ {cs : List Char}, '$' ∉ cs → expand value? cs = cs
  | [], _ => by rw [expand]
  | c :: cs, h => by
    have hc : ¬ (c = '$' ∧ cs.head? = some '\x7b') := fun hc => h (hc.1 ▸ List.mem_cons_self)
    rw [expand, if_neg hc]
    dsimp only
    rw [expand_of_not_mem value? fun hd => h (List.mem_cons_of_mem c hd)]

/-- Bindings without references are entered as they are. -/
theorem resolveReferences_of_plain (outer? : String → Option String) {bindings : List Binding}
    (h : ∀ b ∈ bindings, ∀ v, b.2 = some v → '$' ∉ v.toList) :
    resolveReferences outer? bindings = Value.entriesOf bindings := by
  unfold resolveReferences Value.entriesOf
  generalize ([] : List Binding) = done
  induction bindings generalizing done with
  | nil => rfl
  | cons b bs ih =>
    rw [List.foldl_cons, List.foldl_cons, ih fun d hd => h d (List.mem_cons_of_mem b hd)]
    have hvalue : ∀ value? : String → Option String,
        (b.2.map fun v => String.ofList (expand value? v.toList)) = b.2 := by
      intro value?
      cases hb : b.2 with
      | none => rfl
      | some v =>
        rw [Option.map_some, expand_of_not_mem value? (h b List.mem_cons_self v hb), String.ofList_toList]
    dsimp only
    rw [hvalue]

/-- **A plain file is read as its lines say**: the keys with their values, in the order of their first lines, each
with the value of its last one. -/
theorem read_lines (outer? : String → Option String) (h : ∀ l ∈ lines, l.Plain) :
    read outer? (fileText lines) = Value.entriesOf (lines.filterMap Line.binding?) := by
  have hbindings : ((lines.filterMap Line.binding?).map Statement.binding).filterMap
      Statement.binding? = lines.filterMap Line.binding? := by
    rw [List.filterMap_map]
    exact List.filterMap_some
  rw [read, statements_lines h, hbindings]
  refine resolveReferences_of_plain outer? fun b hb v hv => ?_
  obtain ⟨l, hl, hbound⟩ := List.mem_filterMap.mp hb
  have hplain := h l hl
  cases l with
  | binding key value =>
    obtain rfl := Option.some.inj hbound
    obtain rfl := Option.some.inj hv
    exact fun hd => (hplain.2.2 _ hd).2.2.2 rfl
  | comment text => cases hbound

end Holdings.EnvFile

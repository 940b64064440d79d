/-
# Entries under keys

Dictionaries, fields and variables are lists of entries, and a key is bound with `Value.putEntry`.  What
follows is what else is known of it: which entries there are afterwards, and what is found under a key.
-/
import Holdings.Value

namespace Holdings.Value

variable {κ α : Type} [DecidableEq κ]

/-- After a key was bound there is its entry, and none that was not there before. -/
theorem mem_putEntry {key : κ} {v : α} {es : List (κ × α)} {e : κ × α}
    (h : e ∈ putEntry key v es) : e = (key, v) ∨ e ∈ es := by
  induction es with
  | nil => exact Or.inl (by simpa [putEntry] using h)
  | cons d es ih =>
    unfold putEntry at h
    split at h
    · rcases List.mem_cons.mp h with h | h
      · exact Or.inl h
      · exact Or.inr (List.mem_cons_of_mem d h)
    · rcases List.mem_cons.mp h with h | h
      · exact Or.inr (by rw [h]; exact List.mem_cons_self)
      · exact (ih h).imp id (List.mem_cons_of_mem d)

theorem lookup_entry_cons (k key : κ) (v : α) (es : List (κ × α)) :
    ((key, v) :: es).lookup k = if k = key then some v else es.lookup k := by
  rw [List.lookup_cons]
  by_cases h : k = key
  · rw [if_pos h, beq_iff_eq.mpr h]
  · rw [if_neg h, beq_eq_false_iff_ne.mpr h]

/-- What is found after a key was bound. -/
theorem lookup_putEntry (k key : κ) (v : α) (es : List (κ × α)) :
    (putEntry key v es).lookup k = if k = key then some v else es.lookup k := by
  induction es with
  | nil =>
    rw [putEntry, lookup_entry_cons]
  | cons d es ih =>
    obtain ⟨k', v'⟩ := d
    rw [putEntry, lookup_entry_cons]
    by_cases hd : k' = key
    · rw [if_pos hd, lookup_entry_cons, hd]
      by_cases h : k = key
      · rw [if_pos h, if_pos h]
      · rw [if_neg h, if_neg h, if_neg h]
    · rw [if_neg hd, lookup_entry_cons, ih]
      by_cases h : k = key
      · have hk : k ≠ k' := fun e => hd (e.symm.trans h)
        rw [if_pos h, if_neg hk, if_pos h]
      · rw [if_neg h, if_neg h]

/-- What is found after a key was taken away. -/
theorem lookup_filter_ne (k key : κ) (es : List (κ × α)) :
    (es.filter fun e => e.1 != key).lookup k = if k = key then none else es.lookup k := by
  induction es with
  | nil => exact (ite_self none).symm
  | cons d es ih =>
    obtain ⟨k', v'⟩ := d
    by_cases hd : k' = key
    · rw [List.filter_cons_of_neg (by simp [hd]), ih, lookup_entry_cons, hd]
      by_cases h : k = key
      · rw [if_pos h, if_pos h]
      · rw [if_neg h, if_neg h, if_neg h]
    · rw [List.filter_cons_of_pos (by simp [hd]), lookup_entry_cons, ih, lookup_entry_cons]
      by_cases h : k = key
      · have hk : k ≠ k' := fun e => hd (e.symm.trans h)
        rw [if_neg hk, if_pos h, if_pos h]
      · rw [if_neg h, if_neg h]

/-- A key is bound exactly when it stands among the keys. -/
theorem isSome_lookup_iff {k : κ} {es : List (κ × α)} :
    (es.lookup k).isSome = true ↔ k ∈ es.map Prod.fst := by
  simp [List.lookup_isSome_iff]

/-- Where no key stands twice, every entry is found under its key. -/
theorem lookup_of_mem {es : List (κ × α)} (hn : (es.map Prod.fst).Nodup) {e : κ × α} (he : e ∈ es) :
    es.lookup e.1 = some e.2 := by
  induction es with
  | nil => cases he
  | cons d es ih =>
    rw [List.map_cons, List.nodup_cons] at hn
    rw [lookup_entry_cons]
    rcases List.mem_cons.mp he with rfl | he
    · exact if_pos rfl
    · have hne : e.1 ≠ d.1 := fun h => hn.1 (h ▸ List.mem_map_of_mem he)
      rw [if_neg hne]
      exact ih hn.2 he

/-- Changing values under their keys keeps the keys. -/
theorem isSome_lookup_map {f : κ × α → κ × α} (hf : ∀ e, (f e).1 = e.1) (k : κ)
    (es : List (κ × α)) : ((es.map f).lookup k).isSome = (es.lookup k).isSome := by
  induction es with
  | nil => rfl
  | cons e es ih =>
    obtain ⟨k', v'⟩ := e
    have hk : f (k', v') = (k', (f (k', v')).2) := Prod.ext (hf (k', v')) rfl
    rw [List.map_cons, hk, lookup_entry_cons, lookup_entry_cons]
    by_cases h : k = k'
    · rw [if_pos h, if_pos h]
      rfl
    · rw [if_neg h, if_neg h]
      exact ih

end Holdings.Value

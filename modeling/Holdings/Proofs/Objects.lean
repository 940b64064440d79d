/-
# The objects in a value

`Value.objects` lists the objects among the leaves of a value, from left to right.  It is what the
theory of the ledger needs to know of a value: which objects a variable holds on to, and so which
objects an operation can pass on.

Replacing the objects of a value replaces them in the list (`objects_map`), and depends on the objects
in the list only (`map_congr`).  The operators of `Value/Arithmetic.lean` invent no object: what is in
the result was in an operand.
-/
import Holdings.Proofs.Outcome
import Holdings.Value.Arithmetic

namespace Holdings.Value

variable {ω ω' : Type}

/-! ## 1. The list -/

mutual

/-- The objects among the leaves of a value. -/
def objects : Value ω → List ω
  | list xs => objectsOfAll xs
  | dict es => objectsOfEntries es
  | object o => [o]
  | _ => []

/-- The objects in the elements of a list. -/
def objectsOfAll : List (Value ω) → List ω
  | [] => []
  | x :: xs => x.objects ++ objectsOfAll xs

/-- The objects in the entries of a dictionary. -/
def objectsOfEntries : List (String × Value ω) → List ω
  | [] => []
  | (_, x) :: es => x.objects ++ objectsOfEntries es

end

@[simp] theorem objects_null : (null : Value ω).objects = [] := rfl

@[simp] theorem objects_bool (b : Bool) : (bool b : Value ω).objects = [] := rfl

@[simp] theorem objects_int (n : Int) : (int n : Value ω).objects = [] := rfl

@[simp] theorem objects_float (x : Binary64) : (float x : Value ω).objects = [] := rfl

@[simp] theorem objects_text (s : String) : (text s : Value ω).objects = [] := rfl

@[simp] theorem objects_bytes (bs : List UInt8) : (bytes bs : Value ω).objects = [] := rfl

@[simp] theorem objects_list (xs : List (Value ω)) : (list xs).objects = objectsOfAll xs := rfl

@[simp] theorem objects_dict (es : List (String × Value ω)) :
    (dict es).objects = objectsOfEntries es := rfl

@[simp] theorem objects_object (o : ω) : (object o).objects = [o] := rfl

@[simp] theorem objectsOfAll_nil : objectsOfAll ([] : List (Value ω)) = [] := rfl

@[simp] theorem objectsOfAll_cons (x : Value ω) (xs : List (Value ω)) :
    objectsOfAll (x :: xs) = x.objects ++ objectsOfAll xs := rfl

@[simp] theorem objectsOfEntries_nil : objectsOfEntries ([] : List (String × Value ω)) = [] := rfl

@[simp] theorem objectsOfEntries_cons (k : String) (x : Value ω) (es : List (String × Value ω)) :
    objectsOfEntries ((k, x) :: es) = x.objects ++ objectsOfEntries es := rfl

/-- An object in a list is one in an element of it. -/
theorem mem_objectsOfAll {o : ω} {xs : List (Value ω)} :
    o ∈ objectsOfAll xs ↔ ∃ x ∈ xs, o ∈ x.objects := by
  induction xs with
  | nil => simp
  | cons x xs ih => simp [ih]

/-- An object in a dictionary is one in a value of it. -/
theorem mem_objectsOfEntries {o : ω} {es : List (String × Value ω)} :
    o ∈ objectsOfEntries es ↔ ∃ e ∈ es, o ∈ e.2.objects := by
  induction es with
  | nil => simp
  | cons e es ih =>
    obtain ⟨k, x⟩ := e
    simp [ih]

/-- What is found under a key brings no object but those of the dictionary. -/
theorem objects_subset_of_lookup {es : List (String × Value ω)} {k : String} {v : Value ω}
    (h : es.lookup k = some v) : v.objects ⊆ objectsOfEntries es := by
  intro o ho
  obtain ⟨l₁, l₂, rfl, -⟩ := List.lookup_eq_some_iff.mp h
  exact mem_objectsOfEntries.mpr ⟨(k, v), by simp, ho⟩

/-! ## 2. Replacing objects -/

mutual

/-- The objects of a value whose objects were replaced are those of the replacements. -/
theorem objects_replace (f : ω → Value ω') :
    ∀ v : Value ω, (v.replace f).objects = v.objects.flatMap fun o => (f o).objects
  | null | bool _ | int _ | float _ | text _ | bytes _ => by simp [replace]
  | list xs => by simpa [replace] using objectsOfAll_replace f xs
  | dict es => by simpa [replace] using objectsOfEntries_replace f es
  | object o => by simp [replace]

/-- The same for the elements of a list. -/
theorem objectsOfAll_replace (f : ω → Value ω') :
    ∀ xs : List (Value ω),
      objectsOfAll (replaceAll f xs) = (objectsOfAll xs).flatMap fun o => (f o).objects
  | [] => by simp [replaceAll]
  | x :: xs => by
    simp only [replaceAll, objectsOfAll_cons, List.flatMap_append]
    rw [objects_replace f x, objectsOfAll_replace f xs]

/-- The same for the entries of a dictionary. -/
theorem objectsOfEntries_replace (f : ω → Value ω') :
    ∀ es : List (String × Value ω),
      objectsOfEntries (replaceEntries f es) = (objectsOfEntries es).flatMap fun o => (f o).objects
  | [] => by simp [replaceEntries]
  | (k, x) :: es => by
    simp only [replaceEntries, objectsOfEntries_cons, List.flatMap_append]
    rw [objects_replace f x, objectsOfEntries_replace f es]

end

/-- The objects of a value after each was replaced by another object. -/
theorem objects_map (f : ω → ω') (v : Value ω) : (v.map f).objects = v.objects.map f := by
  unfold map
  rw [objects_replace]
  simp [← List.map_eq_flatMap]

/-- Plain data holds no object, whatever type of objects it is read at. -/
@[simp] theorem objects_ofPlain (v : Plain) : (ofPlain v : Value ω).objects = [] := by
  unfold ofPlain
  rw [objects_replace]
  exact List.flatMap_eq_nil_iff.mpr fun o _ => o.elim

mutual

/-- Two replacements that agree on the objects of a value make the same of it. -/
theorem replace_congr {f g : ω → Value ω'} :
    ∀ v : Value ω, (∀ o ∈ v.objects, f o = g o) → v.replace f = v.replace g
  | null, _ | bool _, _ | int _, _ | float _, _ | text _, _ | bytes _, _ => by simp [replace]
  | list xs, h => by
    simp only [replace, list.injEq]
    exact replaceAll_congr xs fun o ho => h o (by simpa using ho)
  | dict es, h => by
    simp only [replace, dict.injEq]
    exact replaceEntries_congr es fun o ho => h o (by simpa using ho)
  | object o, h => by simpa [replace] using h o (by simp)

/-- The same for the elements of a list. -/
theorem replaceAll_congr {f g : ω → Value ω'} :
    ∀ xs : List (Value ω), (∀ o ∈ objectsOfAll xs, f o = g o) → replaceAll f xs = replaceAll g xs
  | [], _ => by simp [replaceAll]
  | x :: xs, h => by
    simp only [objectsOfAll_cons, List.mem_append] at h
    simp only [replaceAll]
    rw [replace_congr x fun o ho => h o (Or.inl ho),
      replaceAll_congr xs fun o ho => h o (Or.inr ho)]

/-- The same for the entries of a dictionary. -/
theorem replaceEntries_congr {f g : ω → Value ω'} :
    ∀ es : List (String × Value ω), (∀ o ∈ objectsOfEntries es, f o = g o) →
      replaceEntries f es = replaceEntries g es
  | [], _ => by simp [replaceEntries]
  | (k, x) :: es, h => by
    simp only [objectsOfEntries_cons, List.mem_append] at h
    simp only [replaceEntries]
    rw [replace_congr x fun o ho => h o (Or.inl ho),
      replaceEntries_congr es fun o ho => h o (Or.inr ho)]

end

/-- Two maps that agree on the objects of a value make the same of it. -/
theorem map_congr {f g : ω → ω'} {v : Value ω} (h : ∀ o ∈ v.objects, f o = g o) :
    v.map f = v.map g :=
  replace_congr v fun o ho => by rw [h o ho]

/-- Looking up a key and replacing the objects commute. -/
theorem lookup_replaceEntries (f : ω → Value ω') (k : String) (es : List (String × Value ω)) :
    (replaceEntries f es).lookup k = (es.lookup k).map fun v => v.replace f := by
  induction es with
  | nil => rfl
  | cons e es ih =>
    obtain ⟨k', v⟩ := e
    simp only [replaceEntries, List.lookup_cons]
    cases k == k' with
    | true => rfl
    | false => exact ih

/-! ## 3. Operators

`IsLeaf` marks the results that carry no object at all: the numbers.  Texts, bytes and lists are
handled by their elements. -/

/-- The value holds no object. -/
def IsLeaf (v : Value ω) : Prop := v.objects = []

/-- Operations on numbers give numbers. -/
theorem isLeaf_onNumbers {ints : Int → Int → Except Fault (Value ω)}
    {floats : Binary64 → Binary64 → Except Fault (Value ω)}
    (hi : ∀ a b u, ints a b = .ok u → u.IsLeaf) (hf : ∀ x y u, floats x y = .ok u → u.IsLeaf)
    {v w u : Value ω} (h : onNumbers ints floats v w = .ok u) : u.IsLeaf := by
  unfold onNumbers at h
  split at h
  · exact hi _ _ _ h
  · split at h
    · cases hx : v.toFloat with
      | error e => rw [hx] at h; cases h
      | ok x =>
        cases hy : w.toFloat with
        | error e => rw [hx, hy] at h; cases h
        | ok y => rw [hx, hy] at h; exact hf x y u h
    · cases h

theorem isLeaf_quotient {a b : Int} {u : Value ω} (h : quotient a b = .ok u) : u.IsLeaf := by
  unfold quotient at h
  split at h
  · cases h
  · split at h
    · cases h
    · obtain rfl := Except.ok.inj h
      simp [IsLeaf]

theorem isLeaf_dividing {f : Binary64 → Binary64 → Binary64} {x y : Binary64} {u : Value ω}
    (h : dividing f x y = .ok u) : u.IsLeaf := by
  unfold dividing at h
  split at h
  · cases h
  · obtain rfl := Except.ok.inj h
    simp [IsLeaf]

theorem isLeaf_div {v w u : Value ω} (h : v.div w = .ok u) : u.IsLeaf :=
  isLeaf_onNumbers (fun _ _ _ => isLeaf_quotient) (fun _ _ _ => isLeaf_dividing) h

theorem isLeaf_floorDiv {v w u : Value ω} (h : v.floorDiv w = .ok u) : u.IsLeaf := by
  refine isLeaf_onNumbers (fun a b u hu => ?_) (fun _ _ _ => isLeaf_dividing) h
  split at hu
  · cases hu
  · obtain rfl := Except.ok.inj hu
    simp [IsLeaf]

theorem isLeaf_sub {v w u : Value ω} (h : v.sub w = .ok u) : u.IsLeaf := by
  refine isLeaf_onNumbers (fun a b u hu => ?_) (fun x y u hu => ?_) h
  all_goals
    obtain rfl := Except.ok.inj hu
    simp [IsLeaf]

/-- A sum holds only objects of its operands. -/
theorem objects_add {v w u : Value ω} (h : v.add w = .ok u) : u.objects ⊆ v.objects ++ w.objects := by
  unfold add at h
  split at h
  · obtain rfl := Except.ok.inj h
    simp
  · obtain rfl := Except.ok.inj h
    simp
  · rename_i xs ys
    obtain rfl := Except.ok.inj h
    intro o ho
    obtain ⟨x, hx, ho⟩ := mem_objectsOfAll.mp (by simpa using ho)
    rcases List.mem_append.mp hx with hx | hx
    · exact List.mem_append_left _ (by simpa using mem_objectsOfAll.mpr ⟨x, hx, ho⟩)
    · exact List.mem_append_right _ (by simpa using mem_objectsOfAll.mpr ⟨x, hx, ho⟩)
  · have hu : u.IsLeaf := by
      refine isLeaf_onNumbers (fun a b u hu => ?_) (fun x y u hu => ?_) h
      all_goals
        obtain rfl := Except.ok.inj hu
        simp [IsLeaf]
    rw [hu]
    exact List.nil_subset _

/-- What is repeated holds no object but those that were there once. -/
theorem objects_times {v u : Value ω} {n : Int} (h : v.times n = .ok u) : u.objects ⊆ v.objects := by
  unfold times at h
  split at h
  · obtain ⟨cs, -, rfl⟩ := Except.map_eq_ok_iff.mp h
    simp
  · obtain ⟨bs, -, rfl⟩ := Except.map_eq_ok_iff.mp h
    simp
  · rename_i xs
    obtain ⟨ys, hys, rfl⟩ := Except.map_eq_ok_iff.mp h
    unfold repeated at hys
    split at hys
    · cases hys
    · split at hys
      · cases hys
      · obtain rfl := Except.ok.inj hys
        intro o ho
        obtain ⟨x, hx, ho⟩ := mem_objectsOfAll.mp (by simpa using ho)
        obtain ⟨l, hl, hx⟩ := List.mem_flatten.mp hx
        rw [List.eq_of_mem_replicate hl] at hx
        simpa using mem_objectsOfAll.mpr ⟨x, hx, ho⟩
  · cases h

/-- A product holds only objects of its operands. -/
theorem objects_mul {v w u : Value ω} (h : v.mul w = .ok u) : u.objects ⊆ v.objects ++ w.objects := by
  unfold mul at h
  split at h
  · exact fun o ho => List.mem_append_left _ (objects_times h ho)
  · exact fun o ho => List.mem_append_right _ (objects_times h ho)
  · have hu : u.IsLeaf := by
      refine isLeaf_onNumbers (fun a b u hu => ?_) (fun x y u hu => ?_) h
      all_goals
        obtain rfl := Except.ok.inj hu
        simp [IsLeaf]
    rw [hu]
    exact List.nil_subset _

/-- The elements of a value hold only objects of it. -/
theorem objectsOfAll_elements {v : Value ω} {ys : List (Value ω)} (h : v.elements? = some ys) :
    objectsOfAll ys ⊆ v.objects := by
  intro o hmem
  obtain ⟨y, hy, ho⟩ := mem_objectsOfAll.mp hmem
  clear hmem
  unfold elements? at h
  split at h
  · obtain rfl := Option.some.inj h
    obtain ⟨c, -, rfl⟩ := List.mem_map.mp hy
    simp at ho
  · obtain rfl := Option.some.inj h
    obtain ⟨b, -, rfl⟩ := List.mem_map.mp hy
    simp at ho
  · rename_i xs
    obtain rfl := Option.some.inj h
    rw [objects_list]
    exact mem_objectsOfAll.mpr ⟨y, hy, ho⟩
  · obtain rfl := Option.some.inj h
    obtain ⟨e, -, rfl⟩ := List.mem_map.mp hy
    simp at ho
  · cases h

end Holdings.Value

import Loom.Document.Decode

/-!
# How deep documents nest

`Document.nesting` counts the containers around the innermost value. A decoder is `Tight` when what
it reads is written back within the allowance it had and within the nesting of what it read; the
lemmas here carry that through structures, lists and optional values.
-/

namespace Loom.Document

mutual
/-- How deep the containers of a document nest. -/
def nesting : Document → Nat
  | .array items => itemsNesting items + 1
  | .object fields => fieldsNesting fields + 1
  | .null | .bool _ | .number _ | .string _ => 0

def itemsNesting : List Document → Nat
  | [] => 0
  | d :: ds => max (nesting d) (itemsNesting ds)

def fieldsNesting : List (Option String × Document) → Nat
  | [] => 0
  | (_, d) :: fields => max (nesting d) (fieldsNesting fields)
end

@[simp] theorem nesting_str (s : String) : (str s).nesting = 0 := rfl

@[simp] theorem nesting_optional (s : Option String) : (optional s).nesting = 0 := by
  cases s <;> rfl

@[simp] theorem itemsNesting_le {ds : List Document} {n : Nat} :
    itemsNesting ds ≤ n ↔ ∀ d ∈ ds, d.nesting ≤ n := by
  induction ds with
  | nil => simp [itemsNesting]
  | cons d ds ih => simp only [itemsNesting, Nat.max_le, ih, List.forall_mem_cons]

theorem fieldsNesting_le {fields : List (Option String × Document)} {n : Nat} :
    fieldsNesting fields ≤ n ↔ ∀ f ∈ fields, f.2.nesting ≤ n := by
  induction fields with
  | nil => simp [fieldsNesting]
  | cons f fields ih => simp only [fieldsNesting, Nat.max_le, ih, List.forall_mem_cons]

theorem nesting_record_le {fields : Record} {n : Nat} :
    (record fields).nesting ≤ n + 1 ↔ ∀ f ∈ fields, f.2.nesting ≤ n := by
  simp only [record, nesting, Nat.add_le_add_iff_right, fieldsNesting_le, List.mem_map]
  constructor
  · intro h f hf
    exact h _ ⟨f, hf, rfl⟩
  · rintro h _ ⟨f, hf, rfl⟩
    exact h f hf

theorem nesting_array_le {items : List Document} {n : Nat} :
    (array items).nesting ≤ n + 1 ↔ ∀ d ∈ items, d.nesting ≤ n := by
  simp [nesting]

theorem nesting_lt_record {fields : Record} {f : String × Document} (h : f ∈ fields) :
    f.2.nesting < (record fields).nesting := by
  obtain ⟨n, hn⟩ : ∃ n, (record fields).nesting = n + 1 := ⟨_, rfl⟩
  have small := nesting_record_le.1 (Nat.le_of_eq hn) f h
  omega

theorem nesting_lt_array {items : List Document} {d : Document} (h : d ∈ items) :
    d.nesting < (array items).nesting := by
  obtain ⟨n, hn⟩ : ∃ n, (array items).nesting = n + 1 := ⟨_, rfl⟩
  have small := nesting_array_le.1 (Nat.le_of_eq hn) d h
  omega

/-! ## Structures -/

/-- A field of a structure nests less deep than the structure. -/
theorem nesting_lt_of_mem_knownFields {names : List String}
    {fs : List (Option String × Document)} {r : Record} (h : knownFields names fs = some r)
    {f : String × Document} (hf : f ∈ r) : f.2.nesting ≤ fieldsNesting fs := by
  induction fs generalizing r with
  | nil =>
    cases h
    cases hf
  | cons g fs ih =>
    obtain ⟨_ | key, d⟩ := g
    · cases h
    · simp only [knownFields, Option.bind_eq_bind, Option.bind_eq_some_iff] at h
      obtain ⟨known, hknown, h⟩ := h
      have inner := fun hf => ih hknown (r := known) hf
      simp only [fieldsNesting]
      split at h
      · split at h
        · cases h
        · cases h
          rcases List.mem_cons.1 hf with rfl | hf
          · exact Nat.le_max_left ..
          · exact Nat.le_trans (inner hf) (Nat.le_max_right ..)
      · cases h
        exact Nat.le_trans (inner hf) (Nat.le_max_right ..)

theorem nesting_lt_of_mem_fields {names : List String} {d : Document} {r : Record}
    (h : fields names d = some r) {f : String × Document} (hf : f ∈ r) :
    f.2.nesting < d.nesting := by
  cases d with
  | object fs => exact Nat.lt_succ_of_le (nesting_lt_of_mem_knownFields h hf)
  | array items =>
    simp only [fields, Option.ite_none_right_eq_some, Option.some.injEq] at h
    obtain ⟨-, rfl⟩ := h
    exact Nat.lt_succ_of_le (itemsNesting_le.1 (Nat.le_refl _) _ (List.of_mem_zip hf).2)
  | null | bool | number | string => cases h

/-- A structure written with its own field names is read as it stands. -/
theorem fields_record {names : List String} {fs : Record} (keys : fs.map (·.1) = names)
    (nodup : names.Nodup) : fields names (record fs) = some fs := by
  have known : ∀ gs : Record, (∀ g ∈ gs, g.1 ∈ names) → (gs.map (·.1)).Nodup →
      knownFields names (gs.map fun g => (some g.1, g.2)) = some gs := by
    intro gs
    induction gs with
    | nil => intros; rfl
    | cons g gs ih =>
      intro named distinct
      simp only [List.map_cons, List.nodup_cons] at distinct
      have fresh : gs.any (fun f => f.1 == g.1) = false := by
        simp only [List.any_eq_false, beq_iff_eq]
        intro f hf same
        exact distinct.1 (List.mem_map.2 ⟨f, hf, same⟩)
      have rest := ih (fun f hf => named f (List.mem_cons_of_mem _ hf)) distinct.2
      simp [knownFields, rest, named g (List.mem_cons_self ..), fresh]
  subst keys
  exact known fs (fun f hf => List.mem_map_of_mem hf) nodup

theorem nesting_record_le_iff {fs : Record} {n : Nat} :
    (record fs).nesting ≤ n ↔ ∃ k, n = k + 1 ∧ ∀ f ∈ fs, f.2.nesting ≤ k := by
  constructor
  · intro h
    have pos : 0 < (record fs).nesting := by simp [record, nesting]
    obtain ⟨k, rfl⟩ : ∃ k, n = k + 1 := ⟨n - 1, by omega⟩
    exact ⟨k, rfl, nesting_record_le.1 h⟩
  · rintro ⟨k, rfl, h⟩
    exact nesting_record_le.2 h

theorem nesting_array_le_iff {items : List Document} {n : Nat} :
    (array items).nesting ≤ n ↔ ∃ k, n = k + 1 ∧ ∀ d ∈ items, d.nesting ≤ k := by
  constructor
  · intro h
    have pos : 0 < (array items).nesting := by simp [nesting]
    obtain ⟨k, rfl⟩ : ∃ k, n = k + 1 := ⟨n - 1, by omega⟩
    exact ⟨k, rfl, nesting_array_le.1 h⟩
  · rintro ⟨k, rfl, h⟩
    exact nesting_array_le.2 h

/-- A list is read when each of its items is. -/
theorem mapM_map_eq_some {α : Type} {item : Document → Option α} {write : α → Document}
    {as : List α} (h : ∀ a ∈ as, item (write a) = some a) :
    (as.map write).mapM item = some as := by
  induction as with
  | nil => rfl
  | cons a as ih =>
    have first := h a (List.mem_cons_self ..)
    have rest := ih fun b hb => h b (List.mem_cons_of_mem _ hb)
    simp [first, rest]

/-! ## Room

What is written for a value that was read has to fit twice: into the allowance the decoder had and
into the nesting of the document it read. -/

/-- The nesting that a document read with this allowance may be written back with. -/
def room (allowance : Nat) (d : Document) : Nat := min allowance d.nesting

/-- A field is read with less room than its structure. -/
theorem room_lt_of_lookup {names : List String} {n : Nat} {d v : Document} {r : Record}
    (h : fields names d = some r) {name : String} (found : r.lookup name = some v) :
    room n v < room (n + 1) d := by
  obtain ⟨before, after, rfl, -⟩ := List.lookup_eq_some_iff.1 found
  have inner := nesting_lt_of_mem_fields h (f := (name, v)) (by simp)
  simp only [room] at *
  omega

theorem room_lt_of_variant {tag : String} {n : Nat} {d content : Document}
    (h : variant d = some (tag, some content)) : room n content < room (n + 1) d := by
  unfold variant at h
  split at h
  · cases h
  · cases h
    simp only [room, nesting, fieldsNesting]
    omega
  · cases h

/-- What `item` reads is good, and is written back within the room it was read with. -/
def Tight {α : Type} (allowance : Nat) (item : Document → Option α) (write : α → Document)
    (good : α → Prop) : Prop :=
  ∀ d a, item d = some a → (write a).nesting ≤ room allowance d ∧ good a

section Tight

variable {α : Type} {n : Nat} {item : Document → Option α} {write : α → Document}
  {good : α → Prop}

theorem tight_of_flat (flat : ∀ a, (write a).nesting = 0) : Tight n item write fun _ => True := by
  intro d a _
  exact ⟨by rw [flat a]; exact Nat.zero_le _, trivial⟩

theorem Tight.get (h : Tight n item write good) {names : List String} {d : Document} {r : Record}
    (read : fields names d = some r) {name : String} {a : α} (found : r.get name item = some a) :
    (write a).nesting < room (n + 1) d ∧ good a := by
  unfold Record.get at found
  split at found
  · next v hv =>
    obtain ⟨small, ok⟩ := h v a found
    exact ⟨Nat.lt_of_le_of_lt small (room_lt_of_lookup read hv), ok⟩
  · cases found

theorem Tight.getD (h : Tight n item write good) {names : List String} {d : Document} {r : Record}
    (read : fields names d = some r) {name : String} {a missing : α}
    (found : r.getD name item missing = some a) (small : (write missing).nesting < room (n + 1) d)
    (ok : good missing) : (write a).nesting < room (n + 1) d ∧ good a := by
  unfold Record.getD at found
  split at found
  · next v hv =>
    obtain ⟨small, ok⟩ := h v a found
    exact ⟨Nat.lt_of_le_of_lt small (room_lt_of_lookup read hv), ok⟩
  · cases found
    exact ⟨small, ok⟩

theorem Tight.items (h : Tight n item write good) {ds : List Document} {as : List α}
    (read : ds.mapM item = some as) :
    (array (as.map write)).nesting ≤ room (n + 1) (array ds) ∧ ∀ a ∈ as, good a := by
  have each : ∀ a ∈ as, (write a).nesting ≤ min n (itemsNesting ds) ∧ good a := by
    induction ds generalizing as with
    | nil =>
      cases read
      simp
    | cons d ds ih =>
      simp only [List.mapM_cons, Option.bind_eq_bind, Option.bind_eq_some_iff, Option.pure_def,
        Option.some.injEq] at read
      obtain ⟨a, ha, tail, htail, rfl⟩ := read
      obtain ⟨small, ok⟩ := h d a ha
      rintro b hb
      simp only [itemsNesting, room] at small ⊢
      rcases List.mem_cons.1 hb with rfl | hb
      · exact ⟨by omega, ok⟩
      · obtain ⟨small, ok⟩ := ih htail b hb
        exact ⟨by omega, ok⟩
  refine ⟨?_, fun a ha => (each a ha).2⟩
  have written : ∀ d ∈ as.map write, d.nesting ≤ min n (itemsNesting ds) := by
    intro d hd
    obtain ⟨a, ha, rfl⟩ := List.mem_map.1 hd
    exact (each a ha).1
  have total := nesting_array_le.2 written
  simp only [room, nesting] at total ⊢
  omega

/-- A structure fits when each of its fields does. -/
theorem nesting_record_le_of_lt {fs : Record} {b : Nat} (h : ∀ f ∈ fs, f.2.nesting < b)
    (pos : 0 < b) : (record fs).nesting ≤ b := by
  obtain ⟨b, rfl⟩ : ∃ c, b = c + 1 := ⟨b - 1, by omega⟩
  exact nesting_record_le.2 fun f hf => Nat.lt_succ_iff.1 (h f hf)

end Tight

end Loom.Document

import CrudByName.Proofs.Json.Members

/-!
# Records are ordered maps

A record is a list of fields, and is used as a map from names to values that remembers the order in
which the names came.  That the list behaves like the map is said in two parts
(`records_refine_ordered_maps`).

`Puts` is the law of a single write.  It holds of every record, also of one that repeats a name:
the first field of the name is written, and a later one of the same name is neither seen by `get?`
nor touched.  The whole law is read off where the fields are afterwards (`getElem?_put`):
all of them are where they were, but for the one at the place of the name, which is the end if the
name is new.

`Collects` says what a list of pairs comes to when they are put in one after the other.  The names
are those of the pairs, each once and in the order of its first pair, with the value of its last
pair.  So a record that was made in this way and is taken apart into its fields is made again from
them (`ofList_of_nodup`).
-/

namespace CrudByName

namespace Record

/-! ## One write -/

/-- What becomes of a record `r` when a value is put under a name: `old` is handed back, and `s` is
the record that is left. -/
structure Puts (r : Record) (name : String) (value : Value) (old : Option Value) (s : Record) :
    Prop where
  returned : old = r.get? name
  written : s.get? name = some value
  others : ∀ other, other ≠ name → s.get? other = r.get? other
  known : r.contains name = true → s.names = r.names ∧ s.size = r.size
  added : r.contains name = false → s.names = r.names ++ [name] ∧ s.size = r.size + 1
  /-- A field that is not the first of its name stays as it is, too. -/
  places : ∀ i, i ≠ r.names.idxOf name → s.fields[i]? = r.fields[i]?

section

variable (r : Record) (name : String) (value : Value)

theorem contains_eq_true_iff : r.contains name = true ↔ name ∈ r.names := by
  rw [contains, get?, List.lookup_isSome_iff, names, List.mem_map]
  constructor
  · rintro ⟨p, hp, hname⟩
    exact ⟨p, hp, (beq_iff_eq.1 hname).symm⟩
  · rintro ⟨p, hp, rfl⟩
    exact ⟨p, hp, beq_self_eq_true p.1⟩

theorem size_eq_length_names : r.size = r.names.length := by
  rw [size, names, List.length_map]

/-- The fields stay where they are, but for the first of the name, or the end. -/
theorem getElem?_put (fields : List (String × Value)) (i : Nat) :
    (Members.put name value fields)[i]? =
      if i = (fields.map Prod.fst).idxOf name then some (name, value) else fields[i]? := by
  induction fields generalizing i with
  | nil =>
    rw [Members.put, List.map_nil, List.idxOf_nil]
    cases i with
    | zero => rfl
    | succ i => rfl
  | cons p fields ih =>
    obtain ⟨n, v⟩ := p
    by_cases hn : name = n
    · subst hn
      rw [Members.put, if_pos (beq_self_eq_true name), List.map_cons, List.idxOf_cons_self]
      cases i with
      | zero => rfl
      | succ i => rfl
    · rw [Members.put, if_neg (by simpa using hn), List.map_cons,
        List.idxOf_cons_ne _ (Ne.symm hn)]
      cases i with
      | zero => rfl
      | succ i =>
        rw [List.getElem?_cons_succ, List.getElem?_cons_succ, ih]
        simp only [Nat.succ_eq_add_one, Nat.add_right_cancel_iff]

theorem puts_replace :
    Puts r name value (r.replace name value).1 (r.replace name value).2 := by
  rw [replace_eq]
  have hnames := names_insert r name value
  refine ⟨rfl, get?_insert_self r name value, fun other hne => get?_insert_of_ne hne r value,
    fun hknown => ?_, fun hnew => ?_, fun i hi => ?_⟩
  · rw [if_pos ((contains_eq_true_iff r name).1 hknown)] at hnames
    rw [size_eq_length_names, hnames, size_eq_length_names]
    exact ⟨rfl, rfl⟩
  · have hnot : name ∉ r.names := by
      rw [← contains_eq_true_iff, hnew]
      exact Bool.false_ne_true
    rw [if_neg hnot] at hnames
    rw [size_eq_length_names, hnames, size_eq_length_names, List.length_append]
    exact ⟨rfl, rfl⟩
  · rw [insert, getElem?_put]
    exact if_neg hi

end

/-! ## Many writes -/

/-- One field for each name of the pairs. -/
structure Collects (pairs : List (String × Value)) (r : Record) : Prop where
  names_iff : ∀ name, name ∈ r.names ↔ name ∈ pairs.map Prod.fst
  once : r.names.Nodup
  /-- A name comes before another one if its first pair does. -/
  order : r.names.Pairwise fun a b => (pairs.map Prod.fst).idxOf a < (pairs.map Prod.fst).idxOf b
  /-- The value is that of the last pair of the name. -/
  last : ∀ name value, (name, value) ∈ r.fields ↔
    ∃ front back, pairs = front ++ (name, value) :: back ∧ name ∉ back.map Prod.fst

section

variable (pairs : List (String × Value))

theorem names_ofList : (ofList pairs).names = Json.firsts (pairs.map Prod.fst) := by
  rw [ofList_eq_collapse]
  exact Json.names_collapse pairs

theorem nodup_names_ofList : (ofList pairs).names.Nodup := by
  rw [ofList_eq_collapse]
  exact Json.nodup_collapse pairs

theorem collects_ofList : Collects pairs (ofList pairs) := by
  refine ⟨fun name => ?_, nodup_names_ofList pairs, ?_, fun name value => ?_⟩
  · rw [names_ofList, Json.mem_firsts_iff]
  · rw [names_ofList]
    exact Json.pairwise_firsts (pairs.map Prod.fst)
  · rw [← Json.lookup_eq_some_iff_of_nodup (nodup_names_ofList pairs), ofList_eq_collapse,
      Json.lookup_collapse, Json.last?_eq_some_iff]

theorem foldl_replace_eq_ofList :
    pairs.foldl (fun r p => (r.replace p.1 p.2).2) ∅ = ofList pairs := by
  simp only [replace_eq]
  rfl

theorem ofList_of_nodup {r : Record} (h : r.names.Nodup) : ofList r.fields = r := by
  rw [ofList_eq_collapse, Json.collapse_of_nodup h]

end

/-- A record is written like an ordered map, whatever it holds, and made from pairs like one. -/
theorem records_refine_ordered_maps (r : Record) (name : String) (value : Value)
    (pairs : List (String × Value)) :
    Puts r name value (r.replace name value).1 (r.replace name value).2 ∧
      Collects pairs (ofList pairs) ∧
      pairs.foldl (fun r p => (r.replace p.1 p.2).2) ∅ = ofList pairs ∧
      ofList (ofList pairs).fields = ofList pairs := by
  refine ⟨puts_replace r name value, collects_ofList pairs, foldl_replace_eq_ofList pairs, ?_⟩
  exact ofList_of_nodup (nodup_names_ofList pairs)

end Record

end CrudByName

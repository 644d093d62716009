/-!
# Named members

A list of named things, such as the members of a JSON object or the fields of a record.  Names may
repeat, and then the first member of a name is the one that is looked up.  `Members.put` writes one
name: the first member of it gets another value and keeps its place, and a new name comes last.
`lookup_put` and `names_put` say what is found afterwards, and under which names.
-/

namespace CrudByName

namespace Members

/-- Replaces the value of the first member of that name, or appends a member. -/
def put (name : String) (value : α) : List (String × α) → List (String × α)
  | [] => [(name, value)]
  | (n, v) :: rest =>
    if name == n then (n, value) :: rest else (n, v) :: put name value rest

theorem lookup_put (name other : String) (v : α) (ms : List (String × α)) :
    (put name v ms).lookup other = if other = name then some v else ms.lookup other := by
  induction ms with
  | nil =>
    rw [put, List.lookup_cons]
    by_cases h : other = name
    · simp [h]
    · simp [h, beq_eq_false_iff_ne.2 h]
  | cons m ms ih =>
    obtain ⟨n, w⟩ := m
    by_cases hn : name = n
    · subst hn
      by_cases h : other = name
      · simp [put, h]
      · simp [put, List.lookup_cons, h, beq_eq_false_iff_ne.2 h]
    · by_cases h : other = n
      · subst h
        simp [put, hn, Ne.symm hn]
      · simp [put, hn, List.lookup_cons, beq_eq_false_iff_ne.2 h, ih]

/-- A new name comes behind the others. -/
theorem put_of_not_mem {name : String} {ms : List (String × α)} (h : name ∉ ms.map Prod.fst)
    (v : α) : put name v ms = ms ++ [(name, v)] := by
  induction ms with
  | nil => rfl
  | cons m ms ih =>
    obtain ⟨n, w⟩ := m
    obtain ⟨hne, hrest⟩ := not_or.1 (fun hor => h (List.mem_cons.2 hor))
    have hb : (name == n) = false := by simpa using hne
    rw [put, hb, ih hrest]
    rfl

theorem names_put (name : String) (v : α) (ms : List (String × α)) :
    (put name v ms).map Prod.fst =
      if name ∈ ms.map Prod.fst then ms.map Prod.fst else ms.map Prod.fst ++ [name] := by
  split
  · rename_i h
    induction ms with
    | nil => cases h
    | cons m ms ih =>
      obtain ⟨n, w⟩ := m
      by_cases hn : name = n
      · simp [put, hn]
      · have hrest : name ∈ ms.map Prod.fst := (List.mem_cons.1 h).resolve_left hn
        simp [put, hn, ih hrest]
  · rename_i h
    rw [put_of_not_mem h, List.map_append, List.map_singleton]

end Members

end CrudByName

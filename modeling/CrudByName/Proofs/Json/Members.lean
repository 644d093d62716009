import CrudByName.Json.Tree
import CrudByName.Proofs.Passes
import CrudByName.Record
import Mathlib.Data.List.Induction
import Mathlib.Data.List.Nodup

/-!
# Collapsed members

An object may hold members of one name.  `Json.collapse` leaves one of each name
(`nodup_collapse`), in the order of their first occurrences (`names_collapse`), with the value of
the last occurrence (`lookup_collapse`).  Where no name stands twice, nothing changes
(`collapse_of_nodup`), and to look a name up is to ask what stands in the list
(`lookup_eq_some_iff_of_nodup`).  A name that stands once keeps its value
(`lookup_collapse_of_count`), whatever the other names are.

Two lists that agree in their names are compared member by member (`Named`), or name by name if
none of them repeats (`lookup_of_forall₂`, `forall₂_of_lookup`).

A record is collapsed in the same way (`Record.ofList_eq_collapse`).
-/

namespace CrudByName

namespace Json

section

variable {name : String} {v : α} {ms : List (String × α)}

/-! ## One member for each name -/

/-- One of each name, in the order of the first occurrences. -/
def firsts (names : List String) : List String :=
  names.foldl (fun ns name => if name ∈ ns then ns else ns ++ [name]) []

/-- The value of the last member of a name. -/
def last? (name : String) (ms : List (String × α)) : Option α :=
  ms.reverse.lookup name

theorem collapse_concat (ms : List (String × α)) (m : String × α) :
    collapse (ms ++ [m]) = Members.put m.1 m.2 (collapse ms) := by
  simp [collapse]

theorem firsts_concat (names : List String) (name : String) :
    firsts (names ++ [name]) =
      if name ∈ firsts names then firsts names else firsts names ++ [name] := by
  rw [firsts, List.foldl_append]
  rfl

theorem mem_firsts_iff {names : List String} : name ∈ firsts names ↔ name ∈ names := by
  induction names using List.reverseRecOn with
  | nil => rfl
  | append_singleton names n ih =>
    rw [firsts_concat, List.mem_append, List.mem_singleton]
    split
    · rename_i h
      rw [ih]
      exact ⟨Or.inl, fun hor => hor.elim id fun heq => ih.1 (heq ▸ h)⟩
    · rw [List.mem_append, List.mem_singleton, ih]

/-- A name comes before another one if its first occurrence does. -/
theorem pairwise_firsts (names : List String) :
    (firsts names).Pairwise fun a b => names.idxOf a < names.idxOf b := by
  induction names using List.reverseRecOn with
  | nil => exact List.Pairwise.nil
  | append_singleton names n ih =>
    have hidx : ∀ {a : String}, a ∈ firsts names → (names ++ [n]).idxOf a = names.idxOf a :=
      fun ha => List.idxOf_append_of_mem (mem_firsts_iff.1 ha)
    have hold : (firsts names).Pairwise fun a b =>
        (names ++ [n]).idxOf a < (names ++ [n]).idxOf b := by
      apply ih.imp_of_mem
      intro a b ha hb hab
      rwa [hidx ha, hidx hb]
    rw [firsts_concat]
    by_cases h : n ∈ firsts names
    · rwa [if_pos h]
    · rw [if_neg h, List.pairwise_append]
      refine ⟨hold, List.pairwise_singleton _ n, fun a ha b hb => ?_⟩
      obtain rfl := List.mem_singleton.1 hb
      have hlast : (names ++ [b]).idxOf b = names.length := by
        rw [List.idxOf_append_of_notMem fun hb => h (mem_firsts_iff.2 hb), List.idxOf_cons_self]
        rfl
      rw [hidx ha, hlast]
      exact List.idxOf_lt_length_of_mem (mem_firsts_iff.1 ha)

theorem names_collapse (ms : List (String × α)) :
    (collapse ms).map Prod.fst = firsts (ms.map Prod.fst) := by
  induction ms using List.reverseRecOn with
  | nil => rfl
  | append_singleton ms m ih =>
    rw [collapse_concat, List.map_append, List.map_singleton, firsts_concat, ← ih,
      Members.names_put]

theorem nodup_collapse (ms : List (String × α)) : ((collapse ms).map Prod.fst).Nodup := by
  induction ms using List.reverseRecOn with
  | nil => exact List.nodup_nil
  | append_singleton ms m ih =>
    rw [collapse_concat, Members.names_put]
    by_cases h : m.1 ∈ (collapse ms).map Prod.fst
    · rwa [if_pos h]
    · rw [if_neg h, List.nodup_append]
      refine ⟨ih, List.nodup_singleton m.1, fun n hn k hk => ?_⟩
      rintro rfl
      exact h (List.mem_singleton.1 hk ▸ hn)

theorem collapse_of_nodup (h : (ms.map Prod.fst).Nodup) : collapse ms = ms := by
  induction ms using List.reverseRecOn with
  | nil => rfl
  | append_singleton ms m ih =>
    rw [List.map_append, List.nodup_append] at h
    obtain ⟨hms, -, hne⟩ := h
    have hfresh : m.1 ∉ ms.map Prod.fst := fun hmem =>
      hne m.1 hmem m.1 (List.mem_singleton.2 rfl) rfl
    rw [collapse_concat, ih hms, Members.put_of_not_mem hfresh]

/-- The last member of a name is the one that is kept. -/
theorem lookup_collapse (ms : List (String × α)) (name : String) :
    (collapse ms).lookup name = last? name ms := by
  induction ms using List.reverseRecOn with
  | nil => rfl
  | append_singleton ms m ih =>
    obtain ⟨n, w⟩ := m
    rw [collapse_concat, Members.lookup_put, ih, last?, last?, List.reverse_append,
      List.reverse_singleton, List.singleton_append, List.lookup_cons]
    by_cases h : name = n
    · simp [h]
    · simp [h, beq_eq_false_iff_ne.2 h]

theorem lookup_of_count (h : (name, v) ∈ ms) (once : (ms.map Prod.fst).count name = 1) :
    ms.lookup name = some v := by
  induction ms with
  | nil => cases h
  | cons m ms ih =>
    obtain ⟨n, w⟩ := m
    rw [List.map_cons, List.count_cons] at once
    by_cases hn : name = n
    · subst hn
      have hnone : name ∉ ms.map Prod.fst := by
        rw [← List.count_eq_zero]
        simpa using once
      rcases List.mem_cons.1 h with heq | hmem
      · cases heq
        exact List.lookup_cons_self
      · exact absurd (List.mem_map_of_mem hmem) hnone
    · have hmem : (name, v) ∈ ms := (List.mem_cons.1 h).resolve_left fun heq => by
        cases heq
        exact hn rfl
      have hcount : (ms.map Prod.fst).count name = 1 := by
        simpa [Ne.symm hn] using once
      rw [List.lookup_cons, beq_eq_false_iff_ne.2 hn, ih hmem hcount]

/-- Where no name stands twice, looking a name up finds whatever stands under it. -/
theorem lookup_eq_some_iff_of_nodup (h : (ms.map Prod.fst).Nodup) :
    ms.lookup name = some v ↔ (name, v) ∈ ms := by
  constructor
  · intro hlookup
    obtain ⟨front, back, rfl, -⟩ := List.lookup_eq_some_iff.1 hlookup
    simp
  · intro hmem
    exact lookup_of_count hmem (List.count_eq_one_of_mem h (List.mem_map_of_mem hmem))

theorem lookup_collapse_of_count (h : (name, v) ∈ ms)
    (once : (ms.map Prod.fst).count name = 1) : (collapse ms).lookup name = some v := by
  rw [lookup_collapse, last?]
  refine lookup_of_count (List.mem_reverse.2 h) ?_
  rwa [List.map_reverse, List.count_reverse]

end

/-! ## Places of a name -/

section

variable {name : String} {a b : α} {ms : List (String × α)}

theorem last?_cons (name : String) (m : String × α) (ms : List (String × α)) :
    last? name (m :: ms) = (last? name ms).or (if name = m.1 then some m.2 else none) := by
  obtain ⟨n, v⟩ := m
  rw [last?, List.reverse_cons, List.lookup_append, ← last?, List.lookup_cons]
  by_cases h : name = n
  · simp [h]
  · simp [h, beq_eq_false_iff_ne.2 h]

/-- The last member of a name has none of that name behind it. -/
theorem last?_eq_some_iff : last? name ms = some a ↔
    ∃ front back, ms = front ++ (name, a) :: back ∧ name ∉ back.map Prod.fst := by
  rw [last?, List.lookup_eq_some_iff]
  constructor
  · rintro ⟨l, r, hreverse, hl⟩
    refine ⟨r.reverse, l.reverse, ?_, fun hmem => ?_⟩
    · have hms := congrArg List.reverse hreverse
      simpa using hms
    · obtain ⟨m, hm, rfl⟩ := List.mem_map.1 hmem
      have hne := hl m (List.mem_reverse.1 hm)
      simp at hne
  · rintro ⟨front, back, rfl, hback⟩
    refine ⟨back.reverse, front.reverse, by simp, fun m hm => ?_⟩
    apply bne_iff_ne.2
    rintro rfl
    exact hback (List.mem_map_of_mem (List.mem_reverse.1 hm))

theorem mem_of_last? (h : last? name ms = some a) : (name, a) ∈ ms := by
  induction ms with
  | nil => cases h
  | cons m ms ih =>
    rw [last?_cons, Option.or_eq_some_iff] at h
    rcases h with h | ⟨-, h⟩
    · exact List.mem_cons_of_mem m (ih h)
    · split_ifs at h with hname
      cases h
      rw [hname]
      exact List.mem_cons_self

theorem exists_last? (h : (name, a) ∈ ms) : ∃ b, last? name ms = some b := by
  induction ms with
  | nil => cases h
  | cons m ms ih =>
    rw [last?_cons]
    rcases List.mem_cons.1 h with rfl | h
    · cases last? name ms with
      | none => exact ⟨a, by simp⟩
      | some b => exact ⟨b, rfl⟩
    · obtain ⟨b, hb⟩ := ih h
      exact ⟨b, by rw [hb, Option.some_or]⟩

/-- The last member of a name stands no earlier than any other of that name. -/
theorem exists_index_of_last? {i : Nat} (h : ms[i]? = some (name, a))
    (hlast : last? name ms = some b) : ∃ j, i ≤ j ∧ ms[j]? = some (name, b) := by
  induction ms generalizing i with
  | nil => simp at h
  | cons m ms ih =>
    rw [last?_cons, Option.or_eq_some_iff] at hlast
    cases i with
    | zero =>
      rcases hlast with hlast | ⟨-, hlast⟩
      · obtain ⟨j, hj⟩ := List.mem_iff_getElem?.1 (mem_of_last? hlast)
        exact ⟨j + 1, Nat.zero_le _, by rw [List.getElem?_cons_succ, hj]⟩
      · split_ifs at hlast with hname
        cases hlast
        exact ⟨0, Nat.le_refl 0, by rw [hname, List.getElem?_cons_zero]⟩
    | succ i =>
      rw [List.getElem?_cons_succ] at h
      obtain ⟨c, hc⟩ := exists_last? (List.mem_of_getElem? h)
      have hb : last? name ms = some b := by
        rcases hlast with hlast | ⟨hnone, -⟩
        · exact hlast
        · rw [hc] at hnone
          cases hnone
      obtain ⟨j, hij, hj⟩ := ih h hb
      exact ⟨j + 1, Nat.succ_le_succ hij, by rw [List.getElem?_cons_succ, hj]⟩

end

/-! ## Name by name -/

/-- Two members of one name, with their values related. -/
structure Named (R : α → β → Prop) (m : String × α) (p : String × β) : Prop where
  name : m.1 = p.1
  value : R m.2 p.2

section

variable {R : α → β → Prop} {name : String} {a : α} {ms : List (String × α)}
  {ps : List (String × β)}

theorem names_eq_of_forall₂ (h : List.Forall₂ (Named R) ms ps) :
    ms.map Prod.fst = ps.map Prod.fst :=
  List.map_eq_map_of_forall₂ h fun _ _ hm => hm.name

/-- Where every value is related to something, there are members of the same names with what they
are related to. -/
theorem exists_named (h : ∀ m ∈ ms, ∃ b, R m.2 b) : ∃ ps, List.Forall₂ (Named R) ms ps := by
  refine List.exists_forall₂ fun m hm => ?_
  obtain ⟨b, hb⟩ := h m hm
  exact ⟨(m.1, b), rfl, hb⟩

theorem lookup_of_forall₂ (h : List.Forall₂ (Named R) ms ps)
    (ha : ms.lookup name = some a) : ∃ b, R a b ∧ ps.lookup name = some b := by
  induction h with
  | nil => cases ha
  | @cons m p ms ps hm _ ih =>
    obtain ⟨hname, hR⟩ := hm
    rw [List.lookup_cons] at ha ⊢
    rw [← hname]
    cases hb : name == m.1 with
    | true =>
      rw [hb] at ha
      cases ha
      exact ⟨p.2, hR, rfl⟩
    | false =>
      rw [hb] at ha
      exact ih ha

theorem last?_of_forall₂ (h : List.Forall₂ (Named R) ms ps)
    (ha : last? name ms = some a) : ∃ b, R a b ∧ last? name ps = some b :=
  lookup_of_forall₂ (List.forall₂_reverse_iff.2 h) ha

theorem mem_names_of_lookup (h : ms.lookup name = some a) : name ∈ ms.map Prod.fst := by
  obtain ⟨m, hm, hname⟩ := List.lookup_isSome_iff.1 (Option.isSome_of_eq_some h)
  exact List.mem_map.2 ⟨m, hm, (beq_iff_eq.1 hname).symm⟩

theorem forall₂_of_lookup (hnames : ms.map Prod.fst = ps.map Prod.fst)
    (hnodup : (ms.map Prod.fst).Nodup)
    (h : ∀ name a b, ms.lookup name = some a → ps.lookup name = some b → R a b) :
    List.Forall₂ (Named R) ms ps := by
  induction ms generalizing ps with
  | nil =>
    rw [List.map_nil, eq_comm, List.map_eq_nil_iff] at hnames
    rw [hnames]
    exact .nil
  | cons m ms ih =>
    obtain ⟨p, ps, rfl⟩ : ∃ p tail, ps = p :: tail := by
      apply List.exists_cons_of_ne_nil
      rintro rfl
      cases hnames
    obtain ⟨hname, htail⟩ := List.cons_eq_cons.1 hnames
    obtain ⟨hfresh, hnodup⟩ := List.nodup_cons.1 hnodup
    refine .cons ⟨hname, ?_⟩ (ih htail hnodup fun name a b ha hb => ?_)
    · apply h m.1 <;> rw [List.lookup_cons]
      · simp
      · simp [hname]
    · have hne : name ≠ m.1 := by
        rintro rfl
        exact hfresh (mem_names_of_lookup ha)
      apply h name
      · rw [List.lookup_cons, beq_eq_false_iff_ne.2 hne, ha]
      · rw [List.lookup_cons, ← hname, beq_eq_false_iff_ne.2 hne, hb]

theorem eq_of_lookup {ns : List (String × α)} (hnames : ms.map Prod.fst = ns.map Prod.fst)
    (hnodup : (ms.map Prod.fst).Nodup)
    (h : ∀ name a b, ms.lookup name = some a → ns.lookup name = some b → a = b) : ms = ns := by
  rw [← List.forall₂_eq_eq_eq]
  exact (forall₂_of_lookup hnames hnodup h).imp fun _ _ hm => Prod.ext hm.name hm.value

end

end Json

/-! ## Records -/

namespace Record

theorem ofList_eq_collapse (pairs : List (String × Value)) :
    ofList pairs = ⟨Json.collapse pairs⟩ := by
  induction pairs using List.reverseRecOn with
  | nil => rfl
  | append_singleton pairs p ih =>
    have hstep : ofList (pairs ++ [p]) = (ofList pairs).insert p.1 p.2 := by
      simp [ofList]
    rw [hstep, ih, Json.collapse_concat, insert]

end Record

end CrudByName

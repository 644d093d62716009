import CrudByName.Proofs.Json.RoundTrip
import CrudByName.Proofs.Record.OrderedMap

/-!
# Which records are mappings

A record is a mapping from names to values if its fields have different names (`isMapping_iff`):
then looking a name up, going through the fields, and going through names and values side by side
all tell the same.

Making a record from nothing or from pairs gives a mapping, and a write gives one exactly if there
was one before (`nodup_names_insert`), so that a name that stands twice is not mended by writing to
it.  Reading is different.  It takes the fields as they are written, and any names at all can be
written, repeated ones too (`exists_read_names`).  So a record is a mapping unless the last text it
was read from repeats a name, and it was not made anew since (`isMapping_made_iff`).
-/

namespace CrudByName

namespace Record

/-! ## Mappings -/

/-- All that can be asked of a record describes one mapping. -/
structure IsMapping (r : Record) : Prop where
  distinct : r.names.Nodup
  found : ∀ name value, r.get? name = some value ↔ (name, value) ∈ r.fields
  listed : r.names.zip r.values = r.fields

section

variable {r : Record}

theorem zip_names_values (r : Record) : r.names.zip r.values = r.fields := by
  rw [names, values, List.zip_map']
  exact List.map_id r.fields

theorem isMapping_iff : r.IsMapping ↔ r.names.Nodup := by
  constructor
  · exact fun h => h.distinct
  · intro h
    exact ⟨h, fun name value => Json.lookup_eq_some_iff_of_nodup h, zip_names_values r⟩

theorem nodup_names_insert (r : Record) (name : String) (value : Value) :
    (r.insert name value).names.Nodup ↔ r.names.Nodup := by
  rw [names_insert]
  by_cases h : name ∈ r.names
  · rw [if_pos h]
  · rw [if_neg h, ← List.concat_eq_append, List.nodup_concat]
    exact and_iff_right h

end

/-! ## Steps -/

/-- What is done to a record: it is made without fields, a value is put under a name, it is made
from pairs, or it is read from a text.  Room set aside for fields is not seen, nor is a copy. -/
inductive Step where
  | new
  | insert (name : String) (value : Value)
  | ofList (pairs : List (String × Value))
  | read (text : String)
  deriving DecidableEq

/-- The record that a step makes anew.  A write makes none, nor does reading that fails. -/
def Step.made? : Step → Option Record
  | .new => some ∅
  | .insert _ _ => none
  | .ofList pairs => some (Record.ofList pairs)
  | .read text => decode text

/-- The record after a step. -/
def Step.run (r : Record) : Step → Record
  | .insert name value => r.insert name value
  | s => s.made?.getD r

/-- The record after some steps. -/
def made (steps : List Step) : Record :=
  steps.foldl Step.run ∅

/-- The record `r` was read from a text, and since then no record was made anew. -/
def LastRead (steps : List Step) (r : Record) : Prop :=
  ∃ before text after, steps = before ++ .read text :: after ∧ decode text = some r ∧
    ∀ s ∈ after, s.made? = none

section

variable {steps : List Step} {s : Step} {r q : Record}

theorem Step.run_of_made (h : s.made? = some q) : s.run r = q := by
  cases s with
  | insert name value => cases h
  | new | ofList pairs | read text => rw [Step.run, h, Option.getD_some]; nofun

theorem Step.nodup_names_run_iff (h : s.made? = none) :
    (s.run r).names.Nodup ↔ r.names.Nodup := by
  cases s with
  | insert name value => exact nodup_names_insert r name value
  | new | ofList pairs => cases h
  | read text => rw [Step.run, h, Option.getD_none]; nofun

theorem Step.nodup_names_of_made (h : s.made? = some q) (hread : ∀ text, s ≠ .read text) :
    q.names.Nodup := by
  cases s with
  | new =>
    obtain rfl := Option.some.inj h
    exact List.nodup_nil
  | insert name value => cases h
  | ofList pairs =>
    obtain rfl := Option.some.inj h
    exact nodup_names_ofList pairs
  | read text => exact absurd rfl (hread text)

theorem made_concat (steps : List Step) (s : Step) :
    made (steps ++ [s]) = s.run (made steps) := by
  rw [made, List.foldl_append]
  rfl

theorem lastRead_concat_iff : LastRead (steps ++ [s]) r ↔
    (∃ text, s = .read text ∧ decode text = some r) ∨ (s.made? = none ∧ LastRead steps r) := by
  constructor
  · rintro ⟨before, text, after, hsteps, hread, hafter⟩
    obtain rfl | ⟨after, s', rfl⟩ := List.eq_nil_or_concat after
    · obtain ⟨-, hs⟩ := List.append_inj' hsteps rfl
      exact .inl ⟨text, List.singleton_inj.1 hs, hread⟩
    · rw [List.concat_eq_append] at hsteps hafter
      rw [← List.cons_append, ← List.append_assoc] at hsteps
      obtain ⟨rfl, hs⟩ := List.append_inj' hsteps rfl
      obtain rfl := List.singleton_inj.1 hs
      refine .inr ⟨hafter s (by simp), before, text, after, rfl, hread, fun s' hs' => ?_⟩
      exact hafter s' (List.mem_append_left _ hs')
  · rintro (⟨text, rfl, hread⟩ | ⟨hs, before, text, after, rfl, hread, hafter⟩)
    · exact ⟨steps, text, [], rfl, hread, nofun⟩
    · refine ⟨before, text, after ++ [s], by simp, hread, fun s' hs' => ?_⟩
      rcases List.mem_append.1 hs' with hs' | hs'
      · exact hafter s' hs'
      · rwa [List.mem_singleton.1 hs']

theorem lastRead_concat_of_not_made (h : s.made? = none) :
    LastRead (steps ++ [s]) r ↔ LastRead steps r := by
  rw [lastRead_concat_iff, and_iff_right h]
  apply or_iff_right
  rintro ⟨text, rfl, hread⟩
  rw [Step.made?, hread] at h
  cases h

theorem lastRead_concat_of_made (h : s.made? = some q) :
    LastRead (steps ++ [s]) r ↔ (∃ text, s = .read text) ∧ r = q := by
  have hnot : ¬(s.made? = none ∧ LastRead steps r) := by
    rintro ⟨hnone, -⟩
    rw [hnone] at h
    cases h
  rw [lastRead_concat_iff, or_iff_left hnot]
  constructor
  · rintro ⟨text, rfl, hread⟩
    exact ⟨⟨text, rfl⟩, Option.some.inj (hread.symm.trans h)⟩
  · rintro ⟨⟨text, rfl⟩, rfl⟩
    exact ⟨text, rfl, h⟩

/-- A record is a mapping unless what it goes back to was read, with a name that stands twice. -/
theorem isMapping_made_iff (steps : List Step) :
    (made steps).IsMapping ↔ ∀ r, LastRead steps r → r.names.Nodup := by
  rw [isMapping_iff]
  -- From the back: the last step says whether what was read before still counts.
  induction steps using List.reverseRecOn with
  | nil =>
    refine iff_of_true List.nodup_nil ?_
    rintro r ⟨before, text, after, hsteps, -⟩
    simp at hsteps
  | append_singleton steps s ih =>
    rw [made_concat]
    cases hs : s.made? with
    | none => simp only [Step.nodup_names_run_iff hs, lastRead_concat_of_not_made hs, ih]
    | some q =>
      rw [Step.run_of_made hs]
      constructor
      · intro hq r hr
        obtain ⟨-, rfl⟩ := (lastRead_concat_of_made hs).1 hr
        exact hq
      · intro hall
        by_cases hread : ∃ text, s = .read text
        · exact hall q ((lastRead_concat_of_made hs).2 ⟨hread, rfl⟩)
        · exact Step.nodup_names_of_made hs fun text heq => hread ⟨text, heq⟩

end

/-! ## Names that are read -/

/-- Whatever was done before, a record with any list of names can be read from some text. -/
theorem exists_read_names (steps : List Step) (names : List String) :
    ∃ text, (made (steps ++ [.read text])).names = names := by
  let r : Record := ⟨names.map fun name => (name, .null)⟩
  have hexact : r.Exact := by
    intro p hp
    obtain ⟨name, -, rfl⟩ := List.mem_map.1 hp
    trivial
  have hread : (Step.read r.encode.text).made? = some r := by
    rw [Step.made?]
    exact decode_encode hexact
  refine ⟨r.encode.text, ?_⟩
  rw [made_concat, Step.run_of_made hread, Record.names, List.map_map]
  exact List.map_id names

/-- A record is a mapping, however it was made and written to, unless it goes back to a text with a
name that stands twice; and the names of a text can be any. -/
theorem mapping_unless_read_with_repeated_name (steps : List Step) :
    ((made steps).IsMapping ↔ ∀ r, LastRead steps r → r.names.Nodup) ∧
      ∀ names, ∃ text, (made (steps ++ [.read text])).names = names :=
  ⟨isMapping_made_iff steps, exists_read_names steps⟩

/-- The value that stands second is listed, and is not found. -/
theorem no_mapping_read :
    let text :=
      "\x7b\"fields\":[[\"a\",\x7b\"Integer\":1\x7d],[\"a\",\x7b\"Integer\":2\x7d]]\x7d"
    let r := made [.read text]
    ¬ r.IsMapping ∧ ("a", .integer 2) ∈ r.fields ∧ r.get? "a" = some (.integer 1) := by
  intro text r
  have hr : r = ⟨[("a", .integer 1), ("a", .integer 2)]⟩ := by decide +kernel
  rw [hr, isMapping_iff]
  exact ⟨by decide, List.mem_cons_of_mem _ List.mem_cons_self, rfl⟩

end Record

end CrudByName

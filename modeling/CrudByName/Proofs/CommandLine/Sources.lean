import CrudByName.CommandLine.Settings
import Mathlib.Data.List.Induction
import Mathlib.Data.List.Nodup

/-!
# What a source holds for a setting

A key gives a setting in one of two ways.  It is the name of the setting, in any case of letters
(`Names`), or it is a path that goes on behind the name (`LeadsInto`), and then the setting is a
list or a table.  Keys of any other kind are passed over.

`Holds source setting held` tells what a source can be said to hold for a setting.  It looks at the
keys of the source but not at their order.  What is found when sources are searched one after the
other is held by the last one that holds anything (`exists_holds`).  A source that gives each key
once, and a setting in one way only, holds one thing (`Holds.unique`), and what it holds depends on
the keys that give the setting alone (`Holds.of_relevant`).
-/

namespace CrudByName

namespace KeyPath

/-! ## Keys that are paths -/

/-- The characters that begin a step. -/
def marks : List Char := ['.', '[']

theorem mem_marks_of_step? {c : Char} {s : List Char} {p : Step × List Char}
    (h : step? (c :: s) = some p) : c ∈ marks := by
  unfold step? at h
  split at h
  · rename_i heq
    cases heq
    exact .head _
  · rename_i heq
    cases heq
    exact .tail _ (.head _)
  · cases h

/-- Steps are read from a text unless it is empty, and the text begins with a mark. -/
theorem of_steps? {n : Nat} {s : List Char} {steps : List Step} (h : steps? n s = some steps) :
    (s = [] ∧ steps = []) ∨ (steps ≠ [] ∧ ∃ c ∈ marks, c ∈ s) := by
  cases s with
  | nil =>
    rw [steps?, Option.some.injEq] at h
    exact .inl ⟨rfl, h.symm⟩
  | cons c s =>
    cases n with
    | zero => cases h
    | succ n =>
      obtain ⟨⟨step, rest⟩, hstep, h⟩ := Option.bind_eq_some_iff.1 h
      obtain ⟨more, -, h⟩ := Option.bind_eq_some_iff.1 h
      cases h
      exact .inr ⟨List.cons_ne_nil _ _, c, mem_marks_of_step? hstep, .head _⟩

/-- A path has no steps if all of it is a name, and otherwise there is a mark in it. -/
theorem of_read? {key : List Char} {path : KeyPath} (h : read? key = some path) :
    (path.steps = [] ∧ path.root = key) ∨ (path.steps ≠ [] ∧ ∃ c ∈ marks, c ∈ key) := by
  obtain ⟨⟨root, rest⟩, hname, h⟩ := Option.bind_eq_some_iff.1 h
  obtain ⟨steps, hsteps, h⟩ := Option.bind_eq_some_iff.1 h
  cases h
  have hkey : root ++ rest = key := by
    unfold name? at hname
    split at hname
    · cases hname
    · cases hname
      exact List.takeWhile_append_dropWhile
  rcases of_steps? hsteps with ⟨rfl, rfl⟩ | ⟨hne, c, hc, hmem⟩
  · exact .inl ⟨rfl, by rw [← hkey, List.append_nil]⟩
  · exact .inr ⟨hne, c, hc, hkey ▸ List.mem_append_right root hmem⟩

theorem root_ofKey {key : List Char} (h : (ofKey key).steps = []) : (ofKey key).root = key := by
  unfold ofKey at h ⊢
  cases hread : read? key with
  | none => rfl
  | some path =>
    rw [hread, Option.getD_some] at h
    rcases of_read? hread with ⟨-, hroot⟩ | ⟨hne, -⟩
    · exact hroot
    · exact absurd h hne

theorem mark_of_steps {key : List Char} (h : (ofKey key).steps ≠ []) : ∃ c ∈ marks, c ∈ key := by
  unfold ofKey at h
  cases hread : read? key with
  | none =>
    rw [hread] at h
    exact absurd rfl h
  | some path =>
    rw [hread, Option.getD_some] at h
    rcases of_read? hread with ⟨hnil, -⟩ | ⟨-, hmark⟩
    · exact absurd hnil h
    · exact hmark

end KeyPath

namespace Settings

open KeyPath (ofKey)

/-! ## Keys and settings -/

/-- The names of the settings. -/
def names : List String :=
  ["database", "log_level", "history"]

/-- A key that is the name of a setting, in any case of letters. -/
def Names (key setting : String) : Prop :=
  folded key = setting.toList

/-- A key that is a path which goes on behind the name of a setting. -/
def LeadsInto (key setting : String) : Prop :=
  (ofKey key.toList).root.map lowered = setting.toList ∧ (ofKey key.toList).steps ≠ []

instance : DecidableRel Names := fun key setting =>
  inferInstanceAs (Decidable (folded key = setting.toList))

instance : DecidableRel LeadsInto := fun key setting =>
  inferInstanceAs (Decidable ((ofKey key.toList).root.map lowered = setting.toList ∧
    (ofKey key.toList).steps ≠ []))

variable {key setting : String}

/-- There is no mark of a step in the name of a setting, nor in a key that is one. -/
theorem steps_of_names (hsetting : setting ∈ names) (h : Names key setting) :
    (ofKey key.toList).steps = [] := by
  by_contra hsteps
  obtain ⟨c, hmark, hmem⟩ := KeyPath.mark_of_steps hsteps
  have hlowered : lowered c ∈ setting.toList := h ▸ List.mem_map_of_mem hmem
  have hname : ∀ setting ∈ names,
      (setting.toList.all fun c => c ∉ KeyPath.marks.map lowered) = true := by decide
  have hnone := List.all_eq_true.1 (hname setting hsetting) _ hlowered
  exact of_decide_eq_true hnone (List.mem_map_of_mem hmark)

theorem placed_of_names (hsetting : setting ∈ names) (h : Names key setting) (given : Given) :
    placed key given = (setting.toList, given) := by
  have hsteps := steps_of_names hsetting h
  have hroot := KeyPath.root_ofKey hsteps
  rw [placed]
  simp only [hsteps, if_true, hroot]
  rw [← h]
  rfl

theorem placed_of_leadsInto (h : LeadsInto key setting) (given : Given) :
    placed key given = (setting.toList, .container false) := by
  rw [placed]
  simp only [h.1, if_neg h.2]

/-- A key leads to a setting in one of two ways. -/
theorem names_or_leadsInto {given : Given} (h : (placed key given).1 = setting.toList) :
    Names key setting ∨ LeadsInto key setting := by
  by_cases hsteps : (ofKey key.toList).steps = []
  · refine .inl ?_
    rw [placed, KeyPath.root_ofKey hsteps] at h
    exact h
  · exact .inr ⟨h, hsteps⟩

/-! ## What a source holds -/

/-- What a source can be said to hold for a setting: what it gives under the name; a list or a
table, if it gives anything further in; nothing, if it does neither. -/
inductive Holds (source : Source) (setting : String) : Option Given → Prop where
  | named {key : String} {given : Given} (mem : (key, given) ∈ source) (names : Names key setting) :
    Holds source setting (some given)
  | inside {key : String} {given : Given} (mem : (key, given) ∈ source)
    (leads : LeadsInto key setting) : Holds source setting (some (.container false))
  | nothing (silent : ∀ entry ∈ source, ¬ Names entry.1 setting ∧ ¬ LeadsInto entry.1 setting) :
    Holds source setting none

variable {source more : Source} {given : Given} {held old : Option Given}

theorem Holds.append (h : Holds source setting (some given)) (more : Source) :
    Holds (source ++ more) setting (some given) := by
  cases h with
  | named mem names => exact .named (List.mem_append_left more mem) names
  | inside mem leads => exact .inside (List.mem_append_left more mem) leads

theorem Holds.append_other {entry : String × Given} (h : Holds source setting held)
    (hnames : ¬ Names entry.1 setting) (hleads : ¬ LeadsInto entry.1 setting) :
    Holds (source ++ [entry]) setting held := by
  cases h with
  | named mem names => exact .named (List.mem_append_left _ mem) names
  | inside mem leads => exact .inside (List.mem_append_left _ mem) leads
  | nothing silent =>
    refine .nothing fun other hother => ?_
    rcases List.mem_append.1 hother with hmem | hlast
    · exact silent other hmem
    · rw [List.mem_singleton.1 hlast]
      exact ⟨hnames, hleads⟩

/-! ## What is found -/

theorem update_of_names (hsetting : setting ∈ names) (h : Names key setting)
    (hnew : old = none ∨ given ≠ .container true) :
    update setting old (key, given) = some given := by
  rw [update, placed_of_names hsetting h]
  simp only [if_true]
  split
  · rcases hnew with hold | hgiven
    · cases hold
    · exact absurd rfl hgiven
  · rfl

theorem update_of_leadsInto (h : LeadsInto key setting) :
    update setting old (key, given) = some (.container false) := by
  rw [update, placed_of_leadsInto h]
  simp only [if_true]

theorem update_of_other (hnames : ¬ Names key setting) (hleads : ¬ LeadsInto key setting) :
    update setting old (key, given) = old := by
  have hroot : (placed key given).1 ≠ setting.toList := fun h =>
    (names_or_leadsInto h).elim hnames hleads
  rw [update]
  exact if_neg hroot

/-- What is found behind some sources is held by the next one, or else was found before.  An empty
table would not count against what was found before. -/
theorem exists_holds (hsetting : setting ∈ names)
    (h : old = none ∨ ∀ entry ∈ source, entry.2 ≠ .container true) :
    ∃ held, Holds source setting held ∧ source.foldl (update setting) old = held.or old := by
  -- From the right, since the last entry decides.
  induction source using List.reverseRecOn with
  | nil => exact ⟨none, .nothing fun _ hmem => absurd hmem List.not_mem_nil, rfl⟩
  | append_singleton source entry ih =>
    obtain ⟨key, given⟩ := entry
    obtain ⟨held, hheld, hfold⟩ := ih (h.imp_right fun hall e he =>
      hall e (List.mem_append_left _ he))
    have hlast : (key, given) ∈ source ++ [(key, given)] :=
      List.mem_append_right source (List.mem_singleton_self _)
    rw [List.foldl_append, List.foldl_cons, List.foldl_nil, hfold]
    by_cases hnames : Names key setting
    · by_cases hempty : given = .container true
      · have hold : old = none := h.resolve_right fun hall => hall _ hlast hempty
        rw [hold, Option.or_none]
        cases held with
        | none =>
          exact ⟨some given, .named hlast hnames, update_of_names hsetting hnames (.inl rfl)⟩
        | some before =>
          refine ⟨some before, hheld.append _, ?_⟩
          rw [update, placed_of_names hsetting hnames, hempty]
          simp only [if_true, Option.or_none]
      · exact ⟨some given, .named hlast hnames, update_of_names hsetting hnames (.inr hempty)⟩
    · by_cases hleads : LeadsInto key setting
      · exact ⟨some (.container false), .inside hlast hleads, update_of_leadsInto hleads⟩
      · exact ⟨held, hheld.append_other hnames hleads, update_of_other hnames hleads⟩

/-! ## Keys given once -/

/-- A source that gives no key twice, in whatever case of letters. -/
def KeysDistinct (source : Source) : Prop :=
  (source.map fun entry => folded entry.1).Nodup

/-- A source that does not give a setting both under its name and further in. -/
def OneWay (source : Source) (setting : String) : Prop :=
  (∀ entry ∈ source, ¬ Names entry.1 setting) ∨ ∀ entry ∈ source, ¬ LeadsInto entry.1 setting

instance : DecidablePred KeysDistinct := fun source =>
  inferInstanceAs (Decidable (source.map fun entry => folded entry.1).Nodup)

instance : DecidableRel OneWay := fun source setting =>
  inferInstanceAs (Decidable ((∀ entry ∈ source, ¬ Names entry.1 setting) ∨
    ∀ entry ∈ source, ¬ LeadsInto entry.1 setting))

/-- A source of which it is clear what it holds for each setting. -/
structure Unambiguous (source : Source) : Prop where
  distinct : KeysDistinct source
  oneWay : ∀ setting ∈ names, OneWay source setting

theorem given_eq_of_names (hdistinct : KeysDistinct source) {key' : String} {given' : Given}
    (hmem : (key, given) ∈ source) (hnames : Names key setting) (hmem' : (key', given') ∈ source)
    (hnames' : Names key' setting) : given = given' := by
  have heq : (key, given) = (key', given') :=
    List.inj_on_of_nodup_map hdistinct hmem hmem' (hnames.trans hnames'.symm)
  exact congrArg Prod.snd heq

theorem not_names_of_leadsInto (hway : OneWay source setting) {key' : String} {given' : Given}
    (hmem : (key, given) ∈ source) (hleads : LeadsInto key setting)
    (hmem' : (key', given') ∈ source) : ¬ Names key' setting := by
  rcases hway with hnames | hnone
  · exact hnames (key', given') hmem'
  · exact absurd hleads (hnone (key, given) hmem)

/-- Then there is only one thing that it can be said to hold. -/
theorem Holds.unique {held' : Option Given} (hdistinct : KeysDistinct source)
    (hway : OneWay source setting) (h : Holds source setting held)
    (h' : Holds source setting held') : held = held' := by
  cases h with
  | named hmem hnames =>
    cases h' with
    | named hmem' hnames' => rw [given_eq_of_names hdistinct hmem hnames hmem' hnames']
    | inside hmem' hleads' => exact absurd hnames (not_names_of_leadsInto hway hmem' hleads' hmem)
    | nothing silent => exact absurd hnames (silent _ hmem).1
  | inside hmem hleads =>
    cases h' with
    | named hmem' hnames' => exact absurd hnames' (not_names_of_leadsInto hway hmem hleads hmem')
    | inside _ _ => rfl
    | nothing silent => exact absurd hleads (silent _ hmem).2
  | nothing silent =>
    cases h' with
    | named hmem' hnames' => exact absurd hnames' (silent _ hmem').1
    | inside hmem' hleads' => exact absurd hleads' (silent _ hmem').2
    | nothing _ => rfl

/-! ## Other keys -/

/-- A value from outside, where it makes no difference what is in a list or in a table. -/
def Given.outside : Given → Given
  | .container _ => .container false
  | given => given

/-- The keys of a source that give a setting, with the values from outside. -/
def relevant (source : Source) : Source :=
  (source.filter fun entry =>
      ∃ setting ∈ names, Names entry.1 setting ∨ LeadsInto entry.1 setting).map
    fun entry => (entry.1, entry.2.outside)

theorem mem_relevant (hsetting : setting ∈ names) (hmem : (key, given) ∈ source)
    (hgives : Names key setting ∨ LeadsInto key setting) : (key, given.outside) ∈ relevant source :=
  List.mem_map_of_mem (List.mem_filter.2 ⟨hmem, decide_eq_true ⟨setting, hsetting, hgives⟩⟩)

theorem exists_of_mem_relevant (h : (key, given) ∈ relevant source) :
    ∃ given', (key, given') ∈ source ∧ given'.outside = given := by
  obtain ⟨⟨key', given'⟩, hmem, heq⟩ := List.mem_map.1 h
  cases heq
  exact ⟨given', (List.mem_filter.1 hmem).1, rfl⟩

variable {source' : Source}

/-- A key that gives a setting is in both of two sources, with values that look alike. -/
theorem exists_mem_of_relevant (hsame : ∀ entry, entry ∈ relevant source ↔ entry ∈ relevant source')
    (hsetting : setting ∈ names) (hmem : (key, given) ∈ source)
    (hgives : Names key setting ∨ LeadsInto key setting) :
    ∃ given', (key, given') ∈ source' ∧ given'.outside = given.outside :=
  exists_of_mem_relevant ((hsame _).1 (mem_relevant hsetting hmem hgives))

theorem Holds.of_relevant (hsame : ∀ entry, entry ∈ relevant source ↔ entry ∈ relevant source')
    (hsetting : setting ∈ names) (h : Holds source setting held) :
    ∃ held', Holds source' setting held' ∧ held'.map Given.outside = held.map Given.outside := by
  cases h with
  | named hmem hnames =>
    obtain ⟨given', hmem', houtside⟩ := exists_mem_of_relevant hsame hsetting hmem (.inl hnames)
    exact ⟨some given', .named hmem' hnames, congrArg some houtside⟩
  | inside hmem hleads =>
    obtain ⟨given', hmem', -⟩ := exists_mem_of_relevant hsame hsetting hmem (.inr hleads)
    exact ⟨some (.container false), .inside hmem' hleads, rfl⟩
  | nothing silent =>
    refine ⟨none, .nothing fun entry' hmem' => not_or.1 fun hgives => ?_, rfl⟩
    obtain ⟨given, hmem, -⟩ :=
      exists_mem_of_relevant (fun entry => (hsame entry).symm) hsetting hmem' hgives
    exact hgives.elim (silent _ hmem).1 (silent _ hmem).2

theorem OneWay.of_relevant (hsame : ∀ entry, entry ∈ relevant source ↔ entry ∈ relevant source')
    (hsetting : setting ∈ names) (h : OneWay source setting) : OneWay source' setting := by
  have hback := fun entry => (hsame entry).symm
  refine h.imp (fun hnone entry' hmem' hnames => ?_) fun hnone entry' hmem' hleads => ?_
  · obtain ⟨given, hmem, -⟩ := exists_mem_of_relevant hback hsetting hmem' (.inl hnames)
    exact hnone _ hmem hnames
  · obtain ⟨given, hmem, -⟩ := exists_mem_of_relevant hback hsetting hmem' (.inr hleads)
    exact hnone _ hmem hleads

theorem Unambiguous.of_relevant
    (hsame : ∀ entry, entry ∈ relevant source ↔ entry ∈ relevant source')
    (h : Unambiguous source) (hdistinct : KeysDistinct source') : Unambiguous source' :=
  ⟨hdistinct, fun setting hsetting => (h.oneWay setting hsetting).of_relevant hsame hsetting⟩

end Settings

end CrudByName

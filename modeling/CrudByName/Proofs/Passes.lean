import CrudByName.Proofs.Except
import Mathlib.Data.List.Forall2

/-!
# Passes over a list that stop early

`mapM` goes over a list until an element has no result.  Where it gets to the end, the results
belong to the elements one by one (`mapM_eq_some_iff`, `mapM_eq_ok_iff`); where it stops, an element
is to blame (`exists_of_mapM_eq_error`).
-/

namespace List

variable {ε β γ : Type}

/-- A pass over a list gives results if every element has one. -/
theorem mapM_eq_some_iff {f : α → Option β} {as : List α} {bs : List β} :
    as.mapM f = some bs ↔ Forall₂ (fun a b => f a = some b) as bs := by
  induction as generalizing bs with
  | nil => cases bs <;> simp
  | cons a as ih =>
    rw [mapM_cons, Option.bind_eq_bind, Option.bind_eq_some_iff]
    constructor
    · rintro ⟨b, hb, h⟩
      obtain ⟨more, hmore, hbs⟩ := Option.bind_eq_some_iff.1 h
      cases hbs
      exact .cons hb (ih.1 hmore)
    · rintro (_ | ⟨hb, hmore⟩)
      exact ⟨_, hb, by rw [ih.2 hmore]; rfl⟩

theorem mapM_eq_ok_iff {f : α → Except ε β} {as : List α} {bs : List β} :
    as.mapM f = .ok bs ↔ Forall₂ (fun a b => f a = .ok b) as bs := by
  induction as generalizing bs with
  | nil => cases bs <;> simp [pure, Except.pure]
  | cons a as ih =>
    rw [mapM_cons, Except.bind_eq_ok_iff]
    constructor
    · rintro ⟨b, hb, h⟩
      obtain ⟨more, hmore, hbs⟩ := Except.bind_eq_ok_iff.1 h
      cases hbs
      exact .cons hb (ih.1 hmore)
    · rintro (_ | ⟨hb, hmore⟩)
      exact ⟨_, hb, by rw [ih.2 hmore]; rfl⟩

/-- The error of a pass over a list is the error of an element. -/
theorem exists_of_mapM_eq_error {f : α → Except ε β} {as : List α} {e : ε}
    (h : as.mapM f = .error e) : ∃ a ∈ as, f a = .error e := by
  induction as with
  | nil => cases h
  | cons a as ih =>
    rw [mapM_cons] at h
    rcases Except.bind_eq_error_iff.1 h with ha | ⟨b, _, h⟩
    · exact ⟨a, mem_cons_self, ha⟩
    · rcases Except.bind_eq_error_iff.1 h with has | ⟨bs, _, h⟩
      · obtain ⟨a', hmem, ha'⟩ := ih has
        exact ⟨a', mem_cons_of_mem a hmem, ha'⟩
      · cases h

/-- Two passes over a list that stop at what has no result are one pass. -/
theorem bind_mapM_toOption (f : α → Option β) (g : β → Except ε γ) (as : List α) :
    ((as.mapM f).bind fun bs => (bs.mapM g).toOption) =
      as.mapM fun a => (f a).bind fun b => (g b).toOption := by
  induction as with
  | nil => rfl
  | cons a as ih =>
    rw [mapM_cons, mapM_cons, ← ih]
    cases f a with
    | none => rfl
    | some b =>
      cases hfs : as.mapM f with
      | none => cases hg : g b <;> simp [hg, Except.toOption]
      | some bs =>
        cases hg : g b with
        | error e => simp [hg, Except.toOption, bind, Except.bind]
        | ok c =>
          cases hgs : bs.mapM g <;>
            simp [hg, hgs, Except.toOption, bind, Except.bind, pure, Except.pure]

/-- Two places of a list whose entries are told apart pairwise are one, where neither entry is told
apart from the other. -/
theorem index_eq_of_pairwise {α : Type} {R : α → α → Prop} {as : List α} (h : as.Pairwise R)
    {i j : Nat} {a b : α} (ha : as[i]? = some a) (hb : as[j]? = some b) (hab : ¬ R a b)
    (hba : ¬ R b a) : i = j := by
  obtain ⟨hi, rfl⟩ := getElem?_eq_some_iff.1 ha
  obtain ⟨hj, rfl⟩ := getElem?_eq_some_iff.1 hb
  rcases Nat.lt_trichotomy i j with hlt | heq | hlt
  · exact absurd (pairwise_iff_getElem.1 h i j hi hj hlt) hab
  · exact heq
  · exact absurd (pairwise_iff_getElem.1 h j i hj hi hlt) hba

/-! ## Results and the elements they belong to -/

section

variable {α β : Type*} {R : α → β → Prop} {as : List α} {bs : List β}

theorem exists_getElem?_of_forall₂ (h : Forall₂ R as bs) {i : Nat} {a : α} (ha : as[i]? = some a) :
    ∃ b, bs[i]? = some b ∧ R a b := by
  induction h generalizing i with
  | nil => simp at ha
  | @cons a' b as bs hR _ ih =>
    cases i with
    | zero =>
      cases ha
      exact ⟨b, rfl, hR⟩
    | succ i => exact ih ha

theorem exists_mem_of_forall₂ (h : Forall₂ R as bs) {a : α} (ha : a ∈ as) : ∃ b ∈ bs, R a b := by
  obtain ⟨i, hi⟩ := mem_iff_getElem?.1 ha
  obtain ⟨b, hb, hR⟩ := exists_getElem?_of_forall₂ h hi
  exact ⟨b, mem_iff_getElem?.2 ⟨i, hb⟩, hR⟩

/-- Where every element is related to something, there is a list of what they are related to. -/
theorem exists_forall₂ (h : ∀ a ∈ as, ∃ b, R a b) : ∃ bs, Forall₂ R as bs := by
  induction as with
  | nil => exact ⟨[], .nil⟩
  | cons a as ih =>
    obtain ⟨⟨b, hb⟩, has⟩ := forall_mem_cons.1 h
    obtain ⟨bs, hbs⟩ := ih has
    exact ⟨b :: bs, .cons hb hbs⟩

theorem map_eq_map_of_forall₂ {f : α → γ} {g : β → γ} (h : Forall₂ R as bs)
    (hR : ∀ a b, R a b → f a = g b) : as.map f = bs.map g := by
  induction h with
  | nil => rfl
  | cons hab _ ih => rw [map_cons, map_cons, hR _ _ hab, ih]

theorem eq_map_of_forall₂ {f : α → β} (h : Forall₂ (fun a b => b = f a) as bs) :
    bs = as.map f := by
  induction h with
  | nil => rfl
  | cons hab _ ih => rw [map_cons, hab, ih]

end

end List

import CrudByName.Proofs.Database.Cells
import CrudByName.Proofs.Passes
import Mathlib.Data.List.Nodup

/-!
# Tables and their rows

A table that came about by commands is `Table.WellFormed`: no two columns have one name in any case
of letters, at most one of them is the key, every row has a cell for each column, which the column
can hold, and the rows stand in the order of their ids, of which none repeats.

An insert adds one row, with an id that no row had (`of_insert`).  An update goes from row to row,
and each step may give a row another id and so another place.  When it has come to its end, the rows
are those from before with the changed ones replaced, but for their order (`Rewrites.perm`); and
where no id was changed they stand in the old order as well (`Rewrites.rows_eq`).  A step finds the
row it is about untouched, since no row can have taken the id of another on the way.
-/

namespace CrudByName

namespace Database

/-! ## What holds of every table -/

/-- A row with one cell for each column, which the column can hold. -/
def Row.Fits (columns : List Column) (r : Row) : Prop :=
  List.Forall₂ (fun c cell => c.affinity.Keeps cell) columns r.cells

/-- A table whose columns can be told apart, and whose rows fit them. -/
structure Table.Shaped (t : Table) : Prop where
  names : t.columns.Pairwise fun a b => sameName a.name b.name = false
  fits : ∀ r ∈ t.rows, r.Fits t.columns

/-- A table as the commands leave it. -/
structure Table.WellFormed (t : Table) : Prop extends Table.Shaped t where
  oneKey : t.columns.Pairwise fun a b => ¬ (a.isKey = true ∧ b.isKey = true)
  ordered : t.rows.Pairwise fun a b => a.id < b.id

/-- Cells that the database has taken in. -/
def Settled (cells : List (Field × Cell)) : Prop :=
  ∀ p ∈ cells, p.2.settled = p.2

namespace Table

variable {t t' : Table} {r : Row} {cells : List (Field × Cell)} {used : Int} {m : Machine}
  {id : Int64}

theorem settled_of_given {field : Field} {c : Cell} (hcells : Settled cells)
    (h : given? cells field = some c) : c.settled = c := by
  obtain ⟨before, after, hsplit, -⟩ := List.lookup_eq_some_iff.1 h
  have hmem : (field, c) ∈ cells := by
    rw [hsplit]
    simp
  exact hcells _ hmem

theorem settled_zip (fields : List Field) {cells : List Cell} (h : ∀ c ∈ cells, c.settled = c) :
    Settled (fields.zip cells) :=
  fun _ hp => h _ (List.of_mem_zip hp).2

theorem settled_reverse (hcells : Settled cells) : Settled cells.reverse :=
  fun p hp => hcells p (List.mem_reverse.1 hp)

/-! ## Ids -/

theorem nodup_ids {rows : List Row} (h : rows.Pairwise fun a b => a.id < b.id) :
    (rows.map Row.id).Nodup := by
  refine List.pairwise_map.2 (h.imp fun {a b} hlt heq => ?_)
  rw [heq] at hlt
  exact Int64.lt_irrefl hlt

/-- A row is the only one with its id. -/
theorem perm_cons_filter {rows : List Row} (h : (rows.map Row.id).Nodup) (hr : r ∈ rows) :
    rows.Perm (r :: rows.filter fun other => other.id != r.id) := by
  have hothers : rows.erase r = rows.filter fun other => other.id != r.id := by
    rw [(List.Nodup.of_map _ h).erase_eq_filter]
    refine List.filter_congr fun other hother => ?_
    by_cases heq : other = r
    · simp [heq]
    · have hid : other.id ≠ r.id := fun hid => heq (List.inj_on_of_nodup_map h hother hr hid)
      rw [bne_iff_ne.2 heq, bne_iff_ne.2 hid]
  rw [← hothers]
  exact List.perm_cons_erase hr

theorem perm_insertInOrder (r : Row) (rows : List Row) :
    (insertInOrder r rows).Perm (r :: rows) := by
  induction rows with
  | nil => exact List.Perm.refl _
  | cons s rest ih =>
    rw [insertInOrder]
    split
    · exact List.Perm.refl _
    · exact (ih.cons s).trans (List.Perm.swap r s rest)

theorem sublist_insertInOrder (r : Row) (rows : List Row) :
    rows.Sublist (insertInOrder r rows) := by
  induction rows with
  | nil => exact List.nil_sublist _
  | cons s rest ih =>
    rw [insertInOrder]
    split
    · exact List.sublist_cons_self r _
    · exact ih.cons_cons s

theorem mem_insertInOrder {a r : Row} {rows : List Row} :
    a ∈ insertInOrder r rows ↔ a = r ∨ a ∈ rows := by
  rw [(perm_insertInOrder r rows).mem_iff, List.mem_cons]

theorem ordered_insertInOrder {rows : List Row} (h : rows.Pairwise fun a b => a.id < b.id)
    (hfresh : ∀ other ∈ rows, other.id ≠ r.id) :
    (insertInOrder r rows).Pairwise fun a b => a.id < b.id := by
  induction rows with
  | nil => exact List.pairwise_singleton _ _
  | cons s rest ih =>
    obtain ⟨hs, hrest⟩ := List.pairwise_cons.1 h
    obtain ⟨hne, hfresh⟩ := List.forall_mem_cons.1 hfresh
    rw [insertInOrder]
    split
    · rename_i hlt
      refine List.pairwise_cons.2 ⟨fun other hother => ?_, h⟩
      rcases List.mem_cons.1 hother with rfl | hother
      · exact hlt
      · exact Int64.lt_trans hlt (hs other hother)
    · rename_i hnot
      have hlt : s.id < r.id := Int64.lt_of_le_of_ne (Int64.not_lt.1 hnot) hne
      refine List.pairwise_cons.2 ⟨fun other hother => ?_, ih hrest hfresh⟩
      rcases mem_insertInOrder.1 hother with rfl | hother
      · exact hlt
      · exact hs other hother

/-- A row that is let in has the id of the row it replaces, or one that no row has. -/
theorem fresh_of_checkRow {self : Option Int64} {touched : Nat → Bool}
    (h : t.checkRow self touched r = .ok ()) :
    some r.id = self ∨ ∀ other ∈ t.rows, other.id ≠ r.id := by
  unfold checkRow at h
  split at h
  · cases h
  · split at h
    · cases h
    · rename_i hfree
      by_cases hself : some r.id = self
      · exact .inl hself
      · right
        intro other hother heq
        apply hfree
        exact ⟨hself, List.any_eq_true.2 ⟨other, hother, by simpa using heq⟩⟩

/-! ## Adding and dropping rows -/

theorem wellFormed_addRow (ht : t.WellFormed) (hfits : r.Fits t.columns)
    (hfresh : ∀ other ∈ t.rows, other.id ≠ r.id) : (t.addRow r).WellFormed where
  names := ht.names
  fits other hother := by
    rcases mem_insertInOrder.1 hother with rfl | hother
    · exact hfits
    · exact ht.fits other hother
  oneKey := ht.oneKey
  ordered := ordered_insertInOrder ht.ordered hfresh

theorem wellFormed_filter (ht : t.WellFormed) (p : Row → Bool) :
    { t with rows := t.rows.filter p }.WellFormed where
  names := ht.names
  fits r hr := ht.fits r (List.mem_of_mem_filter hr)
  oneKey := ht.oneKey
  ordered := ht.ordered.filter p

/-- A column holds the cell that it gets in a new row. -/
theorem keeps_newCell (c : Column) (m : Machine) {given : Option Cell}
    (h : ∀ new, given = some new → new.settled = new) : c.affinity.Keeps (c.newCell m given) := by
  cases given with
  | some new => exact Affinity.keeps_store _ (h new rfl)
  | none => exact Affinity.keeps_store _ (Cell.settled_settled (c.default.cell m))

theorem fits_newCells (m : Machine) (hcells : Settled cells) :
    (⟨id, t.newCells m cells⟩ : Row).Fits t.columns := by
  have hkeeps : ∀ p ∈ t.columns.zipIdx,
      p.1.affinity.Keeps (p.1.newCell m (given? cells (.cell p.2))) :=
    fun p _ => keeps_newCell p.1 m fun _ => settled_of_given hcells
  have hboth : List.Forall₂ (fun c cell => c.affinity.Keeps cell)
      (t.columns.zipIdx.map Prod.fst) (t.newCells m cells) := by
    rw [newCells, List.forall₂_map_left_iff, List.forall₂_map_right_iff, List.forall₂_same]
    exact hkeeps
  rwa [List.zipIdx_map_fst] at hboth

/-- What an insert does: it takes an id that no row has and adds a row under it. -/
theorem of_insert (h : t.insert used m cells = .ok (id, t')) :
    t.idFor used m.draws (given? cells.reverse .id) = .ok id ∧ (∀ other ∈ t.rows, other.id ≠ id) ∧
      t' = t.addRow ⟨id, t.newCells m cells⟩ := by
  obtain ⟨found, hfound, h⟩ := Except.bind_eq_ok_iff.1 h
  obtain ⟨⟨⟩, hcheck, h⟩ := Except.bind_eq_ok_iff.1 h
  cases Except.ok.inj h
  rcases fresh_of_checkRow hcheck with hself | hfresh
  · cases hself
  · exact ⟨hfound, hfresh, rfl⟩

theorem wellFormed_insert (ht : t.WellFormed) (hcells : Settled cells)
    (h : t.insert used m cells = .ok (id, t')) : t'.WellFormed := by
  obtain ⟨-, hfresh, rfl⟩ := of_insert h
  exact wellFormed_addRow ht (fits_newCells m hcells) hfresh

/-! ## Changing rows -/

/-- A row as an update leaves it. -/
def rewritten (t : Table) (cells : List (Field × Cell)) (r : Row) : Row :=
  (t.changed cells r).toOption.getD r

/-- The cells of a changed row: what is given, converted by its column, and else what was there. -/
def changedCells (t : Table) (cells : List (Field × Cell)) (r : Row) : List Cell :=
  (t.columns.zip r.cells).zipIdx.map fun ((c, cell), i) =>
    match given? cells (.cell i) with
    | some new => c.affinity.store new
    | none => cell

theorem of_changed {new : Row} (h : t.changed cells r = .ok new) :
    changedId cells r = .ok new.id ∧ new.cells = t.changedCells cells r := by
  obtain ⟨id, hid, h⟩ := Except.bind_eq_ok_iff.1 h
  cases Except.ok.inj h
  exact ⟨hid, rfl⟩

theorem rewritten_of_changed {new : Row} (h : t.changed cells r = .ok new) :
    t.rewritten cells r = new := by
  rw [rewritten, h]
  rfl

/-- Without an id among the given cells a row keeps its own. -/
theorem rewritten_id (h : given? cells .id = none) (t : Table) (r : Row) :
    (t.rewritten cells r).id = r.id := by
  cases hchanged : t.changed cells r with
  | error fault => rw [rewritten, hchanged]; rfl
  | ok new =>
    obtain ⟨hid, -⟩ := of_changed hchanged
    rw [changedId, h] at hid
    rw [rewritten_of_changed hchanged, ← Except.ok.inj hid]

theorem fits_changedCells (id : Int64) (hcells : Settled cells) (hr : r.Fits t.columns) :
    (⟨id, t.changedCells cells r⟩ : Row).Fits t.columns := by
  obtain ⟨hlength, hzip⟩ := List.forall₂_iff_zip.1 hr
  have hkeeps : ∀ p ∈ (t.columns.zip r.cells).zipIdx, p.1.1.affinity.Keeps
      (match given? cells (.cell p.2) with
        | some new => p.1.1.affinity.store new
        | none => p.1.2) := by
    intro p hp
    cases hgiven : given? cells (.cell p.2) with
    | some c => exact Affinity.keeps_store _ (settled_of_given hcells hgiven)
    | none => exact hzip (List.fst_mem_of_mem_zipIdx hp)
  have hboth : List.Forall₂ (fun c cell => c.affinity.Keeps cell)
      (((t.columns.zip r.cells).zipIdx.map Prod.fst).map Prod.fst) (t.changedCells cells r) := by
    rw [changedCells, List.map_map, List.forall₂_map_left_iff, List.forall₂_map_right_iff,
      List.forall₂_same]
    exact hkeeps
  rwa [List.zipIdx_map_fst, List.map_fst_zip (Nat.le_of_eq hlength)] at hboth

/-- What an update comes to, when it has changed the rows that meet `p`. -/
structure Rewrites (cells : List (Field × Cell)) (p : Row → Bool) (t t' : Table) : Prop where
  wellFormed : t'.WellFormed
  same : t' = { t with rows := t'.rows }
  changed : ∀ r ∈ t.rows, p r = true → t.changed cells r = .ok (t.rewritten cells r)
  /-- No row is lost and none is added. -/
  perm : t'.rows.Perm (t.rows.map fun r => if p r = true then t.rewritten cells r else r)

theorem changed_of_same (h : t' = { t with rows := t'.rows }) : t'.changed = t.changed := by
  rw [h]
  rfl

theorem rewritten_of_same (h : t' = { t with rows := t'.rows }) : t'.rewritten = t.rewritten := by
  unfold rewritten
  rw [changed_of_same h]

/-- Only what `p` says of the rows of the table counts. -/
theorem Rewrites.congr {p q : Row → Bool} (h : Rewrites cells p t t')
    (hpq : ∀ r ∈ t.rows, p r = q r) : Rewrites cells q t t' where
  wellFormed := h.wellFormed
  same := h.same
  changed r hr hq := h.changed r hr (by rw [hpq r hr, hq])
  perm := by
    have hmap : t.rows.map (fun r => if p r = true then t.rewritten cells r else r) =
        t.rows.map fun r => if q r = true then t.rewritten cells r else r :=
      List.map_congr_left fun r hr => by rw [hpq r hr]
    rw [← hmap]
    exact h.perm

theorem of_updateRow (h : updateRow cells t r = .ok t') :
    ∃ new, t.changed cells r = .ok new ∧
      (new.id = r.id ∨ ∀ other ∈ t.rows, other.id ≠ new.id) ∧ t' = t.replaceRow r.id new := by
  obtain ⟨new, hnew, h⟩ := Except.bind_eq_ok_iff.1 h
  obtain ⟨⟨⟩, hcheck, h⟩ := Except.bind_eq_ok_iff.1 h
  refine ⟨new, hnew, ?_, (Except.ok.inj h).symm⟩
  rcases fresh_of_checkRow hcheck with hself | hfresh
  · exact .inl (Option.some.inj hself)
  · exact .inr hfresh

/-- Behind a step no other row has the id of the changed one. -/
theorem fresh_of_replaced {new : Row}
    (hfree : new.id = r.id ∨ ∀ other ∈ t.rows, other.id ≠ new.id) :
    ∀ other ∈ t.rows.filter (fun other => other.id != r.id), other.id ≠ new.id := by
  intro other hother heq
  obtain ⟨hmem, hne⟩ := List.mem_filter.1 hother
  rcases hfree with hid | hfresh
  · rw [heq, hid] at hne
    simp at hne
  · exact hfresh other hmem heq

theorem wellFormed_replaceRow (ht : t.WellFormed) {new : Row} (hfits : new.Fits t.columns)
    (hfree : new.id = r.id ∨ ∀ other ∈ t.rows, other.id ≠ new.id) :
    (t.replaceRow r.id new).WellFormed :=
  wellFormed_addRow (wellFormed_filter ht fun other => other.id != r.id) hfits
    (fresh_of_replaced hfree)

section

variable {new : Row} {rest : List Row}

/-- Apart from order, a replaced row stands in the place of the old one. -/
theorem perm_rows_replaceRow (ht : t.WellFormed) (hr : r ∈ t.rows) (hnotin : new ∉ rest)
    (hnew : t.rewritten cells r = new) :
    ((t.replaceRow r.id new).rows.map fun other =>
        if decide (other ∈ rest) = true then t.rewritten cells other else other).Perm
      (t.rows.map fun other =>
        if decide (other ∈ r :: rest) = true then t.rewritten cells other else other) := by
  have hafter : (t.replaceRow r.id new).rows.Perm
      (new :: t.rows.filter fun other => other.id != r.id) := perm_insertInOrder _ _
  have hbefore := perm_cons_filter (nodup_ids ht.ordered) hr
  refine (hafter.map _).trans (List.Perm.trans ?_ (hbefore.map _).symm)
  rw [List.map_cons, List.map_cons]
  simp only [hnotin, decide_false, Bool.false_eq_true, if_false, List.mem_cons_self, decide_true,
    if_true, hnew]
  refine List.Perm.cons _ (List.Perm.of_eq (List.map_congr_left fun other hother => ?_))
  have hother : other ≠ r := by
    rintro rfl
    simpa using (List.mem_filter.1 hother).2
  simp only [List.mem_cons, hother, false_or]

/-- A first step and the steps behind it.  The rows of these steps are those from before the first
one: none of them is `r`, and none has the id that `r` gets. -/
theorem Rewrites.cons (ht : t.WellFormed) (hr : r ∈ t.rows) (hnew : t.changed cells r = .ok new)
    (hfree : new.id = r.id ∨ ∀ other ∈ t.rows, other.id ≠ new.id)
    (hothers : ∀ other ∈ rest, other ∈ t.rows.filter fun other => other.id != r.id)
    (hstep : Rewrites cells (fun other => decide (other ∈ rest)) (t.replaceRow r.id new) t') :
    Rewrites cells (fun other => decide (other ∈ r :: rest)) t t' := by
  have hsame : t.replaceRow r.id new = { t with rows := (t.replaceRow r.id new).rows } := rfl
  have hnew' : t.rewritten cells r = new := rewritten_of_changed hnew
  have hnotin : new ∉ rest := fun hin => fresh_of_replaced hfree new (hothers new hin) rfl
  refine ⟨hstep.wellFormed, ?_, fun other hother htodo => ?_, ?_⟩
  · rw [hstep.same]
    rfl
  · rcases List.mem_cons.1 (of_decide_eq_true htodo) with rfl | hin
    · rw [hnew, hnew']
    · have hchanged := hstep.changed other (mem_insertInOrder.2 (.inr (hothers other hin)))
        (decide_eq_true hin)
      rwa [changed_of_same hsame, rewritten_of_same hsame] at hchanged
  · have hperm := hstep.perm
    rw [rewritten_of_same hsame] at hperm
    exact hperm.trans (perm_rows_replaceRow ht hr hnotin hnew')

end

/-- An update of rows that stand in the table, each once. -/
theorem rewrites_of_foldlM (hcells : Settled cells) {todo : List Row} (ht : t.WellFormed)
    (hmem : ∀ r ∈ todo, r ∈ t.rows) (hnodup : (todo.map Row.id).Nodup)
    (h : todo.foldlM (updateRow cells) t = .ok t') :
    Rewrites cells (fun r => decide (r ∈ todo)) t t' := by
  induction todo generalizing t with
  | nil =>
    cases Except.ok.inj h
    refine ⟨ht, rfl, fun r _ hr => ?_, ?_⟩
    · simp at hr
    · simp
  | cons r rest ih =>
    rw [List.foldlM_cons] at h
    obtain ⟨next, hnext, h⟩ := Except.bind_eq_ok_iff.1 h
    obtain ⟨new, hnew, hfree, rfl⟩ := of_updateRow hnext
    obtain ⟨hr, hrest⟩ := List.forall_mem_cons.1 hmem
    obtain ⟨hid, hnodup⟩ := List.nodup_cons.1 hnodup
    have hfits : new.Fits t.columns := by
      have hfits' := fits_changedCells new.id hcells (ht.fits r hr)
      rw [← (of_changed hnew).2] at hfits'
      exact hfits'
    have hothers : ∀ other ∈ rest, other ∈ t.rows.filter fun other => other.id != r.id := by
      intro other hother
      have hne : other.id ≠ r.id := fun heq => hid (heq ▸ List.mem_map_of_mem hother)
      exact List.mem_filter.2 ⟨hrest other hother, by simpa using hne⟩
    have hstep := ih (wellFormed_replaceRow ht hfits hfree)
      (fun other hother => mem_insertInOrder.2 (.inr (hothers other hother))) hnodup h
    exact .cons ht hr hnew hfree hothers hstep

/-- An update that succeeds changes the rows that meet `p`, and counts them. -/
theorem rewrites_of_update (ht : t.WellFormed) (hcells : Settled cells) {p : Row → Bool} {n : Nat}
    (h : t.update p cells = .ok (n, t')) :
    n = (t.rows.filter p).length ∧ Rewrites cells.reverse p t t' := by
  obtain ⟨last, hlast, h⟩ := Except.bind_eq_ok_iff.1 h
  cases Except.ok.inj h
  have hnodup : ((t.rows.filter p).map Row.id).Nodup :=
    nodup_ids (ht.ordered.filter p)
  have hrewrites := rewrites_of_foldlM (settled_reverse hcells) ht
    (fun r hr => List.mem_of_mem_filter hr) hnodup hlast
  refine ⟨rfl, hrewrites.congr fun r hr => ?_⟩
  simp [List.mem_filter, hr]

/-- Where no id is given, the rows keep their order. -/
theorem Rewrites.rows_eq {p : Row → Bool} (ht : t.WellFormed) (h : Rewrites cells p t t')
    (hid : given? cells .id = none) :
    t'.rows = t.rows.map fun r => if p r = true then t.rewritten cells r else r := by
  refine List.Perm.eq_of_pairwise ?_ h.wellFormed.ordered ?_
    h.perm
  · intro a b _ _ hab hba
    exact absurd (Int64.lt_trans hab hba) Int64.lt_irrefl
  · refine List.pairwise_map.2 (ht.ordered.imp fun {a b} hlt => ?_)
    have hkept : ∀ r, (if p r = true then t.rewritten cells r else r).id = r.id := by
      intro r
      split
      · exact rewritten_id hid t r
      · rfl
    rw [hkept, hkept]
    exact hlt

end Table

end Database

end CrudByName

import CrudByName.Proofs.Json.Lexemes

/-!
# Reading lists of a JSON text

The loops over items and over members are read for any reader of their parts: if that interprets
the parts as some `g` does (`Interprets`), then a list of them is interpreted part by part
(`list_of_listed`, `object_of_listed`).  One part without a meaning leaves the list without one.

Readers carry a proof that they leave less than they were given, so that a text cannot be rewritten
in front of them.  `outcome` forgets this proof.
-/

namespace CrudByName

namespace Json

namespace Reader

/-- The value that was read and what is left, without the proof that this is shorter. -/
def outcome {s : List Char} (r : Except Fault (Read α s)) : Option (α × List Char) :=
  r.toOption.map fun r => (r.value, r.rest)

section

variable {s t rest : List Char}

@[simp] theorem outcome_error (e : Fault) : outcome (.error e : Except Fault (Read α s)) = none :=
  rfl

@[simp] theorem outcome_ok (r : Read α s) : outcome (.ok r) = some (r.value, r.rest) :=
  rfl

@[simp] theorem outcome_after (h : t.length ≤ s.length) (r : Except Fault (Read α t)) :
    outcome (after h r) = outcome r := by
  cases r <;> rfl

theorem outcome_map (f : α → β) (r : Except Fault (Read α s)) :
    outcome (r.map fun r => (⟨f r.value, r.rest, r.shorter⟩ : Read β s)) =
      (outcome r).map fun p => (f p.1, p.2) := by
  cases r <;> rfl

theorem outcome_of_eq_ok {r : Except Fault (Read α s)} {x : Read α s} (h : r = .ok x) :
    outcome r = some (x.value, x.rest) := by
  rw [h, outcome_ok]

theorem exists_error_of_outcome {r : Except Fault (Read α s)} (h : outcome r = none) :
    ∃ e, r = .error e := by
  cases r with
  | error e => exact ⟨e, rfl⟩
  | ok r => cases h

theorem exists_ok_of_outcome {r : Except Fault (Read α s)} {a : α}
    (h : outcome r = some (a, rest)) : ∃ hr, r = .ok ⟨a, rest, hr⟩ := by
  cases r with
  | error e => cases h
  | ok r =>
    obtain ⟨b, rest', hr⟩ := r
    cases h
    exact ⟨hr, rfl⟩

theorem whole_of_outcome {element : Reader α} {a : α} (h : outcome (element s) = some (a, rest))
    (hrest : skipBlanks rest = []) : whole element s = .ok a := by
  obtain ⟨_, he⟩ := exists_ok_of_outcome h
  rw [whole, he]
  dsimp only
  rw [hrest]

/-! ## Blanks -/

theorem skipBlanks_append {w : List Char} (hw : Blanks w) (s : List Char) :
    skipBlanks (w ++ s) = skipBlanks s :=
  List.dropWhile_append_of_pos hw

theorem skipBlanks_cons {c : Char} (hc : isBlank c = false) (s : List Char) :
    skipBlanks (c :: s) = c :: s :=
  List.dropWhile_cons_of_neg (by simp [hc])

/-- Blanks in front of a character that is none. -/
theorem skipBlanks_append_cons {w : List Char} (hw : Blanks w) {c : Char}
    (hc : isBlank c = false) (s : List Char) : skipBlanks (w ++ c :: s) = c :: s := by
  rw [skipBlanks_append hw, skipBlanks_cons hc]

theorem goesOn_of_isBlank {c : Char} (h : isBlank c = true) : Numeral.goesOn c = false := by
  simp only [isBlank, Bool.or_eq_true, beq_iff_eq] at h
  rcases h with ((rfl | rfl) | rfl) | rfl <;> decide

/-- Neither blanks nor the character behind them go on with a number. -/
theorem ends_append_cons {w : List Char} (hw : Blanks w) {c : Char}
    (hc : Numeral.goesOn c = false) (s : List Char) : Numeral.Ends (w ++ c :: s) :=
  Text.stops_append_cons (fun b hb => goesOn_of_isBlank (hw b hb)) hc s

/-! ## Items -/

/-- The reader makes of a text what `g` makes of the thing that the text was written for. -/
def Interprets (element : Reader β) (P : α → List Char → Prop) (g : α → Option β) : Prop :=
  ∀ ⦃a t w rest⦄, P a t → Blanks w → Numeral.Ends rest →
    outcome (element (w ++ (t ++ rest))) = (g a).map fun b => (b, rest)

theorem Interprets.first {element : Reader β} {P : α → List Char → Prop} {g : α → Option β}
    {a : α} (hP : Interprets element P g) (h : P a t) (hrest : Numeral.Ends rest) :
    outcome (element (t ++ rest)) = (g a).map fun b => (b, rest) :=
  hP h blanks_nil hrest

/-- Begins with a character that is neither blank nor a closing bracket. -/
def Opens (t : List Char) : Prop :=
  ∃ c tail, t = c :: tail ∧ isBlank c = false ∧ c ≠ ']'

theorem Opens.append (h : Opens t) (rest : List Char) : Opens (t ++ rest) := by
  obtain ⟨c, tail, rfl, hblank, hc⟩ := h
  exact ⟨c, tail ++ rest, rfl, hblank, hc⟩

section

variable {element : Reader β} {b : β} {next : List Char}

theorem items_last {o : Option β} (h : outcome (element s) = o.map fun b => (b, t))
    (ht : skipBlanks t = ']' :: rest) :
    outcome (items element s) = o.map fun b => ([b], rest) := by
  cases o with
  | none =>
    obtain ⟨e, he⟩ := exists_error_of_outcome h
    rw [items, he]
    rfl
  | some b =>
    obtain ⟨hr, he⟩ := exists_ok_of_outcome h
    rw [items, he]
    dsimp only
    split <;> simp_all

theorem items_cons {o : Option β} {c : Char} (h : outcome (element s) = o.map fun b => (b, t))
    (ht : skipBlanks t = ',' :: rest) (hrest : skipBlanks rest = c :: next) (hc : c ≠ ']') :
    outcome (items element s) =
      o.bind fun b => (outcome (items element (c :: next))).map fun p => (b :: p.1, p.2) := by
  cases o with
  | none =>
    obtain ⟨e, he⟩ := exists_error_of_outcome h
    rw [items, he]
    rfl
  | some b =>
    obtain ⟨hr, he⟩ := exists_ok_of_outcome h
    rw [items, he]
    dsimp only
    split
    · simp_all
    · simp_all
    · rename_i tail htail
      obtain rfl : tail = rest := by simpa [ht] using htail.symm
      split
      · simp_all
      · rename_i hclose
        simp [hrest, hc] at hclose
      · rename_i d more _ hmore
        obtain ⟨rfl, rfl⟩ : d = c ∧ more = next := by simpa [hrest] using hmore.symm
        cases items element (d :: more) <;> rfl
    · simp_all

theorem list_nil (h : skipBlanks s = ']' :: rest) : outcome (list element s) = some ([], rest) := by
  unfold list
  split <;> simp_all

theorem list_cons {c : Char} (h : skipBlanks s = c :: rest) (hc : c ≠ ']') :
    outcome (list element s) = outcome (items element (c :: rest)) := by
  unfold list
  split
  · simp_all
  · rename_i hclose
    simp [h, hc] at hclose
  · rename_i d tail _ htail
    obtain ⟨rfl, rfl⟩ : d = c ∧ tail = rest := by simpa [h] using htail.symm
    exact outcome_after _ _

end

section

variable {P : α → List Char → Prop} {g : α → Option β} {element : Reader β} {as : List α}

theorem opens_of_separated (hopens : ∀ ⦃a t⦄, P a t → Opens t) (h : Separated P as t) :
    Opens t := by
  cases h with
  | last h _ => exact (hopens h).append _
  | cons h _ _ _ => exact (hopens h).append _

/-- Items that are separated by commas, up to the bracket. -/
theorem items_of_separated (hopens : ∀ ⦃a t⦄, P a t → Opens t) (hP : Interprets element P g)
    (h : Separated P as t) (rest : List Char) :
    outcome (items element (t ++ ']' :: rest)) = (as.mapM g).map fun bs => (bs, rest) := by
  -- The text behind a part is the rest of the list, and never goes on with the part.
  induction h with
  | @last a t w h hw =>
    have hfirst := hP.first h (ends_append_cons hw (c := ']') (by decide) rest)
    have hclose := skipBlanks_append_cons hw (c := ']') (by decide) rest
    rw [List.append_assoc, items_last hfirst hclose]
    cases hg : g a <;> simp [hg]
  | @cons a as t w v u h hw hv more ih =>
    have htext : t ++ (w ++ ',' :: (v ++ u)) ++ ']' :: rest =
        t ++ (w ++ ',' :: (v ++ (u ++ ']' :: rest))) := by
      simp
    obtain ⟨c, next, hnext, hblank, hc⟩ := (opens_of_separated hopens more).append (']' :: rest)
    have hfirst := hP.first h (ends_append_cons hw (c := ',') (by decide) (v ++ (u ++ ']' :: rest)))
    have hcomma := skipBlanks_append_cons hw (c := ',') (by decide) (v ++ (u ++ ']' :: rest))
    have hskip : skipBlanks (v ++ (u ++ ']' :: rest)) = c :: next := by
      rw [hnext, skipBlanks_append_cons hv hblank]
    rw [htext, items_cons hfirst hcomma hskip hc, ← hnext, ih]
    cases hg : g a <;> cases hm : as.mapM g <;> simp [hg, hm]

theorem list_of_listed (hopens : ∀ ⦃a t⦄, P a t → Opens t) (hP : Interprets element P g)
    (h : Listed P as t) (rest : List Char) :
    outcome (list element (t ++ ']' :: rest)) = (as.mapM g).map fun bs => (bs, rest) := by
  cases h with
  | none hw => simp [list_nil (skipBlanks_append_cons hw (by decide) rest)]
  | @some _ w t hw h =>
    obtain ⟨c, next, hnext, hblank, hc⟩ := (opens_of_separated hopens h).append (']' :: rest)
    have hskip : skipBlanks (w ++ t ++ ']' :: rest) = c :: next := by
      rw [List.append_assoc, hnext, skipBlanks_append_cons hw hblank]
    rw [list_cons hskip hc, ← hnext, items_of_separated hopens hP h]

end

/-! ## Members -/

theorem string_of_writes {name : String} (h : Quoted.Writes name.toList t) (rest : List Char) :
    outcome (string (t ++ '"' :: rest)) = some (name, rest) := by
  have hread := Quoted.read_of_writes h rest
  unfold string
  split
  · simp_all
  · simp_all

section

variable {κ : Type} {name : Reader κ} {element : κ → Reader β} {k : κ} {b : β} {next : List Char}

theorem memberValue_colon (element : Reader β) (h : skipBlanks s = ':' :: rest) :
    outcome (memberValue element s) = outcome (element rest) := by
  unfold memberValue
  split
  · simp_all
  · rename_i tail htail
    obtain rfl : tail = rest := by simpa [h] using htail.symm
    exact outcome_after _ _
  · simp_all

theorem member_name (h : outcome (name s) = some (k, t)) :
    outcome (member name element s) =
      (outcome (memberValue (element k) t)).map fun p => ((k, p.1), p.2) := by
  obtain ⟨hr, hname⟩ := exists_ok_of_outcome h
  rw [member, hname]
  dsimp only
  cases memberValue (element k) t <;> rfl

theorem members_last {o : Option (κ × β)}
    (h : outcome (member name element s) = o.map fun m => (m, t))
    (ht : skipBlanks t = '}' :: rest) :
    outcome (members name element s) = o.map fun m => ([m], rest) := by
  cases o with
  | none =>
    obtain ⟨e, he⟩ := exists_error_of_outcome h
    rw [members, he]
    rfl
  | some m =>
    obtain ⟨hr, he⟩ := exists_ok_of_outcome h
    rw [members, he]
    dsimp only
    split <;> simp_all

theorem members_cons {o : Option (κ × β)}
    (h : outcome (member name element s) = o.map fun m => (m, t))
    (ht : skipBlanks t = ',' :: rest) (hrest : skipBlanks rest = '"' :: next) :
    outcome (members name element s) =
      o.bind fun m => (outcome (members name element next)).map fun p => (m :: p.1, p.2) := by
  cases o with
  | none =>
    obtain ⟨e, he⟩ := exists_error_of_outcome h
    rw [members, he]
    rfl
  | some m =>
    obtain ⟨hr, he⟩ := exists_ok_of_outcome h
    rw [members, he]
    dsimp only
    split
    · simp_all
    · simp_all
    · rename_i tail htail
      obtain rfl : tail = rest := by simpa [ht] using htail.symm
      split
      · simp_all
      · simp_all
      · rename_i more hmore
        obtain rfl : more = next := by simpa [hrest] using hmore.symm
        cases members name element more <;> rfl
      · simp_all
    · simp_all

theorem object_nil (h : skipBlanks s = '}' :: rest) :
    outcome (object name element s) = some ([], rest) := by
  unfold object
  split <;> simp_all

theorem object_cons (h : skipBlanks s = '"' :: rest) :
    outcome (object name element s) = outcome (members name element rest) := by
  unfold object
  split
  · simp_all
  · simp_all
  · rename_i tail htail
    obtain rfl : tail = rest := by simpa [h] using htail.symm
    exact outcome_after _ _
  · simp_all

end

section

variable {P : α → List Char → Prop} {g : α → Option β} {element : Reader β}
  {m : String × α} {ms : List (String × α)}

/-- A member begins with a quote, and is read from behind it. -/
theorem member_of_writes (hP : Interprets element P g) (h : WritesMember P m t) :
    ∃ tail, t = '"' :: tail ∧ ∀ rest, Numeral.Ends rest →
      outcome (member string (fun _ => element) (tail ++ rest)) =
        ((g m.2).map fun b => (m.1, b)).map fun n => (n, rest) := by
  cases h with
  | @mk name a s w v t hname hw hv ht =>
    refine ⟨_, rfl, fun rest hrest => ?_⟩
    have htext : s ++ '"' :: (w ++ ':' :: (v ++ t)) ++ rest =
        s ++ '"' :: (w ++ ':' :: (v ++ (t ++ rest))) := by
      simp
    have hcolon := skipBlanks_append_cons hw (c := ':') (by decide) (v ++ (t ++ rest))
    rw [htext, member_name (string_of_writes hname _), memberValue_colon _ hcolon,
      hP ht hv hrest]
    cases g a <;> rfl

/-- Members that are separated by commas, up to the brace. -/
theorem members_of_separated (hP : Interprets element P g)
    (h : Separated (WritesMember P) ms t) :
    ∃ tail, t = '"' :: tail ∧ ∀ rest,
      outcome (members string (fun _ => element) (tail ++ '}' :: rest)) =
        (ms.mapM fun m => (g m.2).map fun b => (m.1, b)).map fun ns => (ns, rest) := by
  induction h with
  | @last m t w h hw =>
    obtain ⟨tail, rfl, hmember⟩ := member_of_writes hP h
    refine ⟨tail ++ w, rfl, fun rest => ?_⟩
    have hfirst := hmember _ (ends_append_cons hw (c := '}') (by decide) rest)
    have hclose := skipBlanks_append_cons hw (c := '}') (by decide) rest
    rw [List.append_assoc, members_last hfirst hclose]
    cases hg : g m.2 <;> simp [hg]
  | @cons m ms t w v u h hw hv _ ih =>
    obtain ⟨tail, rfl, hmember⟩ := member_of_writes hP h
    obtain ⟨next, rfl, hmore⟩ := ih
    refine ⟨tail ++ (w ++ ',' :: (v ++ '"' :: next)), rfl, fun rest => ?_⟩
    have htext : tail ++ (w ++ ',' :: (v ++ '"' :: next)) ++ '}' :: rest =
        tail ++ (w ++ ',' :: (v ++ '"' :: (next ++ '}' :: rest))) := by
      simp
    have hfirst := hmember _
      (ends_append_cons hw (c := ',') (by decide) (v ++ '"' :: (next ++ '}' :: rest)))
    have hcomma := skipBlanks_append_cons hw (c := ',') (by decide)
      (v ++ '"' :: (next ++ '}' :: rest))
    have hquote := skipBlanks_append_cons hv (c := '"') (by decide) (next ++ '}' :: rest)
    rw [htext, members_cons hfirst hcomma hquote, hmore]
    cases hg : g m.2 <;> cases hm : ms.mapM fun m => (g m.2).map fun b => (m.1, b) <;>
      simp [hg, hm]

theorem object_of_listed (hP : Interprets element P g) (h : Listed (WritesMember P) ms t)
    (rest : List Char) :
    outcome (object string (fun _ => element) (t ++ '}' :: rest)) =
      (ms.mapM fun m => (g m.2).map fun b => (m.1, b)).map fun ns => (ns, rest) := by
  cases h with
  | none hw => simp [object_nil (skipBlanks_append_cons hw (by decide) rest)]
  | @some _ w t hw h =>
    obtain ⟨tail, rfl, hmembers⟩ := members_of_separated hP h
    have hquote := skipBlanks_append_cons hw (c := '"') (by decide) (tail ++ '}' :: rest)
    have htext : w ++ '"' :: tail ++ '}' :: rest = w ++ '"' :: (tail ++ '}' :: rest) := by
      simp
    rw [htext, object_cons hquote, hmembers]

end

end

end Reader

end Json

end CrudByName

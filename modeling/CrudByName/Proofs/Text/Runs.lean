import Mathlib.Data.List.TakeWhile

/-!
# Runs of characters

`runs starts inside s` reads a text from left to right and collects its runs: each begins at a
character that `starts` accepts and goes on for as long as `inside` accepts what follows.  All other
characters are passed over.

A printed text is made of parts, and `Yields s found` says what one part contributes: put in front
of any text that does not go on with its last run, it adds just the runs `found`.  Parts are joined
by separators (`Separates`), which start no run and end every one, so that what a whole text yields
is put together from its parts (`Yields.append`, `Yields.intercalate`).

`countP_eq_length_runs` says that no character which starts a run is left out, as long as none can
stand inside one.
-/

namespace CrudByName

namespace Text

/-- The runs of a text, from left to right. -/
def runs (starts inside : Char → Bool) : List Char → List (List Char)
  | [] => []
  | c :: rest =>
    if starts c then
      (c :: rest.takeWhile inside) :: runs starts inside (rest.dropWhile inside)
    else runs starts inside rest
termination_by s => s.length
decreasing_by
  · have := (List.dropWhile_sublist (l := rest) inside).length_le
    simp only [List.length_cons]
    omega
  · simp

/-- A text that does not go on with a run. -/
def Stops (inside : Char → Bool) (rest : List Char) : Prop :=
  ∀ c ∈ rest.head?, inside c = false

instance (inside : Char → Bool) (rest : List Char) : Decidable (Stops inside rest) :=
  Option.decidableForallMem rest.head?

/-- A text in which no run starts. -/
def StartsNone (starts : Char → Bool) (s : List Char) : Prop :=
  ∀ c ∈ s, starts c = false

-- Named, since an instance search may decide this by going over all characters there are.
instance (starts : Char → Bool) (s : List Char) : Decidable (StartsNone starts s) :=
  List.decidableBAll (fun c => starts c = false) s

/-- A text that starts no run, and ends the one before it. -/
def Separates (starts inside : Char → Bool) (sep : List Char) : Prop :=
  sep ≠ [] ∧ Stops inside sep ∧ StartsNone starts sep

instance (starts inside : Char → Bool) (sep : List Char) :
    Decidable (Separates starts inside sep) :=
  inferInstanceAs (Decidable (sep ≠ [] ∧ Stops inside sep ∧ StartsNone starts sep))

section

variable {starts inside : Char → Bool}

theorem runs_cons_of_starts {c : Char} (h : starts c = true) (s : List Char) :
    runs starts inside (c :: s) =
      (c :: s.takeWhile inside) :: runs starts inside (s.dropWhile inside) := by
  rw [runs, if_pos h]

theorem runs_cons_of_not_starts {c : Char} (h : starts c = false) (s : List Char) :
    runs starts inside (c :: s) = runs starts inside s := by
  rw [runs, if_neg (by simp [h])]

theorem runs_append_of_startsNone {s : List Char} (h : StartsNone starts s) (rest : List Char) :
    runs starts inside (s ++ rest) = runs starts inside rest := by
  induction s with
  | nil => rfl
  | cons c s ih =>
    obtain ⟨hc, hs⟩ := List.forall_mem_cons.1 h
    rw [List.cons_append, runs_cons_of_not_starts hc, ih hs]

theorem takeWhile_append_of_stops {w rest : List Char} (hw : ∀ c ∈ w, inside c = true)
    (hrest : Stops inside rest) : (w ++ rest).takeWhile inside = w := by
  rw [List.takeWhile_append_of_pos hw]
  cases rest with
  | nil => simp
  | cons c rest => simp [hrest c rfl]

theorem dropWhile_append_of_stops {w rest : List Char} (hw : ∀ c ∈ w, inside c = true)
    (hrest : Stops inside rest) : (w ++ rest).dropWhile inside = rest := by
  rw [List.dropWhile_append_of_pos hw]
  cases rest with
  | nil => rfl
  | cons c rest => simp [hrest c rfl]

theorem stops_cons {c : Char} (hc : inside c = false) (s : List Char) : Stops inside (c :: s) := by
  intro d hd
  cases hd
  exact hc

/-- A run does not go on with what stands between it and a character that ends it. -/
theorem stops_append_cons {w : List Char} (hw : ∀ c ∈ w, inside c = false) {c : Char}
    (hc : inside c = false) (s : List Char) : Stops inside (w ++ c :: s) := by
  cases w with
  | nil => exact stops_cons hc s
  | cons b w => exact stops_cons (hw b List.mem_cons_self) _

/-! ## Counting -/

/-- Every character that starts a run starts one, if none can stand inside a run. -/
theorem countP_eq_length_runs (hinside : ∀ c, inside c = true → starts c = false)
    (s : List Char) : s.countP starts = (runs starts inside s).length := by
  induction s using runs.induct starts inside with
  | case1 => simp [runs]
  | case2 c rest hc ih =>
    have htaken : (rest.takeWhile inside).countP starts = 0 := by
      refine List.countP_eq_zero.2 fun x hx => ?_
      simp [hinside x (List.mem_takeWhile_imp hx)]
    have hsplit : rest.countP starts = (rest.dropWhile inside).countP starts := by
      calc rest.countP starts
          = (rest.takeWhile inside ++ rest.dropWhile inside).countP starts := by
            rw [List.takeWhile_append_dropWhile]
        _ = (rest.dropWhile inside).countP starts := by
            rw [List.countP_append, htaken, Nat.zero_add]
    rw [List.countP_cons_of_pos hc, runs_cons_of_starts hc, List.length_cons, hsplit, ih]
  | case3 c rest hc ih =>
    rw [List.countP_cons_of_neg hc, runs_cons_of_not_starts (by simpa using hc), ih]

/-! ## Parts of a text -/

/-- What a part of a text contributes to its runs, whatever follows it. -/
def Yields (starts inside : Char → Bool) (s : List Char) (found : List (List Char)) : Prop :=
  ∀ rest, Stops inside rest → runs starts inside (s ++ rest) = found ++ runs starts inside rest

/-- What the whole of a text yields are its runs. -/
theorem Yields.runs_eq {s : List Char} {found : List (List Char)}
    (h : Yields starts inside s found) : runs starts inside s = found := by
  have hall := h [] (fun c hc => by cases hc)
  rwa [List.append_nil, runs, List.append_nil] at hall

theorem yields_run {c : Char} {w : List Char} (hc : starts c = true)
    (hw : ∀ x ∈ w, inside x = true) : Yields starts inside (c :: w) [c :: w] := by
  intro rest hrest
  rw [List.cons_append, runs_cons_of_starts hc, takeWhile_append_of_stops hw hrest,
    dropWhile_append_of_stops hw hrest, List.singleton_append]

theorem yields_nil {s : List Char} (h : StartsNone starts s) : Yields starts inside s [] :=
  fun rest _ => runs_append_of_startsNone h rest

theorem Yields.lead {s t : List Char} {found : List (List Char)} (hs : StartsNone starts s)
    (ht : Yields starts inside t found) : Yields starts inside (s ++ t) found := by
  intro rest hrest
  rw [List.append_assoc, runs_append_of_startsNone hs, ht rest hrest]

/-- Two parts with a separator between them. -/
theorem Yields.append {s sep t : List Char} {found more : List (List Char)}
    (hs : Yields starts inside s found) (hsep : Separates starts inside sep)
    (ht : Yields starts inside t more) :
    Yields starts inside (s ++ sep ++ t) (found ++ more) := by
  obtain ⟨hne, hstops, hnone⟩ := hsep
  intro rest hrest
  have hnext : Stops inside (sep ++ (t ++ rest)) := by
    cases sep with
    | nil => exact absurd rfl hne
    | cons c sep => exact hstops
  calc runs starts inside (s ++ sep ++ t ++ rest)
      = runs starts inside (s ++ (sep ++ (t ++ rest))) := by simp only [List.append_assoc]
    _ = found ++ runs starts inside (sep ++ (t ++ rest)) := hs _ hnext
    _ = found ++ runs starts inside (t ++ rest) := by rw [runs_append_of_startsNone hnone]
    _ = found ++ (more ++ runs starts inside rest) := by rw [ht rest hrest]
    _ = found ++ more ++ runs starts inside rest := (List.append_assoc ..).symm

/-- A part with a separator at its end. -/
theorem Yields.trail {s sep : List Char} {found : List (List Char)}
    (hs : Yields starts inside s found) (hsep : Separates starts inside sep) :
    Yields starts inside (s ++ sep) found := by
  have hnil : Yields starts inside [] [] := yields_nil (fun c hc => by cases hc)
  simpa only [List.append_nil] using hs.append hsep hnil

/-- A list of parts with a separator between each two. -/
theorem Yields.intercalate {xs : List α} {part : α → List Char} {found : α → List (List Char)}
    {sep : List Char} (hsep : Separates starts inside sep)
    (h : ∀ x, Yields starts inside (part x) (found x)) :
    Yields starts inside (sep.intercalate (xs.map part)) (xs.flatMap found) := by
  induction xs with
  | nil => exact yields_nil (fun c hc => by cases hc)
  | cons x xs ih =>
    cases xs with
    | nil => simpa using h x
    | cons y ys =>
      rw [List.map_cons, List.map_cons, List.intercalate_cons_cons, List.flatMap_cons]
      exact (h x).append hsep ih

/-- A list of parts with one run each. -/
theorem Yields.intercalate_map {xs : List α} {part found : α → List Char} {sep : List Char}
    (hsep : Separates starts inside sep) (h : ∀ x, Yields starts inside (part x) [found x]) :
    Yields starts inside (sep.intercalate (xs.map part)) (xs.map found) := by
  rw [List.map_eq_flatMap (f := found)]
  exact intercalate hsep h

/-- A list of parts without runs. -/
theorem Yields.intercalate_nil {xs : List α} {part : α → List Char} {sep : List Char}
    (hsep : Separates starts inside sep) (h : ∀ x, Yields starts inside (part x) []) :
    Yields starts inside (sep.intercalate (xs.map part)) [] := by
  have hall : Yields starts inside (sep.intercalate (xs.map part)) (xs.flatMap fun _ => []) :=
    intercalate hsep h
  rwa [List.flatMap_eq_nil_iff.2 fun _ _ => rfl] at hall

end

end Text

end CrudByName

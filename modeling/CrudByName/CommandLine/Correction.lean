import CrudByName.Text.Cluster

/-!
# Corrected lines

A line may hold backspaces, each of which takes back the cluster before it, or nothing if none is
left.  How many bytes a cluster has is kept in one byte; of a longer cluster only what is above a
multiple of 256 bytes is taken back, and where that would cut a character in two there is no
corrected line (`corrected?`).  A line without backspaces is left as it is
(`corrected?_eq_some`).
-/

namespace CrudByName

namespace Correction

/-- The character that takes back what is before it. -/
def backspace : Char := '\x08'

/-- A line as far as it is corrected: its characters and the sizes of its clusters, the last ones
first. -/
structure Draft where
  reversed : List Char
  sizes : List Nat
  deriving DecidableEq, Repr

/-- The size of a text in UTF-8. -/
def byteCount (s : List Char) : Nat :=
  s.foldl (fun n c => n + c.utf8Size) 0

/-- Takes bytes off the front, if they are whole characters. -/
def dropBytes? : (bytes : Nat) → List Char → Option (List Char)
  | 0, s => some s
  | _ + 1, [] => none
  | n + 1, c :: s => if c.utf8Size ≤ n + 1 then dropBytes? (n + 1 - c.utf8Size) s else none

/-- Adds the next cluster of a line, or takes one back. -/
def Draft.add? (d : Draft) (cluster : List Char) : Option Draft :=
  if cluster = [backspace] then
    match d.sizes with
    | [] => some d
    | size :: sizes => (dropBytes? size d.reversed).map fun s => ⟨s, sizes⟩
  else some ⟨cluster.reverse ++ d.reversed, byteCount cluster % 256 :: d.sizes⟩

/-- The line with its backspaces carried out. -/
def corrected? (line : List Char) : Option (List Char) :=
  ((Text.clusters line).foldlM Draft.add? ⟨[], []⟩).map fun d => d.reversed.reverse

/-! ## Lines without backspaces -/

theorem foldlM_add? {clusters : List (List Char)} (h : [backspace] ∉ clusters) (d : Draft) :
    ∃ sizes, clusters.foldlM Draft.add? d =
      some ⟨clusters.flatten.reverse ++ d.reversed, sizes⟩ := by
  induction clusters generalizing d with
  | nil => exact ⟨d.sizes, rfl⟩
  | cons cluster clusters ih =>
    have hne : cluster ≠ [backspace] := fun e => h (e ▸ List.mem_cons_self)
    obtain ⟨sizes, hsizes⟩ := ih (fun hm => h (List.mem_cons_of_mem _ hm))
      ⟨cluster.reverse ++ d.reversed, byteCount cluster % 256 :: d.sizes⟩
    refine ⟨sizes, ?_⟩
    rw [List.foldlM_cons, Draft.add?, if_neg hne]
    simpa using hsizes

theorem corrected?_eq_some {line : List Char} (h : backspace ∉ line) :
    corrected? line = some line := by
  have hclusters : [backspace] ∉ Text.clusters line := fun hm =>
    h (by
      rw [← Text.flatten_clusters line]
      exact List.mem_flatten.mpr ⟨_, hm, List.mem_singleton.mpr rfl⟩)
  obtain ⟨sizes, hsizes⟩ := foldlM_add? hclusters ⟨[], []⟩
  simp [corrected?, hsizes, Text.flatten_clusters]

end Correction

end CrudByName

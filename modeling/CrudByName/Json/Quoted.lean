import CrudByName.Json.Fault
import CrudByName.Text.Hex

/-!
# Strings of a JSON text

`Quoted.read` reads what follows an opening quote, up to and with the closing one.  An escape of
four hexadecimal digits is one unit of UTF-16: a high surrogate has to be followed by a low one in
a second escape, and the two make one character; any other surrogate is refused.

`Quoted.skip` finds the end of a string that nobody wants to know.  It asks for well-formed
escapes, but does not pair surrogates.
-/

namespace CrudByName

namespace Json

namespace Quoted

/-- The character behind a backslash and a letter. -/
def letter? (c : Char) : Option Char :=
  if c = '"' then some '"'
  else if c = '\\' then some '\\'
  else if c = '/' then some '/'
  else if c = 'b' then some '\x08'
  else if c = 'f' then some '\x0c'
  else if c = 'n' then some '\n'
  else if c = 'r' then some '\r'
  else if c = 't' then some '\t'
  else none

/-- The number written by the first four characters, which have to be hexadecimal digits. -/
def unit? : List Char → Option Nat
  | a :: b :: c :: d :: _ => do
    let a ← Hex.value? a
    let b ← Hex.value? b
    let c ← Hex.value? c
    let d ← Hex.value? d
    return ((a * 16 + b) * 16 + c) * 16 + d
  | _ => none

/-- Four bytes are taken before they are looked at. -/
def unitFault (s : List Char) : Fault :=
  if byteCount s < 4 then ⟨.endInString, 0⟩ else ⟨.invalidEscape, byteCount s - 4⟩

/-- The number behind `\u`. -/
def unit (s : List Char) : Except Fault Nat :=
  match unit? s with
  | some n => .ok n
  | none => .error (unitFault s)

/-- The numbers that begin a pair of surrogates. -/
def isHighSurrogate (n : Nat) : Bool :=
  0xD800 ≤ n && n ≤ 0xDBFF

/-- The numbers that end a pair of surrogates. -/
def isLowSurrogate (n : Nat) : Bool :=
  0xDC00 ≤ n && n ≤ 0xDFFF

/-- The character of a pair of surrogates. -/
def joined (high low : Nat) : Char :=
  Char.ofNat ((high - 0xD800) * 0x400 + (low - 0xDC00) + 0x10000)

/-- The low surrogate that has to follow a high one, from its backslash on; the six characters of
its escape are not cut off. -/
def lowUnit (s : List Char) : Except Fault Nat :=
  match s with
  | [] => .error ⟨.endInString, 0⟩
  | '\\' :: [] => .error ⟨.endInString, 0⟩
  | '\\' :: 'u' :: rest =>
    match unit rest with
    | .error e => .error e
    | .ok n => if isLowSurrogate n then .ok n else .error (.reached .loneSurrogate (rest.drop 4))
  | '\\' :: rest => .error (.seen .unpairedSurrogate rest)
  | rest => .error (.seen .unpairedSurrogate rest)

/-- The character of an escape behind `\u`, and what follows it. -/
def character (s : List Char) : Except Fault (Char × List Char) :=
  match unit s with
  | .error e => .error e
  | .ok n =>
    if isLowSurrogate n then .error (.reached .loneSurrogate (s.drop 4))
    else if isHighSurrogate n then
      match lowUnit (s.drop 4) with
      | .error e => .error e
      | .ok low => .ok (joined n low, s.drop 10)
    else .ok (Char.ofNat n, s.drop 4)

theorem length_character {s rest : List Char} {c : Char} (h : character s = .ok (c, rest)) :
    rest.length ≤ s.length := by
  unfold character at h
  split at h
  · simp at h
  · split at h
    · simp at h
    · split at h
      · split at h
        · simp at h
        · simp only [Except.ok.injEq, Prod.mk.injEq] at h
          simp [← h.2]
      · simp only [Except.ok.injEq, Prod.mk.injEq] at h
        simp [← h.2]

/-- The characters up to the closing quote, and what follows it. -/
def read (s : List Char) : Except Fault (List Char × List Char) :=
  match s with
  | [] => .error ⟨.endInString, 0⟩
  | '"' :: rest => .ok ([], rest)
  | '\\' :: [] => .error ⟨.endInString, 0⟩
  | '\\' :: 'u' :: rest =>
    match h : character rest with
    | .error e => .error e
    | .ok (c, rest') =>
      have := length_character h
      (read rest').map fun (t, r) => (c :: t, r)
  | '\\' :: c :: rest =>
    match letter? c with
    | none => .error (.seen .invalidEscape (c :: rest))
    | some d => (read rest).map fun (t, r) => (d :: t, r)
  | c :: rest =>
    if c.toNat < 0x20 then .error (.reached .controlCharacter rest)
    else (read rest).map fun (t, r) => (c :: t, r)
termination_by s.length
decreasing_by all_goals simp only [List.length_cons]; omega

theorem length_read {s t rest : List Char} (h : read s = .ok (t, rest)) :
    rest.length < s.length := by
  have key : ∀ {c : Char} {s : List Char} {t rest : List Char},
      (read s).map (fun p => (c :: p.1, p.2)) = .ok (t, rest) →
        ∃ t', read s = .ok (t', rest) := by
    intro c s t rest h
    cases hs : read s with
    | error e => simp [hs, Except.map] at h
    | ok p =>
      simp only [hs, Except.map, Except.ok.injEq, Prod.mk.injEq] at h
      exact ⟨p.1, by rw [← h.2]⟩
  fun_induction read s generalizing t rest with
  | case1 => simp at h
  | case2 => simp_all
  | case3 => simp at h
  | case4 => simp_all
  | case5 r c r' hc hr ih =>
    obtain ⟨t', ht⟩ := key h
    have := ih ht
    simp only [List.length_cons]
    omega
  | case6 => simp_all
  | case7 c r _ d _ ih =>
    obtain ⟨t', ht⟩ := key h
    have := ih ht
    simp only [List.length_cons]
    omega
  | case8 => simp_all
  | case9 c r _ _ _ _ _ ih =>
    obtain ⟨t', ht⟩ := key h
    have := ih ht
    simp only [List.length_cons]
    omega

/-- What follows the closing quote, for a string whose characters do not matter. -/
def skip (s : List Char) : Except Fault (List Char) :=
  match s with
  | [] => .error ⟨.endInString, 0⟩
  | '"' :: rest => .ok rest
  | '\\' :: [] => .error ⟨.endInString, 0⟩
  | '\\' :: 'u' :: rest =>
    match unit rest with
    | .error e => .error e
    | .ok _ => skip (rest.drop 4)
  | '\\' :: c :: rest =>
    match letter? c with
    | none => .error (.seen .invalidEscape (c :: rest))
    | some _ => skip rest
  | c :: rest =>
    if c.toNat < 0x20 then .error (.reached .controlCharacter rest) else skip rest
termination_by s.length
decreasing_by all_goals simp only [List.length_cons, List.length_drop]; omega

theorem length_skip {s rest : List Char} (h : skip s = .ok rest) : rest.length < s.length := by
  fun_induction skip s generalizing rest with
  | case1 => simp at h
  | case2 => simp_all
  | case3 => simp at h
  | case4 => simp_all
  | case5 r _ _ ih =>
    have := ih h
    simp only [List.length_cons, List.length_drop] at this ⊢
    omega
  | case6 => simp_all
  | case7 _ r _ _ _ ih =>
    have := ih h
    simp only [List.length_cons]
    omega
  | case8 => simp_all
  | case9 _ r _ _ _ _ _ ih =>
    have := ih h
    simp only [List.length_cons]
    omega

end Quoted

end Json

end CrudByName

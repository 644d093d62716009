import CrudByName.Proofs.Call.Reading
import CrudByName.Proofs.Json.Members
import CrudByName.Proofs.Json.Recognition
import CrudByName.Proofs.Json.Writing

/-!
# The arguments of a call

The text between the parentheses of a call is read between two brackets that are put around it.
`Call.parse_parenthesized` says what this comes to, with no brackets and no reader: the text is a
list of JSON values, and each of them is an argument.

Which forms can be read is said by `Form.Readable`: their numbers are finite, and they do not nest
deeper than a reader goes.  What becomes of them as arguments is said by `Form.Denotes`.  A value
that is neither an array nor an object converts (`Form.Converts`).  An object is a record, made by
inserting its members in the order of the text, where nothing is asked of a member but the last of
its name: the record does not keep what was inserted before it.

`Form.argument?_eq_some_iff` is the lemma that carries the statement: this is what the parser makes
of a form, through the JSON value that the form stands for and two maps one after the other.
-/

namespace CrudByName

open Json (Form)

namespace Json.Form

/-! ## Forms that can be read -/

/-- Every number is finite, and no more than `depth` containers are open at once. -/
inductive Readable : Nat → Form → Prop where
  | null {depth : Nat} : Readable depth null
  | bool {depth : Nat} (b : Bool) : Readable depth (bool b)
  | number {depth : Nat} {n : Numeral} {x : Number} (h : n.value = .ok x) :
      Readable depth (number n)
  | string {depth : Nat} (s : String) : Readable depth (string s)
  | array {depth : Nat} {items : List Form} (h : ∀ f ∈ items, Readable depth f) :
      Readable (depth + 1) (array items)
  | object {depth : Nat} {members : List (String × Form)}
      (h : ∀ m ∈ members, Readable depth m.2) : Readable (depth + 1) (object members)

theorem Readable.exists_json {depth : Nat} {f : Form} (h : f.Readable depth) :
    ∃ j, f.json? depth = some j := by
  induction h with
  | null => exact ⟨_, by rw [json?]⟩
  | bool b => exact ⟨_, by rw [json?]⟩
  | number h => exact ⟨_, by rw [json?, number?, h]; rfl⟩
  | string s => exact ⟨_, by rw [json?]⟩
  | array _ ih =>
    obtain ⟨items, hitems⟩ := List.exists_forall₂ ih
    exact ⟨_, json?_array hitems⟩
  | @object depth members _ ih =>
    obtain ⟨ms, hms⟩ := exists_named (R := fun f j => json? depth f = some j) ih
    exact ⟨_, json?_object hms⟩

theorem forall₂_of_json?_array {depth : Nat} {items : List Form} {j : Json}
    (h : (array items).json? depth = some j) :
    ∃ d js, depth = d + 1 ∧ j = .array js ∧
      List.Forall₂ (fun f k => f.json? d = some k) items js := by
  cases depth with
  | zero =>
    rw [json?] at h
    cases h
  | succ d =>
    rw [json?] at h
    obtain ⟨js, hjs, rfl⟩ := Option.map_eq_some_iff.1 h
    exact ⟨d, js, rfl, rfl, List.mapM_eq_some_iff.1 hjs⟩

theorem forall₂_of_json?_object {depth : Nat} {members : List (String × Form)} {j : Json}
    (h : (object members).json? depth = some j) :
    ∃ d ms, depth = d + 1 ∧ j = .object ms ∧
      List.Forall₂ (Named fun f j => f.json? d = some j) members ms := by
  cases depth with
  | zero =>
    rw [json?] at h
    cases h
  | succ d =>
    rw [json?] at h
    obtain ⟨ms, hms, rfl⟩ := Option.map_eq_some_iff.1 h
    refine ⟨d, ms, rfl, rfl, (List.mapM_eq_some_iff.1 hms).imp fun m n hm => ?_⟩
    obtain ⟨k, hk, rfl⟩ := Option.map_eq_some_iff.1 hm
    exact ⟨rfl, hk⟩

/-- Objects alone stand for objects. -/
theorem exists_members_of_json? {depth : Nat} {f : Form} {ms : List (String × Json)}
    (h : f.json? depth = some (.object ms)) :
    ∃ d members, f = object members ∧
      List.Forall₂ (Named fun f j => f.json? d = some j) members ms := by
  cases f with
  | null =>
    rw [json?] at h
    cases h
  | bool b =>
    rw [json?] at h
    cases h
  | string s =>
    rw [json?] at h
    cases h
  | number n =>
    rw [json?] at h
    obtain ⟨x, -, hx⟩ := Option.map_eq_some_iff.1 h
    cases hx
  | array items =>
    obtain ⟨d, js, -, hjs, -⟩ := forall₂_of_json?_array h
    cases hjs
  | object members =>
    obtain ⟨d, ns, -, hns, hmembers⟩ := forall₂_of_json?_object h
    cases hns
    exact ⟨d, members, rfl, hmembers⟩

theorem readable_of_json? {depth : Nat} {f : Form} {j : Json} (h : f.json? depth = some j) :
    f.Readable depth := by
  cases f with
  | null => exact .null
  | bool b => exact .bool b
  | string s => exact .string s
  | number n =>
    rw [json?] at h
    obtain ⟨x, hx, -⟩ := Option.map_eq_some_iff.1 h
    exact .number (Except.eq_ok_of_toOption hx)
  | array items =>
    obtain ⟨d, js, rfl, -, hjs⟩ := forall₂_of_json?_array h
    refine .array fun f hf => ?_
    obtain ⟨k, -, hk⟩ := List.exists_mem_of_forall₂ hjs hf
    exact readable_of_json? hk
  | object members =>
    obtain ⟨d, ms, rfl, -, hms⟩ := forall₂_of_json?_object h
    refine .object fun m hm => ?_
    obtain ⟨n, -, -, hn⟩ := List.exists_mem_of_forall₂ hms hm
    exact readable_of_json? hn
termination_by depth

/-! ## Forms that convert -/

/-- The value of a form that can be bound. -/
inductive Converts : Form → Value → Prop where
  | null : Converts null .null
  | bool (b : Bool) : Converts (bool b) (.boolean b)
  | integer {n : Numeral} {i : Int64} (h : n.value = .ok (.integer i.toInt)) :
      Converts (number n) (.integer i)
  | real {n : Numeral} {x : Float} (h : n.value = .ok (.real x)) : Converts (number n) (.real x)
  | string (s : String) : Converts (string s) (.text s)

section

variable {depth : Nat} {f : Form} {v w : Value} {j : Json}

theorem Converts.unique (hv : f.Converts v) (hw : f.Converts w) : v = w := by
  cases hv with
  | null => cases hw; rfl
  | bool b => cases hw; rfl
  | string s => cases hw; rfl
  | integer h =>
    cases hw with
    | integer h' =>
      rw [h] at h'
      injection h' with h'
      injection h' with h'
      rw [Int64.toInt_inj.1 h']
    | real h' =>
      rw [h] at h'
      cases h'
  | real h =>
    cases hw with
    | integer h' =>
      rw [h] at h'
      cases h'
    | real h' =>
      rw [h] at h'
      cases h'
      rfl

theorem Converts.readable (h : f.Converts v) : f.Readable depth := by
  cases h with
  | null => exact .null
  | bool b => exact .bool b
  | integer h => exact .number h
  | real h => exact .number h
  | string s => exact .string s

theorem Converts.ofJson (h : f.Converts v) (hj : f.json? depth = some j) :
    Value.ofJson j = .ok v := by
  cases h with
  | null =>
    rw [json?] at hj
    cases hj
    rfl
  | bool b =>
    rw [json?] at hj
    cases hj
    rfl
  | integer h =>
    rw [json?, number?, h] at hj
    cases hj
    rw [Value.ofJson, int64?_toInt]
  | real h =>
    rw [json?, number?, h] at hj
    cases hj
    rfl
  | string s =>
    rw [json?] at hj
    cases hj
    rfl

theorem converts_of_ofJson (hj : f.json? depth = some j) (h : Value.ofJson j = .ok v) :
    f.Converts v := by
  cases f with
  | null =>
    rw [json?] at hj
    cases hj
    cases h
    exact .null
  | bool b =>
    rw [json?] at hj
    cases hj
    cases h
    exact .bool b
  | string s =>
    rw [json?] at hj
    cases hj
    cases h
    exact .string s
  | number n =>
    rw [json?] at hj
    obtain ⟨x, hx, rfl⟩ := Option.map_eq_some_iff.1 hj
    have hvalue := Except.eq_ok_of_toOption hx
    cases x with
    | real x =>
      cases h
      exact .real hvalue
    | integer k =>
      rw [Value.ofJson] at h
      split at h
      · rename_i i hi
        cases h
        rw [int64?_eq_some_iff.1 hi] at hvalue
        exact .integer hvalue
      · cases h
  | array items =>
    obtain ⟨d, js, -, rfl, -⟩ := forall₂_of_json?_array hj
    cases h
  | object members =>
    obtain ⟨d, ms, -, rfl, -⟩ := forall₂_of_json?_object hj
    cases h

end

end Json.Form

/-! ## Converted members -/

theorem fieldsOfMembers_eq_ok_iff {members : List (String × Json)}
    {fields : List (String × Value)} :
    fieldsOfMembers members = .ok fields ↔
      List.Forall₂ (Json.Named fun j v => Value.ofJson j = .ok v) members fields := by
  have hmember : ∀ (m : String × Json) (p : String × Value),
      (Value.ofJson m.2).map (fun v => (m.1, v)) = .ok p ↔
        Json.Named (fun j v => Value.ofJson j = .ok v) m p := by
    intro m p
    rw [Except.map_eq_ok_iff]
    constructor
    · rintro ⟨v, hv, rfl⟩
      exact ⟨rfl, hv⟩
    · rintro ⟨hname, hv⟩
      exact ⟨p.2, hv, Prod.ext hname rfl⟩
  rw [fieldsOfMembers, List.mapM_eq_ok_iff]
  exact ⟨fun h => h.imp fun m p => (hmember m p).1, fun h => h.imp fun m p => (hmember m p).2⟩

namespace Argument

theorem ofJson_eq_scalar_iff {j : Json} {v : Value} :
    ofJson j = .ok (.scalar v) ↔ Value.ofJson j = .ok v := by
  unfold ofJson
  split
  · constructor
    · intro h
      obtain ⟨fields, -, h⟩ := Except.bind_eq_ok_iff.1 h
      cases h
    · intro h
      cases h
  · rw [Except.map_eq_ok_iff]
    simp

/-- Objects alone convert to field maps: their members are collapsed, and each is converted. -/
theorem ofJson_eq_fields_iff {j : Json} {r : Record} :
    ofJson j = .ok (.fields r) ↔
      ∃ members, j = .object members ∧
        List.Forall₂ (Json.Named fun j v => Value.ofJson j = .ok v)
          (Json.collapse members) r.fields := by
  have hrecord : ∀ (members : List (String × Json)) (fields : List (String × Value)),
      List.Forall₂ (Json.Named fun j v => Value.ofJson j = .ok v)
        (Json.collapse members) fields → Record.ofList fields = ⟨fields⟩ := by
    intro members fields hpairs
    have hnodup : (fields.map Prod.fst).Nodup := by
      rw [← Json.names_eq_of_forall₂ hpairs]
      exact Json.nodup_collapse members
    rw [Record.ofList_eq_collapse, Json.collapse_of_nodup hnodup]
  constructor
  · intro h
    unfold ofJson at h
    split at h
    · rename_i members
      obtain ⟨fields, hfields, hr⟩ := Except.bind_eq_ok_iff.1 h
      have hpairs := fieldsOfMembers_eq_ok_iff.1 hfields
      rw [hrecord members fields hpairs] at hr
      cases hr
      exact ⟨members, rfl, hpairs⟩
    · obtain ⟨v, -, h⟩ := Except.map_eq_ok_iff.1 h
      cases h
  · rintro ⟨members, rfl, hpairs⟩
    refine Except.bind_eq_ok_iff.2 ⟨r.fields, fieldsOfMembers_eq_ok_iff.2 hpairs, ?_⟩
    rw [hrecord members r.fields hpairs]
    rfl

end Argument

/-! ## What a form denotes -/

namespace Json.Form

/-- What becomes of a form as an argument.  An object is the record that its members are inserted
into, in the order of the text; the last value of a name is the one that has to convert, since
whatever is inserted before it is replaced. -/
inductive Denotes : Form → Argument → Prop where
  | scalar {f : Form} {v : Value} (h : f.Converts v) : Denotes f (.scalar v)
  | fields {members : List (String × Form)} {pairs : List (String × Value)}
      (readable : (object members).Readable (Json.maxDepth - 1))
      (names : pairs.map Prod.fst = members.map Prod.fst)
      (last : ∀ name f v, last? name members = some f → last? name pairs = some v →
        f.Converts v) :
      Denotes (object members) (.fields (Record.ofList pairs))

section

variable {f : Form} {a : Argument} {members : List (String × Form)}

theorem argument?_eq_some_iff_ofJson :
    f.argument? = some a ↔
      ∃ j, f.json? (Json.maxDepth - 1) = some j ∧ Argument.ofJson j = .ok a := by
  rw [argument?, Option.bind_eq_some_iff]
  exact ⟨fun ⟨j, hj, ha⟩ => ⟨j, hj, Except.eq_ok_of_toOption ha⟩,
    fun ⟨j, hj, ha⟩ => ⟨j, hj, by rw [ha]; rfl⟩⟩

/-- A field of the record that an object converts to is what the last member of its name converts
to. -/
theorem converts_of_lookup {depth : Nat} {ms : List (String × Json)}
    {fields : List (String × Value)} {name : String} {f : Form}
    (hms : List.Forall₂ (Named fun f j => f.json? depth = some j) members ms)
    (hpairs : List.Forall₂ (Named fun j v => Value.ofJson j = .ok v) (Json.collapse ms) fields)
    (hf : last? name members = some f) : ∃ v, fields.lookup name = some v ∧ f.Converts v := by
  obtain ⟨j, hj, hlast⟩ := last?_of_forall₂ hms hf
  rw [← lookup_collapse] at hlast
  obtain ⟨v, hv, hlookup⟩ := lookup_of_forall₂ hpairs hlast
  exact ⟨v, hlookup, converts_of_ofJson hj hv⟩

theorem denotes_of_argument? (h : f.argument? = some a) : f.Denotes a := by
  obtain ⟨j, hj, ha⟩ := argument?_eq_some_iff_ofJson.1 h
  cases a with
  | scalar v => exact .scalar (converts_of_ofJson hj (Argument.ofJson_eq_scalar_iff.1 ha))
  | fields r =>
    obtain ⟨ms, rfl, hpairs⟩ := Argument.ofJson_eq_fields_iff.1 ha
    obtain ⟨d, members, rfl, hms⟩ := exists_members_of_json? hj
    -- A member that is not the last of its name is inserted with the value of the last one.
    let pairs := members.map fun m => (m.1, (r.fields.lookup m.1).getD .null)
    have hnames : pairs.map Prod.fst = members.map Prod.fst := by
      simp [pairs]
    have hvalue : ∀ name v, last? name pairs = some v → v = (r.fields.lookup name).getD .null := by
      intro name v hv
      obtain ⟨m, -, hm⟩ := List.mem_map.1 (mem_of_last? hv)
      cases hm
      rfl
    have hrecord : Record.ofList pairs = r := by
      obtain ⟨fields⟩ := r
      rw [Record.ofList_eq_collapse]
      congr 1
      refine eq_of_lookup ?_ (nodup_collapse pairs) fun name v w hv hw => ?_
      · rw [names_collapse, hnames, names_eq_of_forall₂ hms, ← names_collapse,
          names_eq_of_forall₂ hpairs]
      · rw [lookup_collapse] at hv
        rw [hvalue name v hv, hw]
        rfl
    rw [← hrecord]
    refine .fields (readable_of_json? hj) hnames fun name f v hf hv => ?_
    obtain ⟨w, hw, hconverts⟩ := converts_of_lookup hms hpairs hf
    rw [hvalue name v hv, hw]
    exact hconverts

theorem Denotes.argument? (h : f.Denotes a) : f.argument? = some a := by
  cases h with
  | scalar h =>
    have readable : f.Readable (Json.maxDepth - 1) := h.readable
    obtain ⟨j, hj⟩ := readable.exists_json
    exact argument?_eq_some_iff_ofJson.2
      ⟨j, hj, Argument.ofJson_eq_scalar_iff.2 (h.ofJson hj)⟩
  | @fields members pairs readable names last =>
    obtain ⟨j, hj⟩ := readable.exists_json
    obtain ⟨d, ms, -, rfl, hms⟩ := forall₂_of_json?_object hj
    refine argument?_eq_some_iff_ofJson.2 ⟨_, hj, Argument.ofJson_eq_fields_iff.2 ⟨ms, rfl, ?_⟩⟩
    have hnames : ms.map Prod.fst = pairs.map Prod.fst := by
      rw [names, names_eq_of_forall₂ hms]
    rw [Record.ofList_eq_collapse]
    refine forall₂_of_lookup ?_ (nodup_collapse ms) fun name k v hk hv => ?_
    · rw [names_collapse, hnames, names_collapse]
    · rw [lookup_collapse] at hk hv
      obtain ⟨f, hf, hlast⟩ := last?_of_forall₂ (R := fun k f => Form.json? d f = some k)
        (hms.flip.imp fun _ _ hm => ⟨hm.name.symm, hm.value⟩) hk
      exact (last name f v hlast hv).ofJson hf

/-- The parser makes of a form what it denotes, and refuses every other form. -/
theorem argument?_eq_some_iff : f.argument? = some a ↔ f.Denotes a :=
  ⟨denotes_of_argument?, fun h => h.argument?⟩

end

end Json.Form

/-! ## The text between the parentheses -/

namespace Call

section

variable {inside : List Char} {fs : List Form} {args : List Argument}

theorem argsOf_eq_ok_iff_of_listed (h : Json.Listed Form.Writes fs inside) :
    argsOf inside = .ok args ↔ List.Forall₂ Form.Denotes fs args := by
  have hargs := argsOf_of_listed h
  have hdenotes : fs.mapM Form.argument? = some args ↔ List.Forall₂ Form.Denotes fs args := by
    simp only [List.mapM_eq_some_iff, Form.argument?_eq_some_iff]
  rw [← hdenotes, ← hargs]
  exact ⟨fun h => by rw [h]; rfl, Except.eq_ok_of_toOption⟩

/-- The brackets are put around the text, and what is read is a list between two brackets. -/
theorem exists_listed_of_argsOf (hblank : ¬ Text.allBlank inside) (h : argsOf inside = .ok args) :
    ∃ fs, Json.Listed Form.Writes fs inside := by
  rw [argsOf, if_neg hblank] at h
  split at h
  · cases h
  · rename_i items hread
    exact Json.listed_of_read hread
  · rename_i j _ hread
    exact Json.listed_of_read hread

theorem ne_nil_of_listed (hblank : ¬ Text.allBlank inside)
    (h : Json.Listed Form.Writes fs inside) : fs ≠ [] := by
  rintro rfl
  cases h with
  | none hw =>
    refine hblank (List.all_eq_true.2 fun c hc => ?_)
    exact Json.Reader.isBlank_of_isBlank (hw c hc)
  | some _ h => cases h

/-- A text with something other than blanks in it is read as arguments exactly if it is a list of
values, each of which denotes its argument. -/
theorem argsOf_eq_ok_iff (hblank : ¬ Text.allBlank inside) :
    argsOf inside = .ok args ↔
      ∃ fs, fs ≠ [] ∧ Json.Listed Form.Writes fs inside ∧ List.Forall₂ Form.Denotes fs args := by
  constructor
  · intro h
    obtain ⟨fs, hfs⟩ := exists_listed_of_argsOf hblank h
    exact ⟨fs, ne_nil_of_listed hblank hfs, hfs, (argsOf_eq_ok_iff_of_listed hfs).1 h⟩
  · rintro ⟨fs, -, hfs, hargs⟩
    exact (argsOf_eq_ok_iff_of_listed hfs).2 hargs

end

section

variable {name b : String}

theorem parse_eq_map_argsOf (hname : IsName name.toList) (b : String) :
    parse (name ++ "(" ++ b ++ ")") = (argsOf b.toList).map fun args => ⟨name, args⟩ := by
  have h := parseChars_of_margins (u := []) (v := []) (z := []) (y := []) b.toList hname rfl
    Json.blanks_nil rfl (List.all_nil (f := (· == ';'))) rfl
  simpa [parse] using h

/-- A name with a text in parentheses behind it is a call exactly if the whole text is a list of
JSON values, one or more, and each of them denotes an argument.  These are the arguments of the
call, from left to right. -/
theorem parse_parenthesized (hname : IsName name.toList) (hblank : ¬ Text.allBlank b.toList)
    (c : Call) :
    parse (name ++ "(" ++ b ++ ")") = .ok c ↔
      c.operation = name ∧
        ∃ fs, fs ≠ [] ∧ Json.Listed Form.Writes fs b.toList ∧
          List.Forall₂ Form.Denotes fs c.args := by
  rw [parse_eq_map_argsOf hname, Except.map_eq_ok_iff]
  constructor
  · rintro ⟨args, hargs, rfl⟩
    exact ⟨rfl, (argsOf_eq_ok_iff hblank).1 hargs⟩
  · rintro ⟨hoperation, hargs⟩
    refine ⟨c.args, (argsOf_eq_ok_iff hblank).2 hargs, ?_⟩
    rw [← hoperation]

/-- An array that is replaced, and brackets and parentheses in the text that replaces it. -/
theorem parse_parenthesized_brackets :
    let b := "\x7b\"a\": [1], \"a\": \"])([\"\x7d , -7"
    let c : Call := ⟨"updateUsersById", [.fields ⟨[("a", .text "])([")]⟩, .scalar (.integer (-7))]⟩
    (IsName "updateUsersById".toList ∧ ¬ Text.allBlank b.toList) ∧
      parse ("updateUsersById" ++ "(" ++ b ++ ")") = .ok c ∧
        ∃ fs, fs ≠ [] ∧ Json.Listed Form.Writes fs b.toList ∧
          List.Forall₂ Form.Denotes fs c.args := by
  intro b c
  have hname : IsName "updateUsersById".toList := by decide
  have hblank : ¬ Text.allBlank b.toList := by decide
  have hparse : parse ("updateUsersById" ++ "(" ++ b ++ ")") = .ok c := by decide +kernel
  exact ⟨⟨hname, hblank⟩, hparse, ((parse_parenthesized hname hblank c).1 hparse).2⟩

end

end Call

end CrudByName

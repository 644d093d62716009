import CrudByName.CommandLine.Options
import Mathlib.Data.List.TakeWhile

/-!
# Options spelled out

Whatever options are wanted, there are words that ask for them.  `Options.words` spells options out,
each with its value attached to its name in one word, and a command line of these words is read as
the options (`read_words`).

A word with an attached value is complete, so that nothing is held back behind it (`step_word`).
The options of one kind are therefore read one after the other, each from where the one before it
left off (`foldlM_sql`, `foldlM_exec`).
-/

namespace CrudByName

namespace Options

/-- An option with its value attached. -/
def word (key : Key) (value : String) : String :=
  "--" ++ key.name ++ "=" ++ value

/-- Words that ask for some options. -/
def words (o : Options) : List String :=
  o.database.toList.map (word .database) ++ o.sql.map (word .sql) ++ o.exec.map (word .exec) ++
    o.logLevel.toList.map (word .logLevel) ++ if o.noHistory then ["--no-history"] else []

/-! ## Words that are complete -/

theorem wordOf_word (key : Key) (value : String) :
    Word.of (word key value).toList = .long (key.name.toList ++ '=' :: value.toList) := by
  cases key <;> simp [word, Key.name, Word.of]

theorem splitEquals_word (key : Key) (value : List Char) :
    splitEquals (key.name.toList ++ '=' :: value) = (key.name.toList, some value) := by
  have hname : ∀ c ∈ key.name.toList, (c != '=') = true :=
    List.all_eq_true.1 (by cases key <;> decide)
  rw [splitEquals, List.takeWhile_append_of_pos hname, List.dropWhile_append_of_pos hname]
  simp

/-- A word with an attached value takes effect at once. -/
theorem step_word (o : Options) (key : Key) (value : String) :
    step { options := o } (word key value) = (o.set key value).map fun o => { options := o } := by
  rw [step, if_neg Bool.false_ne_true, wordOf_word]
  simp only [meetLong, splitEquals_word]
  have hflag : Flag.ofName? key.name.toList = some (.valued key) :=
    Flag.ofName?_name (.valued key)
  simp only [hflag, meetValued, settled, String.ofList_toList]
  cases h : o.set key value <;> simp [h, bind, Except.bind, Except.map, pure, Except.pure]

variable {o : Options} {key : Key} {value : String}

theorem step_word_of_ok {o' : Options} (h : o.set key value = .ok o') :
    step { options := o } (word key value) = .ok { options := o' } := by
  rw [step_word, h, Except.map]

/-! ## Words one after the other -/

/-- An option that may be repeated is set with one value after the other. -/
theorem foldlM_word {add : Options → String → Options}
    (hset : ∀ (o : Options) value, o.set key value = .ok (add o value)) (o : Options)
    (values : List String) :
    (values.map (word key)).foldlM step { options := o } =
      .ok { options := values.foldl add o } := by
  induction values generalizing o with
  | nil => rfl
  | cons value values ih =>
    rw [List.map_cons, List.foldlM_cons, step_word_of_ok (hset o value)]
    exact ih (add o value)

theorem foldlM_sql (o : Options) (texts : List String) :
    (texts.map (word .sql)).foldlM step { options := o } =
      .ok { options := { o with sql := o.sql ++ texts } } := by
  rw [foldlM_word (fun _ _ => rfl)]
  induction texts generalizing o with
  | nil => simp
  | cons text texts ih => simp [ih]

theorem foldlM_exec (o : Options) (calls : List String) :
    (calls.map (word .exec)).foldlM step { options := o } =
      .ok { options := { o with exec := o.exec ++ calls } } := by
  rw [foldlM_word (fun _ _ => rfl)]
  induction calls generalizing o with
  | nil => simp
  | cons call calls ih => simp [ih]

/-- An option that may not be repeated is set if it has a value. -/
theorem foldlM_toList {o' : Options} {value : Option String}
    (hset : ∀ v, value = some v → o.set key v = .ok o') (hnone : value = none → o = o') :
    (value.toList.map (word key)).foldlM step { options := o } = .ok { options := o' } := by
  cases value with
  | none => rw [hnone rfl]; rfl
  | some v =>
    rw [Option.toList_some, List.map_singleton, List.foldlM_cons, step_word_of_ok (hset v rfl)]
    rfl

/-- The words that ask for some options are read as these. -/
theorem read_words (o : Options) : read o.words = .ok o := by
  obtain ⟨database, sql, exec, logLevel, noHistory⟩ := o
  have hdatabase : (database.toList.map (word .database)).foldlM step {} =
      .ok { options := { database } } :=
    foldlM_toList (o := {}) (by rintro v rfl; rfl) (by rintro rfl; rfl)
  have hlogLevel : (logLevel.toList.map (word .logLevel)).foldlM step
      { options := { database, sql, exec } } =
        .ok { options := { database, sql, exec, logLevel } } :=
    foldlM_toList (by rintro v rfl; rfl) (by rintro rfl; rfl)
  have hflag : (if noHistory then ["--no-history"] else []).foldlM step
      { options := { database, sql, exec, logLevel } } =
      .ok { options := { database, sql, exec, logLevel, noHistory } } := by
    cases noHistory <;> rfl
  have hsql := foldlM_sql { database } sql
  have hexec := foldlM_exec { database, sql } exec
  simp only [read, words, List.foldlM_append]
  simp only [hdatabase, bind, Except.bind, hsql, List.nil_append, hexec, hlogLevel, hflag]
  rfl

end Options

end CrudByName

import CrudByName.Proofs.CommandLine.Sources
import CrudByName.Proofs.Except

/-!
# Where settings come from

For each setting the environment is asked, then the configuration file, and then there is a default.
`Wins` tells what comes of the first two, and `become` what becomes of that: the default if nothing
wins, or else what wins, converted, which may fail.

The sources are searched from the file to the environment, and the last one that holds anything
counts; so what is found is what wins (`wins_find?`).  There are settings if all three become
something, and only then are the options of the command line looked at, so that an option never
hides a value that does not convert (`precedence_find?`).  What wins depends on the keys that give a
setting, and in lists and tables not on what is inside; the other keys could as well not be there
(`Wins.of_relevant`, `merged_congr`).  These come together in `settings_by_precedence`.

A source can give a setting under its name and further in at the same time.  Which of the two counts
is left open: both can be said to win, and only for `Unambiguous` sources is there a single winner.
-/

namespace CrudByName

namespace Settings

variable {source : Source} {setting : String}

/-! ## What wins -/

/-- What wins for a setting: what the source above holds for it, or else what the one below does. -/
def Wins (above below : Source) (setting : String) (winner : Option Given) : Prop :=
  ∃ first second, Holds above setting first ∧ Holds below setting second ∧
    winner = first.or second

theorem Wins.unique {above below : Source} {winner winner' : Option Given}
    (habove : Unambiguous above) (hbelow : Unambiguous below) (hsetting : setting ∈ names)
    (h : Wins above below setting winner) (h' : Wins above below setting winner') :
    winner = winner' := by
  obtain ⟨first, second, hfirst, hsecond, rfl⟩ := h
  obtain ⟨first', second', hfirst', hsecond', rfl⟩ := h'
  rw [hfirst.unique habove.distinct (habove.oneWay setting hsetting) hfirst',
    hsecond.unique hbelow.distinct (hbelow.oneWay setting hsetting) hsecond']

theorem Wins.of_relevant {above above' below below' : Source} {winner : Option Given}
    (habove : ∀ entry, entry ∈ relevant above ↔ entry ∈ relevant above')
    (hbelow : ∀ entry, entry ∈ relevant below ↔ entry ∈ relevant below')
    (hsetting : setting ∈ names) (h : Wins above below setting winner) :
    ∃ winner', Wins above' below' setting winner' ∧
      winner'.map Given.outside = winner.map Given.outside := by
  obtain ⟨first, second, hfirst, hsecond, rfl⟩ := h
  obtain ⟨first', hfirst', houtside⟩ := hfirst.of_relevant habove hsetting
  obtain ⟨second', hsecond', houtside'⟩ := hsecond.of_relevant hbelow hsetting
  refine ⟨first'.or second', ⟨first', second', hfirst', hsecond', rfl⟩, ?_⟩
  rw [Option.map_or, Option.map_or, houtside, houtside']

/-- Variables hold texts. -/
theorem ne_container_of_mem (env : Environment) :
    ∀ entry ∈ variableSource env, entry.2 ≠ .container true := by
  intro entry hentry
  obtain ⟨⟨name, text⟩, -, hkey⟩ := List.mem_filterMap.1 hentry
  obtain ⟨key, -, rfl⟩ := Option.map_eq_some_iff.1 hkey
  exact nofun

theorem wins_find? (hsetting : setting ∈ names) (source : Source) (env : Environment) :
    Wins (variableSource env) source setting (find? (source ++ variableSource env) setting) := by
  obtain ⟨second, hsecond, hfile⟩ : ∃ held, Holds source setting held ∧
      source.foldl (update setting) none = held.or none := exists_holds hsetting (.inl rfl)
  obtain ⟨first, hfirst, hall⟩ : ∃ held, Holds (variableSource env) setting held ∧
      (variableSource env).foldl (update setting) second = held.or second :=
    exists_holds hsetting (.inr (ne_container_of_mem env))
  refine ⟨first, second, hfirst, hsecond, ?_⟩
  rw [find?, List.foldl_append, hfile, Option.or_none, hall]

/-! ## What becomes of it -/

/-- What a setting becomes: its default, or what wins for it, converted. -/
def become {α : Type} (convert : Given → Option α) (fallback : α) : Option Given → Option α
  | none => some fallback
  | some given => convert given

theorem textSetting_eq (winner : Option Given) (setting fallback : String) :
    textSetting winner setting fallback =
      (become text? fallback winner).elim (.error (.notText setting)) .ok := by
  cases winner with
  | none => rfl
  | some given =>
    simp only [textSetting, become]
    cases text? given <;> rfl

theorem switchSetting_eq (winner : Option Given) (setting : String) (fallback : Bool) :
    switchSetting winner setting fallback =
      (become switch? fallback winner).elim (.error (.notSwitch setting)) .ok := by
  cases winner with
  | none => rfl
  | some given =>
    simp only [switchSetting, become]
    cases switch? given <;> rfl

theorem elim_eq_ok_iff {ε α : Type} {x : Option α} {e : ε} {a : α} :
    x.elim (.error e) Except.ok = .ok a ↔ x = some a := by
  cases x <;> simp

theorem merged_eq_ok_iff {s : Settings} :
    merged source = .ok s ↔
      become text? ":memory:" (find? source "database") = some s.database ∧
        become text? "warn" (find? source "log_level") = some s.logLevel ∧
          become switch? true (find? source "history") = some s.history := by
  simp only [merged, textSetting_eq, switchSetting_eq, Except.bind_eq_ok_iff, elim_eq_ok_iff]
  constructor
  · rintro ⟨database, hdatabase, logLevel, hlogLevel, history, hhistory, hs⟩
    cases hs
    exact ⟨hdatabase, hlogLevel, hhistory⟩
  · rintro ⟨hdatabase, hlogLevel, hhistory⟩
    exact ⟨_, hdatabase, _, hlogLevel, _, hhistory, rfl⟩

/-- A list does not convert, and a table does not either. -/
theorem text?_outside (given : Given) : text? given.outside = text? given := by
  cases given <;> rfl

theorem switch?_outside (given : Given) : switch? given.outside = switch? given := by
  cases given <;> rfl

theorem become_congr {α : Type} {convert : Given → Option α}
    (hconvert : ∀ given, convert given.outside = convert given) {winner winner' : Option Given}
    (h : winner.map Given.outside = winner'.map Given.outside) (fallback : α) :
    become convert fallback winner = become convert fallback winner' := by
  have houtside : ∀ winner : Option Given,
      become convert fallback (winner.map Given.outside) = become convert fallback winner := by
    intro winner
    cases winner with
    | none => rfl
    | some given => exact hconvert given
  rw [← houtside winner, h, houtside winner']

theorem merged_congr {source' : Source}
    (h : ∀ setting ∈ names,
      (find? source setting).map Given.outside = (find? source' setting).map Given.outside) :
    merged source = merged source' := by
  have hdatabase := become_congr text?_outside (h "database" (.head _)) ":memory:"
  have hlogLevel := become_congr text?_outside (h "log_level" (.tail _ (.head _))) "warn"
  have hhistory := become_congr switch?_outside (h "history" (.tail _ (.tail _ (.head _)))) true
  simp only [merged, textSetting_eq, switchSetting_eq, hdatabase, hlogLevel, hhistory]

/-! ## The settings of a run -/

variable {file : Option ConfigFile}

theorem choose_of_error {e : SettingsError} (h : optionalSource file = .error e) (o : Options)
    (env : Environment) : choose o file env = .error e := by
  simp only [choose, sources, h, Except.map, bind, Except.bind]

theorem choose_of_ok (h : optionalSource file = .ok source) (o : Options) (env : Environment) :
    choose o file env = (merged (source ++ variableSource env)).map fun s => s.overridden o := by
  simp only [choose, sources, h, Except.map, bind, Except.bind]
  cases merged (source ++ variableSource env) <;> rfl

/-- What the settings are, of which `winner` tells what wins for each.  The options are looked at
only where there are settings without them. -/
structure Precedence (o : Options) (winner : String → Option Given)
    (outcome : Except SettingsError Settings) : Prop where
  eq_ok_iff (s : Settings) : outcome = .ok s ↔
    ∃ database logLevel history,
      become text? ":memory:" (winner "database") = some database ∧
        become text? "warn" (winner "log_level") = some logLevel ∧
          become switch? true (winner "history") = some history ∧
            s = ⟨o.database.getD database, o.logLevel.getD logLevel, history && !o.noHistory⟩
  error_iff : (∃ e, outcome = .error e) ↔
    become text? ":memory:" (winner "database") = none ∨
      become text? "warn" (winner "log_level") = none ∨
        become switch? true (winner "history") = none

theorem precedence_find? (o : Options) (source : Source) :
    Precedence o (find? source) ((merged source).map fun s => s.overridden o) := by
  have hok : ∀ s, (merged source).map (fun s => s.overridden o) = .ok s ↔
      ∃ database logLevel history,
        become text? ":memory:" (find? source "database") = some database ∧
          become text? "warn" (find? source "log_level") = some logLevel ∧
            become switch? true (find? source "history") = some history ∧
              s = ⟨o.database.getD database, o.logLevel.getD logLevel,
                history && !o.noHistory⟩ := by
    intro s
    rw [Except.map_eq_ok_iff]
    constructor
    · rintro ⟨before, hmerged, rfl⟩
      obtain ⟨hdatabase, hlogLevel, hhistory⟩ := merged_eq_ok_iff.1 hmerged
      exact ⟨_, _, _, hdatabase, hlogLevel, hhistory, rfl⟩
    · rintro ⟨database, logLevel, history, hdatabase, hlogLevel, hhistory, rfl⟩
      exact ⟨⟨database, logLevel, history⟩,
        merged_eq_ok_iff.2 ⟨hdatabase, hlogLevel, hhistory⟩, rfl⟩
  refine ⟨hok, ?_⟩
  constructor
  · rintro ⟨e, he⟩
    by_contra hall
    simp only [not_or, ← ne_eq, Option.ne_none_iff_exists'] at hall
    obtain ⟨⟨database, hdatabase⟩, ⟨logLevel, hlogLevel⟩, ⟨history, hhistory⟩⟩ := hall
    have h := (hok _).2 ⟨database, logLevel, history, hdatabase, hlogLevel, hhistory, rfl⟩
    rw [he] at h
    cases h
  · intro hnone
    cases hout : (merged source).map fun s => s.overridden o with
    | error e => exact ⟨e, rfl⟩
    | ok s =>
      obtain ⟨_, _, _, hdatabase, hlogLevel, hhistory, -⟩ := (hok s).1 hout
      simp [hdatabase, hlogLevel, hhistory] at hnone

/-- A file that cannot be read is an error.  Otherwise the settings are made of what wins for each,
where the environment goes before the file, and of the options.  Keys that give no setting, and what
is inside of lists and tables, have no part in it. -/
theorem settings_by_precedence (o : Options) (file : Option ConfigFile) (env : Environment) :
    (∀ e, optionalSource file = .error e → choose o file env = .error e) ∧
      ∀ source, optionalSource file = .ok source →
        (∃ winner : String → Option Given,
          (∀ setting ∈ names, Wins (variableSource env) source setting (winner setting)) ∧
            Precedence o winner (choose o file env)) ∧
        (Unambiguous source → Unambiguous (variableSource env) →
          ∀ setting ∈ names, ∃! winner, Wins (variableSource env) source setting winner) ∧
        ∀ file' env' source', optionalSource file' = .ok source' →
          (∀ entry, entry ∈ relevant source ↔ entry ∈ relevant source') →
          (∀ entry, entry ∈ relevant (variableSource env) ↔
            entry ∈ relevant (variableSource env')) →
          (∀ setting ∈ names, ∀ winner, Wins (variableSource env) source setting winner →
            ∃ winner', Wins (variableSource env') source' setting winner' ∧
              winner'.map Given.outside = winner.map Given.outside) ∧
          (Unambiguous source → Unambiguous (variableSource env) →
            KeysDistinct source' → KeysDistinct (variableSource env') →
              choose o file' env' = choose o file env) := by
  refine ⟨fun e he => choose_of_error he o env, fun source hsource => ⟨?_, ?_, ?_⟩⟩
  · refine ⟨find? (source ++ variableSource env), fun setting hsetting =>
      wins_find? hsetting source env, ?_⟩
    rw [choose_of_ok hsource]
    exact precedence_find? o _
  · intro hclear henvClear setting hsetting
    have hfound := wins_find? hsetting source env
    exact ⟨_, hfound, fun winner hwinner => hwinner.unique henvClear hclear hsetting hfound⟩
  · intro file' env' source' hsource' hsame henvSame
    refine ⟨fun setting hsetting winner hwinner => hwinner.of_relevant henvSame hsame hsetting, ?_⟩
    intro hclear henvClear hdistinct' henvDistinct'
    have hclear' := hclear.of_relevant hsame hdistinct'
    have henvClear' := henvClear.of_relevant henvSame henvDistinct'
    rw [choose_of_ok hsource, choose_of_ok hsource']
    refine congrArg _ (merged_congr fun setting hsetting => ?_)
    obtain ⟨winner', hwinner', houtside⟩ :=
      (wins_find? hsetting source env).of_relevant henvSame hsame hsetting
    have hfound' := wins_find? hsetting source' env'
    rw [← houtside, hfound'.unique henvClear' hclear' hsetting hwinner']

/-- The three settings come from three places: the command line, the environment and the file.  A
section and an unknown variable could as well not be there. -/
theorem settings_by_precedence_three_places :
    let o : Options := { database := "given.db" }
    let file : ConfigFile := ⟨"dynacrud.toml",
      some "history = 0\ndatabase = \"app.db\"\n[server]\ndatabase = \"other.db\"\n"⟩
    let env : Environment := [("Dynacrud_Log_Level", ""), ("DYNACRUD_OTHER", "x")]
    let file' : ConfigFile := ⟨"dynacrud.toml", some "database = \"app.db\"\nhistory = 0\n"⟩
    let env' : Environment := [("DYNACRUD_LOG_LEVEL", "")]
    (∃ winner : String → Option Given,
      winner "database" = some (.text "app.db") ∧ winner "log_level" = some (.text "") ∧
        winner "history" = some (.integer 0) ∧ Precedence o winner (choose o file env)) ∧
      choose o file env = .ok ⟨"given.db", "", false⟩ ∧
        choose o file' env' = choose o file env := by
  intro o file env file' env'
  let source : Source :=
    [("history", .integer 0), ("database", .text "app.db"), ("server", .container false)]
  let source' : Source := [("database", .text "app.db"), ("history", .integer 0)]
  have hsource : optionalSource file = .ok source := by decide +kernel
  have hsource' : optionalSource file' = .ok source' := by decide +kernel
  have hclear : Unambiguous source := ⟨by decide +kernel, by decide +kernel⟩
  have henvClear : Unambiguous (variableSource env) := ⟨by decide +kernel, by decide +kernel⟩
  obtain ⟨-, hread⟩ := settings_by_precedence o file env
  obtain ⟨⟨winner, hwins, hprecedence⟩, hunique, hother⟩ := hread source hsource
  have hone := hunique hclear henvClear
  have hdatabase : winner "database" = some (.text "app.db") :=
    (hone _ (by decide)).unique (hwins _ (by decide)) ⟨none, some (.text "app.db"),
      .nothing (by decide +kernel), .named (by decide : ("database", _) ∈ source) (by decide), rfl⟩
  have hlogLevel : winner "log_level" = some (.text "") :=
    (hone _ (by decide)).unique (hwins _ (by decide)) ⟨some (.text ""), none,
      .named (by decide +kernel : ("log_level", _) ∈ variableSource env) (by decide),
      .nothing (by decide +kernel), rfl⟩
  have hhistory : winner "history" = some (.integer 0) :=
    (hone _ (by decide)).unique (hwins _ (by decide)) ⟨none, some (.integer 0),
      .nothing (by decide +kernel), .named (by decide : ("history", _) ∈ source) (by decide), rfl⟩
  refine ⟨⟨winner, hdatabase, hlogLevel, hhistory, hprecedence⟩, ?_, ?_⟩
  · rw [hprecedence.eq_ok_iff, hdatabase, hlogLevel, hhistory]
    exact ⟨"app.db", "", false, rfl, rfl, rfl, rfl⟩
  · have hsame : (relevant source).Perm (relevant source') := by decide +kernel
    have henvSame : relevant (variableSource env) = relevant (variableSource env') := by
      decide +kernel
    exact (hother file' env' source' hsource' (fun _ => hsame.mem_iff)
      (fun _ => by rw [henvSame])).2 hclear henvClear (by decide +kernel) (by decide +kernel)

/-- A key that is no setting can still decide one, if it is a path. -/
theorem settings_by_path :
    let file : ConfigFile := ⟨"dynacrud.toml", some "\"database.x\" = 1\n"⟩
    let source : Source := [("database.x", .integer 1)]
    optionalSource file = .ok source ∧ KeysDistinct source ∧
      (∀ entry ∈ source, ∀ setting ∈ names, ¬ Names entry.1 setting) ∧
        choose {} none [] = .ok ⟨":memory:", "warn", true⟩ ∧
          choose {} file [] = .error (.notText "database") := by
  refine ⟨?_, ?_, ?_, ?_, ?_⟩ <;> decide +kernel

end Settings

end CrudByName

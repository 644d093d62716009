import CrudByName.Proofs.CommandLine.Options
import CrudByName.Proofs.CommandLine.Session

/-!
# Calls on the command line

A run whose command line has calls first runs the texts of statements there, and then the calls,
each on the database that is left by what ran before it.  `leftBy` is that database, as a fold over
the texts, and `results` is what comes of each text by itself; a list of texts is compared with
these two.

Statements stop at the first text that fails (`prepare_of_first_failure`), while calls are all
answered, whether or not some of them fail (`replies_eq`).  So there are two ways for a run to end
(`calls_run_to_the_end`): with the error of a text and no call, or with the results of all calls.
-/

namespace CrudByName

namespace Program

section

variable {α : Type} {run : String → Database → α × Database}

/-- The database that texts leave, each run on what the one before it left. -/
def leftBy (run : String → Database → α × Database) (texts : List String) (db : Database) :
    Database :=
  texts.foldl (fun db text => (run text db).2) db

/-- What comes of each text, run on what the texts before it left. -/
def results (run : String → Database → α × Database) (texts : List String) (db : Database) :
    List α :=
  texts.mapIdx fun i text => (run text (leftBy run (texts.take i) db)).1

theorem leftBy_cons (text : String) (texts : List String) (db : Database) :
    leftBy run (text :: texts) db = leftBy run texts (run text db).2 :=
  rfl

theorem results_cons (text : String) (texts : List String) (db : Database) :
    results run (text :: texts) db = (run text db).1 :: results run texts (run text db).2 := by
  simp only [results, List.mapIdx_cons, List.take_zero, List.take_succ_cons, leftBy_cons]
  rfl

end

/-! ## Statements -/

variable {access : Database.Access} {db : Database} {e : BackendError}

theorem prepare_cons_of_ok {text : String} (h : (Database.executeBatch access text db).1 = .ok ())
    (texts : List String) :
    prepare access (text :: texts) db =
      prepare access texts (Database.executeBatch access text db).2 := by
  have hpair : Database.executeBatch access text db =
      (.ok (), (Database.executeBatch access text db).2) := Prod.ext h rfl
  rw [prepare, hpair]

theorem prepare_cons_of_error {text : String}
    (h : (Database.executeBatch access text db).1 = .error e) (texts : List String) :
    prepare access (text :: texts) db =
      (.error e, (Database.executeBatch access text db).2) := by
  have hpair : Database.executeBatch access text db =
      (.error e, (Database.executeBatch access text db).2) := Prod.ext h rfl
  rw [prepare, hpair]

theorem prepare_of_all_ok {texts : List String}
    (h : ∀ result ∈ results (Database.executeBatch access) texts db, result = .ok ()) :
    prepare access texts db = (.ok (), leftBy (Database.executeBatch access) texts db) := by
  induction texts generalizing db with
  | nil => rfl
  | cons text texts ih =>
    rw [results_cons] at h
    obtain ⟨hfirst, hmore⟩ := List.forall_mem_cons.1 h
    rw [prepare_cons_of_ok hfirst, ih hmore, leftBy_cons]

/-- The texts behind the first that fails are not run. -/
theorem prepare_of_first_failure {texts : List String} {k : Nat}
    (hbefore : ∀ result ∈ (results (Database.executeBatch access) texts db).take k, result = .ok ())
    (hfails : (results (Database.executeBatch access) texts db)[k]? = some (.error e)) :
    prepare access texts db =
      (.error e, leftBy (Database.executeBatch access) (texts.take (k + 1)) db) := by
  induction texts generalizing db k with
  | nil => cases hfails
  | cons text texts ih =>
    rw [results_cons] at hbefore hfails
    rw [List.take_succ_cons, leftBy_cons]
    cases k with
    | zero =>
      have hfirst : (Database.executeBatch access text db).1 = .error e := Option.some.inj hfails
      rw [prepare_cons_of_error hfirst]
      rfl
    | succ k =>
      rw [List.take_succ_cons] at hbefore
      obtain ⟨hfirst, hmore⟩ := List.forall_mem_cons.1 hbefore
      rw [prepare_cons_of_ok hfirst]
      exact ih hmore hfails

/-! ## Calls -/

theorem replies_eq (access : Database.Access) (calls : List String) (db : Database) :
    replies access calls db =
      (results (reply access) calls db, leftBy (reply access) calls db) := by
  induction calls generalizing db with
  | nil => rfl
  | cons call calls ih => simp only [replies, ih, results_cons, leftBy_cons]

/-- What is answered to calls is what they come to as lines, with the errors worded. -/
theorem results_reply (access : Database.Access) (calls : List String) (db : Database) :
    results (reply access) calls db =
      (results (Line.run (Database.connection access)) calls db).map
        (Except.mapError CrudError.message) := by
  induction calls generalizing db with
  | nil => rfl
  | cons call calls ih =>
    rw [results_cons, results_cons, List.map_cons, ih]
    rfl

theorem leftBy_reply (access : Database.Access) (calls : List String) (db : Database) :
    leftBy (reply access) calls db = leftBy (Line.run (Database.connection access)) calls db :=
  rfl

/-- What is written for a call. -/
def emission (answer : Except CrudError String) : Emission :=
  .ofReply (answer.mapError CrudError.message)

/-- Only what comes of calls that do not fail is written to the standard output. -/
theorem join_outText (answers : List (Except CrudError String)) :
    String.join ((answers.map emission).map Emission.outText) =
      String.join (answers.filterMap Except.toOption) := by
  induction answers with
  | nil => rfl
  | cons answer answers ih =>
    cases answer with
    | ok text =>
      have hkept : (Except.ok text :: answers).filterMap Except.toOption =
          text :: answers.filterMap Except.toOption := List.filterMap_cons_some rfl
      rw [List.map_cons, List.map_cons, hkept, String.join_cons, String.join_cons, ih]
      rfl
    | error e =>
      rw [List.map_cons, List.map_cons, List.filterMap_cons_none rfl, String.join_cons, ih]
      exact String.empty_append

theorem any_failed_iff (answers : List (Except CrudError String)) :
    (answers.map (Except.mapError CrudError.message)).any failed = true ↔
      ∃ e, .error e ∈ answers := by
  rw [List.any_map, List.any_eq_true]
  constructor
  · rintro ⟨answer, hmem, hfailed⟩
    cases answer with
    | ok text => cases hfailed
    | error e => exact ⟨e, hmem⟩
  · rintro ⟨e, hmem⟩
    exact ⟨.error e, hmem, rfl⟩

theorem serveCalls_eq (access : Database.Access) (calls : List String) (db : Database) :
    serveCalls access calls db =
      ({ emissions := (results (Line.run (Database.connection access)) calls db).map emission
         code :=
          if ((results (Line.run (Database.connection access)) calls db).map
            (Except.mapError CrudError.message)).any failed then 1 else 0 },
        leftBy (Line.run (Database.connection access)) calls db) := by
  simp only [serveCalls, replies_eq, results_reply, leftBy_reply, List.map_map]
  rfl

/-! ## Whole runs -/

/-- What is said about the configuration before the database is opened. -/
def notices (file : Option ConfigFile) (settings : Settings) : List Emission :=
  fileNotice file ++ levelNotice settings

theorem outText_of_mem_notices {file : Option ConfigFile} {settings : Settings} {n : Emission}
    (h : n ∈ notices file settings) : n.outText = "" := by
  rcases List.mem_append.1 h with hfile | hlevel
  · obtain ⟨f, -, rfl⟩ := List.mem_map.1 hfile
    rfl
  · obtain ⟨line, -, rfl⟩ := Option.map_eq_some_iff.1 (Option.mem_toList.1 hlevel)
    rfl

theorem stdout_after {earlier : List Emission} (h : ∀ n ∈ earlier, n.outText = "")
    (report : Report) : (report.after earlier).stdout = report.stdout := by
  induction earlier with
  | nil => rfl
  | cons n earlier ih =>
    obtain ⟨hn, hmore⟩ := List.forall_mem_cons.1 h
    have hrest : (report.after (n :: earlier)).stdout =
        n.outText ++ (report.after earlier).stdout := String.join_cons
    rw [hrest, hn, String.empty_append, ih hmore]

variable {o : Options} {settings : Settings} {input : List (Option String)} {start : Database}

theorem serve_of_prepare_error (hprepare : prepare access o.sql db = (.error e, start)) :
    serve access o settings input db = (.ofBackend e, start) := by
  simp only [serve, begin, hprepare]

theorem serve_of_prepare_ok (hcalls : o.exec ≠ [])
    (hprepare : prepare access o.sql db = (.ok (), start)) :
    serve access o settings input db = serveCalls access o.exec start := by
  simp only [serve, begin, hprepare, if_neg hcalls]

/-- Calls leave no history. -/
theorem keepsHistory_serve (hcalls : o.exec ≠ []) :
    (serve access o settings input db).1.keepsHistory = false := by
  rcases hprepare : prepare access o.sql db with ⟨_ | _, start⟩
  · rw [serve_of_prepare_error hprepare]
    rfl
  · rw [serve_of_prepare_ok hcalls hprepare]
    rfl

/-- A run with calls is what it does on the database that it opens. -/
theorem run_of_exec {i : Invocation} {disk : Disk} {opened : Disk.Opened}
    (hoptions : Options.read i.words = .ok o) (hcalls : o.exec ≠ [])
    (hsettings : Settings.choose o (configFile? disk) i.environment = .ok settings)
    (hopened : disk.openDatabase settings.database = .ok opened) :
    run i input disk =
      ((serve opened.access o settings input opened.database).1.after
          (notices (configFile? disk) settings),
        disk.close opened (serve opened.access o settings input opened.database).2) := by
  have hplan : plan i (configFile? disk) =
      .ok ⟨o, settings, notices (configFile? disk) settings⟩ := by
    rw [plan, hoptions]
    simp only [hsettings]
    rfl
  simp only [run, hplan, carryOut, hopened, keepsHistory_serve hcalls, Bool.false_eq_true, if_false]

/-- How a run ends at the text of statements that is the first to fail: with its error, and with the
database that it left. -/
structure StoppedAt (access : Database.Access) (texts : List String) (db : Database) (k : Nat)
    (e : BackendError) (earlier : List Emission) (ending : Report × Database) : Prop where
  stdout : ending.1.stdout = ""
  emissions : ending.1.emissions = earlier ++ [.failure e.details]
  code : ending.1.code = 1
  database : ending.2 = leftBy (Database.executeBatch access) (texts.take (k + 1)) db

/-- How a run ends whose calls are answered: all of them, each on what the one before it left. -/
structure Answered (access : Database.Access) (calls : List String) (start : Database)
    (earlier : List Emission) (ending : Report × Database) : Prop where
  /-- What is written is what the calls come to that do not fail. -/
  stdout : ending.1.stdout =
    String.join ((results (Line.run (Database.connection access)) calls start).filterMap
      Except.toOption)
  emissions : ending.1.emissions =
    earlier ++ (results (Line.run (Database.connection access)) calls start).map emission
  code_eq_one_iff : ending.1.code = 1 ↔
    ∃ e, .error e ∈ results (Line.run (Database.connection access)) calls start
  code_eq_zero_iff : ending.1.code = 0 ↔
    ∀ e, .error e ∉ results (Line.run (Database.connection access)) calls start
  database : ending.2 = leftBy (Line.run (Database.connection access)) calls start

theorem answered_serveCalls {earlier : List Emission} (hearlier : ∀ n ∈ earlier, n.outText = "")
    (calls : List String) (start : Database) :
    Answered access calls start earlier
      ((serveCalls access calls start).1.after earlier, (serveCalls access calls start).2) := by
  rw [serveCalls_eq]
  refine ⟨?_, rfl, ?_, ?_, rfl⟩
  · rw [stdout_after hearlier]
    exact join_outText _
  · rw [← any_failed_iff]
    exact ite_eq_left_iff.trans (by simp)
  · simp only [← not_exists, ← any_failed_iff]
    simp [Report.after]

/-- A run whose command line has calls ends in one of two ways: at the first text of statements that
fails, before any call, or when all calls are answered.  Any texts and any calls can be asked
for. -/
theorem calls_run_to_the_end {i : Invocation} {disk : Disk} {opened : Disk.Opened}
    (hoptions : Options.read i.words = .ok o) (hcalls : o.exec ≠ [])
    (hsettings : Settings.choose o (configFile? disk) i.environment = .ok settings)
    (hopened : disk.openDatabase settings.database = .ok opened) (input : List (Option String)) :
    let earlier := notices (configFile? disk) settings
    let served := serve opened.access o settings input opened.database
    let ending := (served.1.after earlier, served.2)
    let prepared := results (Database.executeBatch opened.access) o.sql opened.database
    let start := leftBy (Database.executeBatch opened.access) o.sql opened.database
    (∀ texts calls, Options.read (Options.words { sql := texts, exec := calls }) =
        .ok { sql := texts, exec := calls }) ∧
      run i input disk = (ending.1, disk.close opened ending.2) ∧
      (∀ k e, (∀ result ∈ prepared.take k, result = .ok ()) → prepared[k]? = some (.error e) →
        StoppedAt opened.access o.sql opened.database k e earlier ending) ∧
      ((∀ result ∈ prepared, result = .ok ()) →
        Answered opened.access o.exec start earlier ending) := by
  intro earlier served ending prepared start
  have hearlier : ∀ n ∈ earlier, n.outText = "" := fun n hn => outText_of_mem_notices hn
  refine ⟨fun texts calls => Options.read_words _, run_of_exec hoptions hcalls hsettings hopened,
    fun k e hbefore hfails => ?_, fun hall => ?_⟩
  · have hserve : served = (.ofBackend e, leftBy (Database.executeBatch opened.access)
        (o.sql.take (k + 1)) opened.database) :=
      serve_of_prepare_error (prepare_of_first_failure hbefore hfails)
    simp only [ending, hserve]
    exact ⟨stdout_after hearlier _, rfl, rfl, rfl⟩
  · have hserve : served = serveCalls opened.access o.exec start :=
      serve_of_prepare_ok hcalls (prepare_of_all_ok hall)
    simp only [ending, hserve]
    exact answered_serveCalls hearlier o.exec start

/-- The second of three calls fails, on a file that was not there before. -/
theorem calls_run_to_the_end_people :
    let i : Invocation := ⟨["-d", "people.db",
      "--sql", "CREATE TABLE people (id INTEGER PRIMARY KEY, name TEXT)",
      "-e", "insertPeople(\x7b\"name\": \"Ann\"\x7d)", "-e", "insertPeople(\x7b\"age\": 7\x7d)",
      "-e", "lastInsertId()"], []⟩
    let o : Options := {
      database := "people.db"
      sql := ["CREATE TABLE people (id INTEGER PRIMARY KEY, name TEXT)"]
      exec := ["insertPeople(\x7b\"name\": \"Ann\"\x7d)", "insertPeople(\x7b\"age\": 7\x7d)",
        "lastInsertId()"] }
    let opened : Disk.Opened := ⟨some (.file "people.db"), .full, .empty⟩
    (Options.read i.words = .ok o ∧ o.exec ≠ [] ∧
      Settings.choose o (configFile? {}) i.environment = .ok ⟨"people.db", "warn", true⟩ ∧
      Disk.openDatabase {} "people.db" = .ok opened) ∧
      (run i [] {}).1.emissions = [.out "1 row(s) affected\n",
        .err "Error: Database error [1]: table people has no column named age",
        .out "last insert id: 1\n"] ∧
      (run i [] {}).1.stdout = "1 row(s) affected\nlast insert id: 1\n" ∧
      (run i [] {}).1.code = 1 ∧
      ∃ left, (run i [] {}).2 = Disk.close {} opened left ∧
        (left.table? "people").map (fun t => t.rows.map Database.Row.cells) =
          some [[.null, .text "Ann".toUTF8]] := by
  intro i o opened
  have hoptions : Options.read i.words = .ok o := by decide +kernel
  have hcalls : o.exec ≠ [] := List.cons_ne_nil _ _
  have hsettings : Settings.choose o (configFile? {}) i.environment =
      .ok ⟨"people.db", "warn", true⟩ := by decide +kernel
  have hopened : Disk.openDatabase {} "people.db" = .ok opened := rfl
  obtain ⟨-, hrun, -, hanswered⟩ := calls_run_to_the_end hoptions hcalls hsettings hopened []
  have hprepared : ∀ result ∈ results (Database.executeBatch opened.access) o.sql opened.database,
      result = .ok () := by
    decide +kernel
  have hends := hanswered hprepared
  have hresults : results (Line.run (Database.connection .full)) o.exec
      (leftBy (Database.executeBatch .full) o.sql .empty) =
      [.ok "1 row(s) affected\n", .error (.database 1 "table people has no column named age"),
        .ok "last insert id: 1\n"] := by
    decide +kernel
  refine ⟨⟨hoptions, hcalls, hsettings, hopened⟩, ?_, ?_, ?_, _, congrArg Prod.snd hrun, ?_⟩
  · rw [hrun, hends.emissions, hresults]
    decide +kernel
  · rw [hrun, hends.stdout, hresults]
    rfl
  · rw [hrun, hends.code_eq_one_iff, hresults]
    exact ⟨_, .tail _ (.head _)⟩
  · rw [hends.database]
    decide +kernel

end Program

end CrudByName

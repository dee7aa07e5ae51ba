import StoredRoutines.Proofs.Forecasts

/-!
Isolation of routines. Over a database whose answers depend on nothing but the statement, what a
batch does about one source is determined by this source: the files of another routine have no part
in its result, in the statements executed for it, or in its record.
-/

namespace StoredRoutines

open Loader Outcomes TraceProperty

/-- From all worlds whose files have the property, the computation has the same outcome and adds the
same trace. -/
def Loader.DeterminedBy {α : Type} (x : Loader α) (F : FileSystem → Prop) : Prop :=
  ∃ r es, ∀ w, F w.files → x.run w = (r, w.after es)

namespace Loader.DeterminedBy

variable {α β : Type} {F : FileSystem → Prop}

theorem ofExcept (r : Except Failure α) : (Loader.ofExcept r).DeterminedBy F :=
  ⟨r, [], fun w _ => by rw [run_ofExcept, World.after_nil]⟩

theorem pure (a : α) : (Pure.pure a : Loader α).DeterminedBy F :=
  ofExcept (.ok a)

theorem fail (e : Failure) : (Loader.fail e : Loader α).DeterminedBy F :=
  ofExcept (.error e)

theorem log (level : LogLevel) (channel : Channel) (text : String) :
    (Loader.log level channel text).DeterminedBy F :=
  ⟨.ok (), [.log ⟨level, channel, text⟩], fun _ _ => rfl⟩

theorem bind {x : Loader α} {f : α → Loader β} (hx : x.DeterminedBy F)
    (hf : ∀ a, (f a).DeterminedBy F) : (x >>= f).DeterminedBy F := by
  obtain ⟨r, es, first⟩ := hx
  cases r with
  | error e => exact ⟨.error e, es, fun w files => run_bind_of_error (first w files)⟩
  | ok a =>
    obtain ⟨r, fs, second⟩ := hf a
    refine ⟨r, es ++ fs, fun w files => ?_⟩
    rw [run_bind_of_ok (first w files), second (w.after es) files, World.after_after]

theorem attempt {x : Loader α} (hx : x.DeterminedBy F) : x.attempt.DeterminedBy F := by
  obtain ⟨r, es, first⟩ := hx
  exact ⟨.ok r, es, fun w files => by rw [run_attempt, first w files]⟩

theorem forM {f : α → Loader Unit} {as : List α} (each : ∀ a, (f a).DeterminedBy F) :
    (as.forM f).DeterminedBy F := by
  induction as with
  | nil => exact pure ()
  | cons a as ih => exact (each a).bind fun _ => ih

theorem getFiles_bind {f : FileSystem → Loader α} (same : ∀ fs fs', F fs → F fs' → f fs = f fs')
    (each : ∀ fs, (f fs).DeterminedBy F) : (Loader.getFiles >>= f).DeterminedBy F := by
  by_cases some : ∃ fs, F fs
  · obtain ⟨fs, holds⟩ := some
    obtain ⟨r, es, determined⟩ := each fs
    refine ⟨r, es, fun w files => ?_⟩
    rw [run_bind_of_ok (run_getFiles w), same w.files fs files holds]
    exact determined w files
  · obtain ⟨r, es, -⟩ := each (.empty [])
    exact ⟨r, es, fun w files => absurd ⟨_, files⟩ some⟩

theorem answer {db : Sql.Database} (stateless : db.Stateless) (result : List String → String → α)
    (same : ∀ before sql, result before sql = result [] sql) (sql : String) :
    (db.answer result sql).DeterminedBy F := by
  refine ⟨(db.failure [] sql).elim (.ok (result [] sql)) fun e => .error (.error e),
    [.statement sql], fun w _ => ?_⟩
  rw [db.run_answer, stateless.1 w.statements, same w.statements]
  cases db.failure [] sql <;> rfl

variable {db : Sql.Database}

theorem execute (stateless : db.Stateless) (sql : String) :
    (db.layer.execute sql).DeterminedBy F :=
  answer stateless (fun _ _ => ()) (fun _ _ => rfl) sql

theorem rows (stateless : db.Stateless) (sql : String) : (db.layer.rows sql).DeterminedBy F :=
  answer stateless db.rows stateless.2.1 sql

theorem scalar (stateless : db.Stateless) (sql : String) : (db.layer.scalar sql).DeterminedBy F :=
  answer stateless db.scalar stateless.2.2 sql

/-- Two worlds with such files are told apart neither by the outcome nor by the statements. -/
theorem run_eq {x : Loader α} (h : x.DeterminedBy F) {w v w' v' : World}
    {r r' : Except Failure α} (files : F w.files) (files' : F w'.files) (run : x.run w = (r, v))
    (run' : x.run w' = (r', v')) :
    r = r' ∧ v.statements.drop w.statements.length = v'.statements.drop w'.statements.length := by
  obtain ⟨_, es, determined⟩ := h
  rw [determined w files] at run
  rw [determined w' files'] at run'
  cases run
  cases run'
  simp

end Loader.DeterminedBy

/-- The files as far as one source goes: what it is read as, and the working directory. -/
structure FileSystem.Shows (extension : String) (path : Path) (directory : List String)
    (loaded : Except Failure RoutineSource) (fs : FileSystem) : Prop where
  directory : fs.workingDirectory = directory
  source : RoutineSource.load fs path extension = loaded

section

variable {db : Sql.Database} {F : FileSystem → Prop} {directory : List String} {path : Path}
  {loaded : Except Failure RoutineSource}

theorem RoutineResult.determined_failed (path : Path) (name : String)
    (reason : Option StaleReason) (remade : Bool) (error : LoaderError) :
    (RoutineResult.failed path name reason remade error).DeterminedBy F :=
  (DeterminedBy.log _ _ _).bind fun _ => .pure _

theorem determined_loadRoutine (stateless : db.Stateless) (source : RoutineSource)
    (a : Annotations) (session : SessionSettings) (entry : Option CatalogEntry)
    (place : ∀ fs, F fs → fs.workingDirectory = directory) :
    (loadRoutine db.layer source a session entry).DeterminedBy F := by
  have creates (sql : String) : (session.apply db.layer >>= fun _ => db.layer.execute sql >>=
      fun _ => pure sql).DeterminedBy F :=
    (DeterminedBy.forM (DeterminedBy.execute stateless)).bind fun _ =>
      (DeterminedBy.execute stateless sql).bind fun _ => .pure _
  have drops (type name : Value) : (dropRoutine db.layer type name).DeterminedBy F :=
    (DeterminedBy.ofExcept _).bind fun sql =>
      (DeterminedBy.execute stateless sql).bind fun _ => .pure _
  refine (DeterminedBy.log _ _ _).bind fun _ => ?_
  refine DeterminedBy.getFiles_bind
    (fun fs fs' h h' => by rw [place fs h, place fs' h']) fun fs => ?_
  refine (DeterminedBy.ofExcept _).bind fun sql => ?_
  cases entry with
  | none => exact creates sql
  | some entry => exact (drops _ _).bind fun _ => creates sql

theorem BulkTable.determined_declaredColumns (stateless : db.Stateless) (routine table : Value)
    (declared : Nat) (source : String) :
    (declaredColumns db.layer routine table declared source).DeterminedBy F := by
  have columns : (columns db.layer table).DeterminedBy F :=
    (DeterminedBy.ofExcept _).bind fun sql => (DeterminedBy.rows stateless sql).bind fun rows =>
      (DeterminedBy.ofExcept _).bind fun _ => .pure _
  have permanent : (isPermanent db.layer table).DeterminedBy F :=
    (DeterminedBy.ofExcept _).bind fun literal =>
      (DeterminedBy.scalar stateless _).bind fun _ => .pure _
  have describes (temporary : Bool) : (look db.layer table temporary).DeterminedBy F :=
    columns.bind fun found => (DeterminedBy.log _ _ _).bind fun _ => .pure _
  refine DeterminedBy.bind (permanent.bind fun permanent => ?_) fun found => ?_
  · cases permanent with
    | true => exact describes false
    | false =>
      refine (DeterminedBy.ofExcept _).bind fun call => ?_
      refine (DeterminedBy.execute stateless call).bind fun _ => ?_
      refine (describes true).attempt.bind fun outcome => ?_
      refine (DeterminedBy.ofExcept _).bind fun drop => ?_
      exact (DeterminedBy.execute stateless drop).bind fun _ => .ofExcept _
  · split
    · exact .pure _
    · exact .fail _

namespace Compile

theorem determined_describe (stateless : db.Stateless) (source : RoutineSource)
    (a : Annotations) : (describe db.layer source a).DeterminedBy F := by
  have fetches : (CatalogParameter.fetch db.layer a.routineName).DeterminedBy F :=
    (DeterminedBy.rows stateless _).bind fun rows => .ofExcept _
  have documents (parameters : List CatalogParameter) :
      (RoutineDoc.build source parameters).DeterminedBy F :=
    (DeterminedBy.ofExcept _).bind fun doc => (DeterminedBy.ofExcept _).bind fun names =>
      ((DeterminedBy.forM fun _ => .log _ _ _).bind fun _ => .pure _).bind fun _ => .pure _
  refine fetches.bind fun reported => (DeterminedBy.ofExcept _).bind fun parameters => ?_
  refine DeterminedBy.bind ?_ fun columns => (documents parameters).bind fun _ => .pure _
  unfold bulkColumns
  split
  · exact BulkTable.determined_declaredColumns stateless _ _ _ _
  · exact .pure _

theorem determined_stop (path : Path) (name : String) (reason : Option StaleReason)
    (remade : Bool) (failure : Failure) :
    (stop path name reason remade failure).DeterminedBy F := by
  unfold stop
  split
  · exact .fail _
  · exact RoutineResult.determined_failed _ _ _ _ _

theorem determined_rebuild (stateless : db.Stateless) (settings : LoaderSettings)
    (source : RoutineSource) (table : ReplaceTable) (entry : Option CatalogEntry)
    (reason : StaleReason) (place : ∀ fs, F fs → fs.workingDirectory = directory) :
    (rebuild settings db.layer source table entry reason).DeterminedBy F := by
  have makes : (make settings db.layer source table entry).DeterminedBy F := by
    unfold make
    split
    · exact .fail _
    · exact (determined_loadRoutine stateless _ _ _ _ place).bind fun _ => .pure _
  refine makes.attempt.bind fun made => ?_
  cases made with
  | error e => exact determined_stop _ _ _ _ _
  | ok a =>
    refine (determined_describe stateless source a).attempt.bind fun described => ?_
    cases described with
    | error e => exact determined_stop _ _ _ _ _
    | ok found => exact .pure _

end Compile

/-- What a build does about a source is determined by what the source is read as, and where. -/
theorem determined_compile (stateless : db.Stateless) (settings : LoaderSettings)
    (record : Option BuildRecord) (table : ReplaceTable) (entry : Option CatalogEntry) :
    (compile settings db.layer path record table entry).DeterminedBy
      (FileSystem.Shows settings.extension path directory loaded) := by
  have examines : (Compile.examine settings path record table entry).DeterminedBy
      (FileSystem.Shows settings.extension path directory loaded) :=
    DeterminedBy.getFiles_bind (fun fs fs' h h' => by rw [h.source, h'.source]) fun fs =>
      (DeterminedBy.ofExcept _).bind fun source =>
        (DeterminedBy.ofExcept _).bind fun judged => .pure _
  refine examines.attempt.bind fun examined => ?_
  rcases examined with e | ⟨source, record | reason⟩
  · exact Compile.determined_stop _ _ _ _ _
  · exact (DeterminedBy.log _ _ _).bind fun _ => .pure _
  · exact Compile.determined_rebuild stateless _ _ _ _ _ fun fs files => files.directory

theorem determined_assess (settings : LoaderSettings) (record : Option BuildRecord)
    (table : ReplaceTable) (entry : Option CatalogEntry) :
    (assess settings path record table entry).DeterminedBy
      (FileSystem.Shows settings.extension path directory loaded) := by
  refine DeterminedBy.getFiles_bind (fun fs fs' h h' => by rw [h.source, h'.source]) fun fs => ?_
  split
  · exact RoutineResult.determined_failed _ _ _ _ _
  · exact .fail _
  · refine (DeterminedBy.ofExcept _).bind fun judged => ?_
    split
    · exact (DeterminedBy.log _ _ _).bind fun _ => .pure _
    · split
      · exact RoutineResult.determined_failed _ _ _ _ _
      · exact (DeterminedBy.log _ _ _).bind fun _ => .pure _

theorem Batch.determined_routine (stateless : db.Stateless) (settings : LoaderSettings)
    (start : Start) (name : String) : (routine settings db.layer start (name, path)).DeterminedBy
      (FileSystem.Shows settings.extension path directory loaded) := by
  simp only [routine]
  split
  · exact determined_assess _ _ _ _
  · exact determined_compile stateless _ _ _ _

end

namespace Batch

/-- As far as a batch goes, two worlds differ at most in what the sources of one routine hold. -/
structure SameBut (settings : LoaderSettings) (only : Option (List Path)) (n : String)
    (w w' : World) : Prop where
  directory : w.files.workingDirectory = w'.files.workingDirectory
  store : RecordStore.load w.files settings.store = RecordStore.load w'.files settings.store
  constants : settings.constants.map (Constants.ofFiles w.files) =
    settings.constants.map (Constants.ofFiles w'.files)
  paths : ((Batch.paths settings only).run w).1 = ((Batch.paths settings only).run w').1
  sources : ∀ found, ((Batch.paths settings only).run w).1 = .ok found → ∀ p ∈ found,
    routineName p settings.extension ≠ n → w.files.read p = w'.files.read p

/-- Accounts of the same source, which are equal unless it is one of the routine. -/
structure Account.SameBut (n : String) (a b : Account) : Prop where
  path : a.result.path = b.result.path
  name : a.result.name = b.result.name
  equal : a.result.name ≠ n → a = b

theorem Account.SameBut.refl (n : String) (a : Account) : a.SameBut n a :=
  ⟨rfl, rfl, fun _ => rfl⟩

theorem RejectedBy.unique {duplicates : List (String × List Path × Path)}
    {rejected rejected' : List RoutineResult} (h : RejectedBy duplicates rejected)
    (h' : RejectedBy duplicates rejected') : rejected = rejected' := by
  have equal : List.Forall₂ Eq rejected rejected' :=
    (forall₂_join h h').imp fun r r' ⟨d, _, first, second⟩ => first.trans second.symm
  rwa [List.forall₂_eq_eq_eq] at equal

variable {settings : LoaderSettings} {db : Sql.Database} {only : Option (List Path)} {n : String}
  {w w' u u' : World}

theorem run_opening_eq_ok {paths : List Path} {rejected : List RoutineResult} {start : Start}
    (run : (opening settings db.layer only).run w = (.ok (paths, rejected, start), u)) :
    ((Batch.paths settings only).run w).1 = .ok paths ∧
    RejectedBy (duplicates (groups settings.extension paths)) rejected ∧
    ∃ before before', RecordStore.load w.files settings.store = .ok start.store ∧
      RoutineCatalog.ofRows (db.rows before RoutineCatalog.query) = .ok start.catalog ∧
      ReplaceTable.ofFiles w.files settings.constants (db.rows before' ColumnTypes.query) =
        .ok start.table := by
  obtain ⟨u₁, u₂, finding, rejecting, preparing⟩ := steps_of_opening run
  obtain ⟨es, rfl, -⟩ := (traces_paths allowsQuiet_quiet settings only).of_run finding
  obtain ⟨fs, rfl, -⟩ := (traces_rejectDuplicates allowsQuiet_quiet _).of_run rejecting
  obtain ⟨store, catalog, table⟩ := run_prepare_eq_ok preparing
  exact ⟨by rw [finding], run_rejectDuplicates rejecting, _, _, store, catalog, table⟩

/-- The sources of one routine have no part in what a batch knows when it starts on the routines. -/
theorem opening_eq (stateless : db.Stateless) (same : SameBut settings only n w w')
    {o o' : List Path × List RoutineResult × Start}
    (opened : (opening settings db.layer only).run w = (.ok o, u))
    (opened' : (opening settings db.layer only).run w' = (.ok o', u')) : o = o' := by
  obtain ⟨paths, rejected, start⟩ := o
  obtain ⟨paths', rejected', start'⟩ := o'
  obtain ⟨found, rejecting, before, earlier, store, catalog, table⟩ := run_opening_eq_ok opened
  obtain ⟨found', rejecting', before', earlier', store', catalog', table'⟩ :=
    run_opening_eq_ok opened'
  rw [same.paths, found'] at found
  cases found
  rw [same.store, store'] at store
  rw [stateless.2.1 before, ← stateless.2.1 before', catalog'] at catalog
  rw [ReplaceTable.ofFiles, same.constants, stateless.2.1 earlier, ← stateless.2.1 earlier',
    ← ReplaceTable.ofFiles, table'] at table
  have all : start = start' := by
    obtain ⟨records, entries, values⟩ := start
    obtain ⟨records', entries', values'⟩ := start'
    cases store
    cases catalog
    cases table
    rfl
  rw [rejecting.unique rejecting', all]

theorem isOf_of_routine {layer : Sql.DataLayer} {start : Start} {source : String × Path}
    {r : RoutineResult} (run : (routine settings layer start source).run w = (.ok r, u)) :
    r.IsOf settings.extension source.2 := by
  simp only [routine] at run
  split at run
  · exact (run_assess run).1
  · exact (run_compile run).1

/-- What happens to the sources of other routines is the same in both worlds. -/
theorem sameBut_handled (stateless : db.Stateless) (same : SameBut settings only n w w')
    {settled settled' : Settled} {paths : List Path} {rejected : List RoutineResult}
    {start : Start} {handled handled' : List Account}
    (course : Course settings db.layer only w settled paths rejected start u handled)
    (course' : Course settings db.layer only w' settled' paths rejected start u' handled') :
    List.Forall₂ (Account.SameBut n) handled handled' := by
  have found := (run_opening_eq_ok course.opened).1
  refine forall₂_imp_of_mem (forall₂_join course.forall₂ course'.forall₂) fun a b _ _ related => ?_
  obtain ⟨⟨name, path⟩, place, ⟨t, v, files, ran, executed⟩, t', v', files', ran', executed'⟩ :=
    related
  have first := isOf_of_routine ran
  have second := isOf_of_routine ran'
  refine ⟨first.path_eq.trans second.path_eq.symm, first.name_eq.trans second.name_eq.symm,
    fun other => ?_⟩
  have named : routineName path settings.extension ≠ n := by
    rw [← first.name_eq]
    exact other
  have member : path ∈ paths := by
    have alone : path ∈ implying settings.extension paths name := by simp [mem_sources.1 place]
    exact (mem_implying.1 alone).1
  have read := same.sources paths found path member named
  have loaded : RoutineSource.load w'.files path settings.extension =
      RoutineSource.load w.files path settings.extension := by
    rw [RoutineSource.load, RoutineSource.load, read]
  obtain ⟨result, statements⟩ := (determined_routine stateless settings start name).run_eq
    (F := FileSystem.Shows settings.extension path w.files.workingDirectory
      (RoutineSource.load w.files path settings.extension))
    (by rw [files]; exact ⟨rfl, rfl⟩) (by rw [files']; exact ⟨same.directory.symm, loaded⟩) ran ran'
  obtain ⟨r, sqls⟩ := a
  obtain ⟨r', sqls'⟩ := b
  cases result
  cases executed
  cases executed'
  rw [statements]

theorem lookup_keep_congr {store store' : RecordStore} {r r' : RoutineResult}
    (named : r.name = r'.name) (equal : r.name ≠ n → r = r')
    (others : ∀ name, name ≠ .text n → store.lookup name = store'.lookup name) {name : Atom}
    (other : name ≠ .text n) : (keep store r).lookup name = (keep store' r').lookup name := by
  by_cases own : r.name = n
  · rw [lookup_keep fun same => absurd (same.trans (congrArg Atom.text own)) other,
      lookup_keep fun same => absurd (same.trans (congrArg Atom.text (named.symm.trans own))) other]
    exact others name other
  · obtain rfl := equal own
    unfold keep
    split
    · by_cases here : name = .text r.name
      · rw [here, Assoc.lookup_put_self, Assoc.lookup_put_self]
      · rw [Assoc.lookup_put_of_ne here, Assoc.lookup_put_of_ne here]
        exact others name other
    · exact others name other

theorem lookup_foldl_keep_congr {handled handled' : List Account}
    (h : List.Forall₂ (Account.SameBut n) handled handled') {store store' : RecordStore}
    (others : ∀ name, name ≠ .text n → store.lookup name = store'.lookup name) {name : Atom}
    (other : name ≠ .text n) :
    ((handled.map (·.result)).foldl keep store).lookup name =
      ((handled'.map (·.result)).foldl keep store').lookup name := by
  induction h generalizing store store' with
  | nil => exact others name other
  | cons head _ ih =>
    exact ih fun name other => lookup_keep_congr head.name
      (fun own => congrArg Account.result (head.equal own)) others other

theorem lookup_remaining_congr (only : Option (List Path)) (known : List String)
    {store store' : RecordStore} {name : Atom} (same : store.lookup name = store'.lookup name) :
    (remaining only known store).lookup name = (remaining only known store').lookup name := by
  cases only with
  | some only => exact same
  | none =>
    unfold remaining
    rw [Assoc.lookup_filter (isKnown known), Assoc.lookup_filter (isKnown known), same]

end Batch

/-- Routines are isolated from each other: over a database whose answers depend on nothing but the
statement, two batches over worlds that differ in the sources of one routine only do the same about
every other routine. Its result is the same, and so are the statements executed for it and the
record that is handed over. -/
theorem loadAll_isolates {settings : LoaderSettings} {db : Sql.Database} (stateless : db.Stateless)
    {only : Option (List Path)} {n : String} {w w' v v' : World} {batch batch' : BatchResult}
    (same : Batch.SameBut settings only n w w')
    (run : (loadAll settings db.layer only).run w = (.ok batch, v))
    (run' : (loadAll settings db.layer only).run w' = (.ok batch', v')) :
    ∃ accounts accounts' records records' u u' t t',
      (Batch.accounts settings db.layer only).run w = (.ok accounts, u) ∧
      (Batch.accounts settings db.layer only).run w' = (.ok accounts', u') ∧
      accounts.map (·.result) = batch.results ∧ accounts'.map (·.result) = batch'.results ∧
      accounts.filter (·.result.name ≠ n) = accounts'.filter (·.result.name ≠ n) ∧
      (Batch.settle settings db.layer only).run w = (.ok ⟨batch, records⟩, t) ∧
      (Batch.settle settings db.layer only).run w' = (.ok ⟨batch', records'⟩, t') ∧
      ∀ name, name ≠ .text n → records.lookup name = records'.lookup name := by
  obtain ⟨⟨b, records⟩, t, settling, rfl⟩ := Batch.settle_of_run run
  obtain ⟨⟨b', records'⟩, t', settling', rfl⟩ := Batch.settle_of_run run'
  obtain ⟨paths, rejected, start, u, handled, course⟩ := Batch.course_of_run settling
  obtain ⟨paths', rejected', start', u', handled', course'⟩ := Batch.course_of_run settling'
  cases Batch.opening_eq stateless same course.opened course'.opened
  obtain ⟨⟨s, accounts⟩, results⟩ := course.accounts
  obtain ⟨⟨s', accounts'⟩, results'⟩ := course'.accounts
  have alike := Batch.sameBut_handled stateless same course course'
  -- Results are sorted by path, and paths are the same, so sorting keeps the two lists in step.
  have sorted : List.Forall₂ (Batch.Account.SameBut n)
      (Batch.sortAccounts ((rejected.map fun r => ⟨r, []⟩) ++ handled))
      (Batch.sortAccounts ((rejected.map fun r => ⟨r, []⟩) ++ handled')) :=
    forall₂_mergeSort (List.rel_append (List.forall₂_same.2 fun a _ => .refl n a) alike)
      fun a b a' b' first second => by rw [first.path, second.path]
  have names := map_eq_of_forall₂ sorted (f := (·.result.name)) (g := (·.result.name))
    fun a b related => related.name
  refine ⟨_, _, records, records', s, s', t, t', accounts, accounts', results, results', ?_,
    settling, settling', fun name other => ?_⟩
  · refine filter_eq_of_forall₂ sorted (fun a b related => by rw [related.name]) ?_
    intro a b related other
    exact related.equal (of_decide_eq_true other)
  · have kept := Batch.lookup_foldl_keep_congr alike
      (fun name _ => Eq.refl (start.store.lookup name)) other
    have known : b.results.map (·.name) = b'.results.map (·.name) := by
      change _ = b.results at results
      change _ = b'.results at results'
      rw [← results, ← results', List.map_map, List.map_map]
      exact names
    have handed : records = Batch.remaining only (b.results.map (·.name)) _ := course.records
    have handed' : records' = Batch.remaining only (b'.results.map (·.name)) _ := course'.records
    rw [handed, handed', ← known]
    exact Batch.lookup_remaining_congr only _ kept

namespace Sample

theorem stateless_answering : (answering []).Stateless := by
  refine ⟨fun _ _ => rfl, fun before sql => ?_, fun _ _ => rfl⟩
  simp [answering]

theorem ofSource_misnamed : Annotations.ofSource ⟨otherPath, ".psql", text, 0⟩ [] =
    .error (.ofSource .parse "Stored routine name 'a' does not match filename." "/b.psql") := by
  have find : Placeholder.find text = [] := by decide +kernel
  have placeholders : Placeholder.resolve ⟨otherPath, ".psql", text, 0⟩ [] = .ok [] := by
    simp [Placeholder.resolve, find, Placeholder.sortTexts]
  have designation : Designation.ofSource ⟨otherPath, ".psql", text, 0⟩ = .ok (.plain "rows", 1) := by
    decide +kernel
  have header : Header.ofSource ⟨otherPath, ".psql", text, 0⟩ = .error (.ofSource .parse
      "Stored routine name 'a' does not match filename." "/b.psql") := by
    rfl
  simp only [Annotations.ofSource, placeholders, designation, header]
  rfl

theorem sameBut_beside (other other' : String) : Batch.SameBut settings (some [path, otherPath]) "b"
    (worldBeside other) (worldBeside other') where
  directory := rfl
  store := rfl
  constants := rfl
  paths := rfl
  sources := by
    intro found finds p member named
    cases finds
    rw [sortPaths_pair] at member
    rcases List.mem_pair.1 member with rfl | rfl
    · rfl
    · exact absurd rfl named

end Sample

open Sample in
/-- Whatever is wrong with one source of a directory, the other is loaded and recorded alike. -/
theorem load_isolated : ∃ e e' v v',
    (loadAll settings (answering []).layer (some [path, otherPath])).run (worldBeside "") =
      (.ok ⟨[loaded, refused e], [], false⟩, v) ∧
    (loadAll settings (answering []).layer (some [path, otherPath])).run (worldBeside text) =
      (.ok ⟨[loaded, refused e'], [], false⟩, v') ∧ e ≠ e' ∧
    ∃ accounts accounts' records records' u u' t t',
      (Batch.accounts settings (answering []).layer (some [path, otherPath])).run (worldBeside "") =
        (.ok accounts, u) ∧
      (Batch.accounts settings (answering []).layer (some [path, otherPath])).run
        (worldBeside text) = (.ok accounts', u') ∧
      accounts.map (·.result) = [loaded, refused e] ∧
      accounts'.map (·.result) = [loaded, refused e'] ∧
      accounts.filter (·.result.name ≠ "b") = accounts'.filter (·.result.name ≠ "b") ∧
      (Batch.settle settings (answering []).layer (some [path, otherPath])).run (worldBeside "") =
        (.ok ⟨⟨[loaded, refused e], [], false⟩, records⟩, t) ∧
      (Batch.settle settings (answering []).layer (some [path, otherPath])).run
        (worldBeside text) = (.ok ⟨⟨[loaded, refused e'], [], false⟩, records'⟩, t') ∧
      ∀ name, name ≠ .text "b" → records.lookup name = records'.lookup name := by
  have load : RoutineSource.load (filesBeside "") otherPath ".psql" =
      .ok ⟨otherPath, ".psql", "", 0⟩ := by decide +kernel
  have load' : RoutineSource.load (filesBeside text) otherPath ".psql" =
      .ok ⟨otherPath, ".psql", text, 0⟩ := by decide +kernel
  obtain ⟨v, run⟩ := run_loadAll_beside load (ofSource_empty otherPath)
  obtain ⟨v', run'⟩ := run_loadAll_beside load' ofSource_misnamed
  exact ⟨_, _, v, v', run, run', by decide +kernel,
    loadAll_isolates stateless_answering (sameBut_beside "" text) run run'⟩

end StoredRoutines

import StoredRoutines.Proofs.CleaningUp

/-!
How complete the removal of routines without a source is. If no statement fails, each entry of the
catalog that no source implies is dropped. But the catalog has one entry for a name, that of the row
reported last, so of a procedure and a function that share their name only one is dropped.
-/

namespace StoredRoutines

open Loader Outcomes TraceProperty

/-- What is done behind a computation without a statement does not show in the statements. -/
theorem Loader.statements_bind_quiet {α β : Type} (x : Loader α) {f : α → Loader β}
    (quiet : ∀ a, (f a).Traces Quiet) (w : World) :
    ((x >>= f).run w).2.statements = (x.run w).2.statements := by
  cases first : x.run w with
  | mk r u =>
    cases r with
    | error e => rw [run_bind_of_error first]
    | ok a =>
      obtain ⟨es, step, silent, -⟩ := quiet a u
      rw [run_bind_of_ok first, step, World.statements_after, silent, List.append_nil]

/-- In a run none of whose statements fails, what was carried out is the whole plan. -/
theorem Sql.Database.CarriesOut.whole {db : Sql.Database} {before sqls executed : List String}
    (h : db.CarriesOut before sqls executed) (only : executed <+: sqls)
    (calm : ∀ done sql rest, executed = done ++ sql :: rest →
      db.failure (before ++ done) sql = none) : executed = sqls := by
  rcases h with whole | ⟨done, sql, rest, -, ⟨more, split⟩, failed⟩
  · exact only.eq_of_length_le whole.length_le
  · rw [List.append_assoc] at split
    exact absurd (calm done sql more split.symm) failed

namespace Batch

variable {settings : LoaderSettings} {db : Sql.Database}

def DropsEntry (catalog : RoutineCatalog) (name : Atom) (sql : String) : Prop :=
  ∃ entry, catalog.lookup ⟨name⟩ = some entry ∧
    dropStatement entry.routineType (.atom name) = .ok sql

theorem carriesOut_obsolete (active : settings.dryRun = false) {catalog : RoutineCatalog}
    {names : List Atom} {sqls : List String}
    (written : List.Forall₂ (DropsEntry catalog) names sqls) {w v : World}
    {r : Except Failure (List (Option Atom))}
    (run : (names.mapM (obsolete settings db.layer catalog)).run w = (r, v)) :
    ∃ executed, v.statements = w.statements ++ executed ∧ executed <+: sqls ∧
      db.CarriesOut w.statements sqls executed := by
  -- Each name executes its one statement; a refused one ends the batch or is passed over.
  induction written generalizing w v r with
  | nil =>
    cases run
    exact ⟨[], (List.append_nil _).symm, List.prefix_refl _, .inl (List.prefix_refl _)⟩
  | @cons name sql names sqls head _ ih =>
    obtain ⟨entry, found, dropping⟩ := head
    rw [List.mapM_cons] at run
    cases first : (obsolete settings db.layer catalog name).run w with
    | mk outcome u =>
      rcases run_obsolete first with ⟨-, fails⟩ | ⟨entry', sql', -, found', dropping', once, told⟩
      · obtain ⟨e, unwritten, -⟩ := fails active entry found
        cases dropping.symm.trans unwritten
      · cases found.symm.trans found'
        cases dropping.symm.trans dropping'
        cases outcome with
        | error e =>
          rw [run_bind_of_error first] at run
          cases run
          rcases told with ⟨-, value⟩ | ⟨failed, -⟩
          · cases value
          · refine ⟨[sql], once, ⟨sqls, rfl⟩, .inr ⟨[], sql, sqls, rfl, List.prefix_refl _, ?_⟩⟩
            rwa [List.append_nil]
        | ok gone =>
          cases tail : (names.mapM (obsolete settings db.layer catalog)).run u with
          | mk outcome' t =>
            have last := statements_bind_quiet (names.mapM (obsolete settings db.layer catalog))
              (fun more => allowsQuiet_quiet.pure (gone :: more)) u
            rw [run_bind_of_ok first] at run
            rw [run, tail] at last
            obtain ⟨executed, statements, only, carried⟩ := ih tail
            refine ⟨sql :: executed, ?_, (List.prefix_cons_inj sql).2 only, ?_⟩
            · rw [last, statements, once, List.append_assoc]
              rfl
            · rcases told with ⟨-, -⟩ | ⟨failed, -⟩
              · rw [once] at carried
                exact carried.cons
              · refine .inr ⟨[], sql, sqls, rfl, ⟨executed, rfl⟩, ?_⟩
                rwa [List.append_nil]

theorem mem_obsoleteNames_of_lookup {catalog : RoutineCatalog} {known : List String} {n : String}
    {entry : CatalogEntry} (found : catalog.lookup ⟨.text n⟩ = some entry) :
    .text n ∈ obsoleteNames catalog known ↔ isKnown known (.text n) = false := by
  obtain ⟨⟨key⟩, same, member⟩ := Assoc.exists_of_lookup found
  obtain rfl : key = .text n := Key.beq_text_iff.1 (BEq.symm same)
  exact mem_obsoleteNames.trans (and_iff_right (List.mem_map.2 ⟨_, member, rfl⟩))

theorem mem_iff_of_dropsEntry {catalog : RoutineCatalog} {names : List Atom} {sqls : List String}
    (written : List.Forall₂ (DropsEntry catalog) names sqls) {n sql : String} {entry : CatalogEntry}
    (found : catalog.lookup ⟨.text n⟩ = some entry) (place : .text n ∈ names)
    (drops : DropsRoutine n sql) :
    sql ∈ sqls ↔ dropStatement entry.routineType (.text n) = .ok sql := by
  constructor
  · intro member
    obtain ⟨name, -, other, found', dropping⟩ := Outcomes.exists_of_forall₂ written member
    obtain ⟨m, same, drops'⟩ := dropsRoutine_of_dropStatement dropping
    cases same
    obtain rfl := drops.name_unique drops'
    cases found.symm.trans found'
    exact dropping
  · intro dropping
    obtain ⟨sql', member, other, found', dropping'⟩ :=
      Outcomes.exists_of_forall₂ written.flip place
    cases found.symm.trans found'
    cases dropping.symm.trans dropping'
    exact member

theorem statements_of_cleanUp (catalog : RoutineCatalog) (results : List RoutineResult)
    (store : RecordStore) (w : World) :
    ((cleanUp settings db.layer catalog results store).run w).2.statements =
      ((dropAllObsolete settings db.layer catalog (results.map (·.name))).run w).2.statements :=
  statements_bind_quiet _ (fun _ => allowsQuiet_quiet.bind (traces_prune allowsQuiet_quiet _ _)
    fun _ => allowsQuiet_quiet.pure _) w

theorem statements_of_dropAllObsolete (cleans : settings.dropsObsolete = true)
    {catalog : RoutineCatalog} {known : List String} {names : List Atom}
    (sorted : Atom.inOrder (obsoleteNames catalog known) = .ok names) (w : World) :
    ((dropAllObsolete settings db.layer catalog known).run w).2.statements =
      ((names.mapM (obsolete settings db.layer catalog)).run w).2.statements := by
  rw [dropAllObsolete, if_pos cleans, sorted, ofExcept_ok, pure_bind]
  exact statements_bind_quiet _ (fun _ => allowsQuiet_quiet.pure _) w

theorem statements_of_proceeding {paths : List Path} {rejected handled : List RoutineResult}
    {start : Start} {u u' : World} (handling : ((sources (groups settings.extension paths)).mapM
      (routine settings db.layer start)).run u = (.ok handled, u')) :
    ((proceeding settings db.layer none paths rejected start).run u).2.statements =
      ((cleanUp settings db.layer start.catalog (sortResults (rejected ++ handled))
        (handled.foldl keep start.store)).run u').2.statements := by
  rw [proceeding, run_bind_of_ok handling]
  refine statements_bind_quiet _ (fun cleaned => ?_) u'
  cases cleaned
  exact allowsQuiet_quiet.pure _

/-- The statements of a batch end with the drops of the routines without a source, as far as these
go. -/
theorem carriesOut_proceeding (active : settings.dryRun = false)
    (cleans : settings.dropsObsolete = true) {paths : List Path}
    {rejected handled : List RoutineResult} {start : Start}
    (rejecting : RejectedBy (duplicates (groups settings.extension paths)) rejected)
    {names : List Atom} (sorted : Atom.inOrder (obsoleteNames start.catalog
      (paths.map (routineName · settings.extension))) = .ok names)
    {sqls : List String} (written : List.Forall₂ (DropsEntry start.catalog) names sqls)
    {u u' v : World} {r : Except Failure Settled}
    (handling : ((sources (groups settings.extension paths)).mapM
      (routine settings db.layer start)).run u = (.ok handled, u'))
    (run : (proceeding settings db.layer none paths rejected start).run u = (r, v)) :
    ∃ executed, v.statements = u'.statements ++ executed ∧ executed <+: sqls ∧
      db.CarriesOut u'.statements sqls executed := by
  have known := obsoleteNames_results rejecting (run_handle active handling) start.catalog
  have statements : ((proceeding settings db.layer none paths rejected start).run u).2.statements =
      _ := statements_of_proceeding handling
  rw [run, statements_of_cleanUp, statements_of_dropAllObsolete cleans (known ▸ sorted)]
    at statements
  rw [statements]
  exact carriesOut_obsolete active written rfl

theorem handled_of_calm (active : settings.dryRun = false) {only : Option (List Path)}
    {paths : List Path} {rejected : List RoutineResult} {start : Start} {w u v : World}
    {result : Except Failure BatchResult}
    (opened : (opening settings db.layer only).run w = (.ok (paths, rejected, start), u))
    (run : (loadAll settings db.layer only).run w = (result, v))
    (calm : ∀ before sql after, v.statements = w.statements ++ (before ++ sql :: after) →
      db.failure (w.statements ++ before) sql = none) :
    ∃ handled u', ((sources (groups settings.extension paths)).mapM
      (routine settings db.layer start)).run u = (.ok handled, u') := by
  cases handling : ((sources (groups settings.extension paths)).mapM
      (routine settings db.layer start)).run u with
  | mk r u' =>
    cases r with
    | ok handled => exact ⟨handled, u', rfl⟩
    | error e =>
      have settling : (settle settings db.layer only).run w = (.error e, u') :=
        run_settle_of_opening opened (run_bind_of_error handling)
      have ended : (loadAll settings db.layer only).run w = _ := run_bind_of_error settling
      obtain ⟨failed, -⟩ := Prod.mk.inj (run.symm.trans ended)
      have survives := survives_of_calm run (fun pre sql post events => ?_) failed
      · rw [losesAtWorst_handling active _ _ _ _ _ _ handling] at survives
        cases survives
      · rintro ⟨e', failed', -⟩
        rw [World.statements_after,
          calm (Event.statements pre) sql (Event.statements post)] at failed'
        · cases failed'
        · rw [World.statements, events]
          simp [World.statements]

/-- If no statement fails, a batch that removes the routines without a source drops the entry of
each of them, and nothing else of its name. -/
theorem drops_of_calm (active : settings.dryRun = false) (cleans : settings.dropsObsolete = true)
    {paths : List Path} {rejected : List RoutineResult} {start : Start} {w u v : World}
    {result : Except Failure BatchResult}
    (opened : (opening settings db.layer none).run w = (.ok (paths, rejected, start), u))
    (droppable : Droppable start.catalog
      (obsoleteNames start.catalog (paths.map (routineName · settings.extension))))
    (run : (loadAll settings db.layer none).run w = (result, v))
    (calm : ∀ before sql after, v.statements = w.statements ++ (before ++ sql :: after) →
      db.failure (w.statements ++ before) sql = none) :
    ∃ executed, v.statements = w.statements ++ executed ∧
      ∀ n entry sql, start.catalog.lookup ⟨.text n⟩ = some entry →
        (∀ p ∈ paths, routineName p settings.extension ≠ n) → DropsRoutine n sql →
          (sql ∈ executed ↔ dropStatement entry.routineType (.text n) = .ok sql) := by
  have rejecting := (run_opening_eq_ok opened).2.1
  obtain ⟨handled, u', handling⟩ := handled_of_calm active opened run calm
  obtain ⟨names, sorted⟩ : ∃ names, Atom.inOrder (obsoleteNames start.catalog
      (paths.map (routineName · settings.extension))) = .ok names :=
    ⟨_, if_pos droppable.comparable⟩
  obtain ⟨sqls, written⟩ : ∃ sqls, List.Forall₂ (DropsEntry start.catalog) names sqls := by
    refine Outcomes.exists_forall₂ fun name place => ?_
    have stray := (Atom.mem_of_inOrder sorted).1 place
    obtain ⟨entry, found⟩ := Option.isSome_iff_exists.1
      (Assoc.isSome_lookup_of_mem (mem_obsoleteNames.1 stray).1)
    obtain ⟨sql, dropping⟩ := droppable.statement name stray entry found
    exact ⟨sql, entry, found, dropping⟩
  cases proceeded : (proceeding settings db.layer none paths rejected start).run u with
  | mk r t =>
    have settling := run_settle_of_opening opened proceeded
    obtain ⟨executed, statements, only, carried⟩ := carriesOut_proceeding active cleans rejecting
      sorted written handling proceeded
    obtain ⟨es, rfl, -⟩ :=
      (traces_opening Sql.Database.accepts_halting settings none).of_run opened
    obtain ⟨gs, rfl, remakes⟩ := (dropsFor_handling paths start).of_run handling
    -- Opening, handling the sources and cleaning up are all that executes statements.
    have whole : v.statements =
        w.statements ++ ((Event.statements es ++ Event.statements gs) ++ executed) := by
      rw [statements_of_settled settling run, statements]
      simp
    -- No statement fails, so none of the planned drops was cut off.
    obtain rfl : executed = sqls := by
      refine carried.whole only fun done sql rest split => ?_
      have fine := calm (Event.statements es ++ Event.statements gs ++ done) sql rest
        (by rw [whole, split, List.append_assoc _ done])
      simpa using fine
    refine ⟨_, whole, fun n entry sql found unimplied drops => ?_⟩
    have place := (Atom.mem_of_inOrder sorted).2
      ((mem_obsoleteNames_of_lookup found).2 (isKnown_paths_eq_false_iff.2 unimplied))
    rw [List.mem_append, List.mem_append, mem_iff_of_dropsEntry written found place drops,
      or_iff_right]
    rintro (opening | handling)
    · exact not_dropped_at_opening opened sql opening n drops
    · exact not_dropsRoutine_of_remakes remakes unimplied handling drops

end Batch

namespace RoutineCatalog

/-- The row reports the routine, given by its name and its type. -/
structure Reports (row : Sql.Row) (routine : String × String) : Prop where
  name : row.cell "routine_name" = .ok (.text routine.1)
  type : ∃ t, row.cell "routine_type" = .ok (.text t) ∧ Text.lower t = routine.2
  plain : Sql.isIdentifier routine.1 = true
  known : routine.2 ∈ routineTypes

/-- The entry of the catalog is that of the routine. -/
def IsOf (e : Key × CatalogEntry) (routine : String × String) : Prop :=
  e.1 = ⟨.text routine.1⟩ ∧ e.2.routineType = .text routine.2

theorem isOf_of_reports {row : Sql.Row} {routine : String × String} {e : Key × CatalogEntry}
    (reports : Reports row routine) (named : namedEntryOfRow row = .ok e) : IsOf e routine := by
  obtain ⟨entry, made, rest⟩ := bind_eq_ok.1 named
  obtain ⟨key, keyed, last⟩ := bind_eq_ok.1 rest
  cases last
  obtain ⟨name, first, made⟩ := bind_eq_ok.1 made
  obtain ⟨type, second, made⟩ := bind_eq_ok.1 made
  obtain ⟨_, -, made⟩ := bind_eq_ok.1 made
  obtain ⟨_, -, made⟩ := bind_eq_ok.1 made
  obtain ⟨_, -, last⟩ := bind_eq_ok.1 made
  cases last
  obtain ⟨t, typed, lower⟩ := reports.type
  cases first.symm.trans reports.name
  cases second.symm.trans typed
  cases keyed
  exact ⟨rfl, congrArg Value.text lower⟩

theorem lookup_of_isOf {es : List (Key × CatalogEntry)} {routines : List (String × String)}
    (each : List.Forall₂ IsOf es routines) (n : String) :
    (es.lookup ⟨.text n⟩).map (·.routineType) = (routines.lookup n).map Value.text := by
  induction each with
  | nil => rfl
  | cons head _ ih =>
    rw [List.lookup_cons, List.lookup_cons, head.1, Key.beq_text]
    split
    · exact congrArg some head.2
    · exact ih

variable {rows : List Sql.Row} {routines : List (String × String)} {catalog : RoutineCatalog}

theorem lookup_of_reports (reported : List.Forall₂ Reports rows routines)
    (made : ofRows rows = .ok catalog) (n : String) :
    (catalog.lookup ⟨.text n⟩).map (·.routineType) =
      (routines.reverse.lookup n).map Value.text := by
  obtain ⟨es, named, rfl⟩ := map_eq_ok.1 made
  rw [Assoc.lookup_ofPairs]
  refine lookup_of_isOf (List.forall₂_reverse_iff.2 ?_) n
  refine (forall₂_join (mapM_eq_ok.1 named) reported).imp ?_
  rintro e routine ⟨row, -, entry, reports⟩
  exact isOf_of_reports reports entry

theorem exists_text_of_reports (reported : List.Forall₂ Reports rows routines)
    (made : ofRows rows = .ok catalog) {name : Atom} (member : ⟨name⟩ ∈ Assoc.keys catalog) :
    ∃ n, name = .text n := by
  obtain ⟨entry, found⟩ := Option.isSome_iff_exists.1 (Assoc.isSome_lookup_of_mem member)
  obtain ⟨es, named, rfl⟩ := map_eq_ok.1 made
  rw [Assoc.lookup_ofPairs] at found
  obtain ⟨key, same, place⟩ := Assoc.exists_of_lookup found
  obtain ⟨row, there, read⟩ := exists_of_forall₂ (mapM_eq_ok.1 named) (List.mem_reverse.1 place)
  obtain ⟨routine, -, reports⟩ := exists_of_forall₂ reported.flip there
  obtain rfl := (isOf_of_reports reports read).1
  exact ⟨_, Key.beq_text_iff.1 same⟩

theorem dropStatement_of_reports {row : Sql.Row} {name type : String}
    (reports : Reports row (name, type)) :
    dropStatement (.text type) (.text name) = .ok (routineDrop type name) := by
  have lower : ∀ type ∈ routineTypes, Text.lower type = type := by decide
  refine dropStatement_eq_ok_iff.2 ⟨_, _, rfl, rfl, ?_, reports.plain, ?_⟩
  · rw [lower _ reports.known]
    exact reports.known
  · rw [lower _ reports.known]

theorem droppable_of_reports (reported : List.Forall₂ Reports rows routines)
    (made : ofRows rows = .ok catalog) (known : List String) :
    Batch.Droppable catalog (Batch.obsoleteNames catalog known) where
  comparable := by
    have texts : (Batch.obsoleteNames catalog known).all Atom.isText = true := by
      refine List.all_eq_true.2 fun name member => ?_
      obtain ⟨n, rfl⟩ := exists_text_of_reports reported made (Batch.mem_obsoleteNames.1 member).1
      rfl
    rw [Atom.areComparable, texts]
    simp
  statement := by
    intro name member entry found
    obtain ⟨n, rfl⟩ := exists_text_of_reports reported made (Batch.mem_obsoleteNames.1 member).1
    have last := lookup_of_reports reported made n
    rw [found] at last
    obtain ⟨type, there, same⟩ := Option.map_eq_some_iff.1 last.symm
    have place := List.mem_reverse.1 (Assoc.mem_of_lookup there)
    obtain ⟨row, -, reports⟩ := exists_of_forall₂ reported place
    exact ⟨_, same ▸ dropStatement_of_reports reports⟩

end RoutineCatalog

/-- A batch none of whose statements fails drops, of the reported routines of a name that no source
implies, the one reported last and no other. -/
theorem loadAll_drops_last_reported {settings : LoaderSettings} {db : Sql.Database}
    (active : settings.dryRun = false) (cleans : settings.dropsObsolete = true) {w u v : World}
    {routines : List (String × String)} (reported : List.Forall₂ RoutineCatalog.Reports
      (db.rows w.statements RoutineCatalog.query) routines)
    {paths : List Path} {rejected : List RoutineResult} {start : Batch.Start}
    (opened : (Batch.opening settings db.layer none).run w = (.ok (paths, rejected, start), u))
    {result : Except Failure BatchResult}
    (run : (loadAll settings db.layer none).run w = (result, v))
    (calm : ∀ before sql after, v.statements = w.statements ++ (before ++ sql :: after) →
      db.failure (w.statements ++ before) sql = none) :
    ∃ executed, v.statements = w.statements ++ executed ∧
      ∀ name type, (name, type) ∈ routines →
        (∀ p ∈ paths, routineName p settings.extension ≠ name) →
          (routineDrop type name ∈ executed ↔ routines.reverse.lookup name = some type) := by
  have made := Batch.catalog_of_opening opened
  have droppable := RoutineCatalog.droppable_of_reports reported made
    (paths.map (routineName · settings.extension))
  obtain ⟨executed, statements, each⟩ :=
    Batch.drops_of_calm active cleans opened droppable run calm
  refine ⟨executed, statements, fun name type member unimplied => ?_⟩
  obtain ⟨row, -, reports⟩ := Outcomes.exists_of_forall₂ reported member
  obtain ⟨type', last⟩ := Option.isSome_iff_exists.1
    (Assoc.isSome_lookup_of_mem (List.mem_map.2 ⟨_, List.mem_reverse.2 member, rfl⟩))
  obtain ⟨row', -, reports'⟩ := Outcomes.exists_of_forall₂ reported
    (List.mem_reverse.1 (Assoc.mem_of_lookup last))
  have known := RoutineCatalog.lookup_of_reports reported made name
  rw [last] at known
  obtain ⟨entry, found, same⟩ := Option.map_eq_some_iff.1 known
  have drops : DropsRoutine name (routineDrop type name) :=
    ⟨reports.plain, type, reports.known, rfl⟩
  rw [each name entry _ found unimplied drops, same, last,
    RoutineCatalog.dropStatement_of_reports reports', Except.ok.injEq, Option.some.injEq]
  constructor
  · exact fun equal => (routineDrop_inj reports'.known reports.known equal).1
  · exact fun equal => congrArg (routineDrop · name) equal

namespace Sample

def namesakeRow : Sql.Row :=
  [("routine_name", .text "b"), ("routine_type", .text "FUNCTION"), ("sql_mode", .text ""),
    ("character_set_client", .text "utf8"), ("collation_connection", .text "utf8_bin")]

def namesakeEntry : CatalogEntry :=
  ⟨.text "b", .text "function", .text "", .text "utf8", .text "utf8_bin"⟩

theorem reports_rowOf : RoutineCatalog.Reports (rowOf "b") ("b", "procedure") where
  name := rfl
  type := ⟨"PROCEDURE", rfl, rfl⟩
  plain := by decide
  known := by decide

theorem reports_namesakeRow : RoutineCatalog.Reports namesakeRow ("b", "function") where
  name := rfl
  type := ⟨"FUNCTION", rfl, rfl⟩
  plain := rfl
  known := by decide

def twins : List Sql.Row := [rowOf "b", namesakeRow]

theorem ofRows_twins : RoutineCatalog.ofRows twins = .ok [(⟨.text "b"⟩, namesakeEntry)] := rfl

theorem unimplied_stray : ∀ p ∈ [path], routineName p settings.extension ≠ "b" := by
  decide +kernel

end Sample

open Sample in
/-- The batch over the sample directory drops the only procedure without a source. -/
theorem sample_drops_last_reported : ∃ result v executed,
    (loadAll settings (answering [rowOf "b"]).layer none).run (world text) = (result, v) ∧
    v.statements = executed ∧ routineDrop "procedure" "b" ∈ executed := by
  obtain ⟨u, opened, -⟩ := run_opening (ofRows_rowOf "b")
  cases run : (loadAll settings (answering [rowOf "b"]).layer none).run (world text) with
  | mk result v =>
    have reported : List.Forall₂ RoutineCatalog.Reports [rowOf "b"] [("b", "procedure")] :=
      .cons reports_rowOf .nil
    obtain ⟨executed, statements, each⟩ := loadAll_drops_last_reported rfl rfl reported opened run
      fun _ _ _ _ => rfl
    exact ⟨result, v, executed, rfl, statements,
      (each "b" "procedure" (by simp) unimplied_stray).2 rfl⟩

open Sample in
/-- A procedure and a function without a source share their name. No statement fails, and the batch
reports the name as dropped; but only the function was dropped, and the procedure is still there. -/
theorem procedure_kept_beside_function : ∃ start u v,
    (Batch.opening settings (answering twins).layer none).run (world text) =
      (.ok ([path], [], start), u) ∧
    (∀ p ∈ [path], routineName p settings.extension ≠ "b") ∧
    List.Forall₂ RoutineCatalog.Reports
      ((answering twins).rows (world text).statements RoutineCatalog.query)
      [("b", "procedure"), ("b", "function")] ∧
    (∀ before sql, (answering twins).failure before sql = none) ∧
    (loadAll settings (answering twins).layer none).run (world text) =
      (.ok ⟨[loaded], [.text "b"], false⟩, v) ∧
    routineDrop "function" "b" ∈ v.statements ∧ routineDrop "procedure" "b" ∉ v.statements := by
  obtain ⟨u, opened, -⟩ := run_opening ofRows_twins
  have reported : List.Forall₂ RoutineCatalog.Reports
      ((answering twins).rows (world text).statements RoutineCatalog.query)
      [("b", "procedure"), ("b", "function")] :=
    .cons reports_rowOf (.cons reports_namesakeRow .nil)
  have written : dropStatement namesakeEntry.routineType (.text "b") =
      .ok (routineDrop "function" "b") :=
    RoutineCatalog.dropStatement_of_reports reports_namesakeRow
  have found : ([(⟨.text "b"⟩, namesakeEntry)] : RoutineCatalog).lookup ⟨.text "b"⟩ =
      some namesakeEntry := by decide +kernel
  obtain ⟨v, run⟩ := run_loadAll_stray ofRows_twins (by decide +kernel) (by decide +kernel)
    found written
  obtain ⟨executed, statements, each⟩ := Batch.drops_of_calm rfl rfl opened
    (RoutineCatalog.droppable_of_reports reported ofRows_twins _) run fun _ _ _ _ => rfl
  have dropped_iff {row : Sql.Row} {type : String}
      (reports : RoutineCatalog.Reports row ("b", type)) :
      routineDrop type "b" ∈ v.statements ↔ routineDrop "function" "b" = routineDrop type "b" := by
    have drops := each "b" namesakeEntry (routineDrop type "b") found unimplied_stray
      ⟨reports.plain, type, reports.known, rfl⟩
    rw [written, Except.ok.injEq] at drops
    exact statements ▸ drops
  refine ⟨_, u, v, opened, unimplied_stray, reported, fun _ _ => rfl, run, ?_, ?_⟩
  · exact (dropped_iff reports_namesakeRow).2 rfl
  · intro member
    have same := (routineDrop_inj (by decide) (by decide) ((dropped_iff reports_rowOf).1 member)).1
    exact absurd same (by decide)

end StoredRoutines

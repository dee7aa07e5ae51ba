import StoredRoutines.Build.Batch
import StoredRoutines.Proofs.Outcomes
import StoredRoutines.Proofs.Runs

/-!
Results of single sources. Whatever happens to a source, its result names its path and the routine
that the path implies; a source that was compiled without an error has a record.
-/

namespace StoredRoutines

open Loader Outcomes

structure RoutineResult.IsOf (extension : String) (path : Path) (r : RoutineResult) : Prop where
  path_eq : r.path = path
  name_eq : r.name = routineName path extension

theorem run_logged {α : Type} {level : LogLevel} {channel : Channel} {text : String} {a : α}
    {w v : World} {r : Except Failure α}
    (run : (Loader.log level channel text >>= fun _ => pure a).run w = (r, v)) :
    r = .ok a ∧ v.statements = w.statements := by
  cases run
  exact ⟨rfl, List.filterMap_append.trans (List.append_nil _)⟩

theorem RoutineResult.run_failed {path : Path} {name : String} {reason : Option StaleReason}
    {remade : Bool} {error : LoaderError} {w v : World} {r : RoutineResult}
    (run : (failed path name reason remade error).run w = (.ok r, v)) :
    r = ⟨path, name, .failed reason remade error⟩ ∧ v.statements = w.statements := by
  obtain ⟨same, silent⟩ := run_logged run
  exact ⟨Except.ok.inj same, silent⟩

namespace RoutineSource

theorem path_of_load {fs : FileSystem} {p : Path} {extension : String} {s : RoutineSource}
    (h : load fs p extension = .ok s) : s.path = p ∧ s.extension = extension := by
  unfold load at h
  split at h
  · cases h
  · split at h <;> cases h
    exact ⟨rfl, rfl⟩

theorem name_of_load {fs : FileSystem} {p : Path} {extension : String} {s : RoutineSource}
    (h : load fs p extension = .ok s) : s.name = routineName p extension := by
  obtain ⟨path, ending⟩ := path_of_load h
  rw [name, path, ending]

end RoutineSource

namespace Compile

theorem run_stop {path : Path} {name : String} {reason : Option StaleReason} {remade : Bool}
    {failure : Failure} {w v : World} {r : RoutineResult}
    (run : (stop path name reason remade failure).run w = (.ok r, v)) :
    r = ⟨path, name, .failed reason remade (failure.forRoutine path.toText)⟩ ∧
      v.statements = w.statements := by
  unfold stop at run
  split at run
  · cases run
  · exact RoutineResult.run_failed run

theorem statements_of_stop {path : Path} {name : String} {reason : Option StaleReason}
    {remade : Bool} {failure : Failure} {w v : World} {r : Except Failure RoutineResult}
    (run : (stop path name reason remade failure).run w = (r, v)) :
    v.statements = w.statements := by
  unfold stop at run
  split at run
  · cases run
    rfl
  · exact (run_logged run).2

section

variable {settings : LoaderSettings} {layer : Sql.DataLayer} {source : RoutineSource}
  {table : ReplaceTable} {entry : Option CatalogEntry} {why reason : StaleReason} {w v : World}

/-- All that a rebuild can do: the routine is not made, or it is made but not described, or it is made
and described. -/
inductive RebuildsTo (settings : LoaderSettings) (layer : Sql.DataLayer) (source : RoutineSource)
    (table : ReplaceTable) (entry : Option CatalogEntry) (reason : StaleReason) (w : World) :
    Except Failure RoutineResult → World → Prop
  | unmade {e : Failure} {u v : World} {r : Except Failure RoutineResult}
      (making : (make settings layer source table entry).run w = (.error e, u))
      (stopping : (stop source.path source.name reason false e).run u = (r, v)) :
      RebuildsTo settings layer source table entry reason w r v
  | undescribed {a : Annotations} {e : Failure} {t u v : World} {r : Except Failure RoutineResult}
      (making : (make settings layer source table entry).run w = (.ok a, t))
      (describing : (describe layer source a).run t = (.error e, u))
      (stopping : (stop source.path source.name reason true e).run u = (r, v)) :
      RebuildsTo settings layer source table entry reason w r v
  | described {a : Annotations} {record : BuildRecord} {warnings : List String} {u v : World}
      (making : (make settings layer source table entry).run w = (.ok a, u))
      (describing : (describe layer source a).run u = (.ok (record, warnings), v)) :
      RebuildsTo settings layer source table entry reason w
        (.ok ⟨source.path, source.name, .loaded reason record warnings⟩) v

theorem rebuildsTo_of_run {r : Except Failure RoutineResult}
    (run : (rebuild settings layer source table entry reason).run w = (r, v)) :
    RebuildsTo settings layer source table entry reason w r v := by
  cases making : (make settings layer source table entry).run w with
  | mk made t =>
    rw [rebuild, run_bind_of_ok (run_attempt_eq_ok.2 making)] at run
    cases made with
    | error e => exact .unmade making run
    | ok a =>
      cases describing : (describe layer source a).run t with
      | mk described u =>
        replace run := (run_bind_of_ok (run_attempt_eq_ok.2 describing)).symm.trans run
        cases described with
        | error e => exact .undescribed making describing run
        | ok found =>
          cases run
          exact .described making describing

theorem RebuildsTo.statements_of_unmade {r : Except Failure RoutineResult} {e : Failure} {u : World}
    (h : RebuildsTo settings layer source table entry reason w r v)
    (failed : (make settings layer source table entry).run w = (.error e, u)) :
    v.statements = u.statements := by
  cases h with
  | unmade making stopping =>
    cases making.symm.trans failed
    exact statements_of_stop stopping
  | undescribed making => cases making.symm.trans failed
  | described making => cases making.symm.trans failed

/-- Once the routine is made, all further statements are those of its description. -/
theorem RebuildsTo.statements_of_made {r : Except Failure RoutineResult} {a : Annotations} {u : World}
    (h : RebuildsTo settings layer source table entry reason w r v)
    (made : (make settings layer source table entry).run w = (.ok a, u)) :
    v.statements = ((describe layer source a).run u).2.statements := by
  cases h with
  | unmade making => cases making.symm.trans made
  | undescribed making describing stopping =>
    cases making.symm.trans made
    rw [statements_of_stop stopping, describing]
  | described making describing =>
    cases making.symm.trans made
    rw [describing]

/-- What a rebuild comes to: it failed before or after the routine was made, or it has a record. -/
theorem run_rebuild {r : RoutineResult}
    (run : (rebuild settings layer source table entry reason).run w = (.ok r, v)) :
    ∃ outcome, r = ⟨source.path, source.name, outcome⟩ ∧
      ((∃ remade e, outcome = .failed reason remade e) ∨
        ∃ record warnings, outcome = .loaded reason record warnings) := by
  cases rebuildsTo_of_run run with
  | unmade _ stopping => exact ⟨_, (run_stop stopping).1, .inl ⟨false, _, rfl⟩⟩
  | undescribed _ _ stopping => exact ⟨_, (run_stop stopping).1, .inl ⟨true, _, rfl⟩⟩
  | described => exact ⟨_, rfl, .inr ⟨_, _, rfl⟩⟩

theorem steps_of_describe {a : Annotations} {record : BuildRecord} {warnings : List String}
    (run : (describe layer source a).run w = (.ok (record, warnings), v)) :
    ∃ reported parameters columns doc u u',
      (CatalogParameter.fetch layer a.routineName).run w = (.ok reported, u) ∧
      CatalogParameter.mergeAll reported (a.listParameters.map .ofDeclaration) source.label =
        .ok parameters ∧
      (bulkColumns layer source a).run u = (.ok columns, u') ∧
      (RoutineDoc.build source parameters).run u' = (.ok (doc, warnings), v) ∧
      record = (BuildRecord.ofBuild source a parameters columns doc).justMade := by
  obtain ⟨reported, u, fetched, rest⟩ := run_bind_eq_ok.1 run
  obtain ⟨parameters, _, merging, rest⟩ := run_bind_eq_ok.1 rest
  obtain ⟨columns, u', bulk, rest⟩ := run_bind_eq_ok.1 rest
  obtain ⟨⟨doc, _⟩, _, documented, last⟩ := run_bind_eq_ok.1 rest
  cases last
  obtain ⟨merged, rfl⟩ := Prod.mk.inj ((run_ofExcept _ _).symm.trans merging)
  exact ⟨reported, parameters, columns, doc, u, u', fetched, merged, bulk, documented, rfl⟩

theorem steps_of_rebuild {r : RoutineResult} {record : BuildRecord} {warnings : List String}
    (run : (rebuild settings layer source table entry why).run w = (.ok r, v))
    (loaded : r.outcome = .loaded reason record warnings) :
    ∃ a u, (make settings layer source table entry).run w = (.ok a, u) ∧
      (describe layer source a).run u = (.ok (record, warnings), v) := by
  cases rebuildsTo_of_run run with
  | unmade _ stopping =>
    rw [(run_stop stopping).1] at loaded
    cases loaded
  | undescribed _ _ stopping =>
    rw [(run_stop stopping).1] at loaded
    cases loaded
  | described making describing =>
    cases loaded
    exact ⟨_, _, making, describing⟩

end

theorem run_examine {settings : LoaderSettings} {path : Path} {record : Option BuildRecord}
    {table : ReplaceTable} {entry : Option CatalogEntry} {w v : World} {source : RoutineSource}
    {judged : Freshness}
    (run : (examine settings path record table entry).run w = (.ok (source, judged), v)) :
    RoutineSource.load w.files path settings.extension = .ok source ∧
      Freshness.judge record source.modified table settings.session entry = .ok judged ∧
      v = w := by
  obtain ⟨fs, u, looked, rest⟩ := run_bind_eq_ok.1 run
  rw [run_getFiles] at looked
  cases looked
  obtain ⟨source', u, loaded, rest⟩ := run_bind_eq_ok.1 rest
  obtain ⟨judged', u', decided, last⟩ := run_bind_eq_ok.1 rest
  rw [run_ofExcept] at loaded decided
  cases last
  cases u
  simp only [Prod.mk.injEq] at loaded decided
  exact ⟨loaded.1, decided.1, by rw [← decided.2, ← loaded.2]⟩

theorem examine_of_loaded {settings : LoaderSettings} {path : Path} {record : Option BuildRecord}
    {table : ReplaceTable} {entry : Option CatalogEntry} {w : World} {source : RoutineSource}
    (loaded : RoutineSource.load w.files path settings.extension = .ok source) :
    (examine settings path record table entry).run w =
      ((Freshness.judge record source.modified table settings.session entry).map
        fun judged => (source, judged), w) := by
  have started : (examine settings path record table entry).run w =
      (Loader.ofExcept (RoutineSource.load w.files path settings.extension) >>= fun source =>
        Loader.ofExcept (Freshness.judge record source.modified table settings.session entry) >>=
          fun judged => pure (source, judged)).run w := rfl
  rw [started, loaded, run_bind_of_ok (run_ofExcept _ _)]
  cases Freshness.judge record source.modified table settings.session entry <;> rfl

theorem world_of_examine (settings : LoaderSettings) (path : Path) (record : Option BuildRecord)
    (table : ReplaceTable) (entry : Option CatalogEntry) (w : World) :
    ((examine settings path record table entry).run w).2 = w := by
  cases loaded : RoutineSource.load w.files path settings.extension with
  | ok source => rw [examine_of_loaded loaded]
  | error e =>
    have failed : (Loader.ofExcept (RoutineSource.load w.files path settings.extension)).run w =
        (.error e, w) := by rw [run_ofExcept, loaded]
    have ended : (examine settings path record table entry).run w = (.error e, w) :=
      (run_bind_of_ok (run_getFiles w)).trans (run_bind_of_error failed)
    rw [ended]

/-- All that compiling a source can do: it is not looked at to the end, or it is found up to date,
or it is rebuilt. -/
inductive CompilesTo (settings : LoaderSettings) (layer : Sql.DataLayer) (path : Path)
    (record : Option BuildRecord) (table : ReplaceTable) (entry : Option CatalogEntry) (w : World) :
    Except Failure RoutineResult → World → Prop
  | unexamined {e : Failure} {v : World} {r : Except Failure RoutineResult}
      (examining : (examine settings path record table entry).run w = (.error e, w))
      (stopping : (stop path (routineName path settings.extension) none false e).run w = (r, v)) :
      CompilesTo settings layer path record table entry w r v
  | upToDate {source : RoutineSource} {kept : BuildRecord} {v : World}
      (loaded : RoutineSource.load w.files path settings.extension = .ok source)
      (judged : Freshness.judge record source.modified table settings.session entry =
        .ok (.upToDate kept))
      (silent : v.statements = w.statements) :
      CompilesTo settings layer path record table entry w
        (.ok ⟨path, routineName path settings.extension, .upToDate kept⟩) v
  | rebuilt {source : RoutineSource} {reason : StaleReason} {v : World}
      {r : Except Failure RoutineResult}
      (loaded : RoutineSource.load w.files path settings.extension = .ok source)
      (judged : Freshness.judge record source.modified table settings.session entry =
        .ok (.stale reason))
      (run : (rebuild settings layer source table entry reason).run w = (r, v)) :
      CompilesTo settings layer path record table entry w r v

section

variable {settings : LoaderSettings} {layer : Sql.DataLayer} {path : Path}
  {previous : Option BuildRecord} {table : ReplaceTable} {entry : Option CatalogEntry} {w v : World}

theorem compilesTo_of_run {r : Except Failure RoutineResult}
    (run : (compile settings layer path previous table entry).run w = (r, v)) :
    CompilesTo settings layer path previous table entry w r v := by
  have unchanged := world_of_examine settings path previous table entry w
  cases examined : (examine settings path previous table entry).run w with
  | mk found u =>
    obtain rfl : u = w := (congrArg Prod.snd examined).symm.trans unchanged
    rw [compile, run_bind_of_ok (run_attempt_eq_ok.2 examined)] at run
    cases found with
    | error e => exact .unexamined examined run
    | ok found =>
      obtain ⟨source, judgement⟩ := found
      obtain ⟨loaded, judged, -⟩ := run_examine examined
      cases judgement with
      | upToDate kept =>
        obtain ⟨rfl, silent⟩ := run_logged run
        exact .upToDate loaded judged silent
      | stale reason => exact .rebuilt loaded judged run

/-- A source that has a record was found up to date by it, or rebuilt. -/
theorem judged_of_compile {r : RoutineResult} {record : BuildRecord}
    (run : (compile settings layer path previous table entry).run w = (.ok r, v))
    (found : r.outcome.record? = some record) :
    ∃ source, RoutineSource.load w.files path settings.extension = .ok source ∧
      ((r.outcome = .upToDate record ∧
          Freshness.judge previous source.modified table settings.session entry =
            .ok (.upToDate record)) ∨
        ∃ reason, (rebuild settings layer source table entry reason).run w = (.ok r, v)) := by
  cases compilesTo_of_run run with
  | unexamined _ stopping =>
    rw [(run_stop stopping).1] at found
    cases found
  | upToDate loaded judged =>
    cases found
    exact ⟨_, loaded, .inl ⟨rfl, judged⟩⟩
  | rebuilt loaded _ rebuilding => exact ⟨_, loaded, .inr ⟨_, rebuilding⟩⟩

end

end Compile

theorem run_compile {settings : LoaderSettings} {layer : Sql.DataLayer} {path : Path}
    {record : Option BuildRecord} {table : ReplaceTable} {entry : Option CatalogEntry}
    {w v : World} {r : RoutineResult}
    (run : (compile settings layer path record table entry).run w = (.ok r, v)) :
    r.IsOf settings.extension path ∧
      ((∃ reason remade e, r.outcome = .failed reason remade e) ∨
        ∃ kept, r.outcome.record? = some kept) := by
  cases Compile.compilesTo_of_run run with
  | unexamined _ stopping =>
    rw [(Compile.run_stop stopping).1]
    exact ⟨⟨rfl, rfl⟩, .inl ⟨_, _, _, rfl⟩⟩
  | upToDate => exact ⟨⟨rfl, rfl⟩, .inr ⟨_, rfl⟩⟩
  | rebuilt loaded _ rebuilding =>
    obtain ⟨outcome, rfl, ending⟩ := Compile.run_rebuild rebuilding
    refine ⟨⟨(RoutineSource.path_of_load loaded).1, RoutineSource.name_of_load loaded⟩, ?_⟩
    rcases ending with ⟨remade, e, rfl⟩ | ⟨made, warnings, rfl⟩
    · exact .inl ⟨_, _, _, rfl⟩
    · exact .inr ⟨_, rfl⟩

end StoredRoutines

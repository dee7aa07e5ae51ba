import StoredRoutines.Proofs.Pieces
import StoredRoutines.Proofs.Retries
import StoredRoutines.Proofs.ScalarBuilds

/-!
What a reload of an up-to-date source would do. The record of a routine keeps the values of its
placeholders, and neither the path of its source nor the type in the catalog is looked at when it is
judged. So a source that is up to date reads as the one that was loaded, and would be created by the
same statement but for the constants that name its file and its directory.
-/

namespace StoredRoutines

open Loader Outcomes

namespace Placeholder

theorem resolve_congr {s₁ s₂ : RoutineSource} {t₁ t₂ : ReplaceTable}
    {placeholders : List (String × String)} (text : s₂.text = s₁.text)
    (resolved : resolve s₁ t₁ = .ok placeholders)
    (same : ∀ p ∈ placeholders, ∃ v, value? t₂ p.1 = some v ∧ p.2 = v.display) :
    resolve s₂ t₂ = .ok placeholders := by
  have agree (t : String) (found : t ∈ find s₁.text) :
      ∃ v v', value? t₁ t = some v ∧ value? t₂ t = some v' ∧ v.display = v'.display := by
    obtain ⟨v, valued⟩ := value_of_mem_find resolved found
    have kept := (mem_placeholders resolved (e := (t, v.display))).2 ⟨found, v, valued, rfl⟩
    obtain ⟨v', valued', shown⟩ := same _ kept
    exact ⟨v, v', valued, valued', shown⟩
  rw [resolve_eq_ok_iff, text]
  refine ⟨fun t found => ?_, ?_⟩
  · obtain ⟨-, v', -, valued', -⟩ := agree t found
    exact ⟨v', valued'⟩
  · obtain ⟨-, whole⟩ := resolve_eq_ok_iff.1 resolved
    rw [whole]
    refine List.map_congr_left fun t place => ?_
    obtain ⟨v, v', valued, valued', shown⟩ := agree t ((sortTexts_perm _).mem_iff.1 place)
    rw [valued, valued']
    exact Prod.ext rfl shown

end Placeholder

namespace Annotations

theorem resolved_of_ofSource {source : RoutineSource} {table : ReplaceTable} {a : Annotations}
    (annotated : ofSource source table = .ok a) :
    Placeholder.resolve source table = .ok a.placeholders := by
  obtain ⟨placeholders, resolved, rest⟩ := bind_eq_ok.1 annotated
  obtain ⟨_, -, rest⟩ := bind_eq_ok.1 rest
  obtain ⟨_, -, rest⟩ := bind_eq_ok.1 rest
  obtain ⟨_, -, last⟩ := bind_eq_ok.1 rest
  cases last
  exact resolved

/-- The annotations of a source depend on its text, its name and the values of its tokens. -/
theorem ofSource_congr {s₁ s₂ : RoutineSource} {t₁ t₂ : ReplaceTable} {a : Annotations}
    (text : s₂.text = s₁.text) (name : s₂.name = s₁.name) (annotated : ofSource s₁ t₁ = .ok a)
    (same : ∀ p ∈ a.placeholders, ∃ v, Placeholder.value? t₂ p.1 = some v ∧ p.2 = v.display) :
    ofSource s₂ t₂ = .ok a := by
  have lines : s₂.lines = s₁.lines := by rw [RoutineSource.lines, text, RoutineSource.lines]
  have begin_eq : s₂.beginLine? = s₁.beginLine? := by
    rw [RoutineSource.beginLine?, lines, RoutineSource.beginLine?]
  obtain ⟨placeholders, resolved, rest⟩ := bind_eq_ok.1 annotated
  obtain ⟨⟨designation, line⟩, designated, rest⟩ := bind_eq_ok.1 rest
  obtain ⟨header, headed, rest⟩ := bind_eq_ok.1 rest
  obtain ⟨declared, listed, last⟩ := bind_eq_ok.1 rest
  cases last
  refine bind_eq_ok.2 ⟨_, Placeholder.resolve_congr text resolved same, ?_⟩
  refine bind_eq_ok.2 ⟨(designation, line), ?_, bind_eq_ok.2 ⟨header, ?_, ?_⟩⟩
  · rw [Designation.ofSource, lines, begin_eq]
    exact mapError_eq_ok.2 (mapError_eq_ok.1 designated)
  · rw [Header.ofSource, text, name]
    exact mapError_eq_ok.2 (mapError_eq_ok.1 headed)
  · refine bind_eq_ok.2 ⟨declared, ?_, rfl⟩
    unfold ListParameter.ofSource at listed ⊢
    rw [begin_eq]
    cases found : s₁.beginLine? with
    | none =>
      rw [found] at listed
      cases listed
    | some b =>
      simp only [found, lines] at listed ⊢
      exact mapError_eq_ok.2 (mapError_eq_ok.1 listed)

end Annotations

theorem RoutineSource.isNameable_of_load {fs : FileSystem} {p : Path} {extension : String}
    {s : RoutineSource} (h : load fs p extension = .ok s) : s.path.isNameable = true := by
  rw [(path_of_load h).1]
  unfold load FileSystem.read FileSystem.find at h
  cases located : fs.locate p with
  | error fault => simp [located] at h
  | ok l =>
    unfold FileSystem.locate at located
    split at located
    · cases located
    · rename_i nameable
      simpa using nameable

namespace Compile

theorem createStatement_of_plan {settings : LoaderSettings} {layer : Sql.DataLayer}
    {directory : List String} {source : RoutineSource} {table : ReplaceTable}
    {entry : Option CatalogEntry} {a : Annotations} {before : List String} {create : String}
    (annotated : Annotations.ofSource source table = .ok a)
    (planned : plan settings layer directory source table entry = .ok (before ++ [create])) :
    createStatement layer directory source a = .ok create := by
  obtain ⟨a', annotated', making⟩ := bind_eq_ok.1 planned
  obtain rfl := Except.ok.inj ((mapError_eq_ok.1 annotated').symm.trans annotated)
  obtain ⟨create', creating, rest⟩ := bind_eq_ok.1 making
  obtain ⟨drops, -, last⟩ := bind_eq_ok.1 rest
  have whole := Except.ok.inj last
  rw [← List.append_assoc] at whole
  obtain ⟨-, same⟩ := List.append_inj' whole rfl
  cases same
  exact creating

/-- A routine that was rebuilt was created, and its record holds what its source was read with. -/
theorem loaded_of_rebuild {db : Sql.Database} {settings : LoaderSettings} {source : RoutineSource}
    {table : ReplaceTable} {entry : Option CatalogEntry} {why reason : StaleReason} {w v : World}
    {r : RoutineResult} {record : BuildRecord} {warnings : List String}
    (run : (rebuild settings db.layer source table entry why).run w = (.ok r, v))
    (made : r.outcome = .loaded reason record warnings) :
    ∃ a parameters columns doc, Annotations.ofSource source table = .ok a ∧
      record = (BuildRecord.ofBuild source a parameters columns doc).justMade ∧
      Creates db (plan settings db.layer w.files.workingDirectory source table entry) w v := by
  obtain ⟨a, u, making, describing⟩ := steps_of_rebuild run made
  obtain ⟨parameters, columns, doc, shape, -⟩ := run_describe_eq_ok describing
  obtain ⟨es, step, -⟩ := traces_describe Sql.Database.accepts_halting source a
    (traces_bulkColumns source a) u
  have later : u.statements <+: v.statements := by
    rw [describing] at step
    rw [show v = u.after es from step, World.statements_after]
    exact List.prefix_append _ _
  exact ⟨a, parameters, columns, doc, ofSource_of_make making, shape,
    creates_of_execution (run_make making).1 (fun _ => creation_is_last) later⟩

theorem rebuild_of_loaded {settings : LoaderSettings} {layer : Sql.DataLayer} {path : Path}
    {previous : Option BuildRecord} {table : ReplaceTable} {entry : Option CatalogEntry}
    {w v : World} {r : RoutineResult} {reason : StaleReason} {record : BuildRecord}
    {warnings : List String}
    (run : (compile settings layer path previous table entry).run w = (.ok r, v))
    (made : r.outcome = .loaded reason record warnings) :
    ∃ source why, RoutineSource.load w.files path settings.extension = .ok source ∧
      (rebuild settings layer source table entry why).run w = (.ok r, v) := by
  obtain ⟨source, loaded, ⟨kept, -⟩ | ⟨why, rebuilding⟩⟩ := judged_of_compile run
    (show r.outcome.record? = some record by rw [made]; rfl)
  · rw [made] at kept
    cases kept
  · exact ⟨source, why, loaded, rebuilding⟩

end Compile

namespace Substitution

theorem filledLines_congr {table : ReplaceTable} {values values' : Nat → Constant → String}
    {ls : List String} (same : ∀ l ∈ ls, ∀ k, Piece.constant k ∈ pieces l.toList →
      ∀ number, values number k = values' number k) :
    filledLines table values ls = filledLines table values' ls := by
  refine List.map_congr_left ?_
  rintro ⟨l, i⟩ member
  have inside : l ∈ ls := List.fst_mem_of_mem_zipIdx member
  refine congrArg String.ofList ?_
  rw [List.flatMap_def, List.flatMap_def]
  refine congrArg List.flatten (List.map_congr_left fun p place => ?_)
  cases p with
  | token t => rfl
  | constant k => exact congrArg String.toList (same l inside k place _)
  | plain c => rfl

end Substitution

theorem BuildRecord.values_of_holds {source : RoutineSource} {a : Annotations}
    {parameters : List CatalogParameter} {columns : TableColumns} {doc : RoutineDoc}
    {modified : Int} {table : ReplaceTable}
    (holds : Freshness.Holds modified table (ofBuild source a parameters columns doc).justMade) :
    ∀ p ∈ a.placeholders, ∃ v, Placeholder.value? table p.1 = some v ∧ p.2 = v.display := by
  intro p member
  have recorded : (Atom.text p.1, Value.text p.2) ∈
      (ofBuild source a parameters columns doc).justMade.replace :=
    List.mem_map.2 ⟨p, member, rfl⟩
  obtain ⟨token, v, key, valued, shown⟩ :=
    Freshness.ofPlaceholders_eq_none_iff.1 holds.2 _ recorded
  cases key
  exact ⟨v, valued, Atom.text.inj (Value.atom.inj shown)⟩

open Substitution in
theorem createStatement_of_resolved {layer : Sql.DataLayer} {source : RoutineSource}
    {table : ReplaceTable} {a : Annotations}
    (resolved : Placeholder.resolve source table = .ok a.placeholders)
    (nameable : source.path.isNameable = true) (directory : List String) :
    createStatement layer directory source a = .ok (Text.unlines (filledLines table
      (Constant.value layer.quote directory source a.routineName) source.lines)) := by
  rw [createStatement, source_of_resolved resolved, if_pos nameable]

open Substitution in
/-- A source that is up to date under the record of a load, at whatever path it now lies, reads as
the source that was loaded. The statements that create them fill the pieces of one text with the
same values, but for the constants that name the file and its directory; they are the same if these
constants stand for the same wherever the text has them. -/
theorem upToDate_recreates {db : Sql.Database} {settings : LoaderSettings} {path : Path}
    {previous : Option BuildRecord} {table : ReplaceTable} {entry : Option CatalogEntry}
    {w v : World} {r : RoutineResult} {reason : StaleReason} {record : BuildRecord}
    {warnings : List String}
    (run : (compile settings db.layer path previous table entry).run w = (.ok r, v))
    (made : r.outcome = .loaded reason record warnings) :
    ∃ source a before create,
      RoutineSource.load w.files path settings.extension = .ok source ∧
      Annotations.ofSource source table = .ok a ∧
      createStatement db.layer w.files.workingDirectory source a = .ok create ∧
      w.statements ++ (before ++ [create]) <+: v.statements ∧
      ∀ (fs : FileSystem) (path' : Path) (later : RoutineSource) (table' : ReplaceTable)
        (entry' : Option CatalogEntry) (kept : BuildRecord),
        RoutineSource.load fs path' settings.extension = .ok later →
        later.text = source.text → later.modified = source.modified → later.name = source.name →
        Freshness.judge (some record) later.modified table' settings.session entry' =
          .ok (.upToDate kept) →
        let values := Constant.value db.layer.quote w.files.workingDirectory source a.routineName
        let values' := Constant.value db.layer.quote fs.workingDirectory later a.routineName
        Annotations.ofSource later table' = .ok a ∧
        create = Text.unlines (filledLines table values source.lines) ∧
        createStatement db.layer fs.workingDirectory later a =
          .ok (Text.unlines (filledLines table values' source.lines)) ∧
        ((∀ l ∈ source.lines, ∀ k ∈ [Constant.file, .directory],
            Piece.constant k ∈ pieces l.toList → ∀ number, values' number k = values number k) →
          createStatement db.layer fs.workingDirectory later a = .ok create) := by
  obtain ⟨source, why, loaded, rebuilding⟩ := Compile.rebuild_of_loaded run made
  obtain ⟨a, parameters, columns, doc, annotated, shape, before, create, planned, executed, -⟩ :=
    Compile.loaded_of_rebuild rebuilding made
  have creating := Compile.createStatement_of_plan annotated planned
  refine ⟨source, a, before, create, loaded, annotated, creating, executed, ?_⟩
  intro fs path' later table' entry' kept loaded' text modified name judged values values'
  -- The record keeps the values as text: the other table may hold values that read the same.
  have same : ∀ p ∈ a.placeholders, ∃ v, Placeholder.value? table' p.1 = some v ∧
      p.2 = v.display := by
    obtain ⟨recorded, holds, -⟩ := Freshness.judge_upToDate_iff.1 judged
    cases recorded
    rw [shape] at holds
    exact BuildRecord.values_of_holds holds
  have resolved := Annotations.resolved_of_ofSource annotated
  have lines : later.lines = source.lines := by rw [RoutineSource.lines, text, RoutineSource.lines]
  have first : createStatement db.layer w.files.workingDirectory source a = _ :=
    createStatement_of_resolved resolved (RoutineSource.isNameable_of_load loaded) _
  have resolved' : Placeholder.resolve later table = .ok a.placeholders :=
    Placeholder.resolve_congr text resolved fun p member =>
      ((Placeholder.mem_placeholders resolved).1 member).2
  have second : createStatement db.layer fs.workingDirectory later a = _ :=
    createStatement_of_resolved resolved' (RoutineSource.isNameable_of_load loaded') _
  rw [lines] at second
  have filled : create = _ := Except.ok.inj (creating.symm.trans first)
  refine ⟨Annotations.ofSource_congr text name annotated same, filled, second, fun alike => ?_⟩
  rw [second, filled]
  refine congrArg (fun ls => Except.ok (Text.unlines ls)) (filledLines_congr ?_)
  intro l inside k place number
  cases k with
  | file => exact alike l inside _ (by simp) place number
  | routine => rfl
  | directory => exact alike l inside _ (by simp) place number
  | line => rfl

namespace Sample

def fileText : String := "create procedure a()\n-- type: rows\nbegin\n__FILE__"

def fileSource (p : Path) : RoutineSource := ⟨p, ".psql", fileText, 0⟩

def elsewhere : Path := ⟨"/", ["b", "a.psql"]⟩

def functionEntry : CatalogEntry :=
  ⟨.text "a", .text "function", .text "", .text "utf8", .text "utf8_bin"⟩

theorem load_fileSource : RoutineSource.load (filesWith fileText) path ".psql" =
    .ok (fileSource path) :=
  load_filesWith rfl (by decide) (by decide)

theorem resolve_fileSource (p : Path) : Placeholder.resolve (fileSource p) [] = .ok [] := by
  have find : Placeholder.find (fileSource p).text = [] :=
    RoutineSource.find_of_spelled rfl (by decide +kernel)
  simp [Placeholder.resolve, find, Placeholder.sortTexts]

theorem lines_fileSource (p : Path) :
    (fileSource p).lines = ["create procedure a()", "-- type: rows", "begin", "__FILE__"] :=
  RoutineSource.lines_of_spelled rfl rfl

theorem ofSource_fileSource : Annotations.ofSource (fileSource path) [] = .ok annotations := by
  have designation : Designation.ofSource (fileSource path) = .ok (.plain "rows", 1) :=
    RoutineSource.designation_of_lines (lines_fileSource path) (by decide +kernel)
  have header : Header.ofSource (fileSource path) = .ok ⟨"procedure", "a"⟩ :=
    RoutineSource.header_of_spelled rfl rfl rfl
  simp only [Annotations.ofSource, resolve_fileSource, designation, header]
  rfl

open Substitution in
theorem createStatement_fileSource {p : Path} (nameable : p.isNameable = true)
    (layer : Sql.DataLayer) : createStatement layer [] (fileSource p) annotations =
      .ok (Text.unlines ["create procedure a()", "-- type: rows", "begin",
        layer.quote (p.absolute []).toText]) := by
  have stays {l : String} (member : l ∈ ["create procedure a()", "-- type: rows", "begin"]) :
      ∀ t ∈ l.toList.tails, Piece.at? t = none := by
    revert l
    decide +kernel
  have file : pieces "__FILE__".toList = [.constant .file] := by
    have starts : Piece.at? "__FILE__".toList = some (.constant .file, []) := rfl
    rw [pieces_of_key starts]
    simp [pieces]
  have filled (values : Nat → Constant → String) : filledLines [] values (fileSource p).lines =
      ["create procedure a()", "-- type: rows", "begin", values 4 .file] := by
    have first := filled_of_no_key (stays (l := "create procedure a()") (by simp)) [] (values 1)
    have second := filled_of_no_key (stays (l := "-- type: rows") (by simp)) [] (values 2)
    have third := filled_of_no_key (stays (l := "begin") (by simp)) [] (values 3)
    rw [lines_fileSource]
    simp only [filledLines, List.zipIdx_cons, List.zipIdx_nil, List.map_cons, List.map_nil,
      first, second, third, file]
    simp [Piece.filled]
  have statement : createStatement layer [] (fileSource p) annotations = _ :=
    createStatement_of_resolved (resolve_fileSource p) nameable []
  rw [statement, filled]
  rfl

theorem run_compile_fileSource : ∃ v,
    (compile settings (answering []).layer path none [] none).run (world fileText) =
      (.ok ⟨path, "a", .loaded .noRecord (recordOf (fileSource path) annotations)
        (RoutineDoc.warnings (fileSource path) [])⟩, v) := by
  have loaded : RoutineSource.load (world fileText).files path settings.extension =
      .ok (fileSource path) := load_fileSource
  have judged : Freshness.judge none 0 [] session none = .ok (.stale .noRecord) := rfl
  obtain ⟨sqls, planned⟩ : ∃ sqls, makingStatements (answering []).layer [] (fileSource path)
      annotations settings.session none = .ok sqls :=
    ⟨_, by rw [makingStatements, createStatement_fileSource rfl]; rfl⟩
  obtain ⟨v, run, -, -⟩ := run_compile_answering loaded judged ofSource_fileSource rfl rfl planned
  exact ⟨v, run⟩

theorem judge_recordOf : Freshness.judge (some (recordOf (fileSource path) annotations)) 0 []
    session (some functionEntry) = .ok (.upToDate (recordOf (fileSource path) annotations)) := by
  have holds : Freshness.Holds 0 [] (recordOf (fileSource path) annotations) := ⟨rfl, rfl⟩
  have matching : functionEntry.Matches session :=
    ⟨⟨[], rfl, rfl⟩, rfl, rfl⟩
  exact Freshness.judge_upToDate_iff.2 ⟨rfl, holds, _, rfl, matching⟩

end Sample

open Sample in
/-- A procedure that was loaded is up to date although the catalog has a function in its place, and
although its text, which names its file, now lies elsewhere and would be created differently. -/
theorem upToDate_elsewhere : ∃ r v reason record warnings,
    (compile settings (answering []).layer path none [] none).run (world fileText) = (.ok r, v) ∧
    r.outcome = .loaded reason record warnings ∧
    (fileSource elsewhere).name = (fileSource path).name ∧
    Freshness.judge (some record) (fileSource elsewhere).modified [] session
      (some functionEntry) = .ok (.upToDate record) ∧
    functionEntry.routineType ≠ record.routineType ∧
    Annotations.ofSource (fileSource elsewhere) [] = .ok annotations ∧
    createStatement (answering []).layer [] (fileSource elsewhere) annotations ≠
      createStatement (answering []).layer [] (fileSource path) annotations := by
  obtain ⟨v, run⟩ := run_compile_fileSource
  have name : (fileSource elsewhere).name = (fileSource path).name := by decide +kernel
  have text : (fileSource elsewhere).text = (fileSource path).text := rfl
  have annotated : Annotations.ofSource (fileSource elsewhere) [] = .ok annotations :=
    Annotations.ofSource_congr text name ofSource_fileSource (fun p member => by cases member)
  refine ⟨_, v, _, _, _, run, rfl, name, judge_recordOf, by decide, annotated, ?_⟩
  rw [createStatement_fileSource (by decide +kernel), createStatement_fileSource (by decide +kernel)]
  decide +kernel

namespace Sample

def roundabout : Path := ⟨"/", ["b", "..", "a.psql"]⟩

def filesWithDirectory : FileSystem :=
  ⟨[(["b"], .directory), (["a.psql"], .file ⟨fileText.toUTF8, 0⟩)], []⟩

end Sample

open Sample in
/-- A source that is reached by another path, but is the same file, would be created by the
statement that created it. -/
theorem recreated_roundabout : ∃ r v reason record warnings create,
    (compile settings (answering []).layer path none [] none).run (world fileText) = (.ok r, v) ∧
    r.outcome = .loaded reason record warnings ∧
    RoutineSource.load filesWithDirectory roundabout ".psql" = .ok (fileSource roundabout) ∧
    createStatement (answering []).layer [] (fileSource path) annotations = .ok create ∧
    createStatement (answering []).layer [] (fileSource roundabout) annotations = .ok create := by
  obtain ⟨v, run⟩ := run_compile_fileSource
  obtain ⟨source, a, before, create, loaded, annotated, creating, -, reload⟩ :=
    upToDate_recreates run rfl
  obtain rfl := Except.ok.inj (loaded.symm.trans load_fileSource)
  obtain rfl := Except.ok.inj (annotated.symm.trans ofSource_fileSource)
  have loaded' : RoutineSource.load filesWithDirectory roundabout ".psql" =
      .ok (fileSource roundabout) := by
    have read : filesWithDirectory.read roundabout = .ok ⟨fileText.toUTF8, 0⟩ := rfl
    exact RoutineSource.load_of_read read rfl rfl (by decide) (by decide) ".psql"
  have name : (fileSource roundabout).name = (fileSource path).name := by decide +kernel
  have same : roundabout.absolute [] = path.absolute [] := by decide +kernel
  have again := reload filesWithDirectory roundabout _ [] _ _ loaded' rfl rfl name judge_recordOf
  refine ⟨_, v, _, _, _, create, run, rfl, loaded', creating, again.2.2.2 ?_⟩
  intro l _ k _ _ number
  have path_eq : (fileSource roundabout).path.absolute [] = (fileSource path).path.absolute [] :=
    same
  cases k with
  | file => exact congrArg (fun p => (answering []).layer.quote (Path.toText p)) path_eq
  | directory => exact congrArg (fun p => (answering []).layer.quote (Path.toText (Path.parent p))) path_eq
  | routine => rfl
  | line => rfl

end StoredRoutines

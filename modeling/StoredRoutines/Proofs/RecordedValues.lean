import StoredRoutines.Proofs.Consistency
import StoredRoutines.Proofs.Repeating

/-!
The values that a record keeps of the placeholders. A record that was made of a text, and was kept
for this text ever since, has the values that the last table gave to the tokens of the text. As far
as the catalog agrees it is therefore up to date just if each token still has its value, and what a
table says about other tokens does not matter. But the time of change is all that ties a record to a
text: kept for a text of the same time, a record knows nothing of the tokens of that text.
-/

namespace StoredRoutines

open Loader Outcomes

/-- Both tables give a value to each token of the text, and the two are the same when shown. -/
def Placeholder.AgreeOn (text : String) (s t : ReplaceTable) : Prop :=
  ∀ token ∈ find text, ∃ v v', value? s token = some v ∧ value? t token = some v' ∧
    v'.display = v.display

namespace BuildRecord

/-- The record keeps the values of the tokens of a text, and nothing else. -/
structure KeepsValues (text : String) (table : ReplaceTable) (record : BuildRecord) : Prop where
  complete : ∀ token ∈ Placeholder.find text, ∃ v, Placeholder.value? table token = some v ∧
    (.text token, .text v.display) ∈ record.replace
  sound : ∀ e ∈ record.replace, ∃ token ∈ Placeholder.find text, ∃ v,
    Placeholder.value? table token = some v ∧ e = (.text token, .text v.display)

/-- The record was made when the source was loaded under the table; or it was made of a source with
the same text, and has been found up to date for this one. -/
inductive MadeOf : RoutineSource → ReplaceTable → BuildRecord → Prop
  | loaded {settings : LoaderSettings} {layer : Sql.DataLayer} {path : Path}
      {previous : Option BuildRecord} {table : ReplaceTable} {entry : Option CatalogEntry}
      {w v : World} {r : RoutineResult} {source : RoutineSource} {reason : StaleReason}
      {record : BuildRecord} {warnings : List String}
      (run : (compile settings layer path previous table entry).run w = (.ok r, v))
      (read : RoutineSource.load w.files path settings.extension = .ok source)
      (made : r.outcome = .loaded reason record warnings) : MadeOf source table record
  | kept {settings : LoaderSettings} {layer : Sql.DataLayer} {path : Path}
      {previous record : BuildRecord} {table table' : ReplaceTable} {entry : Option CatalogEntry}
      {w v : World} {r : RoutineResult} {source source' : RoutineSource}
      (before : MadeOf source' table' previous) (same : source.text = source'.text)
      (run : (compile settings layer path (some previous) table entry).run w = (.ok r, v))
      (read : RoutineSource.load w.files path settings.extension = .ok source)
      (found : r.outcome = .upToDate record) : MadeOf source table record

end BuildRecord

namespace Compile

variable {settings : LoaderSettings} {layer : Sql.DataLayer} {path : Path} {table : ReplaceTable}
  {entry : Option CatalogEntry} {w v : World} {r : RoutineResult} {source : RoutineSource}
  {record : BuildRecord}

theorem ofBuild_of_rebuild {why reason : StaleReason} {warnings : List String}
    (run : (rebuild settings layer source table entry why).run w = (.ok r, v))
    (made : r.outcome = .loaded reason record warnings) :
    ∃ a parameters columns doc, Annotations.ofSource source table = .ok a ∧
      record = (BuildRecord.ofBuild source a parameters columns doc).justMade := by
  obtain ⟨a, u, making, describing⟩ := steps_of_rebuild run made
  obtain ⟨_, parameters, columns, doc, _, _, -, -, -, -, shape⟩ := steps_of_describe describing
  exact ⟨a, parameters, columns, doc, ofSource_of_make making, shape⟩

theorem holds_of_upToDate {previous : Option BuildRecord}
    (run : (compile settings layer path previous table entry).run w = (.ok r, v))
    (read : RoutineSource.load w.files path settings.extension = .ok source)
    (found : r.outcome = .upToDate record) :
    previous = some record ∧ Freshness.Holds source.modified table record := by
  obtain ⟨source', loaded, ⟨-, judged⟩ | ⟨reason, rebuilding⟩⟩ := judged_of_compile run
    (show r.outcome.record? = some record by rw [found]; rfl)
  · obtain rfl := Except.ok.inj (loaded.symm.trans read)
    obtain ⟨same, holds, -⟩ := Freshness.judge_upToDate_iff.1 judged
    exact ⟨same, holds⟩
  · obtain ⟨_, rfl, ⟨_, _, rfl⟩ | ⟨_, _, rfl⟩⟩ := run_rebuild rebuilding <;> cases found

end Compile

namespace BuildRecord

variable {text : String} {table table' : ReplaceTable} {record : BuildRecord}

theorem keepsValues_ofBuild {source : RoutineSource} {a : Annotations}
    (annotated : Annotations.ofSource source table = .ok a) (parameters : List CatalogParameter)
    (columns : TableColumns) (doc : RoutineDoc) :
    (ofBuild source a parameters columns doc).justMade.KeepsValues source.text table := by
  have resolved := Annotations.resolved_of_ofSource annotated
  have replace : (ofBuild source a parameters columns doc).justMade.replace =
      a.placeholders.map fun p => (.text p.1, .text p.2) := rfl
  constructor
  · intro token found
    obtain ⟨v, valued⟩ := Placeholder.value_of_mem_find resolved found
    have kept := (Placeholder.mem_placeholders resolved (e := (token, v.display))).2
      ⟨found, v, valued, rfl⟩
    exact ⟨v, valued, replace ▸ List.mem_map.2 ⟨_, kept, rfl⟩⟩
  · intro e member
    obtain ⟨⟨token, _⟩, kept, rfl⟩ := List.mem_map.1 (replace ▸ member)
    obtain ⟨found, v, valued, rfl⟩ := (Placeholder.mem_placeholders resolved).1 kept
    exact ⟨token, found, v, valued, rfl⟩

theorem KeepsValues.of_holds (h : record.KeepsValues text table) {modified : Int}
    (holds : Freshness.Holds modified table' record) : record.KeepsValues text table' := by
  have valued (e : Atom × Value) (member : e ∈ record.replace) :=
    Freshness.ofPlaceholders_eq_none_iff.1 holds.2 e member
  constructor
  · intro token found
    obtain ⟨v, -, kept⟩ := h.complete token found
    obtain ⟨_, v', key, value, shown⟩ := valued _ kept
    cases key
    exact ⟨v', value, shown ▸ kept⟩
  · intro e member
    obtain ⟨token, found, v, -, rfl⟩ := h.sound e member
    obtain ⟨_, v', key, value, shown⟩ := valued _ member
    cases key
    exact ⟨token, found, v', value, congrArg (Prod.mk _) shown⟩

/-- The kept values are those of another table just if the tables agree on the tokens. -/
theorem KeepsValues.ofPlaceholders_eq_none_iff (h : record.KeepsValues text table) :
    Freshness.ofPlaceholders table' record.replace = .ok none ↔
      Placeholder.AgreeOn text table table' := by
  rw [Freshness.ofPlaceholders_eq_none_iff]
  constructor
  · intro all token found
    obtain ⟨v, value, kept⟩ := h.complete token found
    obtain ⟨_, v', key, value', shown⟩ := all _ kept
    cases key
    exact ⟨v, v', value, value', (Atom.text.inj (Value.atom.inj shown)).symm⟩
  · intro agree e member
    obtain ⟨token, found, v, value, rfl⟩ := h.sound e member
    obtain ⟨w, v', value', other, same⟩ := agree token found
    obtain rfl := Option.some.inj (value'.symm.trans value)
    exact ⟨token, v', rfl, other, by rw [same]⟩

/-- Every record that was made of a source, and kept since, has the time of the source and the
values of its tokens. -/
theorem MadeOf.keepsValues {source : RoutineSource} (h : record.MadeOf source table) :
    record.timestamp = source.modified ∧ record.KeepsValues source.text table := by
  induction h with
  | loaded run read made =>
    obtain ⟨source', why, loaded, rebuilding⟩ := Compile.rebuild_of_loaded run made
    obtain rfl := Except.ok.inj (loaded.symm.trans read)
    obtain ⟨a, parameters, columns, doc, annotated, rfl⟩ :=
      Compile.ofBuild_of_rebuild rebuilding made
    exact ⟨rfl, keepsValues_ofBuild annotated parameters columns doc⟩
  | kept _ same run read found ih =>
    obtain ⟨given, holds⟩ := Compile.holds_of_upToDate run read found
    obtain rfl := Option.some.inj given
    exact ⟨holds.1, same ▸ ih.2.of_holds holds⟩

end BuildRecord

namespace Freshness

variable {table table' : ReplaceTable}

theorem exists_ofPlaceholders {recorded : List (Atom × Value)}
    (texts : ∀ e ∈ recorded, ∃ token, e.1 = .text token) :
    ∃ reason, ofPlaceholders table recorded = .ok reason := by
  induction recorded with
  | nil => exact ⟨none, rfl⟩
  | cons e rest ih =>
    obtain ⟨key, value⟩ := e
    obtain ⟨⟨token, rfl⟩, later⟩ := List.forall_mem_cons.1 texts
    obtain ⟨reason, judged⟩ := ih later
    unfold ofPlaceholders
    split
    · exact ⟨_, rfl⟩
    · split
      · exact ⟨reason, judged⟩
      · exact ⟨_, rfl⟩

theorem ofPlaceholders_congr {recorded : List (Atom × Value)}
    (same : ∀ e ∈ recorded, ∃ token, e.1 = .text token ∧
      Placeholder.value? table token = Placeholder.value? table' token) :
    ofPlaceholders table recorded = ofPlaceholders table' recorded := by
  induction recorded with
  | nil => rfl
  | cons e rest ih =>
    obtain ⟨key, value⟩ := e
    obtain ⟨⟨token, rfl, here⟩, later⟩ := List.forall_mem_cons.1 same
    simp only [ofPlaceholders, here, ih later]

end Freshness

/-- A record that was made of a source, and kept since, is judged without fail; where the catalog
agrees with the session it is up to date just if the tokens of the text have the values they had.
What a table says about anything but these tokens does not matter to any judgement of the record. -/
theorem madeOf_upToDate_iff {source : RoutineSource} {table : ReplaceTable} {record : BuildRecord}
    (made : record.MadeOf source table) :
    (∀ (session : SessionSettings) (entry : CatalogEntry) (table' : ReplaceTable),
      entry.Matches session →
        ∃ judged, Freshness.judge (some record) source.modified table' session (some entry) =
          .ok judged ∧
            (judged.reason? = none ↔ Placeholder.AgreeOn source.text table table')) ∧
    ∀ (modified : Int) (session : SessionSettings) (entry : Option CatalogEntry)
      (s t : ReplaceTable),
      (∀ token ∈ Placeholder.find source.text,
        Placeholder.value? s token = Placeholder.value? t token) →
        Freshness.judge (some record) modified s session entry =
          Freshness.judge (some record) modified t session entry := by
  obtain ⟨time, values⟩ := made.keepsValues
  constructor
  · intro session entry table' matching
    have agree : Freshness.ofPlaceholders table' record.replace = .ok none ↔
        Placeholder.AgreeOn source.text table table' := values.ofPlaceholders_eq_none_iff
    -- Keys that are texts always have a comparison, so judging cannot fail.
    have texts (e : Atom × Value) (member : e ∈ record.replace) : ∃ token, e.1 = .text token := by
      obtain ⟨token, -, _, -, rfl⟩ := values.sound e member
      exact ⟨token, rfl⟩
    obtain ⟨reason, placeholders⟩ : ∃ reason, Freshness.ofPlaceholders table' record.replace =
      .ok reason := Freshness.exists_ofPlaceholders texts
    cases reason with
    | none =>
      exact ⟨_, Freshness.judge_upToDate_iff.2 ⟨rfl, ⟨time, placeholders⟩, _, rfl, matching⟩,
        iff_of_true rfl (agree.1 placeholders)⟩
    | some reason =>
      refine ⟨.stale reason, ?_, iff_of_false (by simp [Freshness.reason?]) fun same => ?_⟩
      · simp only [Freshness.judge, time, placeholders, ne_eq, not_true_eq_false, if_false]
        rfl
      · rw [agree.2 same] at placeholders
        cases placeholders
  · intro modified session entry s t same
    have equal : Freshness.ofPlaceholders s record.replace =
        Freshness.ofPlaceholders t record.replace :=
      Freshness.ofPlaceholders_congr fun e member => by
        obtain ⟨token, found, _, -, rfl⟩ := values.sound e member
        exact ⟨token, rfl, same token found⟩
    simp only [Freshness.judge, equal]

namespace Sample

theorem agreeOn_listSource {s t : ReplaceTable} : Placeholder.AgreeOn listSource.text s t ↔
    ∃ v v', s.lookup "@K@" = some v ∧ t.lookup "@K@" = some v' ∧ v'.display = v.display := by
  have upper : Text.upper "@k@" = "@K@" := by decide
  simp [Placeholder.AgreeOn, find_listSource, Placeholder.value?, upper]

theorem matches_entryOf (name : String) : (entryOf name).Matches session :=
  ⟨⟨[], rfl, rfl⟩, rfl, rfl⟩

def textTable : ReplaceTable := [("@K@", .text "1"), ("@L@", .null)]

end Sample

open Sample in
/-- A record that was made under one table and kept under another is up to date under a third just
if this one gives the token its value. -/
theorem list_values_judged : ∃ record : BuildRecord, record.MadeOf listSource textTable ∧
    (entryOf "a").Matches session ∧
    (∃ judged, Freshness.judge (some record) 0 listTable session (some (entryOf "a")) =
      .ok judged ∧ judged.reason? = none) ∧
    (∃ judged, Freshness.judge (some record) 0 [("@K@", .int 2)] session (some (entryOf "a")) =
      .ok judged ∧ judged.reason? ≠ none) ∧
    Freshness.judge (some record) 0 textTable session none =
      Freshness.judge (some record) 0 [("@K@", .text "1")] session none := by
  obtain ⟨warnings, v, run⟩ := run_compile_listSource
  have first : listRecord.MadeOf listSource listTable := .loaded run load_listSource rfl
  have agree : Placeholder.AgreeOn listSource.text listTable textTable :=
    agreeOn_listSource.2 ⟨.int 1, .text "1", rfl, rfl, by decide⟩
  obtain ⟨time, values⟩ := first.keepsValues
  have yields : (compile settings describing.layer path (some listRecord) textTable
      (some (entryOf "a"))).Yields (world listText) ⟨path, "a", .upToDate listRecord⟩ :=
    compile_yields load_listSource (Freshness.judge_upToDate_iff.2
      ⟨rfl, ⟨time, values.ofPlaceholders_eq_none_iff.2 agree⟩, _, rfl, matches_entryOf "a"⟩)
  obtain ⟨es, again, -⟩ := yields
  have second : listRecord.MadeOf listSource textTable := .kept first rfl again load_listSource rfl
  obtain ⟨judges, others⟩ := madeOf_upToDate_iff second
  obtain ⟨back, judged, fresh⟩ := judges session (entryOf "a") listTable (matches_entryOf "a")
  obtain ⟨away, judged', stale⟩ := judges session (entryOf "a") [("@K@", .int 2)]
    (matches_entryOf "a")
  refine ⟨listRecord, second, matches_entryOf "a", ⟨back, judged, fresh.2 ?_⟩,
    ⟨away, judged', fun none => ?_⟩, others 0 session none _ _ ?_⟩
  · exact agreeOn_listSource.2 ⟨.text "1", .int 1, rfl, rfl, by decide⟩
  · obtain ⟨v, v', value, value', same⟩ := agreeOn_listSource.1 (stale.1 none)
    cases value
    cases value'
    exact absurd same (by decide)
  · rw [find_listSource]
    decide

open Sample in
/-- A record of an older text is kept for a text of the same time of change, and goes on to be up to
date when a token of the new text has no value any more. -/
theorem upToDate_by_older_text : ∃ record warnings u v,
    (compile settings (answering []).layer path none [] none).run (world text) =
      (.ok ⟨path, "a", .loaded .noRecord record warnings⟩, u) ∧
    (compile settings (answering []).layer path (some record) listTable (some (entryOf "a"))).run
      (world listText) = (.ok ⟨path, "a", .upToDate record⟩, v) ∧
    RoutineSource.load (world listText).files path settings.extension = .ok listSource ∧
    (entryOf "a").Matches settings.session ∧
    "@k@" ∈ Placeholder.find listSource.text ∧ Placeholder.value? [] "@k@" = none ∧
    Freshness.judge (some record) listSource.modified [] settings.session (some (entryOf "a")) =
      .ok (.upToDate record) := by
  have files : (world text).files = filesWith text := rfl
  obtain ⟨u, made, -, -⟩ := run_compile_source files
  have fresh (table : ReplaceTable) : Freshness.judge (some (recordOf source annotations))
      listSource.modified table settings.session (some (entryOf "a")) =
        .ok (.upToDate (recordOf source annotations)) :=
    Freshness.judge_upToDate_iff.2 ⟨rfl, ⟨rfl, rfl⟩, _, rfl, matches_entryOf "a"⟩
  have yields : (compile settings (answering []).layer path (some (recordOf source annotations))
      listTable (some (entryOf "a"))).Yields (world listText)
        ⟨path, "a", .upToDate (recordOf source annotations)⟩ :=
    compile_yields load_listSource (fresh listTable)
  obtain ⟨es, kept, -⟩ := yields
  exact ⟨_, _, u, _, made, kept, load_listSource, matches_entryOf "a",
    by rw [find_listSource]; simp, rfl, fresh []⟩

end StoredRoutines

import StoredRoutines.Proofs.Cursors
import StoredRoutines.Proofs.Defects
import StoredRoutines.Proofs.SourceTexts

/-!
What the steps of a layer fail with. Whatever the connector refuses is reported as an error of the
layer. What it hands out is not always taken in: a byte string that is no UTF-8, and a single row
without a column, stop a query with a defect.
-/

namespace StoredRoutines

open Loader Outcomes

namespace Failure

/-- The failure is an error of the layer: of a statement, or of the connection. -/
def IsOfLayer : Failure → Prop
  | .error e => e.kind.isDataLayer = true
  | .defect _ => False

theorem IsDefect.not_isOfLayer {e : Failure} (h : e.IsDefect) : ¬ e.IsOfLayer := by
  cases e with
  | error e => exact h.elim
  | defect d => exact id

end Failure

/-- The computation ends with a value or with an error of the layer. -/
def Loader.Honours {α : Type} (x : Loader α) (w : World) : Prop :=
  ErrsOnly Failure.IsOfLayer (x.run w).1

theorem errsOnly_isOfLayer_iff {α : Type} {x : Except Failure α} (h : Defective x) :
    ErrsOnly Failure.IsOfLayer x ↔ ∃ a, x = .ok a := by
  cases x with
  | ok a => exact ⟨fun _ => ⟨a, rfl⟩, fun _ => ErrsOnly.ok a⟩
  | error e =>
    have defect : e.IsDefect := h e rfl
    constructor
    · intro honoured
      exact absurd (honoured e rfl) defect.not_isOfLayer
    · rintro ⟨a, same⟩
      cases same

namespace Sql

def IsUtf8 (bytes : List UInt8) : Prop := ∃ s : String, s.toUTF8 = ⟨bytes.toArray⟩

def Decodable (found : List Row) : Prop :=
  ∀ row ∈ found, ∀ cell ∈ row, ∀ bytes, cell.2 = .bytes bytes → IsUtf8 bytes

theorem decodeBytes_ok_iff {bytes : List UInt8} :
    (∃ s, decodeBytes bytes = .ok s) ↔ IsUtf8 bytes := by
  constructor
  · rintro ⟨s, decoded⟩
    cases valid : String.fromUTF8? ⟨bytes.toArray⟩ with
    | none => simp [decodeBytes, Text.decode, valid] at decoded
    | some t =>
      refine ⟨t, ?_⟩
      unfold String.fromUTF8? at valid
      split at valid <;> cases valid
      rfl
  · rintro ⟨s, encoded⟩
    exact ⟨s, by rw [decodeBytes, ← encoded, Text.decode_toUTF8]⟩

namespace Connector

theorem decodeRow_ok_iff {row : Row} : (∃ decoded, decodeRow row = .ok decoded) ↔
    ∀ cell ∈ row, ∀ bytes, cell.2 = .bytes bytes → IsUtf8 bytes := by
  rw [decodeRow, exists_mapM_eq_ok_iff]
  refine forall₂_congr fun cell _ => ?_
  split
  · rename_i bytes held
    have decoded : (∃ d, (decodeBytes bytes).map (fun s => (cell.1, Value.text s)) = .ok d) ↔
        IsUtf8 bytes := by
      rw [← decodeBytes_ok_iff]
      simp [map_eq_ok]
    rw [decoded, held]
    constructor
    · intro valid other same
      cases same
      exact valid
    · intro valid
      exact valid bytes rfl
  · rename_i other
    constructor
    · intro _ bytes held
      exact absurd held (other bytes)
    · intro _
      exact ⟨_, rfl⟩

theorem errsOnly_mapM_decodeRow_iff {found : List Row} :
    ErrsOnly Failure.IsOfLayer (found.mapM decodeRow) ↔ Decodable found := by
  rw [errsOnly_isOfLayer_iff (ErrsOnly.mapM defective_decodeRow), exists_mapM_eq_ok_iff]
  exact forall₂_congr fun row _ => decodeRow_ok_iff

theorem eq_single_empty_iff {found decoded : List Row} (h : found.mapM decodeRow = .ok decoded) :
    decoded = [[]] ↔ found = [[]] := by
  have rows := mapM_eq_ok.1 h
  have columns {row row' : Row} (read : decodeRow row = .ok row') : row' = [] ↔ row = [] := by
    have lengths := (mapM_eq_ok.1 read).length_eq
    rw [← List.length_eq_zero_iff, ← List.length_eq_zero_iff, lengths]
  cases rows with
  | nil => simp
  | cons head tail =>
    cases tail with
    | nil => simpa using columns head
    | cons _ _ => simp

theorem errsOnly_firstColumn_iff {sql : String} {found : List Row} :
    ErrsOnly Failure.IsOfLayer (firstColumn sql found) ↔ found ≠ [[]] := by
  match found with
  | [] => simp [firstColumn]
  | [[]] => simp [firstColumn, Failure.IsOfLayer]
  | [_ :: _] => simp [firstColumn]
  | _ :: _ :: _ =>
    simp [firstColumn, Failure.IsOfLayer, LoaderError.ofStatement, ErrorKind.isDataLayer]

/-- What a step takes in: its rows can be decoded, and a single row that is asked for its first
column has one. -/
def TakesIn : StatementStep → List Row → Prop
  | .execute, _ => True
  | .rows, found => Decodable found
  | .scalar, found => Decodable found ∧ found ≠ [[]]

theorem errsOnly_read_iff {sql : String} {step : StatementStep} {found : List Row} :
    ErrsOnly Failure.IsOfLayer (step.read sql found) ↔ TakesIn step found := by
  cases step with
  | execute => exact ⟨fun _ => trivial, fun _ => ErrsOnly.ok ()⟩
  | rows => exact errsOnly_mapM_decodeRow_iff
  | scalar =>
    have taken : ErrsOnly Failure.IsOfLayer (found.mapM decodeRow >>= firstColumn sql) ↔
        Decodable found ∧ found ≠ [[]] := by
      rw [ErrsOnly.bind_iff, errsOnly_mapM_decodeRow_iff]
      -- The column is picked from decoded rows, but the condition is on the rows as handed out.
      refine and_congr_right fun decodable => ?_
      obtain ⟨decoded, read⟩ := exists_mapM_eq_ok_iff.2 fun row place =>
        decodeRow_ok_iff.2 (decodable row place)
      have kept : decoded ≠ [[]] ↔ found ≠ [[]] := not_congr (eq_single_empty_iff read)
      rw [← kept]
      constructor
      · intro each
        exact errsOnly_firstColumn_iff.1 (each decoded read)
      · intro full rows same
        rw [read] at same
        cases same
        exact errsOnly_firstColumn_iff.2 full
    exact taken

variable {connector : Connector} {options : ConnectOptions} {w : World}

theorem isOfLayer_toLoaderError (e : ConnectorError) (sql : String) :
    (Failure.error (e.toLoaderError sql)).IsOfLayer := by
  unfold ConnectorError.toLoaderError
  split <;> rfl

/-- The connector hands out the rows of a statement to an open layer. -/
def HandsOut (connector : Connector) (mode : CursorMode) (sql : String) (w : World)
    (found : List Row) : Prop :=
  w.connected = true ∧ connector.handedOut mode sql w.history = .ok found

/-- A step keeps to the errors of the layer if it takes in what the connector hands out. -/
theorem honours_perform_iff (step : StatementStep) (sql : String) :
    (step.perform connector sql).Honours w ↔
      ∀ found, connector.HandsOut step.mode sql w found → TakesIn step found := by
  cases state : w.connected with
  | false =>
    have failed : ((step.perform connector sql).run w).1 = .error (.error (.ofStatement .connection
        "MySqlDataLayer.open() must be called first." sql)) := by
      rw [perform_eq, outcome_bind_ofExcept, withCursor_of_closed state]
      rfl
    rw [Honours, failed, ErrsOnly.error_iff]
    exact ⟨fun _ found handed => absurd (handed.1.symm.trans state) (by decide), fun _ => rfl⟩
  | true =>
    rw [Honours, run_perform step sql state]
    cases out : connector.handedOut step.mode sql w.history with
    | error e =>
      have refused : ErrsOnly Failure.IsOfLayer
          ((Except.mapError (fun e => Failure.error (e.toLoaderError sql))
            (.error e : Except ConnectorError (List Row))) >>= step.read sql) :=
        ErrsOnly.error_iff.2 (isOfLayer_toLoaderError e sql)
      refine ⟨fun _ found handed => ?_, fun _ => refused⟩
      cases out.symm.trans handed.2
    | ok found =>
      have read : (Except.mapError (fun e => Failure.error (e.toLoaderError sql))
          (.ok found : Except ConnectorError (List Row))) >>= step.read sql =
            step.read sql found := rfl
      dsimp only
      rw [read, errsOnly_read_iff]
      constructor
      · intro taken other handed
        cases out.symm.trans handed.2
        exact taken
      · intro taken
        exact taken found ⟨state, out⟩

/-- Opening keeps to the errors of the layer unless it is told twice when statements take effect. -/
theorem honours_open_iff : (connector.open options).Honours w ↔
    (w.connected = false → Assoc.hasKey "autocommit" options.further = false) := by
  unfold Honours
  rcases open_cases connector options w with ⟨state, run⟩ | ⟨state, used, d, run⟩ |
    ⟨state, used, e, text, -, run⟩ | ⟨state, used, -, run⟩
  all_goals rw [run]
  · simp [state]
  · simp [state, used, Failure.IsOfLayer]
  · simp [used, Failure.IsOfLayer, ErrorKind.isDataLayer]
  · simp [used]

/-- How far the steps of a layer keep to its errors: whatever the connector does, only the options
and the rows can make them fail otherwise. -/
structure ErrorContract (connector : Connector) (options : ConnectOptions) (w : World) : Prop where
  opening : (connector.open options).Honours w ↔
    (w.connected = false → Assoc.hasKey "autocommit" options.further = false)
  execute : ∀ sql, (connector.layer.execute sql).Honours w
  rows : ∀ sql, (connector.layer.rows sql).Honours w ↔
    ∀ found, connector.HandsOut .dictionary sql w found → Decodable found
  scalar : ∀ sql, (connector.layer.scalar sql).Honours w ↔
    ∀ found, connector.HandsOut .dictionary sql w found → Decodable found ∧ found ≠ [[]]

/-- Over any connector and from any world, a step of a layer ends with a value or with an error of
the layer, unless it cannot take in the rows that it was handed: those with a byte string that is no
UTF-8, or a single one without a column. -/
theorem errors_are_of_layer (connector : Connector) (options : ConnectOptions) (w : World) :
    connector.ErrorContract options w where
  opening := honours_open_iff
  execute sql := (honours_perform_iff .execute sql).2 fun _ _ => trivial
  rows := honours_perform_iff .rows
  scalar := honours_perform_iff .scalar

namespace Sample

def handing (bytes : List UInt8) : Connector where
  connectError _ := none
  cursorError _ := none
  statementError _ _ := none
  rows _ _ := [[("a", .bytes bytes)]]
  cursorCloseError _ := none
  closeError _ := none

end Sample

open Connector.Sample in
/-- A byte that starts no character stops a query, and not with an error of the layer. -/
theorem undecodable_value_escapes :
    let query : Loader (List Row) := do
      (handing [0xff]).open {}
      (handing [0xff]).layer.rows "select a"
    (query.run { files := .empty [] }).1 =
        .error (.defect (.undecodable ⟨0, [0xff], .start⟩)) ∧
      ¬ query.Honours { files := .empty [] } := by
  intro query
  have escapes : (query.run { files := .empty [] }).1 =
      .error (.defect (.undecodable ⟨0, [0xff], .start⟩)) := by
    decide +kernel
  refine ⟨escapes, fun honoured => ?_⟩
  rw [Honours, escapes] at honoured
  exact ErrsOnly.error_iff.1 honoured

end Connector

end Sql

end StoredRoutines

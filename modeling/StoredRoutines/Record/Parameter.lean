import StoredRoutines.Record.Members
import StoredRoutines.Routine.ListParameter

/-!
Parameters of a routine: as the catalog reports them, and as the generator of wrappers sees them.
What a record keeps of them is copied without a look at it, so the fields are unknown values.
-/

namespace StoredRoutines

/-- A parameter whose value is a list encoded as one text. -/
structure ExtendedParameter where
  name : Value
  dataType : Value
  delimiter : Value := .text ","
  enclosure : Value := .text "\""
  escape : Value := .text "\\"
  deriving DecidableEq, Repr

namespace ExtendedParameter

def ofDeclaration (p : ListParameter) : ExtendedParameter where
  name := .text p.name
  dataType := .text p.listType
  delimiter := .text (String.ofList [p.delimiter])
  enclosure := .text (String.ofList [p.enclosure])
  escape := .text (String.ofList [p.escape])

def toValue (p : ExtendedParameter) : Value :=
  .object [("name", p.name), ("data_type", p.dataType), ("delimiter", p.delimiter),
    ("enclosure", p.enclosure), ("escape", p.escape)]

def ofValue (v : Value) : Except Failure ExtendedParameter := do
  return {
    name := ← v.member "name"
    dataType := ← v.member "data_type"
    delimiter := ← v.memberOr "delimiter" (.text ",")
    enclosure := ← v.memberOr "enclosure" (.text "\"")
    escape := ← v.memberOr "escape" (.text "\\") }

end ExtendedParameter

/-- A parameter as the catalog reports it, with the declaration merged into it if there is one. -/
structure CatalogParameter where
  name : Value
  dataType : Value
  dtdIdentifier : Value := .text ""
  numericPrecision : Value := .null
  numericScale : Value := .null
  characterSet : Value := .null
  collation : Value := .null
  extended : Option ExtendedParameter := none
  deriving DecidableEq, Repr

namespace CatalogParameter

/-- The list type of a declaration, else the type of the catalog. -/
def effectiveType (p : CatalogParameter) : Value :=
  match p.extended with
  | some e => e.dataType
  | none => p.dataType

/-- What a character set or a collation adds to a type, by code points. Nothing adds nothing. -/
def clause (label : String) (subject : Value) : List Nat :=
  if subject.isNothing then [] else label.toList.map Char.toNat ++ subject.displayPoints

def clauses (p : CatalogParameter) : List Nat :=
  clause " character set " p.characterSet ++ clause " collation " p.collation

/-- Code points as texts of one character each. -/
def pointTexts (points : List Nat) : List Value := points.map fun n => .atom (.ofPoints [n])

/-- Clauses, given by their code points, added to a type. -/
def addClauses (type : Value) (clauses : List Nat) : Except Failure Value :=
  match type with
  | .text _ | .atom (.broken _) => .ok (.atom (.ofPoints (type.displayPoints ++ clauses)))
  | .list items => .ok (.list (items ++ pointTexts clauses))
  | .bytes _ => Value.refuse "can't concat str to bytes"
  | v => Value.refuse ("unsupported operand type(s) for +=: '" ++ v.typeName ++ "' and 'str'")

def typeDescriptor (p : CatalogParameter) : Except Failure Value :=
  if p.clauses.isEmpty then .ok p.dtdIdentifier else addClauses p.dtdIdentifier p.clauses

/-- The parameter after looks at its full type. A type that is a list takes the clauses in at each
look; a type that is a text stays as it is. -/
def afterLooks (n : Nat) (p : CatalogParameter) : CatalogParameter :=
  match p.dtdIdentifier with
  | .list items =>
    { p with
      dtdIdentifier := .list (items ++ (List.replicate n (pointTexts p.clauses)).flatten) }
  | _ => p

/-- Only types that are lists change. -/
theorem afterLooks_eq_self {p : CatalogParameter} (h : ∀ items, p.dtdIdentifier ≠ .list items)
    (n : Nat) : p.afterLooks n = p := by
  unfold afterLooks
  split
  · rename_i items he
    exact absurd he (h items)
  · rfl

theorem map_afterLooks_eq_self {ps : List CatalogParameter}
    (h : ∀ p ∈ ps, ∀ items, p.dtdIdentifier ≠ .list items) (n : CatalogParameter → Nat) :
    ps.map (fun p => p.afterLooks (n p)) = ps := by
  have same : ps.map (fun p => p.afterLooks (n p)) = ps.map id :=
    List.map_congr_left fun p member => afterLooks_eq_self (h p member) (n p)
  rw [same, List.map_id]

/-- Merged parameters after looks at all of them. Those of one name are one parameter, which is
looked at each time that it occurs. -/
def mergedAfterLooks (n : Nat) (ps : List CatalogParameter) : List CatalogParameter :=
  ps.map fun p => p.afterLooks (n * ps.count p)

/-- Merged parameters as the last look at each of them finds them, when all are looked at once. -/
def mergedAtLastLook (ps : List CatalogParameter) : List CatalogParameter :=
  ps.map fun p => p.afterLooks (ps.count p - 1)

def merged (p : CatalogParameter) (e : ExtendedParameter) : CatalogParameter :=
  { p with extended := some e }

/-- The members that a declaration adds to a parameter. -/
def separators (p : CatalogParameter) : List (Atom × Value) :=
  match p.extended with
  | some e => [("delimiter", e.delimiter), ("enclosure", e.enclosure), ("escape", e.escape)]
  | none => []

def toValue (p : CatalogParameter) : Except Failure Value := do
  let members : List (Atom × Value) :=
    [("name", p.name), ("data_type", p.effectiveType), ("catalog_data_type", p.dataType),
      ("dtd_identifier", (p.afterLooks 1).dtdIdentifier),
      ("numeric_precision", p.numericPrecision), ("numeric_scale", p.numericScale),
      ("character_set_name", p.characterSet), ("collation_name", p.collation),
      ("data_type_descriptor", ← p.typeDescriptor)]
  return .object (members ++ p.separators)

/-- The declaration in a parameter: it is there if the parameter has a delimiter. -/
def extendedOf (v : Value) : Except Failure (Option ExtendedParameter) := do
  if (v.field? "delimiter").isNone then return none
  return some {
    name := ← v.member "name"
    dataType := ← v.member "data_type"
    delimiter := ← v.member "delimiter"
    enclosure := ← v.member "enclosure"
    escape := ← v.member "escape" }

def ofValue (v : Value) : Except Failure CatalogParameter := do
  let extended ← extendedOf v
  let name ← v.member "name"
  let type ← v.member "data_type"
  return {
    name
    dataType := ← v.memberOr "catalog_data_type" type
    dtdIdentifier := ← v.memberOr "dtd_identifier" (.text "")
    numericPrecision := ← v.memberOr "numeric_precision" .null
    numericScale := ← v.memberOr "numeric_scale" .null
    characterSet := ← v.memberOr "character_set_name" .null
    collation := ← v.memberOr "collation_name" .null
    extended }

/-- The error for a declaration that no parameter of the catalog answers to. -/
def undeclared (name : Value) (source : String) : LoaderError :=
  .ofSource .reconciliation ("Specific parameter '" ++ name.display ++ "' does not exist.") source

/-- Merges declarations into parameters arranged by name. -/
def mergeByName (source : String) (byName : List (Key × CatalogParameter)) :
    List ExtendedParameter → Except Failure (List (Key × CatalogParameter))
  | [] => .ok byName
  | e :: es => do
    let name ← e.name.asKey
    match byName.lookup name with
    | none => .error (.error (undeclared e.name source))
    | some p => mergeByName source (Assoc.put name (p.merged e) byName) es

/-- A declaration is merged into the parameter that answers to its name. -/
theorem mergeByName_cons {source : String} {byName : List (Key × CatalogParameter)}
    {e : ExtendedParameter} {a : Atom} (named : e.name = .atom a) (es : List ExtendedParameter) :
    mergeByName source byName (e :: es) =
      match byName.lookup ⟨a⟩ with
      | none => .error (.error (undeclared e.name source))
      | some p => mergeByName source (Assoc.put ⟨a⟩ (p.merged e) byName) es := by
  rw [mergeByName, named]
  rfl

theorem mergeByName_cons_eq_ok {source : String} {byName result : List (Key × CatalogParameter)}
    {e : ExtendedParameter} {es : List ExtendedParameter} :
    mergeByName source byName (e :: es) = .ok result ↔
      ∃ a p, e.name = .atom a ∧ byName.lookup ⟨a⟩ = some p ∧
        mergeByName source (Assoc.put ⟨a⟩ (p.merged e) byName) es = .ok result := by
  cases named : e.name with
  | atom a =>
    rw [mergeByName_cons named]
    cases found : byName.lookup ⟨a⟩ <;> simp [found]
  | list _ | object _ =>
    rw [mergeByName, named]
    simp [Value.asKey, Value.refuse, bind, Except.bind]

/-- Merges declarations into the parameters of the catalog by name. -/
def mergeAll (parameters : List CatalogParameter) (declared : List ExtendedParameter)
    (source : String) : Except Failure (List CatalogParameter) := do
  let named ← parameters.mapM fun p => p.name.asKey.map fun name => (name, p)
  let byName ← mergeByName source (Assoc.ofPairs named) declared
  return named.map fun e => (byName.lookup e.1).getD e.2

end CatalogParameter

/-- A parameter as the generator of wrappers sees it. -/
structure WrapperParameter where
  name : Value
  semanticType : Value
  typeDescriptor : Value
  description : Value
  deriving DecidableEq, Repr

namespace WrapperParameter

def toValue (p : WrapperParameter) : Value :=
  .object [("name", p.name), ("semantic_type", p.semanticType),
    ("data_type_descriptor", p.typeDescriptor), ("description", p.description)]

def ofValue (v : Value) : Except Failure WrapperParameter := do
  return {
    name := ← v.member "name"
    semanticType := ← v.member "semantic_type"
    typeDescriptor := ← v.member "data_type_descriptor"
    description := ← v.memberOr "description" .null }

end WrapperParameter

end StoredRoutines

import StoredRoutines.Routine.Designation

/-!
Parameters that hold a list as one delimited text. Each is declared on a line
`-- param: <name> <type> [<delimiter> <enclosure> <escape>]` between the designation line and the
body.
-/

namespace StoredRoutines

structure ListParameter where
  name : String
  listType : String
  delimiter : Char := ','
  enclosure : Char := '"'
  escape : Char := '\\'
  deriving DecidableEq, Repr

namespace ListParameter

/-- What is wrong with a declaration. -/
inductive Fault where
  | form
  | duplicate (name : String)
  deriving DecidableEq, Repr

def Fault.wording : Fault → String
  | form => "Expected: -- param: <field_name> <type_of_list> [delimiter enclosure escape]."
  | duplicate name => "Duplicate parameter '" ++ name ++ "'."

def ofWords? : List (List Char) → Option ListParameter
  | [name, listType] =>
    if name.all Text.isWord && listType.all Text.isWord then
      some { name := String.ofList name, listType := String.ofList listType }
    else none
  | [name, listType, [d], [e], [x]] =>
    if name.all Text.isWord && listType.all Text.isWord && d ≠ '-' && e ≠ '-' && x ≠ '-' then
      some ⟨String.ofList name, String.ofList listType, d, e, x⟩
    else none
  | _ => none

/-- The words of the declaration on a line; none if the line declares nothing. -/
def declaration? (line : String) : Option (List (List Char)) :=
  match Designation.afterMark? "param:".toList (Text.dropReturns line.toList) with
  | none => none
  | some rest =>
    match Text.words rest with
    | [] => none
    | words => some words

/-- The parameters of declarations in order, after those before them. -/
def ofDeclarations (before : List ListParameter) :
    List (List (List Char)) → Except Fault (List ListParameter)
  | [] => .ok before
  | words :: rest =>
    match ofWords? words with
    | none => .error .form
    | some p =>
      if before.any fun q => q.name = p.name then .error (.duplicate p.name)
      else ofDeclarations (before ++ [p]) rest

/-- The items from an index up to another. A negative index counts from the end. -/
def slice {α : Type} (items : List α) (start : Int) (stop : Nat) : List α :=
  (items.take stop).drop (if start < 0 then (items.length + start).toNat else start.toNat)

def Fault.toError (source : RoutineSource) (fault : Fault) : LoaderError :=
  match fault with
  | form => .ofSource .parameterSyntax fault.wording source.label
  | duplicate name =>
    ⟨.parameterSyntax, fault.wording, { source := source.label, parameter := name }⟩

/-- The parameters declared in a source after the line at an index. -/
def ofSource (source : RoutineSource) (designationLine : Int) :
    Except LoaderError (List ListParameter) :=
  match source.beginLine? with
  | none => .error (.ofSource .designation Designation.Fault.noBegin.wording source.label)
  | some b =>
    let declarations := (slice source.lines (designationLine + 1) b).filterMap declaration?
    (ofDeclarations [] declarations).mapError (Fault.toError source)

end ListParameter

end StoredRoutines

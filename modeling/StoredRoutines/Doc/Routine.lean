import StoredRoutines.Doc.Mismatch
import StoredRoutines.Record.Basic
import StoredRoutines.Routine.Header

/-!
The documentation of a routine: what its comment says, beside the parameters of the catalog with
their wrapper types.
-/

namespace StoredRoutines.RoutineDoc

/-- The documentation comment in front of the header of a source. -/
def comment (source : RoutineSource) : DocComment :=
  DocComment.ofText (Header.leadingComment source.text)

/-- The description of a parameter: the first that the comment gives, or null. -/
def descriptionOf (descriptions : List (String × String)) (name : Value) : Value :=
  match descriptions.find? fun d => name = .text d.1 with
  | some d => .text d.2
  | none => .null

/-- A parameter as the generator of wrappers sees it. -/
def wrapperParameter (label : String) (descriptions : List (String × String))
    (p : CatalogParameter) : Except Failure WrapperParameter := do
  let type ← SemanticType.ofCatalog p.effectiveType p.numericScale label
  return ⟨p.name, .text type.name, ← p.typeDescriptor, descriptionOf descriptions p.name⟩

def ofComment (label : String) (comment : DocComment) (parameters : List CatalogParameter) :
    Except Failure RoutineDoc := do
  let wrapped ← (CatalogParameter.mergedAtLastLook parameters).mapM
    (wrapperParameter label comment.parameterDescriptions)
  return ⟨.text comment.short, .text comment.long, wrapped⟩

/-- Documents a routine. A mismatch between comment and catalog is logged and returned. -/
def build (source : RoutineSource) (parameters : List CatalogParameter) :
    Loader (RoutineDoc × List String) := do
  let comment := comment source
  let doc ← Loader.ofExcept (ofComment source.label comment parameters)
  let names ← Loader.ofExcept (parameters.mapM (·.name.asKey))
  let warnings ← DocMismatch.report source.label
    (DocMismatch.between names (comment.parameterDescriptions.map fun d => ⟨.text d.1⟩))
  return (doc, warnings)

end StoredRoutines.RoutineDoc

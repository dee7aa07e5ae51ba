import StoredRoutines.Proofs.AnnotationLines
import StoredRoutines.Proofs.Outcomes
import StoredRoutines.Proofs.SourceTexts
import StoredRoutines.Routine.ListParameter

/-!
Declarations of list parameters. A declaration is a line between the designation and the body with
the mark `param:` and at least one word behind it. The declarations of a source are read in order;
the first one that does not have the right words, or that gives the name of an earlier one, is the
one that is reported.
-/

namespace StoredRoutines

open Outcomes

namespace ListParameter

open Text

def Wordy (s : List Char) : Prop := ∀ c ∈ s, isWord c = true

/-- The line declares something, in these words. -/
def Declares (line : String) (words : List (List Char)) : Prop :=
  ∃ rest, Designation.Annotates "param:".toList line rest ∧ SplitsInto rest words ∧ words ≠ []

/-- The words declare the parameter: its name, its type, and perhaps three characters. -/
inductive Declared : List (List Char) → ListParameter → Prop
  | usual {name type : List Char} (named : Wordy name) (typed : Wordy type) :
      Declared [name, type] { name := String.ofList name, listType := String.ofList type }
  | given {name type : List Char} {delimiter enclosure escape : Char} (named : Wordy name)
      (typed : Wordy type) (delimits : delimiter ≠ '-') (encloses : enclosure ≠ '-')
      (escapes : escape ≠ '-') :
      Declared [name, type, [delimiter], [enclosure], [escape]]
        ⟨String.ofList name, String.ofList type, delimiter, enclosure, escape⟩

/-- The lines declare just these parameters, in order: each line that declares anything declares the
next of them. -/
inductive Lists : List String → List ListParameter → Prop
  | nil : Lists [] []
  | skip {line : String} {lines : List String} {ps : List ListParameter}
      (silent : ∀ words, ¬ Declares line words) (more : Lists lines ps) : Lists (line :: lines) ps
  | take {line : String} {words : List (List Char)} {p : ListParameter} {lines : List String}
      {ps : List ListParameter} (declares : Declares line words) (declared : Declared words p)
      (more : Lists lines ps) : Lists (line :: lines) (p :: ps)

/-- The lines declare the parameters, no two of which have one name. -/
def Accepts (lines : List String) (ps : List ListParameter) : Prop :=
  Lists lines ps ∧ (ps.map (·.name)).Nodup

/-- The line is at fault behind lines that declare the parameters. -/
inductive Offends (ps : List ListParameter) (line : String) : Fault → Prop
  | form {words : List (List Char)} (declares : Declares line words)
      (ill : ∀ p, ¬ Declared words p) : Offends ps line .form
  | duplicate {words : List (List Char)} {p : ListParameter} (declares : Declares line words)
      (declared : Declared words p) (before : p.name ∈ ps.map (·.name)) :
      Offends ps line (.duplicate p.name)

/-! The words of one line. -/

theorem declaration?_eq_some_iff {line : String} {ws : List (List Char)} :
    declaration? line = some ws ↔ Declares line ws := by
  have marked (rest : List Char) : Designation.Annotates "param:".toList line rest ↔
      Designation.afterMark? "param:".toList (dropReturns line.toList) = some rest :=
    Designation.annotates_iff (by decide) (by
      intro c first
      rw [← Option.some.inj first]
      decide)
  unfold declaration? Declares
  simp only [marked, ← words_eq_iff]
  cases Designation.afterMark? "param:".toList (dropReturns line.toList) with
  | none => simp
  | some rest =>
    simp only [Option.some.injEq, exists_eq_left']
    cases words rest with
    | nil => simp
    | cons w more =>
      simp only [Option.some.injEq]
      constructor
      · rintro rfl
        exact ⟨rfl, List.cons_ne_nil _ _⟩
      · exact And.left

theorem ofWords?_eq_some_iff {ws : List (List Char)} {p : ListParameter} :
    ofWords? ws = some p ↔ Declared ws p := by
  constructor
  · intro read
    unfold ofWords? at read
    split at read
    · split at read
      · rename_i good
        rw [Bool.and_eq_true, List.all_eq_true, List.all_eq_true] at good
        cases read
        exact .usual good.1 good.2
      · cases read
    · split at read
      · rename_i good
        simp only [Bool.and_eq_true, List.all_eq_true, decide_eq_true_eq] at good
        cases read
        exact .given good.1.1.1.1 good.1.1.1.2 good.1.1.2 good.1.2 good.2
      · cases read
    · cases read
  · intro declared
    cases declared with
    | usual named typed => simp [ofWords?, List.all_eq_true.2 named, List.all_eq_true.2 typed]
    | given named typed delimits encloses escapes =>
      simp [ofWords?, List.all_eq_true.2 named, List.all_eq_true.2 typed, delimits, encloses,
        escapes]

theorem declaration?_eq_none_iff {line : String} :
    declaration? line = none ↔ ∀ ws, ¬ Declares line ws := by
  simp only [← declaration?_eq_some_iff, Option.eq_none_iff_forall_ne_some, ne_eq]

/-! The declarations of all lines. -/

section

variable {line : String} {lines : List String} {ws : List (List Char)}
  {ps before : List ListParameter}

theorem lists_nil_iff : Lists [] ps ↔ ps = [] := by
  constructor
  · rintro ⟨⟩
    rfl
  · rintro rfl
    exact .nil

theorem lists_cons_of_none (silent : declaration? line = none) :
    Lists (line :: lines) ps ↔ Lists lines ps := by
  have none := declaration?_eq_none_iff.1 silent
  constructor
  · intro lists
    cases lists with
    | skip _ more => exact more
    | take declares _ _ => exact absurd declares (none _)
  · exact .skip none

theorem lists_cons_of_some (declares : declaration? line = some ws) :
    Lists (line :: lines) ps ↔
      ∃ p more, ofWords? ws = some p ∧ Lists lines more ∧ ps = p :: more := by
  constructor
  · intro lists
    cases lists with
    | skip silent _ => exact absurd (declaration?_eq_some_iff.1 declares) (silent _)
    | take declares' declared more =>
      obtain rfl := Option.some.inj (declares.symm.trans (declaration?_eq_some_iff.2 declares'))
      exact ⟨_, _, ofWords?_eq_some_iff.2 declared, more, rfl⟩
  · rintro ⟨p, more, read, lists, rfl⟩
    exact .take (declaration?_eq_some_iff.1 declares) (ofWords?_eq_some_iff.1 read) lists

theorem not_offends_of_none {fault : Fault} (silent : declaration? line = none) :
    ¬ Offends ps line fault := by
  have none := declaration?_eq_none_iff.1 silent
  rintro (⟨declares, -⟩ | ⟨declares, -, -⟩) <;> exact none _ declares

theorem offends_iff_of_none {fault : Fault} (declares : declaration? line = some ws)
    (ill : ofWords? ws = none) : Offends ps line fault ↔ fault = .form := by
  constructor
  · intro offends
    cases offends with
    | form => rfl
    | duplicate declares' declared _ =>
      obtain rfl := Option.some.inj (declares.symm.trans (declaration?_eq_some_iff.2 declares'))
      rw [ofWords?_eq_some_iff.2 declared] at ill
      cases ill
  · rintro rfl
    refine .form (declaration?_eq_some_iff.1 declares) fun p declared => ?_
    rw [ofWords?_eq_some_iff.2 declared] at ill
    cases ill

theorem offends_iff_of_some {fault : Fault} {p : ListParameter}
    (declares : declaration? line = some ws) (read : ofWords? ws = some p) :
    Offends ps line fault ↔ p.name ∈ ps.map (·.name) ∧ fault = .duplicate p.name := by
  constructor
  · intro offends
    cases offends with
    | form declares' ill =>
      obtain rfl := Option.some.inj (declares.symm.trans (declaration?_eq_some_iff.2 declares'))
      exact absurd (ofWords?_eq_some_iff.1 read) (ill p)
    | duplicate declares' declared before =>
      obtain rfl := Option.some.inj (declares.symm.trans (declaration?_eq_some_iff.2 declares'))
      obtain rfl := Option.some.inj (read.symm.trans (ofWords?_eq_some_iff.2 declared))
      exact ⟨before, rfl⟩
  · rintro ⟨before, rfl⟩
    exact .duplicate (declaration?_eq_some_iff.1 declares) (ofWords?_eq_some_iff.1 read) before

theorem ofDeclarations_cons (before : List ListParameter) (ws : List (List Char))
    (rest : List (List (List Char))) : ofDeclarations before (ws :: rest) =
      match ofWords? ws with
      | none => .error .form
      | some p =>
        if p.name ∈ before.map (·.name) then .error (.duplicate p.name)
        else ofDeclarations (before ++ [p]) rest := by
  rw [ofDeclarations]
  cases ofWords? ws with
  | none => rfl
  | some p =>
    have same : (before.any fun q => decide (q.name = p.name)) = true ↔
        p.name ∈ before.map (·.name) := by
      simp
    simp only [same]

theorem nodup_names_append {p : ListParameter} (distinct : (before.map (·.name)).Nodup)
    (fresh : p.name ∉ before.map (·.name)) : ((before ++ [p]).map (·.name)).Nodup := by
  rw [List.map_append, List.map_singleton, List.nodup_append]
  refine ⟨distinct, List.pairwise_singleton _ _, fun name member other same => ?_⟩
  rw [List.mem_singleton.1 same]
  rintro rfl
  exact fresh member

theorem not_mem_names_of_nodup {p : ListParameter} {more : List ListParameter}
    (distinct : ((before ++ p :: more).map (·.name)).Nodup) : p.name ∉ before.map (·.name) := by
  rw [List.map_append, List.map_cons, List.nodup_append] at distinct
  intro member
  exact distinct.2.2 _ member _ List.mem_cons_self rfl

/-- Behind parameters that were declared before, the declarations are read without a fault just if
they are well-formed and give new names. -/
theorem ofDeclarations_eq_ok_iff (distinct : (before.map (·.name)).Nodup) :
    ofDeclarations before (lines.filterMap declaration?) = .ok ps ↔
      ∃ more, Lists lines more ∧ ps = before ++ more ∧ (ps.map (·.name)).Nodup := by
  -- The parameters before the lines grow, and that their names are distinct is the invariant.
  induction lines generalizing before with
  | nil =>
    simp only [List.filterMap_nil, ofDeclarations, Except.ok.injEq, lists_nil_iff, exists_eq_left,
      List.append_nil]
    constructor
    · rintro rfl
      exact ⟨rfl, distinct⟩
    · exact fun h => h.1.symm
  | cons line lines ih =>
    rw [List.filterMap_cons]
    cases declares : declaration? line with
    | none => simp only [lists_cons_of_none declares, ih distinct]
    | some ws =>
      simp only [ofDeclarations_cons, lists_cons_of_some declares]
      cases read : ofWords? ws with
      | none => simp
      | some p =>
        simp only [Option.some.injEq]
        by_cases known : p.name ∈ before.map (·.name)
        · rw [if_pos known]
          constructor
          · intro failed
            cases failed
          · rintro ⟨_, ⟨_, more, rfl, -, rfl⟩, rfl, distinct'⟩
            exact absurd known (not_mem_names_of_nodup distinct')
        · rw [if_neg known, ih (nodup_names_append distinct known)]
          constructor
          · rintro ⟨more, lists, rfl, distinct'⟩
            exact ⟨p :: more, ⟨p, more, rfl, lists, rfl⟩, List.append_assoc _ _ _, distinct'⟩
          · rintro ⟨_, ⟨_, more, rfl, lists, rfl⟩, rfl, distinct'⟩
            exact ⟨more, lists, by simp, distinct'⟩

/-- Behind parameters that were declared before, the fault is that of the first line at fault. -/
def FirstFault (before : List ListParameter) (lines : List String) (fault : Fault) : Prop :=
  ∃ above line below more, lines = above ++ line :: below ∧ Lists above more ∧
    ((before ++ more).map (·.name)).Nodup ∧ Offends (before ++ more) line fault

theorem firstFault_cons_of_none {fault : Fault} (silent : declaration? line = none) :
    FirstFault before (line :: lines) fault ↔ FirstFault before lines fault := by
  constructor
  · rintro ⟨above, l, below, more, split, lists, rest⟩
    cases above with
    | nil =>
      obtain ⟨rfl, rfl⟩ := List.cons.inj split
      exact absurd rest.2 (not_offends_of_none silent)
    | cons a above =>
      obtain ⟨rfl, rfl⟩ := List.cons.inj split
      exact ⟨above, l, below, more, rfl, (lists_cons_of_none silent).1 lists, rest⟩
  · rintro ⟨above, l, below, more, rfl, lists, rest⟩
    exact ⟨line :: above, l, below, more, rfl, (lists_cons_of_none silent).2 lists, rest⟩

theorem firstFault_cons_of_some {fault : Fault} (declares : declaration? line = some ws)
    (distinct : (before.map (·.name)).Nodup) :
    FirstFault before (line :: lines) fault ↔ Offends before line fault ∨
      ∃ p, ofWords? ws = some p ∧ FirstFault (before ++ [p]) lines fault := by
  have shift (p : ListParameter) (more : List ListParameter) :
      before ++ [p] ++ more = before ++ p :: more := by simp
  constructor
  · rintro ⟨above, l, below, more, split, lists, rest⟩
    cases above with
    | nil =>
      obtain ⟨rfl, rfl⟩ := List.cons.inj split
      obtain rfl := lists_nil_iff.1 lists
      rw [List.append_nil] at rest
      exact .inl rest.2
    | cons a above =>
      obtain ⟨rfl, rfl⟩ := List.cons.inj split
      obtain ⟨p, more, read, others, rfl⟩ := (lists_cons_of_some declares).1 lists
      rw [← shift] at rest
      exact .inr ⟨p, read, above, l, below, more, rfl, others, rest⟩
  · rintro (offends | ⟨p, read, above, l, below, more, rfl, lists, rest⟩)
    · exact ⟨[], line, lines, [], rfl, .nil, by rwa [List.append_nil], by rwa [List.append_nil]⟩
    · rw [shift] at rest
      exact ⟨line :: above, l, below, p :: more, rfl,
        (lists_cons_of_some declares).2 ⟨p, more, read, lists, rfl⟩, rest⟩

theorem not_firstFault_of_known {fault : Fault} {p : ListParameter}
    (known : p.name ∈ before.map (·.name)) : ¬ FirstFault (before ++ [p]) lines fault := by
  rintro ⟨_, _, _, more, -, -, distinct, -⟩
  rw [List.append_assoc] at distinct
  exact not_mem_names_of_nodup distinct known

theorem ofDeclarations_eq_error_iff {fault : Fault} (distinct : (before.map (·.name)).Nodup) :
    ofDeclarations before (lines.filterMap declaration?) = .error fault ↔
      FirstFault before lines fault := by
  induction lines generalizing before with
  | nil => simp [ofDeclarations, FirstFault]
  | cons line lines ih =>
    rw [List.filterMap_cons]
    cases declares : declaration? line with
    | none => rw [ih distinct, firstFault_cons_of_none declares]
    | some ws =>
      simp only [ofDeclarations_cons, firstFault_cons_of_some declares distinct]
      cases read : ofWords? ws with
      | none => simp [offends_iff_of_none declares read, eq_comm]
      | some p =>
        simp only [offends_iff_of_some declares read, Option.some.injEq, exists_eq_left']
        by_cases known : p.name ∈ before.map (·.name)
        · simp [known, not_firstFault_of_known known, eq_comm]
        · rw [if_neg known, ih (nodup_names_append distinct known)]
          simp only [known, false_and, false_or]

end

theorem slice_eq_drop {lines : List String} {n : Int} (index : -1 ≤ n) (b : Nat) :
    slice lines (n + 1) b = (lines.take b).drop (n + 1).toNat := by
  rw [slice, if_neg (by omega)]

/-- Between the line of the designation and the body, a source declares just the parameters that its
lines declare, if no line is at fault; else what is wrong is the fault of the first such line. -/
theorem declared_as_written {source : RoutineSource} {before : List String}
    (opens : Opens source.lines before) {n : Int} (index : -1 ≤ n) :
    (∀ ps, ofSource source n = .ok ps ↔ Accepts (before.drop (n + 1).toNat) ps) ∧
    ∀ e, ofSource source n = .error e ↔ ∃ above line below ps fault,
      before.drop (n + 1).toNat = above ++ line :: below ∧ Accepts above ps ∧
      Offends ps line fault ∧ e = fault.toError source := by
  obtain ⟨first, front⟩ := RoutineSource.beginLine?_of_opens opens
  have none : (([] : List ListParameter).map (·.name)).Nodup := List.nodup_nil
  have read : ofSource source n = (ofDeclarations []
      ((before.drop (n + 1).toNat).filterMap declaration?)).mapError (Fault.toError source) := by
    rw [ofSource, first]
    simp only [slice_eq_drop index, front]
  rw [read]
  constructor
  · intro ps
    rw [mapError_eq_ok, ofDeclarations_eq_ok_iff none]
    constructor
    · rintro ⟨_, lists, rfl, distinct⟩
      exact ⟨lists, distinct⟩
    · rintro ⟨lists, distinct⟩
      exact ⟨ps, lists, rfl, distinct⟩
  · intro e
    rw [mapError_eq_error]
    simp only [ofDeclarations_eq_error_iff none]
    constructor
    · rintro ⟨fault, ⟨above, line, below, ps, split, lists, distinct, offends⟩, rfl⟩
      exact ⟨above, line, below, ps, fault, split, ⟨lists, distinct⟩, offends, rfl⟩
    · rintro ⟨above, line, below, ps, fault, split, ⟨lists, distinct⟩, offends, rfl⟩
      exact ⟨fault, ⟨above, line, below, ps, split, lists, distinct, offends⟩, rfl⟩

def repeatedSource : RoutineSource where
  path := ⟨"", ["psql", "a.psql"]⟩
  extension := ".psql"
  text := "-- param: p_a ints\n-- type: rows\n--\tparam:p_a  ints ; ' |\r\n-- param:\nbegin"
  modified := 0

theorem lines_repeatedSource : repeatedSource.lines =
    ["-- param: p_a ints", "-- type: rows", "--\tparam:p_a  ints ; ' |\r", "-- param:",
      "begin"] :=
  RoutineSource.lines_of_spelled rfl rfl

/-- Behind the designation the name is declared once; from the first line on, it is the second
declaration that is at fault. -/
theorem second_declaration_at_fault :
    Opens repeatedSource.lines (repeatedSource.lines.take 4) ∧
    Accepts ((repeatedSource.lines.take 4).drop 2) [⟨"p_a", "ints", ';', '\'', '|'⟩] ∧
    ∃ above line below ps fault, (repeatedSource.lines.take 4).drop 0 = above ++ line :: below ∧
      Accepts above ps ∧ Offends ps line fault ∧
      ⟨.parameterSyntax, "Duplicate parameter 'p_a'.",
        { source := "psql/a.psql", parameter := "p_a" }⟩ = fault.toError repeatedSource := by
  have first : repeatedSource.beginLine? = some 4 := by
    rw [RoutineSource.beginLine?, lines_repeatedSource]
    decide +kernel
  have opens := RoutineSource.opens_of_beginLine? first
  have declared : ofSource repeatedSource 1 = .ok [⟨"p_a", "ints", ';', '\'', '|'⟩] := by
    rw [ofSource, first, lines_repeatedSource]
    decide +kernel
  have repeated : ofSource repeatedSource (-1) = .error ⟨.parameterSyntax,
      "Duplicate parameter 'p_a'.", { source := "psql/a.psql", parameter := "p_a" }⟩ := by
    rw [ofSource, first, lines_repeatedSource]
    decide +kernel
  exact ⟨opens, ((declared_as_written opens (n := 1) (by decide)).1 _).1 declared,
    ((declared_as_written opens (n := -1) (by decide)).2 _).1 repeated⟩

end ListParameter

end StoredRoutines

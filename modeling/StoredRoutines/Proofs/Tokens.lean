import StoredRoutines.Proofs.Splitting
import StoredRoutines.Routine.Placeholder

/-!
The tokens of a text. What the scanner takes at a place is what the grammar of placeholders allows
there: at most one token starts at a place. No token holds a blank, so the tokens of a text are
those of its lines, with or without carriage returns at their ends.
-/

namespace StoredRoutines.Placeholder

/-- The grammar of placeholders: a sign, a name, perhaps a type mark, and a sign. -/
def IsToken (t : List Char) : Prop :=
  ∃ name mark, name ≠ [] ∧ (∀ c ∈ name, isNameChar c = true) ∧ (mark = [] ∨ mark = typeMark) ∧
    t = '@' :: (name ++ (mark ++ ['@']))

theorem IsToken.starts {t : List Char} (h : IsToken t) : ∃ more, t = '@' :: more := by
  obtain ⟨name, mark, -, -, -, rfl⟩ := h
  exact ⟨_, rfl⟩

theorem IsToken.ne_nil {t : List Char} (h : IsToken t) : t ≠ [] := by
  obtain ⟨more, rfl⟩ := h.starts
  simp

theorem not_isBlank_of_isNameChar {c : Char} (named : isNameChar c = true) :
    Text.isBlank c = false := by
  rcases Bool.or_eq_true_iff.1 named with plain | dot
  · exact Text.not_isBlank_of_isPlain plain
  · rw [of_decide_eq_true dot]
    rfl

theorem IsToken.no_blank {t : List Char} (h : IsToken t) : ∀ c ∈ t, Text.isBlank c = false := by
  obtain ⟨name, mark, -, plain, marked, rfl⟩ := h
  have mark_ok : ∀ c ∈ mark, Text.isBlank c = false := by
    rcases marked with rfl | rfl
    · simp
    · have unblank : (typeMark.all fun c => !Text.isBlank c) = true := by decide
      simpa using unblank
  refine List.forall_mem_cons.2 ⟨rfl, List.forall_mem_append.2 ⟨fun c inside => ?_, ?_⟩⟩
  · exact not_isBlank_of_isNameChar (plain c inside)
  · exact List.forall_mem_append.2 ⟨mark_ok, by simp; rfl⟩

theorem body?_eq_some {s body after : List Char} (h : body? s = some (body, after)) :
    IsToken ('@' :: body) := by
  have plain : ∀ c ∈ s.takeWhile isNameChar, isNameChar c = true := fun c inside =>
    List.all_eq_true.1 List.all_takeWhile c inside
  simp only [body?] at h
  split at h
  · cases h
  · rename_i some
    have nonempty : s.takeWhile isNameChar ≠ [] := by simpa using some
    split at h
    · obtain ⟨rfl, rfl⟩ := Prod.mk.inj (Option.some.inj h)
      exact ⟨_, [], nonempty, plain, .inl rfl, by simp⟩
    · split at h
      · obtain ⟨rfl, rfl⟩ := Prod.mk.inj (Option.some.inj h)
        exact ⟨_, typeMark, nonempty, plain, .inr rfl, by simp⟩
      · cases h

/-- The scanner takes exactly what the grammar allows at the start of a text. -/
theorem token?_eq_some_iff {s t after : List Char} :
    token? s = some (t, after) ↔ IsToken t ∧ s = t ++ after := by
  constructor
  · intro h
    refine ⟨?_, token?_append h⟩
    unfold token? at h
    split at h
    · obtain ⟨r, found, same⟩ := Option.map_eq_some_iff.1 h
      obtain ⟨rfl, rfl⟩ := Prod.mk.inj same
      exact body?_eq_some found
    · cases h
  · rintro ⟨⟨name, mark, nonempty, plain, marked, rfl⟩, rfl⟩
    have some : name.isEmpty = false := by simpa using nonempty
    have scanned (more : List Char) (c : Char) (other : isNameChar c = false) :
        (name ++ c :: more).takeWhile isNameChar = name ∧
          (name ++ c :: more).dropWhile isNameChar = c :: more := by
      rw [List.takeWhile_append_of_pos plain, List.dropWhile_append_of_pos plain]
      simp [other]
    rcases marked with rfl | rfl
    · obtain ⟨taken, left⟩ := scanned after '@' (by decide)
      simp [token?, body?, taken, left, some]
    · have unfolded : typeMark ++ ('@' :: after) =
          '%' :: (['t', 'y', 'p', 'e', '@'] ++ after) := rfl
      obtain ⟨taken, left⟩ := scanned (['t', 'y', 'p', 'e', '@'] ++ after) '%' (by decide)
      have rest : Text.dropPrefix? typeMark (typeMark ++ '@' :: after) = .some ('@' :: after) :=
        Text.dropPrefix?_eq_some_iff.2 rfl
      rw [unfolded] at rest
      simp only [List.cons_append, List.append_assoc, List.nil_append, unfolded]
        at taken left rest ⊢
      simp [token?, body?, taken, left, some, rest]

theorem token?_eq_none_iff {s : List Char} : token? s = none ↔ ∀ t, IsToken t → ¬ t <+: s := by
  rw [Option.eq_none_iff_forall_ne_some]
  constructor
  · rintro none t token ⟨after, rfl⟩
    exact none _ (token?_eq_some_iff.2 ⟨token, rfl⟩)
  · rintro none ⟨t, after⟩ found
    obtain ⟨token, rfl⟩ := token?_eq_some_iff.1 found
    exact none t token ⟨after, rfl⟩

theorem tokens_of_token {s t after : List Char} (h : token? s = some (t, after)) :
    tokens s = t :: tokens after := by
  cases s with
  | nil => cases h
  | cons c cs =>
    rw [tokens]
    split
    · rename_i found
      rw [h] at found
      obtain ⟨rfl, rfl⟩ := Prod.mk.inj (Option.some.inj found)
      rfl
    · rename_i none
      rw [h] at none
      cases none

theorem tokens_of_none {c : Char} {cs : List Char} (h : token? (c :: cs) = none) :
    tokens (c :: cs) = tokens cs := by
  rw [tokens]
  split
  · rename_i found
    rw [h] at found
    cases found
  · rfl

theorem tokens_append_of_no_sign {s : List Char} (none : '@' ∉ s) (r : List Char) :
    tokens (s ++ r) = tokens r := by
  induction s with
  | nil => rfl
  | cons c cs ih =>
    rw [List.mem_cons, not_or] at none
    have start : token? (c :: (cs ++ r)) = .none := by
      refine token?_eq_none_iff.2 fun t token place => ?_
      obtain ⟨more, rfl⟩ := token.starts
      exact none.1 (List.cons_prefix_cons.1 place).1
    rw [List.cons_append, tokens_of_none start, ih none.2]

theorem token?_append_blank {c : Char} (blank : Text.isBlank c = true) (s r : List Char) :
    token? (s ++ c :: r) = (token? s).map fun found => (found.1, found.2 ++ c :: r) := by
  cases found : token? s with
  | some p =>
    obtain ⟨token, rfl⟩ := token?_eq_some_iff.1 found
    exact token?_eq_some_iff.2 ⟨token, List.append_assoc ..⟩
  | none =>
    refine token?_eq_none_iff.2 fun t token place => ?_
    have none := token?_eq_none_iff.1 found t token
    obtain ⟨after, same⟩ := place
    -- A token that reaches beyond the blank would have the blank in it.
    rcases List.append_eq_append_iff.1 same with ⟨more, rfl, -⟩ | ⟨more, rfl, below⟩
    · exact none (List.prefix_append ..)
    · cases more with
      | nil => exact none (by simp)
      | cons d ds =>
        obtain ⟨rfl, -⟩ := List.cons.inj below
        have unblank := token.no_blank c (by simp)
        rw [blank] at unblank
        cases unblank

theorem tokens_append_blank {b : Char} (blank : Text.isBlank b = true) (s r : List Char) :
    tokens (s ++ b :: r) = tokens s ++ tokens r := by
  induction s using tokens.induct with
  | case1 =>
    have whole := token?_append_blank blank [] r
    rw [List.nil_append, tokens_of_none whole]
    simp [tokens]
  | case2 c cs t after found _ ih =>
    have whole := token?_append_blank blank (c :: cs) r
    rw [found] at whole
    rw [tokens_of_token whole, ih, tokens_of_token found, List.cons_append]
  | case3 c cs found ih =>
    have whole := token?_append_blank blank (c :: cs) r
    rw [found, List.cons_append] at whole
    rw [List.cons_append, tokens_of_none whole, ih, tokens_of_none found]

theorem tokens_lines (text : List Char) :
    (Text.splitOn '\n' text).flatMap tokens = tokens text := by
  have joined (pieces : List (List Char)) :
      tokens (Text.joinWith '\n' pieces) = pieces.flatMap tokens := by
    induction pieces with
    | nil => simp [Text.joinWith, tokens]
    | cons p ps ih =>
      cases ps with
      | nil => simp [Text.joinWith]
      | cons q qs =>
        rw [Text.joinWith_cons_cons, tokens_append_blank rfl, ih, ← List.flatMap_cons]
  rw [← joined, Text.joinWith_splitOn]

theorem mem_find {text token : String} : token ∈ find text ↔ token.toList ∈ tokens text.toList := by
  rw [find, List.mem_eraseDups, List.mem_map]
  constructor
  · rintro ⟨t, place, rfl⟩
    simpa using place
  · intro place
    exact ⟨_, place, String.ofList_toList⟩

theorem isToken_of_mem_tokens {s t : List Char} (h : t ∈ tokens s) : IsToken t := by
  induction s using tokens.induct with
  | case1 => simp [tokens] at h
  | case2 c cs t' after found _ ih =>
    rw [tokens_of_token found, List.mem_cons] at h
    rcases h with rfl | later
    · exact (token?_eq_some_iff.1 found).1
    · exact ih later
  | case3 c cs found ih =>
    rw [tokens_of_none found] at h
    exact ih h

section

variable {source : RoutineSource} {table : ReplaceTable} {placeholders : List (String × String)}

/-- A source is resolved if all its tokens have values; the values are shown as text. -/
theorem resolve_eq_ok_iff : resolve source table = .ok placeholders ↔
    (∀ t ∈ find source.text, ∃ v, value? table t = some v) ∧
      placeholders = (sortTexts (find source.text)).map fun t =>
        (t, ((value? table t).getD .null).display) := by
  have complete : ((find source.text).filter fun t => (value? table t).isNone).isEmpty = true ↔
      ∀ t ∈ find source.text, ∃ v, value? table t = some v := by
    rw [List.isEmpty_iff, List.filter_eq_nil_iff]
    refine forall₂_congr fun t _ => ?_
    cases value? table t <;> simp
  unfold resolve
  simp only
  split
  · rename_i none
    rw [Except.ok.injEq, eq_comm, and_iff_right (complete.1 none)]
  · rename_i some
    simp [mt complete.2 some]

theorem sortTexts_perm (texts : List String) : (sortTexts texts).Perm texts :=
  List.mergeSort_perm _ _

theorem value_of_mem_find (resolved : resolve source table = .ok placeholders) {t : String}
    (found : t ∈ find source.text) : ∃ v, value? table t = some v :=
  (resolve_eq_ok_iff.1 resolved).1 t found

theorem mem_placeholders (resolved : resolve source table = .ok placeholders)
    {e : String × String} : e ∈ placeholders ↔
      e.1 ∈ find source.text ∧ ∃ v, value? table e.1 = some v ∧ e.2 = v.display := by
  obtain ⟨valued, rfl⟩ := resolve_eq_ok_iff.1 resolved
  rw [List.mem_map]
  constructor
  · rintro ⟨t, place, rfl⟩
    have found := (sortTexts_perm _).mem_iff.1 place
    obtain ⟨v, value⟩ := valued t found
    exact ⟨found, v, value, by simp [value]⟩
  · rintro ⟨found, v, value, same⟩
    exact ⟨e.1, (sortTexts_perm _).mem_iff.2 found, Prod.ext rfl (by simp [value, same])⟩

end

end StoredRoutines.Placeholder

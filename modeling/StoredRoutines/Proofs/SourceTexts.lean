import Mathlib.Data.List.Basic
import StoredRoutines.Proofs.Outcomes
import StoredRoutines.Routine.Annotations
import StoredRoutines.Routine.Files

/-!
Texts that are read back from files. The bytes of a text are decoded to the text again, and a source
without carriage returns keeps its text. What a source says can then be read off the characters and
the lines of its text.
-/

namespace StoredRoutines

namespace Text

theorem unifyLineEnds_of_no_return {s : List Char} (none : '\r' ∉ s) : unifyLineEnds s = s := by
  induction s with
  | nil => rfl
  | cons c s ih =>
    obtain ⟨here, later⟩ := not_or.1 (List.mem_cons.not.1 none)
    rw [unifyLineEnds, if_neg (Ne.symm here), ih later]
    rintro t rfl
    exact absurd rfl here

theorem toList_loop (bytes : ByteArray) (i : Nat) (read : List UInt8) :
    ByteArray.toList.loop bytes i read = read.reverse ++ bytes.data.toList.drop i := by
  fun_induction ByteArray.toList.loop bytes i read with
  | case1 i read inside ih =>
    have here : i < bytes.data.toList.length := inside
    have same : bytes.get! i = bytes.data.toList[i] := getElem!_pos bytes.data i inside
    rw [ih, List.drop_eq_getElem_cons here, List.reverse_cons, List.append_assoc, same]
    rfl
  | case2 i read outside =>
    rw [List.drop_eq_nil_of_le (Nat.le_of_not_lt outside), List.append_nil]

theorem toList_toUTF8 (s : String) : s.toUTF8.toList = s.toList.flatMap String.utf8EncodeChar := by
  have encoded : s.toUTF8 = s.toList.utf8Encode :=
    (congrArg String.toByteArray String.ofList_toList).symm.trans String.toByteArray_ofList
  rw [encoded, ByteArray.toList, toList_loop, List.reverse_nil, List.nil_append, List.drop_zero,
    List.utf8Encode, List.toList_data_toByteArray]

theorem decode_toUTF8 (s : String) : decode s.toUTF8 = .ok s := by
  have valid : String.fromUTF8? s.toUTF8 = some s := by
    have bytes : s.toUTF8.IsValidUTF8 := s.isValidUTF8
    rw [String.fromUTF8?, dif_pos bytes]
    rfl
  rw [decode, valid]

theorem decodeMarked_toUTF8 {s : String} {c : Char} {cs : List Char} (starts : s.toList = c :: cs)
    (ascii : c.toNat < 128) : decodeMarked s.toUTF8 = .ok s := by
  have first : String.utf8EncodeChar c = [UInt8.ofNat c.toNat] := if_pos (Nat.le_of_lt_succ ascii)
  have bytes : s.toUTF8.toList = UInt8.ofNat c.toNat :: cs.flatMap String.utf8EncodeChar := by
    rw [toList_toUTF8, starts, List.flatMap_cons, first, List.singleton_append]
  have other : UInt8.ofNat c.toNat ≠ 0xEF := by
    intro same
    have marked := congrArg UInt8.toNat same
    rw [UInt8.toNat_ofNat', Nat.mod_eq_of_lt (Nat.lt_trans ascii (by decide))] at marked
    exact absurd (marked ▸ ascii) (by decide)
  rw [decodeMarked, bytes, byteOrderMark, List.isPrefixOf, List.isPrefixOf,
    beq_eq_false_iff_ne.2 other, beq_eq_false_iff_ne.2 other.symm]
  exact decode_toUTF8 s

end Text

namespace RoutineSource

/-- A file with a text that starts with an ASCII character and has no carriage return is a source
with this text. -/
theorem load_of_read {fs : FileSystem} {p : Path} {f : File} {s : String} {c : Char}
    {cs : List Char} (read : fs.read p = .ok f) (content : f.content = s.toUTF8)
    (spelled : s = String.ofList (c :: cs)) (ascii : c.toNat < 128) (none : '\r' ∉ c :: cs)
    (extension : String) :
    load fs p extension = .ok ⟨p, extension, s, Number.wholeSeconds f.modified⟩ := by
  have starts : s.toList = c :: cs := by rw [spelled, String.toList_ofList]
  have unified : Text.withUnifiedLineEnds s = s := by
    rw [Text.withUnifiedLineEnds, starts, Text.unifyLineEnds_of_no_return none, spelled]
  simp only [load, read, content, Text.decodeMarked_toUTF8 starts ascii, unified]

variable {s : RoutineSource} {cs : List Char} {ls : List String}

theorem lines_of_spelled (spelled : s.text = String.ofList cs)
    (split : (Text.splitOn '\n' cs).map String.ofList = ls) : s.lines = ls := by
  rw [lines, Text.lines, spelled, String.toList_ofList, split]

theorem header_of_spelled (spelled : s.text = String.ofList cs) {h : Header}
    (found : (Header.search? cs).map (fun r => (Text.lower (String.ofList r.2.1),
      String.ofList r.2.2)) = some (h.routineType, h.name)) (named : h.name = s.name) :
    Header.ofSource s = .ok h := by
  cases h
  obtain ⟨⟨before, type, name⟩, here, same⟩ := Option.map_eq_some_iff.1 found
  cases same
  refine Outcomes.mapError_eq_ok.2 ?_
  rw [Header.ofText, spelled, String.toList_ofList, here]
  exact if_pos named

theorem designation_of_lines (lines : s.lines = ls) {d : Designation} {line : Nat}
    (read : Designation.ofLines ls (ls.findIdx? isBegin) = .ok (d, line)) :
    Designation.ofSource s = .ok (d, line) := by
  refine Outcomes.mapError_eq_ok.2 ?_
  rw [beginLine?, lines, read]

theorem find_of_spelled (spelled : s.text = String.ofList cs) {tokens : List String}
    (found : ((Placeholder.tokens cs).map String.ofList).eraseDups = tokens) :
    Placeholder.find s.text = tokens := by
  rw [Placeholder.find, spelled, String.toList_ofList, found]

end RoutineSource

end StoredRoutines

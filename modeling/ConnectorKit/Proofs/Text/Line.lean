import ConnectorKit.Proofs.Text.Bytes
import ConnectorKit.Proofs.Text.Search
import ConnectorKit.Text.Line
import Mathlib.Data.List.TakeWhile

/-!
The rows of a text. A text is its rows put together, and rows that hold line feeds themselves are cut
further when they are put together and taken apart again. The first line is told by a relation of its
own, without the search for its end.
-/

set_option autoImplicit false
set_option relaxedAutoImplicit false

namespace ConnectorKit.Text.Line

variable {text row front : String} {texts : List String}

private theorem toList_rows (text : String) :
    (rows text).map String.toList = text.toList.splitOn '\n' := by
  simp [rows, Search.split_eq, Function.comp_def]

@[simp]
theorem rows_ne_nil (text : String) : rows text ≠ [] := by
  simp [rows, Search.split_eq]

theorem not_mem_of_mem_rows (mem : row ∈ rows text) : '\n' ∉ row.toList :=
  Search.not_mem_of_mem_split mem

theorem rows_of_not_mem (plain : '\n' ∉ text.toList) : rows text = [text] :=
  Search.split_of_not_mem plain

/-- Rows put together are taken apart again, each one further where it holds line feeds. -/
theorem rows_ofRows (nonempty : texts ≠ []) : rows (ofRows texts) = texts.flatMap rows := by
  have mark : ("\n" : String).toList = ['\n'] := rfl
  have cut (t : String) : rows t = (t.toList.splitOn '\n').map String.ofList := Search.split_eq t
  rw [cut, ofRows, String.toList_intercalate, mark,
    Search.splitOn_intercalate (by simpa using nonempty), List.flatMap_map, List.map_flatMap]
  exact List.flatMap_congr fun t _ => (cut t).symm

theorem flatMap_rows_of_not_mem (plain : ∀ t ∈ texts, '\n' ∉ t.toList) :
    texts.flatMap rows = texts := by
  rw [List.flatMap_congr fun t mem => rows_of_not_mem (plain t mem)]
  exact List.flatMap_singleton' texts

theorem flatMap_rows (inside : ∀ t ∈ texts, t ∈ rows text) : texts.flatMap rows = texts :=
  flatMap_rows_of_not_mem fun t mem => not_mem_of_mem_rows (inside t mem)

@[simp]
theorem ofRows_rows (text : String) : ofRows (rows text) = text :=
  Search.intercalate_split '\n' text

theorem ofRows_cons (row : String) (nonempty : texts ≠ []) :
    ofRows (row :: texts) = row ++ "\n" ++ ofRows texts :=
  String.intercalate_cons_of_ne_nil nonempty

theorem ofRows_append {texts' : List String} (nonempty : texts ≠ []) (nonempty' : texts' ≠ []) :
    ofRows (texts ++ [""]) ++ ofRows texts' = ofRows (texts ++ texts') := by
  unfold ofRows
  rw [String.intercalate_append_of_ne_nil nonempty (by simp),
    String.intercalate_append_of_ne_nil nonempty nonempty']
  simp

theorem rows_append (plain : '\n' ∉ front.toList) (text : String) :
    ∃ first more, rows text = first :: more ∧ rows (front ++ text) = (front ++ first) :: more := by
  obtain ⟨first, more, cut⟩ := List.exists_cons_of_ne_nil (rows_ne_nil text)
  refine ⟨first, more, cut, ?_⟩
  have own : ∀ t ∈ more, t ∈ rows text := fun t mem => cut ▸ List.mem_cons_of_mem _ mem
  have whole : front ++ text = ofRows ((front ++ first) :: more) := by
    rw [← ofRows_rows text, cut]
    cases more with
    | nil => rfl
    | cons next more => simp [ofRows, String.append_assoc]
  have one : '\n' ∉ (front ++ first).toList := by
    have inner : first ∈ rows text := cut ▸ List.mem_cons_self
    simp [plain, not_mem_of_mem_rows inner]
  rw [whole, rows_ofRows (by simp), List.flatMap_cons, rows_of_not_mem one, flatMap_rows own]
  rfl

theorem lines_toUTF8 (text : String) : Bytes.lines text.toUTF8 =
    (rows text).map fun row => row.toList.flatMap String.utf8EncodeChar := by
  rw [Bytes.lines_toUTF8, ← toList_rows, List.map_map]
  rfl

section First

variable {text line rest : List Char}

/-- The first line of a text, without its end: what stands before the first line feed, less one
carriage return directly before that; the whole text where there is no line feed. -/
inductive IsFirst : List Char → List Char → Prop
  | whole {text : List Char} : '\n' ∉ text → IsFirst text text
  | closed {line rest : List Char} : '\n' ∉ line → line.getLast? ≠ some '\r' →
      IsFirst (line ++ '\n' :: rest) line
  | returned {line rest : List Char} : '\n' ∉ line → IsFirst (line ++ '\r' :: '\n' :: rest) line

private theorem firstChars_of_not_mem (plain : '\n' ∉ text) : firstChars text = text := by
  have all : text.dropWhile (· ≠ '\n') = [] := by
    refine List.dropWhile_eq_nil_iff.2 fun c mem => ?_
    exact decide_eq_true fun same => plain (same ▸ mem)
  rw [firstChars, all]

private theorem firstChars_append (plain : '\n' ∉ line) (rest : List Char) :
    firstChars (line ++ '\n' :: rest) = dropReturn line := by
  have inner : ∀ c ∈ line, decide (c ≠ '\n') = true := by
    intro c mem
    exact decide_eq_true fun same => plain (same ▸ mem)
  have before : (line ++ '\n' :: rest).takeWhile (· ≠ '\n') = line := by
    rw [List.takeWhile_append_of_pos inner, List.takeWhile_cons_of_neg (by simp), List.append_nil]
  have behind : (line ++ '\n' :: rest).dropWhile (· ≠ '\n') = '\n' :: rest := by
    rw [List.dropWhile_append_of_pos inner, List.dropWhile_cons_of_neg (by simp)]
  rw [firstChars, behind, before]

theorem firstChars_eq_iff : firstChars text = line ↔ IsFirst text line := by
  constructor
  · rintro rfl
    by_cases feed : '\n' ∈ text
    · obtain ⟨front, rest, rfl, plain⟩ := List.eq_append_cons_of_mem feed
      rw [firstChars_append plain, dropReturn]
      split
      · rename_i last
        obtain ⟨line, rfl⟩ := List.getLast?_eq_some_iff.1 last
        rw [List.dropLast_concat, List.append_assoc]
        exact .returned fun mem => plain (List.mem_append_left _ mem)
      · rename_i other
        exact .closed plain other
    · rw [firstChars_of_not_mem feed]
      exact .whole feed
  · intro first
    cases first with
    | whole plain => exact firstChars_of_not_mem plain
    | closed plain other => rw [firstChars_append plain, dropReturn, if_neg other]
    | @returned _ rest plain =>
      have cut : line ++ '\r' :: '\n' :: rest = (line ++ ['\r']) ++ '\n' :: rest := by simp
      rw [cut, firstChars_append (by simp [plain]), dropReturn, if_pos (by simp), List.dropLast_concat]

theorem first_append (front rest : String) : first (front ++ "\n" ++ rest) = first (front ++ "\n") := by
  have same (rest : List Char) : firstChars (front.toList ++ '\n' :: rest) =
      firstChars (front.toList ++ ['\n']) := by
    by_cases feed : '\n' ∈ front.toList
    · obtain ⟨line, more, cut, plain⟩ := List.eq_append_cons_of_mem feed
      rw [cut, List.append_assoc, List.append_assoc, List.cons_append, List.cons_append,
        firstChars_append plain, firstChars_append plain]
    · rw [firstChars_append feed, firstChars_append feed]
  have mark : ("\n" : String).toList = ['\n'] := rfl
  rw [first, first, String.toList_append, String.toList_append, mark, List.append_assoc]
  exact congrArg String.ofList (same rest.toList)

end First

end ConnectorKit.Text.Line

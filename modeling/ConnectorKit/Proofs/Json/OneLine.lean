import ConnectorKit.Json.Writer

/-!
The compact text of a value stands on one line: a line feed is escaped in every string, and no
number is written with one.
-/

set_option autoImplicit false
set_option relaxedAutoImplicit false

namespace ConnectorKit

private theorem digits_oneLine (n : Nat) : '\n' ∉ Nat.toDigits 10 n := by
  intro mem
  have digit := Nat.isDigit_of_mem_toDigits (by decide) (by decide) mem
  revert digit
  decide

namespace Decimal.Shortest

private theorem parts_oneLine (n : Numeral) : '\n' ∉ (parts n).1 := by
  unfold parts
  dsimp only
  split
  · decide
  · intro mem
    have kept := (List.dropWhile_sublist _).mem (List.mem_reverse.1 mem)
    exact digits_oneLine _ (List.mem_reverse.1 kept)

private theorem positional_oneLine {digits : List Char} (plain : '\n' ∉ digits) (point : Int) :
    '\n' ∉ positional digits point := by
  have taken (k : Nat) : '\n' ∉ digits.take k := fun mem => plain (List.mem_of_mem_take mem)
  have dropped (k : Nat) : '\n' ∉ digits.drop k := fun mem => plain (List.mem_of_mem_drop mem)
  unfold positional
  split
  · simp [plain]
  · split
    · simp [plain]
    · simp [taken, dropped]

private theorem scientific_oneLine {digits : List Char} (plain : '\n' ∉ digits) (point : Int) :
    '\n' ∉ scientific digits point := by
  have taken : '\n' ∉ digits.take 1 := fun mem => plain (List.mem_of_mem_take mem)
  have dropped : '\n' ∉ digits.drop 1 := fun mem => plain (List.mem_of_mem_drop mem)
  have sign : '\n' ≠ if point - 1 < 0 then '-' else '+' := by split <;> decide
  have exponent := digits_oneLine (point - 1).natAbs
  unfold scientific
  dsimp only
  generalize digits.drop 1 = more at dropped ⊢
  generalize (if point - 1 < 0 then '-' else '+') = mark at sign ⊢
  cases more with
  | nil => simp [taken, sign, exponent]
  | cons d more => simp_all

theorem text_oneLine (x : Binary64) : '\n' ∉ text x := by
  have plain := parts_oneLine (numeral x.magnitude)
  have body : '\n' ∉ if -5 < (parts (numeral x.magnitude)).2 ∧ (parts (numeral x.magnitude)).2 ≤ 16
      then positional (parts (numeral x.magnitude)).1 (parts (numeral x.magnitude)).2
      else scientific (parts (numeral x.magnitude)).1 (parts (numeral x.magnitude)).2 := by
    split
    · exact positional_oneLine plain _
    · exact scientific_oneLine plain _
  unfold text signed
  dsimp only
  split
  · simpa using body
  · exact body

end Decimal.Shortest

namespace Json.Writer

private theorem hexDigit_ne {n : Nat} (bound : n < 16) : '\n' ≠ hexDigit n := by
  revert n
  decide

theorem escape_oneLine (c : Char) : '\n' ∉ escape c := by
  by_cases feed : c = '\n'
  · subst feed
    decide
  unfold escape
  repeat' split
  any_goals decide
  · rename_i control
    have high : '\n' ≠ hexDigit (c.toNat / 16) := hexDigit_ne (by omega)
    have low : '\n' ≠ hexDigit (c.toNat % 16) := hexDigit_ne (by omega)
    simp [high, low]
  · simpa using Ne.symm feed

theorem quote_oneLine (text : String) : '\n' ∉ quote text := by
  unfold quote
  simp [escape_oneLine]

theorem number_oneLine (n : Number) : '\n' ∉ number n := by
  cases n with
  | whole n =>
    cases n with
    | ofNat n => simpa [number, Int.toString_eq_repr, Int.repr] using digits_oneLine n
    | negSucc n => simpa [number, Int.toString_eq_repr, Int.repr] using digits_oneLine (n + 1)
  | real x => exact Decimal.Shortest.text_oneLine x

mutual

theorem compactChars_oneLine : (v : Value) → '\n' ∉ compactChars v
  | .null => by decide
  | .bool true => by decide
  | .bool false => by decide
  | .number n => number_oneLine n
  | .string s => quote_oneLine s
  | .array items => by simp [compactChars, compactItems_oneLine items]
  | .object members => by simp [compactChars, compactMembers_oneLine members]

theorem compactItems_oneLine : (items : List Value) → '\n' ∉ compactItems items
  | [] => by simp [compactItems]
  | [v] => by simpa [compactItems] using compactChars_oneLine v
  | v :: u :: rest => by
    simp [compactItems, compactChars_oneLine v, compactItems_oneLine (u :: rest)]

theorem compactMembers_oneLine : (members : List (String × Value)) → '\n' ∉ compactMembers members
  | [] => by simp [compactMembers]
  | [(k, v)] => by simp [compactMembers, quote_oneLine k, compactChars_oneLine v]
  | (k, v) :: next :: rest => by
    simp [compactMembers, quote_oneLine k, compactChars_oneLine v,
      compactMembers_oneLine (next :: rest)]

end

theorem compact_oneLine (v : Value) : '\n' ∉ (compact v).toList := by
  rw [compact, String.toList_ofList]
  exact compactChars_oneLine v

end Json.Writer

end ConnectorKit

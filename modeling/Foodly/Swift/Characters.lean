import Mathlib.Data.List.Basic
import Mathlib.Data.Int.Basic

namespace Swift

/-!
# Swift's characters

A text is counted, cut and edited by characters, the extended grapheme clusters of Unicode, while
`NSRange` counts UTF-16 code units.  A text field is told about an edit in code units, checks the
length of the result in characters, and an amount is cut by one character, so both countings meet
in the same handlers.

The tables that break a text into characters are a parameter, `CharacterBreaking`, with the one
fact about them that the screens rely on: printable ASCII stands alone, and so does the
apostrophe of print.

* `CharacterBreaking.count`, `CharacterBreaking.suffix` — `text.count` and `text.suffix(_:)`, which
  traps on a negative length;
* `suffix_tail` — what is left of a text without its first character;
* `utf16Count`, `characterIndex` — offsets in code units, and the characters that begin there;
* `stringRange`, `replacingCharacters` — the range of an edit in a text, which is `nil` when it
  would cut a character in two, and the text after the edit;
* `scalarBreaking` — one character for each scalar, the breaking that ASCII texts have.
-/

/-- Printable ASCII and `’`: nothing joins them with what stands next to them. -/
def isStandalone (c : Char) : Bool := (0x20 ≤ c.toNat && c.toNat ≤ 0x7E) || c == '’'

/-- How Unicode breaks a text into characters. -/
structure CharacterBreaking where
  characters : String → List String
  join_characters : ∀ text, String.join (characters text) = text
  characters_of_standalone : ∀ text : String, (∀ c ∈ text.toList, isStandalone c = true) →
    characters text = text.toList.map String.singleton

namespace CharacterBreaking

variable (B : CharacterBreaking)

/-- `text.count`. -/
def count (text : String) : ℕ := (B.characters text).length

/-- `text.suffix(maxLength)`, which traps when the length is negative. -/
def suffix (text : String) (maxLength : ℤ) : Option String :=
  if maxLength < 0 then none
  else some (String.join ((B.characters text).drop (B.count text - maxLength.toNat)))

/-- A text of characters that stand alone has as many as scalars. -/
theorem count_of_standalone {text : String} (h : ∀ c ∈ text.toList, isStandalone c = true) :
    B.count text = text.length := by
  rw [count, B.characters_of_standalone text h, List.length_map, String.length_toList]

@[simp] theorem characters_empty : B.characters "" = [] := B.characters_of_standalone "" nofun

/-- All but one of the characters can be taken of every text but the empty one. -/
theorem exists_suffix {text : String} (h : text ≠ "") :
    ∃ rest, B.suffix text ((B.count text : ℤ) - 1) = some rest := by
  have hcount : B.count text ≠ 0 := by
    intro hzero
    have hnil : B.characters text = [] := List.length_eq_zero_iff.mp hzero
    have hjoin := B.join_characters text
    rw [hnil, String.join_nil] at hjoin
    exact h hjoin.symm
  rw [suffix, if_neg (by omega)]
  exact ⟨_, rfl⟩

/-- Without its first character, a text that begins with one that stands alone is the rest. -/
theorem suffix_tail {c : Char} {cs : List Char}
    (h : ∀ x ∈ c :: cs, isStandalone x = true) :
    B.suffix (String.ofList (c :: cs)) ((B.count (String.ofList (c :: cs)) : ℤ) - 1)
      = some (String.ofList cs) := by
  have hall : ∀ x ∈ (String.ofList (c :: cs)).toList, isStandalone x = true := by
    rwa [String.toList_ofList]
  have hcount : B.count (String.ofList (c :: cs)) = cs.length + 1 := by
    rw [B.count_of_standalone hall, String.length_ofList, List.length_cons]
  have hlength : ((cs.length + 1 : ℕ) : ℤ) - 1 = cs.length := by omega
  rw [suffix, hcount, hlength, if_neg (by omega), Int.toNat_natCast, Nat.add_sub_cancel_left,
    B.characters_of_standalone _ hall, String.toList_ofList, List.map_cons, List.drop_one,
    List.tail_cons]
  congr 1
  apply String.toList_injective
  rw [String.toList_join, String.toList_ofList, List.flatMap_map]
  simp

/-! ### Ranges and edits -/

/-- The number of UTF-16 code units of a text: one for each scalar, and one more for each that is
    encoded by a surrogate pair. -/
def utf16Count (text : String) : ℕ :=
  text.toList.length + text.toList.countP fun c => 0x10000 ≤ c.toNat

/-- The character that begins at an offset in UTF-16 code units, or the end. -/
def characterIndex (text : String) (offset : ℕ) : Option ℕ :=
  (List.range (B.count text + 1)).find? fun i =>
    utf16Count (String.join ((B.characters text).take i)) == offset

/-- `NSRange`. -/
structure NSRange where
  location : ℕ
  length : ℕ
  deriving DecidableEq, Repr

/-- `Range(range, in: text)`: `nil` when the range does not begin and end with a character. -/
def stringRange (text : String) (range : NSRange) : Option (ℕ × ℕ) := do
  let lowerBound ← B.characterIndex text range.location
  let upperBound ← B.characterIndex text (range.location + range.length)
  return (lowerBound, upperBound)

/-- `text.replacingCharacters(in: range, with: string)`. -/
def replacingCharacters (text : String) (range : ℕ × ℕ) (string : String) : String :=
  String.join ((B.characters text).take range.1) ++ string ++
    String.join ((B.characters text).drop range.2)

theorem stringRange_empty : B.stringRange "" ⟨0, 0⟩ = some (0, 0) := by
  have hindex : B.characterIndex "" 0 = some 0 := by
    rw [characterIndex, count, characters_empty]
    rfl
  rw [stringRange, Nat.add_zero, hindex]
  rfl

/-- What is put into the empty text is all of it. -/
theorem replacingCharacters_empty (string : String) :
    B.replacingCharacters "" (0, 0) string = string := by
  rw [replacingCharacters, characters_empty, List.take_nil, List.drop_nil, String.join_nil,
    String.empty_append, String.append_empty]

end CharacterBreaking

/-- One character for each scalar. -/
def scalarBreaking : CharacterBreaking where
  characters text := text.toList.map String.singleton
  join_characters text := by
    apply String.toList_injective
    rw [String.toList_join, List.flatMap_map]
    simp
  characters_of_standalone _ _ := rfl

end Swift

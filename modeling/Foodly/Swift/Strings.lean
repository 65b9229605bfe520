import Mathlib

namespace Swift

/-!
# Swift's string functions

The functions on texts that the screens use: upper and lower case, splitting at a character,
trimming, comparing and searching.

A text is its list of Unicode scalars, but Swift does not compare texts scalar by scalar: `==`
is canonical equivalence, under which a letter with an accent and the same letter followed by the
accent are equal.  A screen that compares texts therefore takes their `==` as a parameter, an
instance `[BEq String]` of which only `EquivBEq` is assumed, as for the images.  Comparisons with
the empty text and with the texts of the app's own labels stay `=`: nothing else is equivalent to
the empty text, and the labels are all ASCII.

* `CaseMapping` — the Unicode tables of upper and lower case, with the facts about upper case that
  the screens rely on;
* `ComparedCase` — the tables together with what a comparison of texts in upper case relies on;
* `TextSearch` — the tables together with Foundation's search for a text in another one, which
  does not go scalar by scalar either;
* `components_uppercased` — a text may be split before or after it is put in upper case;
* `asciiCase`, `asciiCompared`, `asciiSearch` — the tables, the comparison and the search that
  the texts of ASCII have.
-/

/-! ### Splitting lists -/

section Splitting

variable {α β : Type*} [BEq α] [LawfulBEq α] [BEq β] [LawfulBEq β]

/-- Items other than the separator go in front of the first component. -/
theorem splitOn_append_of_not_mem {a : α} {xs : List α} (h : a ∉ xs) (ys : List α) :
    (xs ++ ys).splitOn a = (ys.splitOn a).modifyHead (xs ++ ·) := by
  induction xs with
  | nil =>
    obtain ⟨head, tail, heq⟩ := List.exists_cons_of_ne_nil (List.splitOn_ne_nil a ys)
    rw [List.nil_append, heq]
    rfl
  | cons x xs ih =>
    rw [List.mem_cons, not_or] at h
    have hx : ¬(x == a) = true := fun heq => h.1 (eq_of_beq heq).symm
    rw [List.cons_append, List.splitOn_cons_eq_if_modifyHead, if_neg hx, ih h.2,
      List.modifyHead_modifyHead]
    rfl

/-- A text may be split before or after its characters are replaced, when only the separator
    is replaced by something with a separator in it. -/
theorem splitOn_flatMap {f : α → List β} {a : α} {b : β} (hsep : f a = [b])
    (hother : ∀ x, b ∈ f x → x = a) (xs : List α) :
    (xs.flatMap f).splitOn b = (xs.splitOn a).map (List.flatMap f) := by
  induction xs with
  | nil => rfl
  | cons x xs ih =>
    rw [List.flatMap_cons, List.splitOn_cons_eq_if_modifyHead]
    by_cases hx : x = a
    · rw [hx, hsep, List.singleton_append, List.splitOn_cons_eq_if_modifyHead, if_pos (by simp),
        if_pos (by simp), ih, List.map_cons, List.flatMap_nil]
    · have hclean : b ∉ f x := fun hmem => hx (hother x hmem)
      obtain ⟨head, tail, heq⟩ := List.exists_cons_of_ne_nil (List.splitOn_ne_nil a xs)
      rw [splitOn_append_of_not_mem hclean, ih, if_neg (by simpa using hx), heq]
      simp

end Splitting

/-! ### Case -/

/-- The case tables of Unicode: what each character becomes in upper and in lower case. -/
structure CaseMapping where
  upper : Char → List Char
  lower : Char → List Char
  upper_ne_nil : ∀ c, upper c ≠ []
  upper_upper : ∀ c, (upper c).flatMap upper = upper c
  upper_space : upper ' ' = [' ']
  eq_space_of_mem_upper : ∀ c, ' ' ∈ upper c → c = ' '

/-- `uppercased()`. -/
def uppercased (M : CaseMapping) (text : String) : String :=
  String.ofList (text.toList.flatMap M.upper)

/-- `lowercased()`. -/
def lowercased (M : CaseMapping) (text : String) : String :=
  String.ofList (text.toList.flatMap M.lower)

variable (M : CaseMapping)

/-- Upper case is already upper case. -/
theorem uppercased_uppercased (text : String) :
    uppercased M (uppercased M text) = uppercased M text := by
  have hchars : (text.toList.flatMap M.upper).flatMap M.upper = text.toList.flatMap M.upper := by
    rw [List.flatMap_assoc]
    simp only [M.upper_upper]
  rw [uppercased, uppercased, String.toList_ofList, hchars]

/-- Only the empty text becomes empty. -/
theorem uppercased_eq_empty_iff (text : String) : uppercased M text = "" ↔ text = "" := by
  rw [uppercased, String.ofList_eq_empty_iff, List.flatMap_eq_nil_iff]
  simp only [M.upper_ne_nil, imp_false]
  rw [← List.eq_nil_iff_forall_not_mem, String.toList_eq_nil_iff]

/-! ### Components and trimming -/

/-- `components(separatedBy:)` for a separator of one character. -/
def components (text : String) (separator : Char) : List String :=
  (text.toList.splitOn separator).map String.ofList

/-- The character set `whitespaces`: the space separators of Unicode, and the tab. -/
def isWhitespace (c : Char) : Bool :=
  c == ' ' || c == '\t' || c.toNat == 0xA0 || c.toNat == 0x1680 ||
    (0x2000 ≤ c.toNat && c.toNat ≤ 0x200A) || c.toNat == 0x202F || c.toNat == 0x205F ||
    c.toNat == 0x3000

/-- `trimmingCharacters(in: .whitespaces)`. -/
def trimmingWhitespaces (text : String) : String :=
  String.ofList ((text.toList.dropWhile isWhitespace).rdropWhile isWhitespace)

/-- The components of a text in upper case are its components, in upper case. -/
theorem components_uppercased (text : String) :
    components (uppercased M text) ' ' = (components text ' ').map (uppercased M) := by
  rw [components, uppercased, String.toList_ofList,
    splitOn_flatMap M.upper_space M.eq_space_of_mem_upper, components, List.map_map, List.map_map]
  apply List.map_congr_left
  intro part _
  simp only [Function.comp_apply, uppercased, String.toList_ofList]

/-! ### Comparing and searching -/

/-- The case tables, with what they have to do with the equality of texts.

    Canonical equivalence is not in general kept by upper case: the Greek iota subscript becomes
    a letter of its own, and an accent may be written before it or after it.  A text that equals
    one in upper case has no such mark, and only for these is anything said here. -/
structure ComparedCase [BEq String] extends CaseMapping where
  eq_empty_of_beq : ∀ text : String, (text == "") = true → text = ""
  uppercased_beq : ∀ code input : String,
    (uppercased toCaseMapping code == input) = true →
      (uppercased toCaseMapping code == uppercased toCaseMapping input) = true

/-- The case tables, and `contains(_:)`: whether a text has another one in it. -/
structure TextSearch extends CaseMapping where
  contains : String → String → Bool

/-! ### ASCII -/

/-- Only a space becomes a space. -/
theorem eq_space_of_toUpper {c : Char} (h : c.toUpper = ' ') : c = ' ' := by
  have halpha : c.isAlpha = false := by
    rw [← Char.isUpper_toUpper_eq_isAlpha, h]
    rfl
  have hlower : ¬c.isLower = true := by
    intro hlower
    rw [Char.isAlpha, hlower, Bool.or_true] at halpha
    cases halpha
  rwa [Char.toUpper_eq_of_not_isLower hlower] at h

/-- The case of ASCII letters; other characters are left alone. -/
def asciiCase : CaseMapping where
  upper c := [c.toUpper]
  lower c := [c.toLower]
  upper_ne_nil _ := List.cons_ne_nil _ _
  upper_upper c := by rw [List.flatMap_singleton, Char.toUpper_toUpper_eq_toUpper]
  upper_space := rfl
  eq_space_of_mem_upper c h := eq_space_of_toUpper (List.mem_singleton.mp h).symm

/-- Texts of ASCII are compared scalar by scalar. -/
def asciiCompared : ComparedCase where
  toCaseMapping := asciiCase
  eq_empty_of_beq _ h := eq_of_beq h
  uppercased_beq code input h := by
    rw [beq_iff_eq] at h ⊢
    rw [← h, uppercased_uppercased]

/-- Texts of ASCII are searched scalar by scalar. -/
def asciiSearch : TextSearch where
  toCaseMapping := asciiCase
  contains text part := decide (part.toList <:+: text.toList)

-- A space at the end is trimmed from an input, but is a component of its own in a list.
example :
    trimmingWhitespaces " Foodly " = "Foodly" ∧ components "A B " ' ' = ["A", "B", ""] := by
  decide +kernel

end Swift

import Mathlib.Data.List.DropRight
import Mathlib.Data.List.Infix

/-! The string functions of Go's `strings` package that the code relies on. -/

namespace Tokengine.Text
open List

/-- `unicode.IsSpace`. -/
def isSpace (c : Char) : Bool :=
  let code := c.toNat
  (9 ≤ code && code ≤ 13) || code == 0x20 || code == 0x85 || code == 0xA0 || code == 0x1680 ||
    (0x2000 ≤ code && code ≤ 0x200A) || code == 0x2028 || code == 0x2029 || code == 0x202F ||
    code == 0x205F || code == 0x3000

/-- `strings.TrimSpace`. -/
def trimSpace (text : String) : String :=
  String.ofList (((text.toList.dropWhile isSpace).reverse.dropWhile isSpace).reverse)

theorem dropWhile_trimmed (space : Char → Bool) (chars : List Char) :
    ((chars.dropWhile space).reverse.dropWhile space).reverse.dropWhile space =
      ((chars.dropWhile space).reverse.dropWhile space).reverse := by
  rw [dropWhile_eq_self_iff]
  intro nonempty
  -- the trimmed text is an initial part of the text without its leading blanks
  have initial : ((chars.dropWhile space).reverse.dropWhile space).reverse <+: chars.dropWhile space := by
    have suffix := (dropWhile_suffix space : (chars.dropWhile space).reverse.dropWhile space <:+ _)
    rw [← reverse_prefix, reverse_reverse] at suffix
    exact suffix
  have longer := Nat.lt_of_lt_of_le nonempty initial.length_le
  rw [initial.getElem nonempty]
  have bare := (dropWhile_idempotent (p := space)) chars
  exact dropWhile_eq_self_iff.mp bare longer

theorem trimSpace_trimSpace (text : String) : trimSpace (trimSpace text) = trimSpace text := by
  simp only [trimSpace, String.toList_ofList, dropWhile_trimmed, reverse_reverse, dropWhile_idempotent]

/-- `strings.Split` on one character. -/
def split (text : String) (separator : Char) : List String :=
  (text.toList.splitOn separator).map String.ofList

/-- `strings.Contains`. -/
def contains (text part : String) : Bool :=
  text.toList.tails.any fun tail => part.toList.isPrefixOf tail

theorem contains_of_append {text : String} (first second : String) (found : contains text (first ++ second) = true) :
    contains text first = true := by
  simp only [contains, any_eq_true, isPrefixOf_iff_prefix, String.toList_append] at found ⊢
  obtain ⟨tail, mem, initial⟩ := found
  exact ⟨tail, mem, (prefix_append first.toList second.toList).trans initial⟩

/-- `unicode.ToLower` where the result is an ASCII letter: besides the capital letters these are the dotted I and
the sign of the unit Kelvin. Other letters are left as they are. -/
def lowerChar (c : Char) : Char :=
  if c.toNat = 0x130 then 'i' else if c.toNat = 0x212A then 'k' else c.toLower

/-- `strings.ToLower`, as far as a comparison with an ASCII word can tell. -/
def toLower (text : String) : String := String.ofList (text.toList.map lowerChar)

/-- `strings.HasPrefix`. -/
def hasPrefix (text start : String) : Bool := start.toList.isPrefixOf text.toList

/-- `strings.HasSuffix`. -/
def hasSuffix (text ending : String) : Bool := ending.toList.isSuffixOf text.toList

/-- `strings.TrimPrefix`. -/
def trimPrefix (text start : String) : String :=
  if hasPrefix text start then String.ofList (text.toList.drop start.length) else text

/-- What follows the first occurrence of a part, as `strings.Index` finds it. -/
def after (text part : String) : Option String :=
  (text.toList.tails.find? fun tail => part.toList.isPrefixOf tail).map fun tail =>
    String.ofList (tail.drop part.length)

/-- `strings.Trim` for one character. -/
def trimChar (text : String) (c : Char) : String :=
  String.ofList (((text.toList.dropWhile (· == c)).reverse.dropWhile (· == c)).reverse)

end Tokengine.Text

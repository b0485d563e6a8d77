import Mathlib.Data.NNRat.Floor

/-! The estimate of a text's tokens. A run of letters or of digits counts once, and every other character for itself. -/

namespace Tokengine.Service.TokenEstimator

inductive Provider where
  | openAI | gemini | claude | unknown

structure Multipliers where
  (word number cjk symbol mathSymbol urlDelim atSign emoji newline space : ℚ≥0)
  basePad : Nat

def getMultipliers : Provider → Multipliers
  | .gemini => ⟨1.15, 2.8, 0.68, 0.38, 1.05, 1.2, 2.5, 1.08, 1.15, 0.2, 0⟩
  | .claude => ⟨1.13, 1.63, 1.21, 0.4, 4.52, 1.26, 2.82, 2.6, 0.89, 0.39, 0⟩
  | .openAI | .unknown => ⟨1.02, 1.55, 0.85, 0.4, 2.68, 1.0, 2.0, 2.12, 0.5, 0.42, 0⟩

/-- The tables of Go's `unicode` package. -/
structure Unicode where
  (isSpace isHan isLetter isNumber : Char → Bool)

inductive WordType where
  | none | latin | number
deriving DecidableEq

structure Scan where
  count : ℚ≥0
  currentWordType : WordType

def within (first last : Nat) (r : Char) : Bool := decide (first ≤ r.toNat ∧ r.toNat ≤ last)

def isEmoji (r : Char) : Bool :=
  within 0x1F300 0x1F9FF r || within 0x2600 0x26FF r || within 0x2700 0x27BF r || within 0x1F600 0x1F64F r ||
    within 0x1F900 0x1F9FF r || within 0x1FA00 0x1FAFF r

def isMathSymbol (r : Char) : Bool :=
  "∑∫∂√∞≤≥≠≈±×÷∈∉∋∌⊂⊃⊆⊇∪∩∧∨¬∀∃∄∅∆∇∝∟∠∡∢°′″‴⁺⁻⁼⁽⁾ⁿ₀₁₂₃₄₅₆₇₈₉₊₋₌₍₎²³¹⁴⁵⁶⁷⁸⁹⁰".toList.contains r ||
    within 0x2200 0x22FF r || within 0x2A00 0x2AFF r || within 0x1D400 0x1D7FF r

def isURLDelim (r : Char) : Bool := "/:?&=;#%".toList.contains r

variable (unicode : Unicode) (m : Multipliers)

def isCJK (r : Char) : Bool := unicode.isHan r || within 0x3040 0x30FF r || within 0xAC00 0xD7A3 r

def isLatinOrNumber (r : Char) : Bool := unicode.isLetter r || unicode.isNumber r

def Scan.single (state : Scan) (weight : ℚ≥0) : Scan := ⟨state.count + weight, .none⟩

def Scan.enter (state : Scan) (newType : WordType) : Scan :=
  if state.currentWordType = .none ∨ state.currentWordType ≠ newType then
    ⟨state.count + if newType = .number then m.number else m.word, newType⟩
  else state

def scan (state : Scan) (r : Char) : Scan :=
  if unicode.isSpace r then state.single (if r = '\n' ∨ r = '\t' then m.newline else m.space)
  else if isCJK unicode r then state.single m.cjk
  else if isEmoji r then state.single m.emoji
  else if isLatinOrNumber unicode r then state.enter m (if unicode.isNumber r then .number else .latin)
  else if isMathSymbol r then state.single m.mathSymbol
  else if r = '@' then state.single m.atSign
  else if isURLDelim r then state.single m.urlDelim
  else state.single m.symbol

def weight (text : List Char) : ℚ≥0 := (text.foldl (scan unicode m) ⟨0, .none⟩).count

def estimateToken (provider : Provider) (text : String) : Nat :=
  ⌈weight unicode (getMultipliers provider) text.toList⌉₊ + (getMultipliers provider).basePad

variable {unicode m}

theorem scan_cases (r : Char) : (∃ weight, ∀ state, scan unicode m state r = state.single weight) ∨
    ∃ newType, ∀ state, scan unicode m state r = state.enter m newType := by
  unfold scan
  split_ifs <;> first | exact Or.inl ⟨_, fun _ => rfl⟩ | exact Or.inr ⟨_, fun _ => rfl⟩

variable (state : Scan)

theorem count_le_scan (r : Char) : state.count ≤ (scan unicode m state r).count := by
  rcases scan_cases r with ⟨weight, single⟩ | ⟨newType, enters⟩
  · rw [single]
    exact le_self_add
  · rw [enters, Scan.enter]
    split
    · exact le_self_add
    · exact le_rfl

theorem count_le_foldl (text : List Char) : state.count ≤ (text.foldl (scan unicode m) state).count := by
  induction text generalizing state with
  | nil => exact le_rfl
  | cons r rest tail => exact (count_le_scan state r).trans (tail _)

/-- A scan that goes on after other text may be in a word already where a fresh scan begins one. -/
structure Behind (before : ℚ≥0) (continued fresh : Scan) : Prop where
  count : continued.count ≤ before + fresh.count
  word : fresh.currentWordType = .none ∨ continued.currentWordType = fresh.currentWordType

variable {before : ℚ≥0} {continued fresh : Scan} (behind : Behind before continued fresh)
include behind

theorem Behind.scan (r : Char) : Behind before (scan unicode m continued r) (scan unicode m fresh r) := by
  have both : ∀ weight, continued.count + weight ≤ before + (fresh.count + weight) := by
    intro weight
    rw [← add_assoc]
    exact add_le_add_left behind.count weight
  rcases scan_cases r with ⟨weight, single⟩ | ⟨newType, enters⟩
  · rw [single, single]
    exact ⟨both weight, Or.inl rfl⟩
  · rw [enters, enters]
    rcases behind.word with none | same
    · rw [Scan.enter, Scan.enter, if_pos (Or.inl none)]
      split
      · exact ⟨both _, Or.inr rfl⟩
      next inside =>
        refine ⟨behind.count.trans (add_le_add_right le_self_add _), Or.inr ?_⟩
        simpa using (not_or.mp inside).2
    · rw [Scan.enter, Scan.enter, same]
      split
      · exact ⟨both _, Or.inr rfl⟩
      · exact behind

theorem Behind.foldl (text : List Char) :
    Behind before (text.foldl (TokenEstimator.scan unicode m) continued) (text.foldl (TokenEstimator.scan unicode m) fresh) := by
  induction text generalizing continued fresh with
  | nil => exact behind
  | cons r rest tail => exact tail (behind.scan r)

omit behind

theorem weight_append (s t : List Char) : weight unicode m s ≤ weight unicode m (s ++ t) ∧
    weight unicode m (s ++ t) ≤ weight unicode m s + weight unicode m t := by
  have apart : Behind (weight unicode m s) (s.foldl (scan unicode m) ⟨0, .none⟩) ⟨0, .none⟩ := ⟨le_self_add, Or.inl rfl⟩
  rw [weight, weight, List.foldl_append]
  exact ⟨count_le_foldl _ t, (apart.foldl t).count⟩

/-- A longer text costs no less, and a text no more than its pieces. -/
theorem estimate_of_append (unicode : Unicode) (provider : Provider) (s t : String) :
    estimateToken unicode provider s ≤ estimateToken unicode provider (s ++ t) ∧
      estimateToken unicode provider (s ++ t) ≤ estimateToken unicode provider s + estimateToken unicode provider t := by
  obtain ⟨grows, pieces⟩ := @weight_append unicode (getMultipliers provider) s.toList t.toList
  rw [← String.toList_append] at grows pieces
  have rounded := (Nat.ceil_mono pieces).trans (Nat.ceil_add_le ..)
  unfold estimateToken
  exact ⟨Nat.add_le_add_right (Nat.ceil_mono grows) _, by omega⟩

end Tokengine.Service.TokenEstimator

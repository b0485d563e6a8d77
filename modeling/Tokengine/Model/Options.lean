import Mathlib.Data.Rat.Defs

/-! Updates of the pricing options. The option is stored and the table emptied before the text is decoded. -/

namespace Tokengine.Model.Options
open Function

/-- The tables with prices; each is an option of its own name. -/
inductive Pricing where
  | modelRatio | modelPrice | completionRatio | groupRatio
deriving DecidableEq

/-- A JSON value where a number is expected. -/
inductive Value where
  | number (val : ℚ)
  | null
  | other

/-- What `encoding/json` makes of a text before it decodes it. -/
inductive Document where
  | malformed | null | other
  | object (members : List (String × Value))

abbrev Prices := String → Option ℚ

def Value.isOther : Value → Bool
  | .other => true
  | _ => false

def Value.decoded : Value → ℚ
  | .number val => val
  | _ => 0

/-- What is decoded into an empty map, and whether an error is reported. A value of another kind is reported and stored
as zero. -/
def unmarshal : Document → Prices × Bool
  | .malformed | .other => (fun _ => none, true)
  | .null => (fun _ => none, false)
  | .object members => (members.foldl (fun prices entry => update prices entry.1 (some entry.2.decoded)) fun _ => none,
      members.any fun entry => entry.2.isOther)

structure System where
  (options optionMap : Pricing → Option String)
  tables : Pricing → Prices

variable (parse : String → Document) (key : Pricing) (val : String) (system : System)

/-- With `LoadFromJsonString` of the table. -/
def updateOptionMap : Bool × System :=
  ((unmarshal (parse val)).2, { system with
    optionMap := update system.optionMap key (some val)
    tables := update system.tables key (unmarshal (parse val)).1 })

def updateOption : Bool × System :=
  updateOptionMap parse key val { system with options := update system.options key (some val) }

def Unchanged (after : System) : Prop := after.tables = system.tables ∧ after.options = system.options

/-- A rejected text changes nothing iff it is the stored option already and the table is what it was decoded to. -/
theorem rejected_unchanged_iff : ((updateOption parse key val system).1 = true →
      Unchanged system (updateOption parse key val system).2) ↔
    ((parse val = .malformed ∨ parse val = .other ∨
        ∃ members, parse val = .object members ∧ ∃ entry ∈ members, entry.2 = .other) →
      system.options key = some val ∧ system.tables key = (unmarshal (parse val)).1) := by
  refine imp_congr ?_ ?_
  · change (unmarshal (parse val)).2 = true ↔ _
    cases parse val with
    | malformed | null | other => simp [unmarshal]
    | object members =>
      have kinds : ∀ val : Value, val.isOther = true ↔ val = .other := fun val => by
        cases val <;> simp [Value.isOther]
      simp [unmarshal, kinds]
  · change update _ key _ = _ ∧ update _ key _ = _ ↔ _
    rw [update_eq_self_iff, update_eq_self_iff, and_comm, eq_comm, @eq_comm _ (system.tables key)]

def pricedSystem : System := ⟨fun _ => none, fun _ => none, fun _ => update (fun _ => none) "gpt-4" (some 15)⟩

/-- A text that is no JSON leaves an empty table, and one with a value of another kind a table that is partly loaded. -/
theorem rejected_texts_loaded :
    let text := "\x7b\"gpt-4\": 30, \"o1\": \"15\"\x7d"
    let empties := updateOption (fun _ => .malformed) .modelRatio "gpt-4: 30" pricedSystem
    let loads := updateOption (fun _ => .object [("gpt-4", .number 30), ("o1", .other)]) .modelRatio text pricedSystem
    empties.1 = true ∧ empties.2.tables .modelRatio "gpt-4" = none ∧ empties.2.options .modelRatio = some "gpt-4: 30" ∧
      loads.1 = true ∧ loads.2.tables .modelRatio "gpt-4" = some 30 ∧ loads.2.tables .modelRatio "o1" = some 0 ∧
      loads.2.options .modelRatio = some text := by
  decide

end Tokengine.Model.Options

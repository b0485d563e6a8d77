import Tokengine.Lib.Transactions

/-! A program that runs alone while the driver may refuse any of its statements. Symbolic execution yields
its result, the tables it leaves, and whether each of its statements met a guard in the state before it. -/

namespace Tokengine.Interleaving

variable {S σ α β : Type} {A : S → Type}

/-- A process that runs alone performs only statements that `allows` admits in the state before them. -/
def Script.Always (exec : Semantics A σ) (pid : Nat) (allows : σ → S → Prop) : Script A α → σ → Prop
  | .done _, _ => True
  | .call stmt next, shared => allows shared stmt ∧
      ∀ outcome, exec pid shared stmt = some outcome → (next outcome.1).Always exec pid allows outcome.2

theorem always_perform {exec : Semantics A σ} {pid : Nat} {allows : σ → S → Prop} {stmt : S} {shared : σ} :
    (perform (A := A) stmt).Always exec pid allows shared ↔ allows shared stmt := and_iff_left fun _ _ => trivial

theorem always_bind {exec : Semantics A σ} {pid : Nat} {allows : σ → S → Prop} {script : Script A α}
    {rest : α → Script A β} {val : α} {shared middle : σ} (ran : script.alone exec pid shared = some (val, middle)) :
    (script.bind rest).Always exec pid allows shared ↔
      script.Always exec pid allows shared ∧ (rest val).Always exec pid allows middle := by
  induction script generalizing shared with
  | done _ =>
    cases ran
    exact ⟨fun later => ⟨trivial, later⟩, And.right⟩
  | call stmt next tail =>
    obtain ⟨outcome, performed, remaining⟩ := Option.bind_eq_some_iff.mp ran
    have split := tail outcome.1 remaining
    simp only [Script.bind, Script.Always, performed, Option.some.injEq, forall_eq', split, and_assoc]

end Tokengine.Interleaving

namespace Tokengine.Transactions
open Interleaving

variable {schema : Schema} {α β : Type}

/-- From `shared` the program ends with `res` in `after`, and its statements all meet the guard exactly if `safe` holds. -/
structure Ending (allows : Shared schema → Statement schema → Prop) (pid : Nat) (shared : Shared schema)
    (body : Action schema α) (res : Except String α) (after : Shared schema) (safe : Prop) : Prop where
  run : Script.alone exec pid body shared = some (res, after)
  guarded : Script.Always exec pid allows body shared ↔ safe

variable {body : Action schema β} {res : Except String α}

section Rules

variable {allows : Shared schema → Statement schema → Prop} {pid : Nat} {shared middle after : Shared schema}
  {first second : Prop} {rest : β → Action schema α}

theorem ending_pure (val : α) : Ending allows pid shared (pure val) (.ok val) shared True := ⟨rfl, Iff.rfl⟩

theorem ending_throw (e : String) : Ending allows pid shared (throw e : Action schema α) (.error e) shared True :=
  ⟨rfl, Iff.rfl⟩

theorem ending_computed (res : Except String α) :
    Ending allows pid shared (computed res : Action schema α) res shared True := ⟨rfl, Iff.rfl⟩

theorem ending_bind {val : β} (begins : Ending allows pid shared body (.ok val) middle first)
    (continues : Ending allows pid middle (rest val) res after second) :
    Ending allows pid shared (body >>= rest) res after (first ∧ second) := by
  refine ⟨(alone_ok begins.run).trans continues.run, ?_⟩
  refine (always_bind begins.run).trans (and_congr begins.guarded ?_)
  exact continues.guarded

theorem ending_fails {e : String} (begins : Ending allows pid shared body (.error e) middle first) :
    Ending allows pid shared (body >>= rest) (.error e) middle first := by
  refine ⟨alone_error begins.run, (always_bind begins.run).trans ?_⟩
  exact (and_iff_left trivial).trans begins.guarded

/-- A caught error is a value. -/
theorem ending_attempt {rest : Except String β → Action schema α} {caught : Except String β}
    (begins : Ending allows pid shared body caught middle first)
    (continues : Ending allows pid middle (rest caught) res after second) :
    Ending allows pid shared (attempt body >>= rest) res after (first ∧ second) := by
  have lifted : Ending allows pid shared (attempt body) (.ok caught) middle first := by
    refine ⟨alone_bind begins.run, (always_bind begins.run).trans ?_⟩
    exact (and_iff_left trivial).trans begins.guarded
  exact ending_bind lifted continues

theorem ending_safe {body : Action schema α} (ending : Ending allows pid shared body res after first)
    (same : first ↔ second) : Ending allows pid shared body res after second :=
  ⟨ending.run, ending.guarded.trans same⟩

def queried (pid : Nat) (req : schema.Query) (shared : Shared schema) : Shared schema :=
  shared.answered.note (.asked pid req)

/-- A query is refused or answered from the tables. -/
theorem ending_query (handle : Handle) (req : schema.Query) :
    (∃ e, Ending allows pid shared (query handle req) (.error e) shared.answered (allows shared (.read handle req))) ∨
      Ending allows pid shared (query handle req) (.ok (schema.answer req (shared.view pid handle)))
        (queried pid req shared) (allows shared (.read handle req)) := by
  cases faults : shared.faults with
  | nil => exact Or.inr ⟨alone_perform (by simp only [exec, faults]; rfl), always_perform⟩
  | cons fault rest =>
    cases fault with
    | none => exact Or.inr ⟨alone_perform (by simp only [exec, faults]; rfl), always_perform⟩
    | some e => exact Or.inl ⟨e, alone_perform (by simp only [exec, faults]), always_perform⟩

/-- A write outside a transaction is refused, or reaches the tables. -/
theorem ending_execute (write : schema.Write) :
    (accepts shared = false ∧ ∃ e, Ending allows pid shared (execute .global write) (.error e) shared.answered
        (allows shared (.write .global write))) ∨
      accepts shared = true ∧ Ending allows pid shared (execute .global write) (.ok ()) (shared.answered.take pid [write])
        (allows shared (.write .global write)) := by
  unfold accepts
  cases faults : shared.faults with
  | nil => exact Or.inr ⟨rfl, alone_perform (by simp only [exec, faults]), always_perform⟩
  | cons fault rest =>
    cases fault with
    | none => exact Or.inr ⟨rfl, alone_perform (by simp only [exec, faults]), always_perform⟩
    | some e => exact Or.inl ⟨rfl, e, alone_perform (by simp only [exec, faults]), always_perform⟩

end Rules

end Tokengine.Transactions

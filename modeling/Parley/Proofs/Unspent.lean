/-
  Parley.Proofs.Unspent
  ─────────────────────
  **A BUDGET THAT IS NOT SPENT MAKES NO DIFFERENCE.**

  The budget of a turn says how many lines it may visit, and nothing on its way
  looks at it:

    • `Leads.withBudget` — a way from place to place is one with every budget,
    • `Halts.loopAt_add` — where a loop halts before its budget is spent, it
      halts with every larger one, and comes to the same,
    • `serve_largerBudget` — so a turn that does not spend its budget is the
      same turn with a larger one, and one that does is the beginning of it.
-/
import Parley.Proofs.Budget
import Parley.Proofs.Course

namespace Parley

variable {σ H : Type}

namespace Dialog

variable (d : Dialog H) (w : World σ H)

/-! ## §1. Ways and halts, whatever the budget. -/

variable {d w} in
/-- A way is one with every budget. -/
theorem Leads.withBudget {n : Nat} {a b : Place σ} {events : List (Event H)} (k : Nat)
    (h : d.Leads w n a events b) : (d.withBudget k).Leads w n a events b := by
  induction h with
  | here a => exact .here a
  | visit hthread hin hvisit _ ih => exact .visit hthread hin hvisit ih

variable {d w} in
/-- **A loop that halts** has spent its budget before a line, or comes to the same
with every larger budget. -/
theorem Halts.loopAt_add {left : Nat} {a : Place σ} {o : Outcome σ H (Progress × Report)}
    (h : d.Halts w left a o) :
    (left = 0 ∧ d.script.HasLine a.position) ∨ ∀ more, d.loopAt w (left + more) a = o := by
  cases h with
  | unknown _ _ hthread =>
    refine .inr fun more => ?_
    unfold loopAt
    rw [d.resolve_of_unknown w hthread]
    rfl
  | ended _ _ hthread hend hconclude =>
    refine .inr fun more => ?_
    unfold loopAt
    rw [d.resolve_of_end w hthread hend]
    exact hconclude
  | spent _ hline => exact .inl ⟨rfl, hline⟩
  | failed left _ hthread hin hvisit =>
    -- the first visit of the larger loop is this one
    refine .inr fun more => ?_
    rw [Nat.add_right_comm, d.loopAt_succ w hthread hin]
    exact Act.bind_of_error hvisit
  | stopped left _ hthread hin hvisit =>
    refine .inr fun more => ?_
    rw [Nat.add_right_comm, d.loopAt_succ w hthread hin]
    refine (Act.bind_of_ok hvisit).trans ?_
    simp [pursue, Outcome.after]

/-- A loop is given its budget; what the settings say does not count. -/
theorem loopAt_withBudget (k n : Nat) (a : Place σ) :
    (d.withBudget k).loopAt w n a = d.loopAt w n a := by
  unfold loopAt
  rw [resolve_withBudget]

/-- A call whose turn sets out nowhere runs none. -/
theorem task_of_no_outset {call : Call} {env : Env σ} (h : d.outset call env = none) :
    ∃ result, call.task env.saved = .nothing result := by
  unfold outset at h
  split at h
  · cases h
  · cases h
  · exact ⟨_, ‹_›⟩

/-! ## §2. Turns with a larger budget. -/

/-- The turn of a call spends its budget: it visits as many lines as that allows,
and comes to another one. -/
def SpendsBudget (call : Call) (env : Env σ) : Prop :=
  ∃ start next events, d.outset call env = some start
    ∧ d.Leads w d.settings.maxSteps start events next ∧ d.script.HasLine next.position

/-- What a call comes to, and what it comes to with a larger budget. -/
structure LargerBudget (spent : Prop) (o larger : Outcome σ H Report) : Prop where
  /-- If the budget is not spent, the result is the same, and everything left
  behind, and everything that happens. -/
  same : ¬ spent → larger = o
  /-- If it is, the dialog waits. -/
  waits : spent → o.result = .ok .waiting
  /-- Then what happens is what happens first with the larger budget. -/
  begins : spent → o.events <+: larger.events

/-- A turn that spends its budget, and the turn with a larger one. -/
theorem serve_of_spent {call : Call} {env : Env σ} {start next : Place σ}
    {events : List (Event H)} (houtset : d.outset call env = some start)
    (hleads : d.Leads w d.settings.maxSteps start events next)
    (hline : d.script.HasLine next.position) :
    d.serve w call env
        = ⟨.ok .waiting, { next.env with saved := cutOff next.working next.position }, events⟩
      ∧ ∀ more, ((d.withBudget (d.settings.maxSteps + more)).serve w call env).events
        = events ++ ((d.withBudget (d.settings.maxSteps + more)).loopAt w more next).events := by
  obtain ⟨lines, hthread, hin⟩ := hline
  constructor
  · have hloop := hleads.loopAt_eq 0
    rw [Nat.add_zero] at hloop
    rw [d.serve_of_outset w houtset, hloop, Outcome.commit_after]
    unfold loopAt
    rw [d.resolve_of_spent w hthread hin]
    simp [Act.answer, Outcome.commit, Outcome.after]
  · intro more
    have houtset' : (d.withBudget (d.settings.maxSteps + more)).outset call env = some start :=
      houtset
    rw [serve_of_outset _ w houtset', Outcome.commit_events, ← Outcome.after_events]
    exact congrArg Outcome.events ((hleads.withBudget _).loopAt_eq more)

/-- A turn that does not spend its budget is the same with a larger one. -/
theorem serve_of_unspent {call : Call} {env : Env σ} (hspent : ¬ d.SpendsBudget w call env)
    (more : Nat) :
    (d.withBudget (d.settings.maxSteps + more)).serve w call env = d.serve w call env := by
  cases houtset : d.outset call env with
  | none =>
    -- no turn is run
    obtain ⟨result, htask⟩ := d.task_of_no_outset houtset
    rw [serve_of_nothing _ w htask, d.serve_of_nothing w htask]
  | some start =>
    have houtset' : (d.withBudget (d.settings.maxSteps + more)).outset call env = some start :=
      houtset
    obtain ⟨n, left, next, events, o, hsum, hleads, hhalts, hloop⟩ :=
      d.loopAt_course w d.settings.maxSteps start
    rw [serve_of_outset _ w houtset', d.serve_of_outset w houtset, hloop]
    refine congrArg Outcome.commit ?_
    show (d.withBudget (d.settings.maxSteps + more)).loopAt w (d.settings.maxSteps + more) start
      = o.after events
    rcases hhalts.loopAt_add with ⟨rfl, hline⟩ | hsame
    · -- the turn would have spent it
      rw [Nat.add_zero] at hsum
      subst hsum
      exact absurd ⟨start, next, events, houtset, hleads, hline⟩ hspent
    · rw [loopAt_withBudget, ← hsum, Nat.add_assoc, hleads.loopAt_eq, hsame]

/-- **A budget that is not spent makes no difference.**  A turn that does not spend its
budget comes to the same with a larger one, whether it succeeds or fails.  What happens in
a turn that spends it is what happens first with a larger one. -/
theorem serve_largerBudget {b c : Nat} (hle : b ≤ c) (call : Call) (env : Env σ) :
    LargerBudget ((d.withBudget b).SpendsBudget w call env)
      ((d.withBudget b).serve w call env) ((d.withBudget c).serve w call env) := by
  obtain ⟨more, rfl⟩ := Nat.exists_eq_add_of_le hle
  refine ⟨?same, ?waits, ?begins⟩
  case same =>
    intro hspent
    exact (d.withBudget b).serve_of_unspent w hspent more
  case waits =>
    rintro ⟨start, next, events, houtset, hleads, hline⟩
    rw [((d.withBudget b).serve_of_spent w houtset hleads hline).1]
  case begins =>
    rintro ⟨start, next, events, houtset, hleads, hline⟩
    obtain ⟨hserve, hlarger⟩ := (d.withBudget b).serve_of_spent w houtset hleads hline
    refine ⟨((d.withBudget (b + more)).loopAt w more next).events, ?_⟩
    rw [hserve]
    exact (hlarger more).symm

/-- With a budget of one the ticking dialog is cut off, and with one of two it goes on in the same
way. -/
theorem tickDialog_largerBudget :
    LargerBudget ((tickDialog.withBudget 1).SpendsBudget Stage.world (.begin .empty) freshEnv)
      ((tickDialog.withBudget 1).serve Stage.world (.begin .empty) freshEnv)
      ((tickDialog.withBudget 2).serve Stage.world (.begin .empty) freshEnv) :=
  tickDialog.serve_largerBudget Stage.world (show 1 ≤ 2 by decide) (.begin .empty) freshEnv

end Dialog

end Parley

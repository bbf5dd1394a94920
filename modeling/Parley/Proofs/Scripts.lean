/-
  Parley.Proofs.Scripts
  ─────────────────────
  **SCRIPTS BUILT LINE BY LINE.**

  An author builds a script by additions, in any order and to any threads.
  `thread?_addAll` says what each thread holds then: the lines added to it, in
  order, whatever was added elsewhere in between.  So a thread that exists is
  never empty, and in which order lines went to different threads leaves no
  trace (`addAll_congr`).  `additions_stored` says what the script stores as a whole.
-/
import Parley.Script

namespace Parley

variable {H : Type}

/-! ## §1. Additions. -/

/-- One call of an author. -/
inductive Addition (H : Type) where
  /-- Add a line to a thread. -/
  | line (thread : String) (line : Line H)
  /-- Add a message to a thread. -/
  | message (thread : String) (draft : Draft)
  /-- Add a question to a thread. -/
  | question (thread : String) (draft : Draft) (intake : Intake H)
  /-- Add an action line to a thread. -/
  | action (thread : String) (draft : Draft) (directive : Directive)
  /-- Add a message to the main thread. -/
  | say (draft : Draft)
  /-- Add a question to the main thread. -/
  | ask (draft : Draft) (intake : Intake H)

namespace Addition

/-- The thread that is added to. -/
def target : Addition H → String
  | line thread _ | message thread _ | question thread _ _ | action thread _ _ => thread
  | say _ | ask _ _ => Script.mainThread

/-- The line that is added. -/
def added : Addition H → Line H
  | line _ l => l
  | message _ draft | say draft => .message draft
  | question _ draft intake | ask draft intake => .question draft intake
  | action _ draft directive => .action draft directive

/-- The lines that additions bring to a thread, in order. -/
def linesFor (name : String) (additions : List (Addition H)) : List (Line H) :=
  (additions.filter fun a => a.target = name).map added

/-- A thread gets a line if something is added to it. -/
theorem linesFor_ne_nil_iff {name : String} {additions : List (Addition H)} :
    linesFor name additions ≠ [] ↔ ∃ a ∈ additions, a.target = name := by
  simp [linesFor]

/-- What is added to other threads brings it none. -/
theorem linesFor_filter (name : String) (additions : List (Addition H)) :
    linesFor name (additions.filter fun a => a.target = name) = linesFor name additions := by
  simp [linesFor, List.filter_filter]

end Addition

namespace Script

/-- Make one addition. -/
def add (s : Script H) : Addition H → Script H
  | .line thread line => s.addLine thread line
  | .message thread draft => s.addMessage thread draft
  | .question thread draft intake => s.addQuestion thread draft intake
  | .action thread draft directive => s.addAction thread draft directive
  | .say draft => s.say draft
  | .ask draft intake => s.ask draft intake

/-- Make additions one after the other. -/
def addAll (s : Script H) (additions : List (Addition H)) : Script H := additions.foldl add s

/-- The script was built by additions alone. -/
def Built (s : Script H) : Prop := ∃ additions, s = empty.addAll additions

/-! ## §2. What the threads hold. -/

/-- Every addition is that of a line to a thread. -/
theorem add_eq_addLine (s : Script H) (a : Addition H) :
    s.add a = s.addLine a.target a.added := by
  cases a <;> rfl

/-- A line goes to the end of its thread, which is made if need be, and to no other. -/
theorem thread?_addLine (s : Script H) (thread name : String) (line : Line H) :
    (s.addLine thread line).thread? name
      = if name = thread then some ((s.thread? thread).getD [] ++ [line])
        else s.thread? name :=
  s.threads.get?_insert thread name _

/-- **What a thread holds after additions**: what it held, and then the lines
added to it. -/
theorem thread?_addAll (additions : List (Addition H)) (s : Script H) (name : String) :
    (s.addAll additions).thread? name
      = if Addition.linesFor name additions = [] then s.thread? name
        else some ((s.thread? name).getD [] ++ Addition.linesFor name additions) := by
  -- along the additions, from any script
  induction additions generalizing s with
  | nil => rfl
  | cons a rest ih =>
    show ((s.add a).addAll rest).thread? name = _
    rw [ih, add_eq_addLine, thread?_addLine]
    by_cases htarget : a.target = name
    · -- the line is the first of those added here, and what follows comes after it
      have hlines : Addition.linesFor name (a :: rest)
          = a.added :: Addition.linesFor name rest := by
        simp [Addition.linesFor, htarget]
      rw [hlines, htarget]
      by_cases hrest : Addition.linesFor name rest = [] <;> simp [hrest]
    · have hlines : Addition.linesFor name (a :: rest) = Addition.linesFor name rest := by
        simp [Addition.linesFor, htarget]
      rw [hlines, if_neg (Ne.symm htarget)]

/-- Scripts with the same threads are equal. -/
theorem ext_thread? {s s' : Script H} (h : ∀ name, s.thread? name = s'.thread? name) :
    s = s' := by
  obtain ⟨threads⟩ := s
  obtain ⟨threads'⟩ := s'
  exact congrArg Script.mk (Table.ext_get? h)

/-- **Additions that bring the same lines to every thread** make the same script. -/
theorem addAll_congr (s : Script H) {additions additions' : List (Addition H)}
    (h : ∀ name, Addition.linesFor name additions = Addition.linesFor name additions') :
    s.addAll additions = s.addAll additions' := by
  apply ext_thread?
  intro name
  rw [thread?_addAll, thread?_addAll, h name]

/-- **A thread that exists has a line.** -/
theorem Built.ne_nil {s : Script H} (h : s.Built) {name : String} {lines : List (Line H)}
    (hthread : s.thread? name = some lines) : lines ≠ [] := by
  obtain ⟨additions, rfl⟩ := h
  rw [thread?_addAll] at hthread
  split at hthread
  · cases hthread
  · rename_i hlines
    cases hthread
    simpa [Script.empty, thread?] using hlines

/-! ## §3. What the script stores. -/

/-- The script that additions make. -/
def ofAdditions (additions : List (Addition H)) : Script H := empty.addAll additions

/-- A thread has the lines added to it, if there are any. -/
theorem thread?_ofAdditions (additions : List (Addition H)) (name : String) :
    (ofAdditions additions).thread? name
      = if Addition.linesFor name additions = [] then none
        else some (Addition.linesFor name additions) :=
  thread?_addAll additions empty name

/-- A thread is there once something was added to it. -/
theorem hasThread_ofAdditions_iff {additions : List (Addition H)} {name : String} :
    (ofAdditions additions).hasThread name = true ↔ ∃ a ∈ additions, a.target = name := by
  show ((ofAdditions additions).thread? name).isSome = true ↔ _
  rw [thread?_ofAdditions, ← Addition.linesFor_ne_nil_iff]
  by_cases hlines : Addition.linesFor name additions = [] <;> simp [hlines]

/-- The names listed are those of threads that exist. -/
theorem mem_threadNames_iff (s : Script H) {name : String} :
    name ∈ s.threadNames ↔ s.hasThread name = true :=
  s.threads.mem_keys_iff

/-- **What a script stores.**  A thread is there if something was added to it, and has the lines
added to it, in order, whatever was added to others; so none is empty.  The names of the threads are
those added to, each once, in the order of their bytes. -/
theorem additions_stored (additions : List (Addition H)) :
    (∀ name lines, (ofAdditions additions).thread? name = some lines
        ↔ lines = Addition.linesFor name additions ∧ ∃ a ∈ additions, a.target = name)
      ∧ (∀ name, (ofAdditions additions).thread? name
        = (ofAdditions (additions.filter fun a => a.target = name)).thread? name)
      ∧ (∀ name, (ofAdditions additions).hasThread name = true
        ↔ ∃ a ∈ additions, a.target = name)
      ∧ [] ∉ (ofAdditions additions).threads.entries.map (·.2)
      ∧ (ofAdditions additions).threadNames.Pairwise keyBefore
      ∧ ∀ name, name ∈ (ofAdditions additions).threadNames ↔ ∃ a ∈ additions, a.target = name := by
  refine ⟨?lines, ?others, fun name => hasThread_ofAdditions_iff, ?nonempty, ?ordered, ?names⟩
  case lines =>
    intro name lines
    rw [thread?_ofAdditions, ← Addition.linesFor_ne_nil_iff]
    by_cases hlines : Addition.linesFor name additions = []
    · simp [hlines]
    · simp [hlines, eq_comm]
  case others =>
    intro name
    rw [thread?_ofAdditions, thread?_ofAdditions, Addition.linesFor_filter]
  case nonempty =>
    intro hmem
    obtain ⟨⟨name, lines⟩, hentry, hnil⟩ := List.mem_map.mp hmem
    have hthread : (ofAdditions additions).thread? name = some lines :=
      (ofAdditions additions).threads.mem_entries_iff.mp hentry
    exact Built.ne_nil ⟨additions, rfl⟩ hthread hnil
  case ordered => exact List.pairwise_map.mpr (ofAdditions additions).threads.ordered
  case names =>
    intro name
    rw [mem_threadNames_iff, hasThread_ofAdditions_iff]

end Script

end Parley

/-
  Parley.Proofs.Course
  ────────────────────
  **THE COURSE OF A TURN.**

  A turn resolves one place after the other: a visit goes on to the next place,
  until the turn halts at one.

    • `Leads` — visits that go on lead from one place to another, with what
      happens on the way,
    • `Halts` — what a loop comes to at the place where it does not go on,
    • `loopAt_course` — every loop is such a way and such a halt,
    • `loopAt_at` — wherever the events of a loop show that a position is
      resolved, the loop is at a place there,
    • `Visiting` — what one visit is made of, part by part.

  `outset` is the place at which the turn of a call sets out.
-/
import Parley.Proofs.Turns

namespace Parley

variable {σ H : Type}

/-- A place in the course of a turn: what the loop is given there. -/
structure Place (σ : Type) where
  /-- The position to resolve. -/
  position : Position
  /-- Why it is resolved. -/
  cause : Cause
  /-- What the user sent, if that is still to be answered. -/
  reply : Option String
  /-- The progress of the turn. -/
  working : Progress
  /-- What surrounds the turn. -/
  env : Env σ

/-- The place that a visit goes on to; the reply is not handed on. -/
def Place.onward (target : Position) (moved : Progress) (env : Env σ) : Place σ :=
  ⟨target, .advanced, none, moved, env⟩

namespace Dialog

variable (d : Dialog H) (w : World σ H)

/-! ## §1. Loops and visits at a place. -/

/-- The step at a place. -/
def stepOf (a : Place σ) : Step := d.stepAt a.position a.cause a.reply

/-- The loop from a place on. -/
def loopAt (budget : Nat) (a : Place σ) : Outcome σ H (Progress × Report) :=
  d.resolve w budget a.position a.cause a.reply a.working a.env

/-- The visit to the line at a place. -/
def visitAt (lines : List (Line H)) (a : Place σ) : Outcome σ H (Progress × Move) :=
  d.visit w lines a.position a.cause a.reply a.working a.env

/-- The callbacks for the entry of a thread at a place, if one is entered. -/
def enterAt (a : Place σ) : Outcome σ H (Progress × Option Position) :=
  d.enter w a.working.thread (d.stepOf a) (a.working.arrive a.position) a.env

/-- `n` visits lead from one place to another, with the given events. -/
inductive Leads : Nat → Place σ → List (Event H) → Place σ → Prop
  /-- No visit leads nowhere else. -/
  | here (a : Place σ) : Leads 0 a [] a
  /-- A visit goes on, and further visits lead on from there. -/
  | visit {n : Nat} {a b : Place σ} {lines : List (Line H)} {moved : Progress}
      {target : Position} {env : Env σ} {events later : List (Event H)}
      (hthread : d.script.thread? a.position.thread = some lines)
      (hin : a.position.index < lines.length)
      (hvisit : d.visitAt w lines a = ⟨.ok (moved, .goOn target), env, events⟩)
      (hrest : Leads n (.onward target moved env) later b) :
      Leads (n + 1) a (events ++ later) b

/-- What a loop that has `left` lines in its budget comes to at a place, where
it does not go on. -/
inductive Halts : Nat → Place σ → Outcome σ H (Progress × Report) → Prop
  /-- There is no such thread. -/
  | unknown (left : Nat) (a : Place σ)
      (hthread : d.script.thread? a.position.thread = none) :
      Halts left a ⟨.error (.unknownThread a.position.thread), a.env, []⟩
  /-- The thread has no more lines, and the dialog ends. -/
  | ended (left : Nat) (a : Place σ) {lines : List (Line H)}
      {o : Outcome σ H (Progress × Report)}
      (hthread : d.script.thread? a.position.thread = some lines)
      (hend : lines.length ≤ a.position.index)
      (hconclude : (d.conclude w a.reply a.working.values >>= fun report =>
        pure (a.working, report)) a.env = o) :
      Halts left a o
  /-- The budget is spent. -/
  | spent (a : Place σ) (hline : d.script.HasLine a.position) :
      Halts 0 a ⟨.ok (cutOff a.working a.position, .waiting), a.env, []⟩
  /-- The visit fails. -/
  | failed (left : Nat) (a : Place σ) {lines : List (Line H)} {fault : Fault} {env : Env σ}
      {events : List (Event H)}
      (hthread : d.script.thread? a.position.thread = some lines)
      (hin : a.position.index < lines.length)
      (hvisit : d.visitAt w lines a = ⟨.error fault, env, events⟩) :
      Halts (left + 1) a ⟨.error fault, env, events⟩
  /-- The visit stops the turn. -/
  | stopped (left : Nat) (a : Place σ) {lines : List (Line H)} {moved : Progress}
      {report : Report} {env : Env σ} {events : List (Event H)}
      (hthread : d.script.thread? a.position.thread = some lines)
      (hin : a.position.index < lines.length)
      (hvisit : d.visitAt w lines a = ⟨.ok (moved, .stop report), env, events⟩) :
      Halts (left + 1) a ⟨.ok (moved, report), env, events⟩

/-! ## §2. Every loop is a way and a halt. -/

/-- Where there is no line, a loop halts whatever is left of its budget. -/
theorem halts_of_no_line {a : Place σ} (hnone : ¬ d.script.HasLine a.position) (left : Nat) :
    d.Halts w left a (d.loopAt w left a) := by
  unfold loopAt
  cases hthread : d.script.thread? a.position.thread with
  | none =>
    rw [d.resolve_of_unknown w hthread]
    exact .unknown left a hthread
  | some lines =>
    have hend : lines.length ≤ a.position.index :=
      Nat.not_lt.mp fun hin => hnone ⟨lines, hthread, hin⟩
    rw [d.resolve_of_end w hthread hend]
    exact .ended left a hthread hend rfl

/-- One round of a loop from a place with a line. -/
theorem loopAt_succ {a : Place σ} {lines : List (Line H)}
    (hthread : d.script.thread? a.position.thread = some lines)
    (hin : a.position.index < lines.length) (budget : Nat) :
    d.loopAt w (budget + 1) a
      = (d.visit w lines a.position a.cause a.reply a.working >>= d.pursue w budget) a.env := by
  unfold loopAt
  rw [d.resolve_of_line w hthread hin]

/-- **The course of a loop.**  Visits that go on lead to a place where the loop
halts; each takes one line of the budget. -/
theorem loopAt_course (budget : Nat) :
    ∀ a : Place σ, ∃ n left b events o, n + left = budget ∧ d.Leads w n a events b
      ∧ d.Halts w left b o ∧ d.loopAt w budget a = o.after events := by
  -- on the budget; a visit that goes on is the first of the way
  induction budget with
  | zero =>
    intro a
    by_cases hline : d.script.HasLine a.position
    · obtain ⟨lines, hthread, hin⟩ := hline
      have hspent : d.loopAt w 0 a
          = ⟨.ok (cutOff a.working a.position, .waiting), a.env, []⟩ := by
        unfold loopAt
        rw [d.resolve_of_spent w hthread hin]
        rfl
      exact ⟨0, 0, a, [], _, rfl, .here a, .spent a ⟨lines, hthread, hin⟩, hspent⟩
    · exact ⟨0, 0, a, [], _, rfl, .here a, d.halts_of_no_line w hline 0, rfl⟩
  | succ budget ih =>
    intro a
    by_cases hline : d.script.HasLine a.position
    · obtain ⟨lines, hthread, hin⟩ := hline
      rw [d.loopAt_succ w hthread hin]
      rcases hvisit : d.visit w lines a.position a.cause a.reply a.working a.env with
        ⟨result, env, events⟩
      -- a visit fails, stops the turn, or goes on to where the rest of the way begins
      cases result with
      | error fault =>
        rw [Act.bind_of_error hvisit]
        exact ⟨0, budget + 1, a, [], _, Nat.zero_add _, .here a,
          .failed budget a hthread hin hvisit, rfl⟩
      | ok moved =>
        obtain ⟨moved, move⟩ := moved
        rw [Act.bind_of_ok hvisit]
        cases move with
        | stop report =>
          refine ⟨0, budget + 1, a, [], _, Nat.zero_add _, .here a,
            .stopped budget a hthread hin hvisit, ?_⟩
          simp [pursue, Outcome.after]
        | goOn target =>
          obtain ⟨n, left, b, later, o, hsum, hleads, hhalts, hloop⟩ :=
            ih (.onward target moved env)
          refine ⟨n + 1, left, b, events ++ later, o, by omega,
            .visit hthread hin hvisit hleads, hhalts, ?_⟩
          rw [← Outcome.after_after, ← hloop]
          rfl
    · exact ⟨0, budget + 1, a, [], _, Nat.zero_add _, .here a,
        d.halts_of_no_line w hline _, rfl⟩

variable {d w} in
/-- **A way and the loop at its end are the loop from where it sets out.** -/
theorem Leads.loopAt_eq {n : Nat} {a b : Place σ} {events : List (Event H)}
    (h : d.Leads w n a events b) (left : Nat) :
    d.loopAt w (n + left) a = (d.loopAt w left b).after events := by
  -- along the way; each visit takes one line of the budget
  induction h with
  | here a => rw [Nat.zero_add, Outcome.after_nil]
  | @visit n a b lines moved target env events later hthread hin hvisit _ ih =>
    rw [Nat.add_right_comm, d.loopAt_succ w hthread hin, Act.bind_of_ok hvisit,
      ← Outcome.after_after, ← ih]
    rfl

/-! ## §3. The positions that a loop resolves. -/

/-- A visit resolves its position first, and no other. -/
theorem visitAt_events (lines : List (Line H)) (a : Place σ) :
    ∃ tail, (d.visitAt w lines a).events = .reached a.position :: tail
      ∧ ∀ e ∈ tail, e.kind ≠ .reached := by
  obtain ⟨tail, htail⟩ : ∃ tail, (d.visitAt w lines a).events = .reached a.position :: tail := by
    unfold visitAt
    rw [visit_eq, Act.note_bind_apply]
    exact ⟨_, rfl⟩
  refine ⟨tail, htail, ?_⟩
  have hvisited : visited (d.visitAt w lines a).events = [a.position] :=
    d.visit_visited w lines a.position a.cause a.reply a.working a.env
  rw [htail, visited_reached, List.cons.injEq] at hvisited
  intro e he hkind
  -- a second one would show among the positions that the visit resolves
  cases e with
  | reached p =>
    have hmem : p ∈ visited tail := List.mem_filterMap.mpr ⟨_, he, rfl⟩
    rw [hvisited.2] at hmem
    exact List.not_mem_nil hmem
  | _ => cases hkind

/-- **The events of one round**: those of the visit, and then those of the loop
from the place that it goes on to, if it does. -/
theorem loopAt_round {a : Place σ} {lines : List (Line H)}
    (hthread : d.script.thread? a.position.thread = some lines)
    (hin : a.position.index < lines.length) (budget : Nat) :
    ∃ later, (d.loopAt w (budget + 1) a).events = (d.visitAt w lines a).events ++ later
      ∧ (later = [] ∨ ∃ moved target env,
          d.visitAt w lines a = ⟨.ok (moved, .goOn target), env, (d.visitAt w lines a).events⟩
            ∧ later = (d.loopAt w budget (.onward target moved env)).events) := by
  rw [d.loopAt_succ w hthread hin]
  rcases hvisit : d.visitAt w lines a with ⟨result, env, events⟩
  unfold visitAt at hvisit
  cases result with
  | error fault =>
    rw [Act.bind_of_error hvisit]
    exact ⟨[], (List.append_nil events).symm, .inl rfl⟩
  | ok moved =>
    obtain ⟨moved, move⟩ := moved
    rw [Act.bind_of_ok hvisit]
    cases move with
    | stop report => exact ⟨[], rfl, .inl rfl⟩
    | goOn target => exact ⟨_, rfl, .inr ⟨moved, target, env, rfl, rfl⟩⟩

/-- The kinds of events that the end of a dialog past a last line can bring. -/
def endKinds : List EventKind := [.finished, .spawned, .endCall]

/-- Where there is no line, nothing happens but the end of the dialog. -/
theorem loopAt_of_no_line {a : Place σ} (hnone : ¬ d.script.HasLine a.position)
    (budget : Nat) : ∀ e ∈ (d.loopAt w budget a).events, e.kind ∈ endKinds := by
  unfold loopAt
  rw [d.resolve_of_no_line w hnone]
  exact (d.resolve_zero_confined w a.position a.cause a.reply a.working).events a.env

/-- The events of a loop begin with the position it sets out at, or with the end
of the dialog, or there are none. -/
theorem loopAt_opens (budget : Nat) (a : Place σ) :
    (∃ more, (d.loopAt w budget a).events = .reached a.position :: more)
      ∨ ∀ e ∈ (d.loopAt w budget a).events, e.kind ∈ endKinds := by
  by_cases hline : d.script.HasLine a.position
  · cases budget with
    | zero =>
      exact .inr
        ((d.resolve_zero_confined w a.position a.cause a.reply a.working).events a.env)
    | succ budget =>
      obtain ⟨lines, hthread, hin⟩ := hline
      obtain ⟨tail, hvisit, _⟩ := d.visitAt_events w lines a
      obtain ⟨later, hround, _⟩ := d.loopAt_round w hthread hin budget
      rw [hround, hvisit]
      exact .inl ⟨tail ++ later, rfl⟩
  · exact .inr (d.loopAt_of_no_line w hline budget)

/-- The position that a way leads to is resolved after the ones on the way; the
thread there is that of the last of them. -/
theorem Leads.visited {d : Dialog H} {w : World σ H} {n : Nat} {a b : Place σ}
    {events : List (Event H)} (h : d.Leads w n a events b) :
    (Parley.visited events).length = n
      ∧ b.working.thread
        = ((Parley.visited events).getLast?.map Position.thread).getD a.working.thread := by
  induction h with
  | here a => exact ⟨rfl, rfl⟩
  | @visit n a b lines moved target env events later _ _ hvisit _ ih =>
    obtain ⟨hlength, hthread⟩ := ih
    have hvisited := d.visit_visited w lines a.position a.cause a.reply a.working a.env
    have hstays := d.visit_yields w lines a.position a.cause a.reply a.working a.env
    unfold visitAt at hvisit
    rw [hvisit] at hvisited hstays
    have hmoved : moved.thread = a.position.thread :=
      congrArg Position.thread (hstays (moved, .goOn target) rfl).position
    rw [visited_append, show Parley.visited events = [a.position] from hvisited,
      List.singleton_append]
    refine ⟨by rw [List.length_cons, hlength], ?_⟩
    rw [hthread, List.getLast?_cons]
    cases (Parley.visited later).getLast? with
    | none => exact hmoved
    | some p => rfl

/-- Where two lists of events meet, an event is in the first or in the second. -/
theorem append_eq_cases {first last before rest : List (Event H)} {e : Event H}
    (h : first ++ last = before ++ e :: rest) :
    (∃ rest', first = before ++ e :: rest')
      ∨ ∃ before', before = first ++ before' ∧ last = before' ++ e :: rest := by
  rcases List.append_eq_append_iff.mp h with ⟨before', hbefore, hlast⟩ | ⟨mid, hfirst, hmid⟩
  · exact .inr ⟨before', hbefore, hlast⟩
  · cases mid with
    | nil => exact .inr ⟨[], by simpa using hfirst.symm, by simpa using hmid.symm⟩
    | cons e' mid =>
      rw [List.cons_append, List.cons.injEq] at hmid
      exact .inl ⟨mid, by rw [hfirst, hmid.1]⟩

/-- Events before one with a property, where the first of them have it not. -/
theorem append_eq_of_lacks {p : Event H → Prop} {first last before rest : List (Event H)}
    {e : Event H} (hp : p e) (hfirst : ∀ e ∈ first, ¬ p e)
    (h : first ++ last = before ++ e :: rest) :
    ∃ before', before = first ++ before' ∧ last = before' ++ e :: rest := by
  refine (append_eq_cases h).resolve_left ?_
  rintro ⟨rest', hmem⟩
  exact hfirst e (by rw [hmem]; simp) hp

/-- **Where a position is resolved, the loop is at a place.**  It has come there
by visits that went on, and what follows in the events is the rest of the visit
to the line there, and then another position, the end of the dialog, or
nothing. -/
theorem loopAt_at (budget : Nat) :
    ∀ (a : Place σ) {before rest : List (Event H)} {p : Position},
      (d.loopAt w budget a).events = before ++ .reached p :: rest →
      ∃ n b lines tail later, n < budget ∧ d.Leads w n a before b ∧ b.position = p
        ∧ d.script.thread? p.thread = some lines ∧ p.index < lines.length
        ∧ (d.visitAt w lines b).events = .reached p :: tail ∧ rest = tail ++ later
        ∧ ((∃ q more, later = .reached q :: more) ∨ ∀ e ∈ later, e.kind ∈ endKinds) := by
  have hnone : ∀ {events before rest : List (Event H)} {p : Position},
      (∀ e ∈ events, e.kind ∈ endKinds) → events ≠ before ++ .reached p :: rest := by
    intro events before rest p hkinds h
    have hkind := hkinds (.reached p) (by rw [h]; simp)
    simp [Event.kind, endKinds] at hkind
  -- on the budget; the events of the first visit are cut off the front
  induction budget with
  | zero =>
    intro a before rest p h
    exact absurd h (hnone
      ((d.resolve_zero_confined w a.position a.cause a.reply a.working).events a.env))
  | succ budget ih =>
    intro a before rest p h
    by_cases hline : d.script.HasLine a.position
    case neg => exact absurd h (hnone (d.loopAt_of_no_line w hline _))
    case pos =>
      obtain ⟨lines, hthread, hin⟩ := hline
      obtain ⟨tail, hvisit, htail⟩ := d.visitAt_events w lines a
      obtain ⟨later, hround, hlater⟩ := d.loopAt_round w hthread hin budget
      rw [hround, hvisit] at h
      cases before with
      | nil =>
        rw [List.nil_append, List.cons_append, List.cons.injEq] at h
        obtain ⟨hp, hrest⟩ := h
        cases hp
        refine ⟨0, a, lines, tail, later, Nat.succ_pos _, .here a, rfl, hthread, hin, hvisit,
          hrest.symm, ?_⟩
        rcases hlater with rfl | ⟨moved, target, env, _, rfl⟩
        · exact .inr fun e he => absurd he List.not_mem_nil
        · rcases d.loopAt_opens w budget (.onward target moved env) with ⟨more, h⟩ | hkinds
          · exact .inl ⟨target, more, h⟩
          · exact .inr hkinds
      | cons e before =>
        -- the position is resolved after the first visit, by the loop that follows it
        rw [List.cons_append, List.cons_append, List.cons.injEq] at h
        obtain ⟨rfl, h⟩ := h
        obtain ⟨before', rfl, hlaterEq⟩ :=
          append_eq_of_lacks (p := fun e => e.kind = .reached) rfl htail h
        rcases hlater with rfl | ⟨moved, target, env, hgoes, rfl⟩
        · simp at hlaterEq
        · obtain ⟨n, b, lines', tail', later', hn, hleads, hrest⟩ :=
            ih (.onward target moved env) hlaterEq
          rw [hvisit] at hgoes
          exact ⟨n + 1, b, lines', tail', later', Nat.succ_lt_succ hn,
            .visit hthread hin hgoes hleads, hrest⟩

/-! ## §4. The parts of a visit. -/

/-- What a visit is made of: the callbacks for the entry of a thread, what the
reply leads to, the line itself, and where that leads.  A part that fails ends
it, and so does a redirect by the callbacks for the entry. -/
inductive Visiting (lines : List (Line H)) (a : Place σ) :
    Outcome σ H (Progress × Move) → Prop
  /-- The callbacks for the entry of the thread fail. -/
  | barred {fault : Fault} {env : Env σ} {entry : List (Event H)}
      (hentry : d.enterAt w a = ⟨.error fault, env, entry⟩) :
      Visiting lines a ⟨.error fault, env, .reached a.position :: entry⟩
  /-- They lead elsewhere. -/
  | redirected {entered : Progress} {target : Position} {env : Env σ}
      {entry : List (Event H)}
      (hentry : d.enterAt w a = ⟨.ok (entered, some target), env, entry⟩) :
      Visiting lines a ⟨.ok (entered, .goOn target), env, .reached a.position :: entry⟩
  /-- What the reply leads to fails. -/
  | unanswered {entered : Progress} {env env' : Env σ} {fault : Fault}
      {entry answering : List (Event H)}
      (hentry : d.enterAt w a = ⟨.ok (entered, none), env, entry⟩)
      (hanswer : d.answerBefore w lines (d.stepOf a) entered env
        = ⟨.error fault, env', answering⟩) :
      Visiting lines a
        ⟨.error fault, env', .reached a.position :: (entry ++ answering)⟩
  /-- The line fails. -/
  | unrun {entered answered : Progress} {route : Route} {env env' env'' : Env σ}
      {fault : Fault} {entry answering running : List (Event H)}
      (hentry : d.enterAt w a = ⟨.ok (entered, none), env, entry⟩)
      (hanswer : d.answerBefore w lines (d.stepOf a) entered env
        = ⟨.ok (answered, route), env', answering⟩)
      (hline : d.lineRoute w lines (d.stepOf a) answered route env'
        = ⟨.error fault, env'', running⟩) :
      Visiting lines a
        ⟨.error fault, env'', .reached a.position :: (entry ++ (answering ++ running))⟩
  /-- The line leads along a route. -/
  | led {entered answered : Progress} {route route' : Route} {env env' env'' : Env σ}
      {entry answering running : List (Event H)}
      (hentry : d.enterAt w a = ⟨.ok (entered, none), env, entry⟩)
      (hanswer : d.answerBefore w lines (d.stepOf a) entered env
        = ⟨.ok (answered, route), env', answering⟩)
      (hline : d.lineRoute w lines (d.stepOf a) answered route env'
        = ⟨.ok (answered, route'), env'', running⟩) :
      Visiting lines a ((d.follow w (d.stepOf a) answered route' env'').after
        (.reached a.position :: (entry ++ (answering ++ running))))

/-- **Every visit is made of those parts.** -/
theorem visitAt_visiting (lines : List (Line H)) (a : Place σ) :
    d.Visiting w lines a (d.visitAt w lines a) := by
  unfold visitAt
  rw [visit_eq, Act.note_bind_apply]
  rcases hentry : d.enterAt w a with ⟨result, env, entry⟩
  have henter : d.enter w a.working.thread (d.stepAt a.position a.cause a.reply)
      (a.working.arrive a.position) a.env = ⟨result, env, entry⟩ := hentry
  cases result with
  | error fault =>
    rw [Act.bind_of_error henter]
    exact .barred hentry
  | ok entered =>
    obtain ⟨entered, redirect⟩ := entered
    rw [Act.bind_of_ok henter, Outcome.after_after, List.singleton_append]
    cases redirect with
    | some target =>
      have hvisiting : d.Visiting w lines a _ := .redirected hentry
      rw [← List.append_nil entry] at hvisiting
      exact hvisiting
    | none =>
      show d.Visiting w lines a (((d.answerBefore w lines (d.stepOf a) entered >>=
        fun answered => d.walk w lines (d.stepOf a) answered.1 answered.2) env).after _)
      rcases hanswer : d.answerBefore w lines (d.stepOf a) entered env with
        ⟨result, env', answering⟩
      cases result with
      | error fault =>
        rw [Act.bind_of_error hanswer]
        exact .unanswered hentry hanswer
      | ok answered =>
        obtain ⟨answered, route⟩ := answered
        rw [Act.bind_of_ok hanswer, Outcome.after_after, List.cons_append]
        have hled := d.lineRoute_yields w lines (d.stepOf a) answered route env'
        rcases hline : d.lineRoute w lines (d.stepOf a) answered route env' with
          ⟨result, env'', running⟩
        rw [hline] at hled
        unfold walk
        cases result with
        | error fault =>
          have hvisiting := Visiting.unrun hentry hanswer hline
          rw [← List.append_assoc] at hvisiting
          rw [Act.bind_of_error hline]
          exact hvisiting
        | ok led =>
          obtain ⟨led, route'⟩ := led
          cases show led = answered from hled (led, route') rfl
          have hvisiting := Visiting.led hentry hanswer hline
          rw [← List.append_assoc] at hvisiting
          rw [Act.bind_of_ok hline, Outcome.after_after, List.cons_append]
          exact hvisiting

/-! ## §5. The place at which a call sets out. -/

/-- The place at which the turn of a call sets out, if the call runs one. -/
def outset (call : Call) (env : Env σ) : Option (Place σ) :=
  match call.task env.saved with
  | .begin options =>
    some ⟨⟨d.startThread options, 0⟩, .begun, none, .start "" options,
      { env with saved := .start "" options }⟩
  | .turn cause reply => some ⟨env.saved.resumePosition, cause, reply, env.saved, env⟩
  | .nothing _ => none

/-- A call that begins sets out at the first line of its thread. -/
theorem outset_of_begin {call : Call} {env : Env σ} {options : Values}
    (htask : call.task env.saved = .begin options) :
    d.outset call env = some ⟨⟨d.startThread options, 0⟩, .begun, none, .start "" options,
      { env with saved := .start "" options }⟩ := by
  unfold outset
  rw [htask]

/-- A call that goes on sets out where the dialog was left. -/
theorem outset_of_turn {call : Call} {env : Env σ} {cause : Cause} {reply : Option String}
    (htask : call.task env.saved = .turn cause reply) :
    d.outset call env
      = some ⟨env.saved.resumePosition, cause, reply, env.saved, env⟩ := by
  unfold outset
  rw [htask]

/-- A call that runs no turn sets out nowhere. -/
theorem outset_of_nothing {call : Call} {env : Env σ} {result : Except Fault Report}
    (htask : call.task env.saved = .nothing result) : d.outset call env = none := by
  unfold outset
  rw [htask]

/-- **A call that runs a turn** runs the loop from its outset, and saves the
progress of it. -/
theorem serve_of_outset {call : Call} {env : Env σ} {a : Place σ}
    (h : d.outset call env = some a) :
    d.serve w call env = (d.loopAt w d.settings.maxSteps a).commit := by
  cases htask : call.task env.saved with
  | begin options =>
    rw [d.outset_of_begin htask] at h
    cases h
    rw [d.serve_of_begin w htask, begin_apply, turn_eq]
    rfl
  | turn cause reply =>
    rw [d.outset_of_turn htask] at h
    cases h
    rw [d.serve_of_turn w htask, turn_eq]
    rfl
  | nothing result =>
    rw [d.outset_of_nothing htask] at h
    cases h

/-- A call that runs no turn does nothing: it waits, or it fails. -/
theorem serve_of_no_outset {call : Call} {env : Env σ} (h : d.outset call env = none) :
    d.serve w call env = ⟨.ok .waiting, env, []⟩
      ∨ ∃ fault, d.serve w call env = ⟨.error fault, env, []⟩ := by
  cases htask : call.task env.saved with
  | begin options =>
    rw [d.outset_of_begin htask] at h
    cases h
  | turn cause reply =>
    rw [d.outset_of_turn htask] at h
    cases h
  | nothing result =>
    rw [d.serve_of_nothing w htask]
    rcases Call.task_nothing htask with ⟨_, _, _, rfl⟩ | ⟨_, _, _, rfl⟩
    · exact .inr ⟨_, rfl⟩
    · exact .inl rfl

end Dialog

end Parley

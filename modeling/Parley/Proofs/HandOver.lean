/-
  Parley.Proofs.HandOver
  ──────────────────────
  **WHAT A DIALOG IS HANDED OVER WITH.**

  A hand-over is ordered by a line, or by the branch that a reply chooses
  (`Obeys`).  The host is called to replace the dialog, with options that are
  the variables of the turn and the thread that the directive asks for; that is
  the last that happens in the turn (`serve_handsOver`).

  The variables are written over the thread.  So the next dialog sets out in the
  thread that was asked for only if no variable of the name "thread" says
  otherwise, and such a variable is left by the options of every dialog that was
  itself handed over in a thread: it is the first thread asked for in a chain of
  dialogs that counts (`relayDialog_keeps_first`).
-/
import Parley.Proofs.Budget
import Parley.Proofs.Course
import Parley.Proofs.Visits

namespace Parley

variable {σ H : Type}

namespace Dialog

variable (d : Dialog H) (w : World σ H)

/-! ## §1. Visits that obey a directive. -/

/-- The question that a reply at a place is for. -/
def questionAt (a : Place σ) : Position := { a.position with index := a.position.index - 1 }

/-- The visit at a place comes to obey a directive: with this progress, in this environment,
and after these events. -/
inductive Obeys (lines : List (Line H)) (a : Place σ) (directive : Directive) :
    Progress → Env σ → List (Event H) → Prop
  /-- It is that of the branch which the reply chooses, once the reply is taken. -/
  | chosen {entered taken : Progress} {env env' : Env σ} {entry taking : List (Event H)}
      {intake : Intake H} {reply : String} {branch : Branch H}
      (hentry : d.enterAt w a = ⟨.ok (entered, none), env, entry⟩)
      (hreply : (d.stepOf a).reply = some reply)
      (hquestion : questionBefore? lines a.position.index = some intake)
      (htaken : d.takeReply w intake (questionAt a) reply (d.stepOf a) entered env
        = ⟨.ok (taken, none), env', taking⟩)
      (hbranch : intake.select? reply = some branch)
      (horder : branch.consequence = .directive directive) :
      Obeys lines a directive taken env'
        (.reached a.position :: (entry ++ (taking ++ [.offered (questionAt a) reply])))
  /-- It is that of the line, to which the reply leads on, once the message of the line is
  sent. -/
  | ordered {entered answered : Progress} {env env' env'' : Env σ}
      {entry answering sending : List (Event H)} {draft : Draft}
      (hentry : d.enterAt w a = ⟨.ok (entered, none), env, entry⟩)
      (hanswer : d.answerBefore w lines (d.stepOf a) entered env
        = ⟨.ok (answered, .onward), env', answering⟩)
      (hline : lines[a.position.index]? = some (.action draft directive))
      (hsend : sendDraft w draft answered.values env' = ⟨.ok (), env'', sending⟩) :
      Obeys lines a directive answered env''
        (.reached a.position :: (entry ++ (answering ++ sending)))

variable {d w} {lines : List (Line H)} {a : Place σ}

/-- A visit whose reply leads along a route. -/
theorem visitAt_of_answered {entered answered : Progress} {route : Route} {env env' : Env σ}
    {entry answering : List (Event H)}
    (hentry : d.enterAt w a = ⟨.ok (entered, none), env, entry⟩)
    (hanswer : d.answerBefore w lines (d.stepOf a) entered env
      = ⟨.ok (answered, route), env', answering⟩) :
    d.visitAt w lines a = (d.walk w lines (d.stepOf a) answered route env').after
      (.reached a.position :: (entry ++ answering)) := by
  unfold visitAt
  rw [visit_eq, Act.note_bind_apply]
  have henter : d.enter w a.working.thread (d.stepAt a.position a.cause a.reply)
      (a.working.arrive a.position) a.env = ⟨.ok (entered, none), env, entry⟩ := hentry
  rw [Act.bind_of_ok henter, Outcome.after_after, List.singleton_append]
  show ((d.answerBefore w lines (d.stepOf a) entered >>= fun answered =>
    d.walk w lines (d.stepOf a) answered.1 answered.2) env).after _ = _
  rw [Act.bind_of_ok hanswer, Outcome.after_after, List.cons_append]

/-- **A visit that obeys a directive** follows its route. -/
theorem Obeys.visitAt_eq {directive : Directive} {working : Progress} {env : Env σ}
    {events : List (Event H)} (h : d.Obeys w lines a directive working env events)
    (hroute : directive.route d.script a.position ≠ .onward) :
    d.visitAt w lines a
      = (d.follow w (d.stepOf a) working (directive.route d.script a.position) env).after
          events := by
  cases h with
  | @chosen entered _ env₀ _ entry taking intake reply selected hentry hreply hquestion htaken
      hbranch horder =>
    have hchosen : d.branch w intake (questionAt a) reply (d.stepOf a) working env
        = ⟨.ok (working, directive.route d.script a.position), env,
            [.offered (questionAt a) reply]⟩ :=
      d.branch_of_directive w hbranch horder (questionAt a) (d.stepOf a) working env
    have hanswer : d.answerBefore w lines (d.stepOf a) entered env₀
        = ⟨.ok (working, directive.route d.script a.position), env,
            taking ++ [.offered (questionAt a) reply]⟩ := by
      refine (d.answerBefore_of_taken w hreply hquestion htaken).trans ?_
      exact congrArg (Outcome.after taking) hchosen
    rw [visitAt_of_answered hentry hanswer]
    unfold walk
    rw [d.lineRoute_of_ne w hroute, Act.pure_bind_apply]
  | @ordered entered _ env₀ env₁ _ entry answering sending draft hentry hanswer hline hsend =>
    have hrun : d.runLine w (.action draft directive) (d.stepOf a) working.values env₁
        = ⟨.ok (directive.route d.script a.position), env, sending ++ []⟩ := by
      show (sendDraft w draft working.values >>= _) env₁ = _
      rw [Act.bind_of_ok hsend]
      rfl
    have hline' : lines[(d.stepOf a).position.index]? = some (.action draft directive) := hline
    rw [visitAt_of_answered hentry hanswer]
    unfold walk
    rw [d.lineRoute_of_line w hline', bind_assoc, Act.bind_of_ok hrun, Act.pure_bind_apply,
      Outcome.after_after, List.append_nil, List.cons_append, List.append_assoc]

/-! ## §2. The options of a hand-over. -/

/-- What the options of a hand-over are, asked for in a thread, with the given variables. -/
structure Carries (thread : Option String) (values options : Values) : Prop where
  /-- The variables go over as they are, but for the thread. -/
  others : ∀ key, key ≠ "thread" → options.get? key = values.get? key
  /-- A variable of that name goes over; if there is none, the thread asked for does. -/
  thread : options.get? "thread" = (values.get? "thread").or (thread.map .string)

/-- **A hand-over carries the variables over**, and the thread asked for if none has its name. -/
theorem handOverOptions_carries (thread : Option String) (values : Values) :
    Carries thread values (handOverOptions thread values) := by
  unfold handOverOptions
  cases thread with
  | none => exact ⟨fun key _ => by simp [Table.get?_extend], by simp [Table.get?_extend]⟩
  | some thread =>
    refine ⟨fun key hkey => ?_, by simp [Table.get?_extend]⟩
    -- the variables are written over the thread, so one of its name wins
    rw [Table.get?_extend, Table.get?_insert_of_ne _ _ hkey, Table.get?_empty, Option.or_none]

/-- The next dialog would be begun in the thread that was asked for: no variable says
otherwise. -/
inductive Reaches (default thread : String) (values : Values) : Prop
  /-- There is no variable of that name. -/
  | free (h : values.get? "thread" = none)
  /-- There is one, and it names the same thread. -/
  | same (h : values.get? "thread" = some (.string thread))
  /-- There is one that names none, so the next dialog begins where it does by default, and
  that is the same thread. -/
  | byDefault {held : Json} (h : values.get? "thread" = some held)
      (hnameless : ∀ name, held ≠ .string name) (hdefault : default = thread)

/-- **Where the next dialog sets out.** -/
theorem Carries.startThread_iff {thread : String} {values options : Values}
    (h : Carries (some thread) values options) (next : Dialog H) :
    next.startThread options = thread ↔ Reaches next.settings.startThread thread values := by
  have hthread := h.thread
  unfold startThread
  -- the next dialog looks for the thread under its name, whoever put it there
  cases hheld : values.get? "thread" with
  | none =>
    rw [hheld] at hthread
    rw [hthread]
    exact ⟨fun _ => .free hheld, fun _ => rfl⟩
  | some held =>
    rw [hheld, Option.some_or] at hthread
    rw [hthread]
    constructor
    · intro hstart
      -- what is no name is passed over for the default
      cases held with
      | string name =>
        change name = thread at hstart
        exact .same (by rw [hheld, hstart])
      | _ => exact .byDefault hheld (by simp) hstart
    · rintro (hfree | hsame | ⟨hother, hnameless, hdefault⟩)
      · rw [hheld] at hfree
        cases hfree
      · rw [hheld] at hsame
        cases hsame
        rfl
      · rw [hheld] at hother
        cases hother
        cases held with
        | string name => exact absurd rfl (hnameless name)
        | _ => exact hdefault

/-! ## §3. Turns that hand the dialog over. -/

/-- What a turn comes to that hands the dialog over to another: for which a directive asks,
in a thread if it names one, with this progress and after these events. -/
structure HandsOver (script : String) (thread : Option String) (working : Progress)
    (before : List (Event H)) (options : Values) (o : Outcome σ H Report) : Prop where
  /-- The host is called to replace the dialog, and that is the last that happens; the turn
  succeeds if the host does, and saves the progress. -/
  called : (o.events = before ++ [.handedOver script options true]
      ∧ o.result = .ok .replaced ∧ o.env.saved = working)
    ∨ ∃ fault, o.events = before ++ [.handedOver script options false]
      ∧ o.result = .error fault
  /-- The options are the variables, and the thread if no variable stands in its way. -/
  carries : Carries thread working.values options
  /-- A dialog begun with them sets out in the thread asked for, if no variable says
  otherwise, and only then. -/
  reaches : ∀ {τ K : Type} (next : Dialog K) (env : Env τ) (asked : String),
    thread = some asked → ∃ start, next.outset (.begin options) env = some start
      ∧ start.position.index = 0
      ∧ (start.position.thread = asked
        ↔ Reaches next.settings.startThread asked working.values)

variable (d w) in
/-- **What a dialog is handed over with.**  If a call comes by visits to a place where a
directive orders a hand-over, the host is called with options that are the variables of the
turn.  The thread that the directive asks for is among them if no variable has its name. -/
theorem serve_handsOver {call : Call} {env env' : Env σ} {start a : Place σ} {n : Nat}
    {lines : List (Line H)} {script : String} {thread : Option String} {working : Progress}
    {way events : List (Event H)} (houtset : d.outset call env = some start)
    (hleads : d.Leads w n start way a) (hbudget : n < d.settings.maxSteps)
    (hthread : d.script.thread? a.position.thread = some lines)
    (hin : a.position.index < lines.length)
    (hobeys : d.Obeys w lines a (.handOver script thread) working env' events) :
    ∃ options, HandsOver script thread working (way ++ events) options
      (d.serve w call env) := by
  -- the way has left a line of the budget for the visit that hands over
  obtain ⟨left, hsteps⟩ := Nat.exists_eq_add_of_lt hbudget
  have hvisit : d.visitAt w lines a
      = (d.follow w (d.stepOf a) working (.handOver script thread) env').after events :=
    hobeys.visitAt_eq (by simp [Directive.route])
  have hserve : d.serve w call env = (((d.visit w lines a.position a.cause a.reply a.working
      >>= d.pursue w left) a.env).commit).after way := by
    rw [d.serve_of_outset w houtset, hsteps, Nat.add_assoc, hleads.loopAt_eq,
      d.loopAt_succ w hthread hin, Outcome.commit_after]
  have hcarries := handOverOptions_carries thread working.values
  refine ⟨handOverOptions thread working.values, ?called, hcarries, ?reaches⟩
  case called =>
    -- the host replaces the dialog, or fails
    obtain ⟨world, hfollow | ⟨fault, hfollow⟩⟩ := d.follow_handOver w (d.stepOf a) working
      script thread env'
    · rw [hfollow] at hvisit
      rw [hserve, Act.bind_of_ok hvisit]
      refine .inl ⟨?_, rfl, rfl⟩
      simp [Outcome.after, pursue]
    · rw [hfollow] at hvisit
      rw [hserve, Act.bind_of_error hvisit]
      refine .inr ⟨fault, ?_, rfl⟩
      simp [Outcome.after]
  case reaches =>
    intro τ K next env asked hasked
    subst hasked
    exact ⟨_, next.outset_of_begin rfl, rfl, hcarries.startThread_iff next⟩

/-- A dialog that hands over to the dialog "b", in its thread "b1". -/
def openingDialog : Dialog Routine where
  id := "a"
  script := Script.empty.addAction "default" {} (.handOver "b" (some "b1"))

/-- A dialog that hands over to the dialog "c", in its thread "c1". -/
def relayDialog : Dialog Routine where
  id := "b"
  script := Script.empty.addAction "b1" {} (.handOver "c" (some "c1"))

/-- A dialog with two threads. -/
def closingDialog : Dialog Routine where
  id := "c"
  script := (Script.empty.addMessage "b1" {}).addMessage "c1" {}

/-- Options with the thread "b1". -/
def relayOptions : Values := Table.empty.insert "thread" (.string "b1")

/-- The place at which it sets out. -/
def openingPlace : Place Stage :=
  ⟨⟨"default", 0⟩, .begun, none, .start "" .empty, freshEnv⟩

/-- Begun, that dialog is handed over in the thread it asks for. -/
theorem openingDialog_handsOver :
    ∃ options, HandsOver "b" (some "b1") { thread := "default" } ([] ++ [.reached ⟨"default", 0⟩])
      options (openingDialog.serve Stage.world (.begin .empty) freshEnv) := by
  have hentry : openingDialog.enterAt Stage.world openingPlace
      = ⟨.ok ({ thread := "default" }, none), freshEnv, []⟩ := rfl
  have hanswer : openingDialog.answerBefore Stage.world
      [.action {} (.handOver "b" (some "b1"))] (openingDialog.stepOf openingPlace)
      { thread := "default" } freshEnv = ⟨.ok ({ thread := "default" }, .onward), freshEnv, []⟩ :=
    rfl
  have hsend : sendDraft Stage.world {} .empty freshEnv = ⟨.ok (), freshEnv, []⟩ := rfl
  exact openingDialog.serve_handsOver Stage.world rfl (.here openingPlace) (by decide) rfl
    (by decide) (.ordered hentry hanswer rfl hsend)

/-- In a chain of three dialogs the last is handed over in its thread "c1", and begins in
another: the one that the second was handed over in. -/
theorem relayDialog_keeps_first :
    (openingDialog.begin Stage.world .empty freshEnv).events
        = [.reached ⟨"default", 0⟩, .handedOver "b" relayOptions true]
      ∧ (relayDialog.begin Stage.world relayOptions freshEnv).events
        = [.reached ⟨"b1", 0⟩, .handedOver "c" relayOptions true]
      ∧ visited (closingDialog.begin Stage.world relayOptions freshEnv).events
        = [⟨"b1", 0⟩] :=
  ⟨rfl, rfl, rfl⟩

end Dialog

end Parley

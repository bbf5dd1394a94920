/-
  Parley.Proofs.Validity
  ──────────────────────
  **WHAT IS SAVED IS VALID, AFTER ANY RUN.**

  A host keeps the progress of a dialog between calls.  It is `Valid` if the
  next call can go on from it: either no thread has been entered and all is as
  a begin leaves it, or it stands at a line of the script.

    • `begin_leaves`, `turn_leaves` — every way to run a turn keeps that, and
      if it succeeds the dialog stands at a line,
    • `serve_leaves` — so does every call of a host,
    • `run_valid` — so does every run, of calls that fail among others.

  The world may answer or fail as it likes at every call.
-/
import Parley.Proofs.Scripts
import Parley.Proofs.Turns
import Parley.Stage

namespace Parley

variable {σ H : Type}

/-! ## §1. Valid progress. -/

namespace Progress

/-- No thread has been entered, and everything is as a begin leaves it. -/
structure Unstarted (p : Progress) : Prop where
  /-- There is no current thread. -/
  thread : p.thread = ""
  /-- No line is reached. -/
  index : p.index = 0
  /-- No line is to be run again. -/
  replay : p.replay = false
  /-- The variables are the options. -/
  values : p.values = p.options

/-- The progress has entered no thread, or stands at a line of the script. -/
def Valid (s : Script H) (p : Progress) : Prop := p.Unstarted ∨ s.HasLine p.position

/-- A fresh progress has entered no thread. -/
theorem start_unstarted (options : Values) : (start "" options).Unstarted :=
  ⟨rfl, rfl, rfl, rfl⟩

/-- A progress that has entered no thread does not count as started. -/
theorem Unstarted.not_isStarted {p : Progress} (h : p.Unstarted) : p.isStarted = false := by
  unfold isStarted
  rw [h.thread]
  rfl

end Progress

/-- A dialog that an author can have made: its script was built by additions,
none of them to a thread of the empty name, and its settings are valid. -/
structure Dialog.WellMade (d : Dialog H) : Prop where
  /-- The script was built by additions. -/
  built : d.script.Built
  /-- No thread has the empty name. -/
  named : d.script.hasThread "" = false
  /-- The settings are valid. -/
  settings : d.settings.validate = .ok ()

/-- Valid settings let a turn visit a line. -/
theorem Settings.maxSteps_eq_succ {s : Settings} (h : s.validate = .ok ()) :
    ∃ budget, s.maxSteps = budget + 1 := by
  unfold validate at h
  split at h
  · cases h
  split at h
  · cases h
  split at h
  · cases h
  · rename_i hpositive
    exact Nat.exists_eq_succ_of_ne_zero hpositive

/-! ## §2. What a turn leaves. -/

namespace Dialog

variable (d : Dialog H) (w : World σ H)

/-- What is saved is valid, and after a success it stands at a line. -/
structure Leaves (o : Outcome σ H Report) : Prop where
  /-- What is saved is valid. -/
  valid : o.env.saved.Valid d.script
  /-- After a success it stands at a line. -/
  standing : ∀ report, o.result = .ok report → d.script.HasLine o.env.saved.position

/-- **A turn from a line** leaves the dialog at a line. -/
theorem turn_leaves {env : Env σ} (hstanding : d.script.HasLine env.saved.position)
    (position : Position) (cause : Cause) (reply : Option String) :
    d.Leaves (d.turn w position cause reply env) := by
  rcases d.turn_cases w position cause reply env with
    ⟨fault, env', events, hloop, hturn⟩ | ⟨working, report, env', events, hloop, hturn⟩
  · -- a failing turn has saved variables at most
    obtain ⟨values, hvalues⟩ :=
      d.resolve_revalued w d.settings.maxSteps position cause reply env.saved env
    rw [hloop] at hvalues
    rw [hturn]
    refine ⟨.inr ?_, fun report h => by cases h⟩
    show d.script.HasLine env'.saved.position
    rw [show env'.saved = { env.saved with values } from hvalues]
    exact hstanding
  · have hline : d.script.HasLine working.position :=
      (d.resolve_yields w d.settings.maxSteps position cause reply hstanding env
        (working, report) (by rw [hloop])).1
    rw [hturn]
    exact ⟨.inr hline, fun _ _ => hline⟩

variable {d} in
/-- **A begin that succeeds leaves the dialog at a line**, wherever it began. -/
theorem begin_standing (hbuilt : d.script.Built) (hsettings : d.settings.validate = .ok ())
    {options : Values} {env : Env σ} {report : Report}
    (hok : (d.begin w options env).result = .ok report) :
    d.script.HasLine (d.begin w options env).env.saved.position := by
  rw [begin_apply] at hok ⊢
  rcases d.turn_cases w ⟨d.startThread options, 0⟩ .begun none
      { env with saved := Progress.start "" options } with
    ⟨fault, env', events, _, hturn⟩ | ⟨working, report', env', events, hloop, hturn⟩
  · rw [hturn] at hok
    cases hok
  · rw [hturn]
    show d.script.HasLine working.position
    cases hthread : d.script.thread? (d.startThread options) with
    | none =>
      rw [d.resolve_of_unknown w hthread] at hloop
      cases hloop
    | some lines =>
      -- a thread that exists has a first line, and the budget allows a visit to it
      have hfirst : d.script.HasLine ⟨d.startThread options, 0⟩ :=
        ⟨lines, hthread, List.length_pos_iff.mpr (hbuilt.ne_nil hthread)⟩
      obtain ⟨budget, hbudget⟩ := Settings.maxSteps_eq_succ hsettings
      rw [hbudget] at hloop
      exact d.resolve_yields_of_line w hfirst budget .begun none _ _ (working, report')
        (by rw [hloop])

variable {d} in
/-- **A begin leaves the dialog at a line**, or if it fails with no thread
entered. -/
theorem WellMade.begin_leaves (hd : d.WellMade) (options : Values) (env : Env σ) :
    d.Leaves (d.begin w options env) := by
  cases hresult : (d.begin w options env).result with
  | ok report =>
    have hline := begin_standing w hd.built hd.settings hresult
    exact ⟨.inr hline, fun _ _ => hline⟩
  | error fault =>
    refine ⟨.inl ?_, fun report h => by rw [hresult] at h; cases h⟩
    -- nothing is saved since the begin, which came before everything
    rw [begin_apply] at hresult ⊢
    have hsaved := (d.resolve_confined w d.settings.maxSteps ⟨d.startThread options, 0⟩ .begun
      (Progress.start "" options)).saved { env with saved := Progress.start "" options }
    rcases d.turn_cases w ⟨d.startThread options, 0⟩ .begun none
        { env with saved := Progress.start "" options } with
      ⟨fault', env', events, hloop, hturn⟩ | ⟨working, report, env', events, _, hturn⟩
    · rw [hloop] at hsaved
      rw [hturn]
      show env'.saved.Unstarted
      rw [show env'.saved = Progress.start "" options from hsaved]
      exact Progress.start_unstarted options
    · rw [hturn] at hresult
      cases hresult

end Dialog

/-! ## §3. Calls and runs. -/

namespace Dialog

variable (d : Dialog H) (w : World σ H)

variable {d} in
/-- **What a call leaves.**  From valid progress every call leaves valid
progress, and if it runs a turn with success the dialog stands at a line. -/
theorem WellMade.serve_leaves (hd : d.WellMade) (call : Call) {env : Env σ}
    (hvalid : env.saved.Valid d.script) :
    (d.serve w call env).env.saved.Valid d.script
      ∧ (call.runsTurn → ∀ report, (d.serve w call env).result = .ok report →
          d.script.HasLine (d.serve w call env).env.saved.position) := by
  rw [serve_eq]
  cases htask : call.task env.saved with
  | begin options =>
    have hbegin := hd.begin_leaves w options env
    exact ⟨hbegin.valid, fun _ => hbegin.standing⟩
  | turn cause reply =>
    -- valid progress that has entered a thread stands at a line
    have hstarted := Call.isStarted_of_task htask
    have hstanding : d.script.HasLine env.saved.position := by
      rcases hvalid with hunstarted | hstanding
      · rw [hunstarted.not_isStarted] at hstarted
        cases hstarted
      · exact hstanding
    have hturn := d.turn_leaves w hstanding env.saved.resumePosition cause reply
    exact ⟨hturn.valid, fun _ => hturn.standing⟩
  | nothing result =>
    -- nothing changes, and a call that should have run a turn has failed
    have hnothing : d.perform w (.nothing result) env = ⟨result, env, []⟩ := by
      cases result <;> rfl
    rw [hnothing]
    refine ⟨hvalid, ?_⟩
    intro hturn report hresult
    obtain ⟨fault, hfault⟩ := Call.error_of_task htask hturn
    rw [show result = .ok report from hresult] at hfault
    cases hfault

variable {d} in
/-- A run of calls keeps progress valid. -/
theorem WellMade.savedAfter_valid (hd : d.WellMade) (meetings : List (Meeting σ))
    {saved : Progress} (hvalid : saved.Valid d.script) :
    (d.savedAfter w saved meetings).Valid d.script := by
  -- along the run; a call finds what the one before it saved
  induction meetings generalizing saved with
  | nil => exact hvalid
  | cons m rest ih =>
    have hafter : (d.serve w m.call (m.env saved)).env.saved.Valid d.script :=
      (hd.serve_leaves w m.call hvalid).1
    exact ih hafter

variable {d} in
/-- **State validity over whole runs.**  After any calls on a dialog that starts
afresh, whether they succeeded or failed and whatever the world did, what is
saved has entered no thread and is as a begin left it, or stands at a line of
the script; and every further call that runs a turn with success leaves a
dialog that has entered a thread. -/
theorem WellMade.run_valid (hd : d.WellMade) (meetings : List (Meeting σ)) :
    (d.savedAfter w {} meetings).Valid d.script
      ∧ ∀ (m : Meeting σ) (report : Report), m.call.runsTurn →
          (d.serve w m.call (m.env (d.savedAfter w {} meetings))).result = .ok report →
          (d.serve w m.call (m.env (d.savedAfter w {} meetings))).env.saved.isStarted := by
  have hfresh : Progress.Valid d.script {} := .inl (Progress.start_unstarted .empty)
  have hvalid := hd.savedAfter_valid w meetings hfresh
  refine ⟨hvalid, ?_⟩
  intro m report hturn hresult
  have hstanding := (hd.serve_leaves w m.call hvalid).2 hturn report hresult
  exact hstanding.isStarted hd.named

/-- A dialog that asks for a name, calls back about it, and then waits. -/
def nameDialog : Dialog Routine where
  id := "name"
  script := Script.empty.addAll
    [.question "default" {} (.capture "name"), .action "default" {} .hold]
  hooks := Hooks.none.onChange "name" [.set "greeted" (.bool true)]

/-- That dialog is one that an author can make. -/
theorem nameDialog_wellMade : nameDialog.WellMade :=
  ⟨⟨_, rfl⟩, rfl, rfl⟩

/-- The name is asked for, and for a first reply no session is to be had. -/
def nameRun : List (Meeting Stage) :=
  [⟨.begin .empty, (Stage.new "c").register "colloquy_text_prompt", ⟨[], 0⟩⟩,
   ⟨.resume .continued (some "Ada"), (Stage.new "c").startTurn [(.spawn, 0)], ⟨[], 0⟩⟩]

/-- A second reply is taken. -/
def nameReply : Meeting Stage := ⟨.resume .continued (some "Ada"), Stage.new "c", ⟨[], 0⟩⟩

/-- Its progress is valid also after the turn that failed, and started after the one that did not.
-/
theorem nameDialog_run_valid :
    (nameDialog.savedAfter Stage.world {} nameRun).Valid nameDialog.script
      ∧ (nameDialog.serve Stage.world nameReply.call
          (nameReply.env (nameDialog.savedAfter Stage.world {} nameRun))).env.saved.isStarted := by
  have hrun := nameDialog_wellMade.run_valid Stage.world nameRun
  refine ⟨hrun.1, ?_⟩
  exact hrun.2 nameReply .waiting rfl rfl

end Dialog

end Parley

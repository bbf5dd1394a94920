/-
  Parley.Proofs.Resumption
  ────────────────────────
  **WHERE THE NEXT TURN SETS OUT.**

  Whether a dialog has entered a thread is not saved; it is told by the name of
  its current thread, which is empty until then.  Once a begin has succeeded the
  dialog stands at a line (`Underway`), and no call but another begin changes that
  (`serve_underway`).  So the next call that goes on with it

    • sets out from the line that is saved, with the variables that are saved, if
      the thread of that line has a name,
    • begins the dialog over if that thread has the empty name, as a script may
      have it (`run_resumes`, `anonymousDialog_begins_over`).
-/
import Parley.Proofs.FailedBegin
import Parley.Proofs.Growth
import Parley.Proofs.Validity

namespace Parley

variable {σ H : Type}

/-- The cause and the reply with which a call goes on with a dialog, if it does. -/
def Call.onward? : Call → Option (Cause × Option String)
  | .resume cause reply => some (cause, reply)
  | .receive incoming => if incoming.isMessage then some (.continued, incoming.text) else none
  | .begin _ | .beginWith _ => none

/-- A call that goes on has a cause and a reply to go on with. -/
theorem Call.exists_onward {call : Call} (h : call.goesOn = true) :
    ∃ cause reply, call.onward? = some (cause, reply) := by
  cases call with
  | begin | beginWith => cases h
  | resume cause reply => exact ⟨cause, reply, rfl⟩
  | receive incoming => exact ⟨.continued, incoming.text, if_pos h⟩

namespace Dialog

variable (d : Dialog H) (w : World σ H)

/-- Going on with a message is resuming with its text. -/
theorem serve_of_onward {call : Call} {cause : Cause} {reply : Option String}
    (h : call.onward? = some (cause, reply)) : d.serve w call = d.resume w cause reply := by
  cases call with
  | begin | beginWith => cases h
  | resume cause' reply' =>
    cases h
    rfl
  | receive incoming =>
    simp only [Call.onward?] at h
    -- only a message goes on
    split at h
    · rename_i hmessage
      cases h
      exact d.receive_of_message w hmessage
    · cases h

/-! ## §1. Dialogs under way. -/

/-- A dialog that was begun with options and stands at a line. -/
structure Underway (options : Values) (saved : Progress) : Prop where
  /-- It stands at a line. -/
  standing : d.script.HasLine saved.position
  /-- It was begun with the options. -/
  options : saved.options = options

variable {d} {options : Values}

/-- A begin that succeeds leaves the dialog under way. -/
theorem begin_underway (hbuilt : d.script.Built) (hsettings : d.settings.validate = .ok ())
    {env : Env σ} {report : Report} (hok : (d.begin w options env).result = .ok report) :
    d.Underway options (d.begin w options env).env.saved := by
  refine ⟨begin_standing w hbuilt hsettings hok, ?_⟩
  rw [begin_apply]
  exact (d.turn_keeps w _ _ _ _).1

/-- A turn leaves the dialog under way, even if it fails. -/
theorem turn_underway {env : Env σ} (h : d.Underway options env.saved) (position : Position)
    (cause : Cause) (reply : Option String) :
    d.Underway options (d.turn w position cause reply env).env.saved := by
  refine ⟨?_, (d.turn_keeps w position cause reply env).1.trans h.options⟩
  -- a turn that fails stands where it stood
  cases hresult : (d.turn w position cause reply env).result with
  | ok report => exact (d.turn_leaves w h.standing position cause reply).standing report hresult
  | error fault =>
    obtain ⟨values, hsaved⟩ := d.turn_revalued w hresult
    rw [hsaved]
    exact h.standing

/-- The thread of the empty name exists if a dialog under way stands in it. -/
theorem Underway.nameless {saved : Progress} (h : d.Underway options saved)
    (hthread : saved.thread = "") : d.script.HasLine ⟨"", saved.index⟩ := by
  have hstanding := h.standing
  rw [Progress.position, hthread] at hstanding
  exact hstanding

/-- A dialog that is begun over in the thread of the empty name is under way after that, even
if the begin fails: the thread it has not entered then has the name of the one it was in. -/
theorem begin_over_underway (hbuilt : d.script.Built)
    (hsettings : d.settings.validate = .ok ()) {env : Env σ} {i : Nat}
    (hnameless : d.script.HasLine ⟨"", i⟩) :
    d.Underway options (d.begin w options env).env.saved := by
  cases hresult : (d.begin w options env).result with
  | ok report => exact begin_underway w hbuilt hsettings hresult
  | error fault =>
    rw [d.begin_saved w hresult]
    obtain ⟨lines, hthread, hin⟩ := hnameless
    exact ⟨⟨lines, hthread, Nat.zero_lt_of_lt hin⟩, rfl⟩

/-- In the thread of the empty name a dialog counts as not started. -/
theorem isStarted_eq_false {saved : Progress} (h : saved.thread = "") :
    saved.isStarted = false := by
  unfold Progress.isStarted
  rw [h]
  rfl

/-- **A call leaves the dialog under way**, unless it is asked to begin it. -/
theorem serve_underway (hbuilt : d.script.Built) (hsettings : d.settings.validate = .ok ())
    {call : Call} (hbegins : call.begins = false) {env : Env σ}
    (h : d.Underway options env.saved) :
    d.Underway options (d.serve w call env).env.saved := by
  by_cases hthread : env.saved.thread = ""
  · -- the dialog counts as one that has entered no thread
    have hunstarted := isStarted_eq_false hthread
    -- a call that goes on begins the dialog over; what is no message changes nothing
    cases hgoes : call.goesOn with
    | true =>
      rw [d.serve_of_goesOn w hgoes hunstarted, h.options]
      exact begin_over_underway w hbuilt hsettings (h.nameless hthread)
    | false =>
      cases call with
      | begin | beginWith => cases hbegins
      | resume => cases hgoes
      | receive incoming =>
        rw [serve_of_no_message hgoes]
        exact h
  · have hstarted : env.saved.isStarted = true := bne_iff_ne.mpr hthread
    rcases call.task_cases hbegins hstarted with
      ⟨cause, reply, htask⟩ | ⟨incoming, rfl, hmessage⟩
    · rw [d.serve_of_turn w htask]
      exact turn_underway w h _ cause reply
    · rw [serve_of_no_message hmessage]
      exact h

/-- **So does a run of calls.** -/
theorem turnsOf_underway (hbuilt : d.script.Built) (hsettings : d.settings.validate = .ok ())
    {run : List (Meeting σ)} (hrun : ∀ m ∈ run, m.call.begins = false) {saved : Progress}
    (h : d.Underway options saved) :
    ∀ t ∈ d.turnsOf w saved run, d.Underway options t.env.saved := by
  -- along the run; every call finds the dialog under way, and leaves it so
  induction run generalizing saved with
  | nil => exact fun _ ht => absurd ht List.not_mem_nil
  | cons m rest ih =>
    rw [List.forall_mem_cons] at hrun
    unfold turnsOf
    rw [List.forall_mem_cons]
    exact ⟨h, ih hrun.2 (serve_underway w hbuilt hsettings hrun.1 h)⟩

/-! ## §2. Where the next turn sets out. -/

variable (d)

/-- What a call does that goes on with a dialog begun with options. -/
structure Resumes (options : Values) (t : Turn σ) (cause : Cause) (reply : Option String) :
    Prop where
  /-- In a thread with a name, its turn sets out from the line that is saved, with the
  variables that are saved. -/
  onward : t.env.saved.thread ≠ "" →
    d.outcomeOf w t = (d.resolve w d.settings.maxSteps
      ⟨t.env.saved.thread, t.env.saved.resumeIndex⟩ cause reply t.env.saved t.env).commit
  /-- In the thread of the empty name, it begins the dialog over, and drops the reply. -/
  anew : t.env.saved.thread = "" → d.outcomeOf w t = d.begin w options t.env
  /-- The dialog stands at a line of its thread; so it is begun over only if a script has
  lines in the thread of the empty name. -/
  standing : d.script.HasLine t.env.saved.position

variable {d}

/-- **Where a running dialog goes on.**  Let a script be built in any threads, and let a begin
have succeeded, with any options.  In every run of calls after it, none of which is asked to
begin the dialog, each call that goes on with the dialog sets out from the line that is saved,
with the variables that are saved, if the thread of that line has a name; and if that thread has
the empty name, it begins the dialog over with the options of that begin. -/
theorem run_resumes (hbuilt : d.script.Built) (hsettings : d.settings.validate = .ok ())
    {env : Env σ} {report : Report} (hok : (d.begin w options env).result = .ok report)
    {run : List (Meeting σ)} (hrun : ∀ m ∈ run, m.call.begins = false) :
    ∀ t ∈ d.turnsOf w (d.begin w options env).env.saved run, ∀ cause reply,
      t.call.onward? = some (cause, reply) → d.Resumes w options t cause reply := by
  intro t ht cause reply honward
  have hunderway :=
    turnsOf_underway w hbuilt hsettings hrun (begin_underway w hbuilt hsettings hok) t ht
  have hserve : d.outcomeOf w t = d.resume w cause reply t.env := by
    unfold outcomeOf
    rw [d.serve_of_onward w honward]
  refine ⟨?onward, ?anew, hunderway.standing⟩
  case onward =>
    intro hthread
    rw [hserve, d.resume_of_started w (bne_iff_ne.mpr hthread), turn_eq]
    rfl
  case anew =>
    intro hthread
    rw [hserve, d.resume_of_unstarted w (isStarted_eq_false hthread), hunderway.options]

/-- A dialog that asks for a name, and then jumps to the thread of the empty name to ask for an
age. -/
def anonymousDialog : Dialog Routine where
  id := "anonymous"
  script := Script.empty.addAll
    [.question "default" {} (.capture "name"), .action "default" {} (.jump ""),
      .question "" {} (.capture "age"), .message "" {}]

/-- The dialog is about to begin. -/
def anonymousEnv : Env Stage := ⟨readyStage, ⟨[], 0⟩, {}⟩

/-- Where the dialog stands when it has asked for the age. -/
def anonymousProgress : Progress where
  thread := ""
  values := Table.empty.insert "name" (.string "Ada")

/-- It gets the name, and then the age. -/
def anonymousRun : List (Meeting Stage) := [replyOn readyStage "Ada", replyOn readyStage "7"]

/-- The first reply to that dialog goes on from the line that is saved; the second begins it over.
-/
theorem anonymousDialog_resumes :
    anonymousDialog.Resumes Stage.world .empty
        ⟨.resume .continued (some "Ada"), readyStage, ⟨[], 0⟩, { thread := "default" }⟩
        .continued (some "Ada")
      ∧ anonymousDialog.Resumes Stage.world .empty
        ⟨.resume .continued (some "7"), readyStage, ⟨[], 0⟩, anonymousProgress⟩
        .continued (some "7") := by
  have hok : (anonymousDialog.begin Stage.world .empty anonymousEnv).result = .ok .waiting := rfl
  have hrun : ∀ m ∈ anonymousRun, m.call.begins = false := by
    simp [anonymousRun, replyOn, Call.begins]
  have hresumes := run_resumes Stage.world ⟨_, rfl⟩ rfl hok hrun
  exact ⟨hresumes _ (.head _) _ _ rfl, hresumes _ (.tail _ (.head _)) _ _ rfl⟩

/-- The dialog waits for the age, in the thread of the empty name.  The reply is due to be taken
at the second line of that thread; in its place the dialog asks for the name again, and the name
that it had is lost. -/
theorem anonymousDialog_begins_over :
    anonymousDialog.script.Built ∧ anonymousDialog.settings.validate = .ok ()
      ∧ (anonymousDialog.begin Stage.world .empty anonymousEnv).result = .ok .waiting
      ∧ anonymousDialog.savedAfter Stage.world
          (anonymousDialog.begin Stage.world .empty anonymousEnv).env.saved
          [replyOn readyStage "Ada"] = anonymousProgress
      ∧ anonymousProgress.resumePosition = ⟨"", 1⟩
      ∧ visited (anonymousDialog.resume Stage.world .continued (some "7")
          ⟨readyStage, ⟨[], 0⟩, anonymousProgress⟩).events = [⟨"default", 0⟩]
      ∧ (anonymousDialog.resume Stage.world .continued (some "7")
          ⟨readyStage, ⟨[], 0⟩, anonymousProgress⟩).env.saved = { thread := "default" } :=
  ⟨⟨_, rfl⟩, rfl, rfl, rfl, rfl, rfl, rfl⟩

end Dialog

end Parley

/-
  Parley.Proofs.FailedTurn
  ────────────────────────
  **WHAT A FAILED TURN LEAVES.**

  A turn can fail at many points, after any number of visits and in any thread:
  a message is not sent, no session is made, a callback fails, the dialog is
  not ended or replaced, a callback leads to a thread that does not exist.
  Wherever it fails, what is saved differs from what was saved before in one
  way only (`FailedTurn`): if the reply was put into a variable and the
  callbacks for that succeeded, the variables are the ones they left.

  So no variable that a branch or the entry of a thread wrote is saved, and no
  mark of how the dialog ended.
-/
import Parley.Proofs.Turns
import Parley.Stage

namespace Parley

variable {σ H : Type}

namespace Dialog

variable (d : Dialog H) (w : World σ H)

/-! ## §1. What is left. -/

/-- In the events of a turn the reply `text` to the question that the turn goes
on after is put into the variable `key`, the callbacks for that run at once, and
nothing else is put into a variable. -/
structure CapturedIn (env : Env σ) (reply : Option String) (events : List (Event H))
    (intake : Intake H) (key text : String) : Prop where
  /-- The turn goes on after that question. -/
  asked : ∃ lines, d.script.thread? env.saved.thread = some lines
    ∧ questionBefore? lines env.saved.resumeIndex = some intake
  /-- The question names the variable. -/
  named : intake.key = some key
  /-- The text is the reply of the turn. -/
  given : reply = some text ∧ text ≠ ""
  /-- The reply is put into the variable, and the callbacks run. -/
  noted : ∃ first last, events = first
    ++ .captured ⟨env.saved.thread, env.saved.resumeIndex - 1⟩ key text
      :: (d.replyBatch w env.saved.resumePosition env.saved.values intake key text env).events
    ++ last
  /-- Nothing else is. -/
  only : ∀ question k t, .captured question k t ∈ events →
    question = ⟨env.saved.thread, env.saved.resumeIndex - 1⟩ ∧ k = key ∧ t = text

/-- The variables that a failed turn leaves, by what happened in it. -/
inductive ValuesLeft (env : Env σ) (reply : Option String) (events : List (Event H)) :
    Values → Prop
  /-- Nothing was put into a variable. -/
  | unchanged (hquiet : ∀ e ∈ events, e.kind ≠ .captured) :
      ValuesLeft env reply events env.saved.values
  /-- The callbacks for the reply failed, or no session was made for them. -/
  | dropped {intake : Intake H} {key text : String} {fault : Fault}
      (hcaptured : d.CapturedIn w env reply events intake key text)
      (hbatch : (d.replyBatch w env.saved.resumePosition env.saved.values intake key text
        env).result = .error fault) :
      ValuesLeft env reply events env.saved.values
  /-- The callbacks for the reply succeeded. -/
  | kept {intake : Intake H} {key text : String} {after : Handle}
      (hcaptured : d.CapturedIn w env reply events intake key text)
      (hbatch : (d.replyBatch w env.saved.resumePosition env.saved.values intake key text
        env).result = .ok after) :
      ValuesLeft env reply events after.values

/-- What a failed turn leaves. -/
structure FailedTurn (env : Env σ) (reply : Option String) (o : Outcome σ H Report) :
    Prop where
  /-- The thread stays. -/
  thread : o.env.saved.thread = env.saved.thread
  /-- The line last reached stays. -/
  index : o.env.saved.index = env.saved.index
  /-- Whether that line is still to be run stays. -/
  replay : o.env.saved.replay = env.saved.replay
  /-- The options stay. -/
  options : o.env.saved.options = env.saved.options
  /-- The variables keep the reply at most, with what its callbacks left. -/
  values : d.ValuesLeft w env reply o.events o.env.saved.values

/-! ## §2. Failing turns. -/

variable {d w} in
/-- Progress that differs in the variables is what a failed turn leaves, if the
variables are. -/
theorem FailedTurn.of_revalued {env : Env σ} {reply : Option String}
    {o : Outcome σ H Report} {values : Values}
    (hsaved : o.env.saved = { env.saved with values })
    (hleft : d.ValuesLeft w env reply o.events values) : d.FailedTurn w env reply o := by
  refine ⟨by rw [hsaved], by rw [hsaved], by rw [hsaved], by rw [hsaved], ?_⟩
  rw [hsaved]
  exact hleft

/-- **A turn that fails** leaves what a failed turn may. -/
theorem turn_failed {env : Env σ} {cause : Cause} {reply : Option String} {fault : Fault}
    (hfault : (d.turn w env.saved.resumePosition cause reply env).result = .error fault) :
    d.FailedTurn w env reply (d.turn w env.saved.resumePosition cause reply env) := by
  -- the loop failed, or it answered and the turn saved that
  rcases d.turn_cases w env.saved.resumePosition cause reply env with
    ⟨fault', env', events, hloop, hturn⟩ | ⟨working, report, env', events, hloop, hturn⟩
  · have hsaved := d.resolve_saved w d.settings.maxSteps env.saved.resumePosition cause reply
      env.saved env
    rw [hloop] at hsaved
    rw [hturn]
    -- the turn took no reply, or put its own into the variable of its question
    rcases hsaved with hnothing | ⟨lines, intake, key, text, hthread, hquestion, hkey, hreply,
      hne, hcaptures⟩
    · exact .of_revalued hnothing.saved (.unchanged hnothing.quiet)
    · -- the callbacks decided what is saved of the reply, wherever the turn then failed
      have hcaptured : d.CapturedIn w env reply events intake key text :=
        ⟨⟨lines, hthread, hquestion⟩, hkey, ⟨hreply, hne⟩, hcaptures.noted, hcaptures.only⟩
      cases hbatch : (d.replyBatch w env.saved.resumePosition env.saved.values intake key text
          env).result with
      | error reason =>
        exact .of_revalued (hcaptures.failed reason hbatch) (.dropped hcaptured hbatch)
      | ok after => exact .of_revalued (hcaptures.kept after hbatch) (.kept hcaptured hbatch)
  · -- a turn whose loop answers succeeds
    rw [hturn] at hfault
    cases hfault

/-- **A failing turn saves the reply and nothing else.**  If a started dialog is
to go on, by a result or by a message, and that fails, the place where it stands
and its options stay as they were, and so do its variables, but for the reply
and what the callbacks for the reply left. -/
theorem resume_failed {env : Env σ} (hstarted : env.saved.isStarted = true) :
    (∀ cause reply fault, (d.resume w cause reply env).result = .error fault →
        d.FailedTurn w env reply (d.resume w cause reply env))
      ∧ ∀ incoming fault, incoming.isMessage → (d.receive w incoming env).result = .error fault →
        d.FailedTurn w env incoming.text (d.receive w incoming env) := by
  have hresume : ∀ cause reply fault, (d.resume w cause reply env).result = .error fault →
      d.FailedTurn w env reply (d.resume w cause reply env) := by
    intro cause reply fault hfault
    rw [d.resume_of_started w hstarted] at hfault ⊢
    exact d.turn_failed w hfault
  refine ⟨hresume, ?_⟩
  intro incoming fault hmessage hfault
  rw [d.receive_of_message w hmessage] at hfault ⊢
  exact hresume .continued incoming.text fault hfault

/-- A dialog that asks for a guess, counts it, and then fails to judge it. -/
def guessDialog : Dialog Routine where
  id := "guess"
  script := (Script.empty.ask {}
    (.handled "guess" [.set "judged" (.bool true), .fail "judge" "no judge"])).say {}
  hooks := Hooks.none.onChange "guess" [.set "counted" (.bool true)]

/-- The dialog has asked for the guess. -/
def guessEnv : Env Stage := ⟨Stage.new "c", ⟨[], 0⟩, { thread := "default" }⟩

/-- The reply to that dialog fails in the callback of its branch, by a result and by a message. -/
theorem guessDialog_failed :
    guessDialog.FailedTurn Stage.world guessEnv (some "seven")
        (guessDialog.resume Stage.world .continued (some "seven") guessEnv)
      ∧ guessDialog.FailedTurn Stage.world guessEnv (some "seven")
        (guessDialog.receive Stage.world (.ofText "seven") guessEnv) := by
  have hfailed := guessDialog.resume_failed Stage.world
    (show guessEnv.saved.isStarted = true from rfl)
  refine ⟨?_, ?_⟩
  · exact hfailed.1 .continued (some "seven") (.hookFailed "judge" "no judge") rfl
  · exact hfailed.2 (.ofText "seven") (.hookFailed "judge" "no judge") rfl rfl

/-- The guess is kept and counted, and what the failing callback wrote is
lost. -/
example :
    (guessDialog.resume Stage.world .continued (some "seven") guessEnv).env.saved.values.keys
      = ["counted", "guess"] := by
  decide

end Dialog

end Parley

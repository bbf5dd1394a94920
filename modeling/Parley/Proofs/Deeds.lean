/-
  Parley.Proofs.Deeds
  ───────────────────
  **WHAT CALLBACKS DO TO THEIR HANDLES.**

  A callback may move its handle to a thread and write variables, and hands the
  handle back.  Nobody takes note of what it did; here that is told, as a list of
  deeds:

    • `Handle.get?_perform` — a variable holds what was written into it last,
    • `World.Does` — callbacks do to their handles what a list of deeds says,
    • `Errand.run_eq` — a batch does to its handle all that its callbacks do, in
      order, each with the handle as those before it left it,
    • `Hooks.atEntry_registered`, `atChange_registered` — that order is the one in
      which they were registered,
    • `Stage.world_does` — routines do deeds.
-/
import Mathlib.Data.List.Induction
import Parley.Proofs.Entry

namespace Parley

variable {σ H : Type}

/-! ## §1. Deeds. -/

/-- What a callback does to its handle. -/
inductive Deed where
  /-- Move it to the start of a thread. -/
  | goto (thread : String)
  /-- Write a variable. -/
  | set (key : String) (value : Json)

namespace Deed

/-- The thread that the handle is moved to. -/
def thread? : Deed → Option String
  | goto thread => some thread
  | set _ _ => none

/-- What is written into a variable. -/
def written? (key : String) : Deed → Option Json
  | goto _ => none
  | set written value => if key = written then some value else none

end Deed

/-- The thread that was moved to last. -/
def lastGoto? (made : List Deed) : Option String := (made.filterMap Deed.thread?).getLast?

/-- What was written last into a variable. -/
def lastWrite? (made : List Deed) (key : String) : Option Json :=
  (made.filterMap (Deed.written? key)).getLast?

/-- The last item of a list decides what was found last, if anything is found at it. -/
theorem getLast?_filterMap_concat {α β : Type} (f : α → Option β) (l : List α) (a : α) :
    ((l ++ [a]).filterMap f).getLast? = (f a).or (l.filterMap f).getLast? := by
  cases ha : f a with
  | none => simp [ha]
  | some b => simp [ha]

/-- One more deed moves the handle, or leaves it where the others had moved it. -/
theorem lastGoto?_concat (made : List Deed) (deed : Deed) :
    lastGoto? (made ++ [deed]) = deed.thread?.or (lastGoto? made) :=
  getLast?_filterMap_concat Deed.thread? made deed

/-- One more deed writes a variable, or leaves it as the others had written it. -/
theorem lastWrite?_concat (made : List Deed) (deed : Deed) (key : String) :
    lastWrite? (made ++ [deed]) key = (deed.written? key).or (lastWrite? made key) :=
  getLast?_filterMap_concat (Deed.written? key) made deed

namespace Handle

/-- A deed is done to a handle. -/
def act (h : Handle) : Deed → Handle
  | .goto thread => h.goto thread
  | .set key value => h.set key value

/-- Deeds are done to a handle, one after the other. -/
def perform (h : Handle) (made : List Deed) : Handle := made.foldl act h

/-- Deeds done in two parts are done one after the other. -/
theorem perform_append (h : Handle) (first last : List Deed) :
    h.perform (first ++ last) = (h.perform first).perform last :=
  List.foldl_append

/-- The last deed is done to what the others left. -/
theorem perform_concat (h : Handle) (made : List Deed) (deed : Deed) :
    h.perform (made ++ [deed]) = (h.perform made).act deed :=
  h.perform_append made [deed]

/-- The handle is at the start of the thread that was moved to last. -/
theorem position_perform (h : Handle) (made : List Deed) :
    (h.perform made).position
      = ((lastGoto? made).map fun thread => ⟨thread, 0⟩).getD h.position := by
  -- the last deed moves the handle, or leaves it where the others had it
  induction made using List.reverseRecOn with
  | nil => rfl
  | append_singleton made deed ih =>
    rw [perform_concat, lastGoto?_concat]
    cases deed with
    | goto thread => rfl
    | set key value => exact ih

/-- **A variable holds what was written into it last**, and what it held before if nothing
was. -/
theorem get?_perform (h : Handle) (made : List Deed) (key : String) :
    (h.perform made).get? key = (lastWrite? made key).or (h.get? key) := by
  -- the last deed writes the variable, or leaves it as the others had it
  induction made using List.reverseRecOn with
  | nil => rfl
  | append_singleton made deed ih =>
    rw [perform_concat, lastWrite?_concat]
    cases deed with
    | goto thread => exact ih
    | set written value =>
      show ((h.perform made).values.insert written value).get? key
        = ((if key = written then some value else none).or _).or _
      rw [Table.get?_insert]
      split
      · rfl
      · exact ih

/-- A handle leads to the thread that was moved to last, unless it was there. -/
theorem redirect?_perform {h : Handle} {made : List Deed} {thread : String}
    (hlast : lastGoto? made = some thread) (hleft : (⟨thread, 0⟩ : Position) ≠ h.position) :
    (h.perform made).redirect? h.position = some ⟨thread, 0⟩ := by
  have hposition : (h.perform made).position = ⟨thread, 0⟩ := by
    rw [position_perform, hlast]
    rfl
  rw [redirect?_of_ne (by rwa [hposition]), hposition]

/-- A handle that was moved nowhere, or back at last, leads nowhere. -/
theorem redirect?_perform_eq_none {h : Handle} {made : List Deed}
    (hback : ∀ thread, lastGoto? made = some thread → (⟨thread, 0⟩ : Position) = h.position) :
    (h.perform made).redirect? h.position = none := by
  refine redirect?_of_eq ?_
  rw [position_perform]
  cases hlast : lastGoto? made with
  | none => rfl
  | some thread => exact hback thread hlast

end Handle

/-! ## §2. Batches. -/

/-- What callbacks do: `deeds` tells it for each callback, from the reply it is called about,
its handle, its session and the state of the world.  A callback that fails hands no handle
back, and nothing is said of it. -/
structure World.Does (w : World σ H)
    (deeds : H → Option String → Handle → Session → σ → List Deed) : Prop where
  /-- Of those for the entry of a thread. -/
  atEntry : ∀ {h handle session s after s'}, w.atEntry h handle session s = (.ok after, s') →
    after = handle.perform (deeds h none handle session s)
  /-- Of those about a reply. -/
  atReply : ∀ {h reply handle session s after s'},
    w.atReply h reply handle session s = (.ok after, s') →
      after = handle.perform (deeds h (some reply) handle session s)

/-- What callbacks that may move the dialog are called for. -/
inductive Errand (H : Type) where
  /-- The entry of a thread. -/
  | entry (thread : String)
  /-- A reply that was put into a variable, to a question with this intake. -/
  | change (intake : Intake H) (key reply : String)
  /-- A reply for which a branch was chosen that has a callback. -/
  | branch (callback : H) (reply : String)

namespace Errand

/-- Whether it is the entry of a thread. -/
def isEntry : Errand H → Bool
  | entry _ => true
  | change .. | branch .. => false

/-- The reply that the callbacks are called about. -/
def reply? : Errand H → Option String
  | entry _ => none
  | change _ _ reply | branch _ reply => some reply

/-- The callbacks. -/
def callbacks (d : Dialog H) : Errand H → List H
  | entry thread => d.hooks.atEntry thread
  | change _ key _ => d.hooks.atChange key
  | branch callback _ => [callback]

/-- What is noted of a call. -/
def event : Errand H → H → Handle → Bool → Event H
  | entry _ => .entryCall
  | change _ _ reply => fun h => .changeCall h reply
  | branch _ reply => fun h => .branchCall h reply

/-- What the world does when a callback is called. -/
def op (w : World σ H) (session : Session) (h : H) (handle : Handle) :
    Errand H → σ → Except Fault Handle × σ
  | entry _ => w.atEntry h handle session
  | change _ _ reply | branch _ reply => w.atReply h reply handle session

variable (d : Dialog H) (w : World σ H) (errand : Errand H)

/-- The callbacks run. -/
def run (handle : Handle) : Act σ H Handle :=
  Dialog.runBatch w (fun session h handle =>
    .call (errand.event h handle) (errand.op w session h handle)) (errand.callbacks d) handle

/-- How they are called. -/
def calling : Calling σ H := ⟨fun h handle session => errand.op w session h handle, errand.event⟩

/-- The callbacks run in order, each with the handle that the world handed back to the one before,
up to the first that fails. -/
theorem run_batch (handle : Handle) (env : Env σ) :
    Batch w (errand.calling w) (errand.callbacks d) handle env (errand.run d w handle env) :=
  (Dialog.batch_iff w).mpr rfl

/-- They save nothing. -/
theorem run_confined (handle : Handle) :
    Act.Confined [.spawned, .entryCall, .changeCall, .branchCall]
      (errand.run d w handle) := by
  refine Dialog.runBatch_confined w (by simp) ?_ _ _
  intro session h handle
  refine .call _ fun _ => ?_
  cases errand <;> simp [event, Event.kind]

variable (deeds : H → Option String → Handle → Session → σ → List Deed)

/-- What the world does when a callback is called, with what the callback does to its handle in
place of the handle. -/
def deedsOp (session : Session) (h : H) (handle : Handle) (s : σ) : Except Fault (List Deed) × σ :=
  ((errand.op w session h handle s).1.map fun _ => deeds h errand.reply? handle session s,
    (errand.op w session h handle s).2)

/-- What callbacks do that run one after the other, after other deeds: each gets the handle as all
that was done before left it, and the first that fails is the last. -/
def deedsAlong (session : Session) (handle : Handle) : List Deed → List H → Act σ H (List Deed)
  | made, [] => pure made
  | made, h :: rest =>
    Act.call (errand.event h (handle.perform made))
        (errand.deedsOp w deeds session h (handle.perform made)) >>= fun more =>
      deedsAlong session handle (made ++ more) rest

/-- **All that the callbacks of a batch do**, in order; they have one session, which is made if
there is a callback. -/
def allDeeds (handle : Handle) : Act σ H (List Deed) :=
  match errand.callbacks d with
  | [] => pure []
  | batch => Dialog.spawn w >>= fun session => errand.deedsAlong w deeds session handle [] batch

variable {w deeds}

/-- A callback that hands a handle back did its deeds to the one it got. -/
theorem op_eq_ok (hdoes : w.Does deeds) {session : Session} {h : H} {handle after : Handle}
    {s s' : σ} (hop : errand.op w session h handle s = (.ok after, s')) :
    after = handle.perform (deeds h errand.reply? handle session s) := by
  cases errand with
  | entry thread => exact hdoes.atEntry hop
  | change intake key reply => exact hdoes.atReply hop
  | branch callback reply => exact hdoes.atReply hop

/-- One callback does its deeds to the handle it gets, if it hands one back. -/
theorem call_eq (hdoes : w.Does deeds) (session : Session) (h : H) (handle : Handle) :
    (Act.call (errand.event h handle) (errand.op w session h handle) : Act σ H Handle)
      = (Act.call (errand.event h handle) (errand.deedsOp w deeds session h handle) >>= fun more =>
          pure (handle.perform more)) := by
  funext env
  rcases hop : errand.op w session h handle env.world with ⟨result, s⟩
  have hdeeds : errand.deedsOp w deeds session h handle env.world
      = (result.map fun _ => deeds h errand.reply? handle session env.world, s) := by
    unfold deedsOp
    rw [hop]
  rw [Act.call_of_op _ hop]
  -- a callback that fails does nothing, whichever way it is told
  cases result with
  | error fault => rw [Act.bind_of_error (Act.call_of_op _ hdeeds)]; rfl
  | ok after =>
    rw [Act.bind_of_ok (Act.call_of_op _ hdeeds), errand.op_eq_ok hdoes hop]
    rfl

/-- Callbacks one after the other do all their deeds, in order. -/
theorem passAlong_eq (hdoes : w.Does deeds) (session : Session) (handle : Handle)
    (batch : List H) : ∀ made : List Deed,
      Dialog.passAlong (fun h handle =>
          Act.call (errand.event h handle) (errand.op w session h handle)) batch
          (handle.perform made)
        = (errand.deedsAlong w deeds session handle made batch >>= fun made =>
            pure (handle.perform made)) := by
  -- along the batch; the deeds of each callback are put after those of the ones before
  induction batch with
  | nil =>
    intro made
    unfold deedsAlong
    rw [pure_bind]
    rfl
  | cons h rest ih =>
    intro made
    show (Act.call _ _ >>= fun handle => Dialog.passAlong _ rest handle) = _
    rw [errand.call_eq hdoes]
    unfold deedsAlong
    rw [bind_assoc, bind_assoc]
    refine bind_congr fun more => ?_
    rw [pure_bind, ← Handle.perform_append]
    exact ih (made ++ more)

/-- **A batch does to its handle all that its callbacks do.** -/
theorem run_eq (hdoes : w.Does deeds) (handle : Handle) :
    errand.run d w handle
      = (errand.allDeeds d w deeds handle >>= fun made => pure (handle.perform made)) := by
  unfold run allDeeds
  cases errand.callbacks d with
  | nil =>
    show _ = ((pure [] : Act σ H (List Deed)) >>= _)
    rw [pure_bind]
    rfl
  | cons h rest =>
    show (Dialog.spawn w >>= _) = (Dialog.spawn w >>= _) >>= _
    rw [bind_assoc]
    exact bind_congr fun session => errand.passAlong_eq hdoes session handle (h :: rest) []

end Errand

/-! ## §3. Registration. -/

/-- A callback is registered. -/
inductive Registration (H : Type) where
  /-- For the entry of a thread. -/
  | entry (thread : String) (h : H)
  /-- For a reply put into a variable. -/
  | change (key : String) (h : H)
  /-- For the end of the dialog. -/
  | ending (h : H)

namespace Registration

/-- The callback, if it is for the entry of the thread. -/
def forEntry? (thread : String) : Registration H → Option H
  | entry entered h => if thread = entered then some h else none
  | change .. | ending _ => none

/-- The callback, if it is for a reply put into the variable. -/
def forChange? (key : String) : Registration H → Option H
  | change changed h => if key = changed then some h else none
  | entry .. | ending _ => none

end Registration

namespace Hooks

/-- Callbacks with one more registered. -/
def register (hooks : Hooks H) : Registration H → Hooks H
  | .entry thread h => hooks.onEntry thread h
  | .change key h => hooks.onChange key h
  | .ending h => hooks.onEnd h

/-- Callbacks that were registered one after the other. -/
def registered (made : List (Registration H)) : Hooks H := made.foldl register none

/-- What was registered last comes after the others. -/
theorem registered_concat (made : List (Registration H)) (last : Registration H) :
    registered (made ++ [last]) = (registered made).register last := by
  simp [registered]

/-- A callback put after those under its key is put after no others. -/
theorem getD_insert_concat (t : Table (List H)) (key k : String) (h : H) :
    ((t.insert key ((t.get? key).getD [] ++ [h])).get? k).getD []
      = (t.get? k).getD [] ++ [h].filterMap fun h => if k = key then some h else .none := by
  rw [Table.get?_insert]
  by_cases hsame : k = key
  · simp [hsame]
  · simp [hsame]

/-- The callbacks for the entry of a thread are in the order of registration. -/
theorem atEntry_registered (thread : String) (made : List (Registration H)) :
    (registered made).atEntry thread = made.filterMap (Registration.forEntry? thread) := by
  -- the last one registered comes after the others, or is none of them
  induction made using List.reverseRecOn with
  | nil => rfl
  | append_singleton made last ih =>
    rw [registered_concat, List.filterMap_append, ← ih]
    cases last with
    | entry entered h => exact getD_insert_concat _ entered thread h
    | change | ending => exact (List.append_nil _).symm

/-- So are those for a reply put into a variable. -/
theorem atChange_registered (key : String) (made : List (Registration H)) :
    (registered made).atChange key = made.filterMap (Registration.forChange? key) := by
  induction made using List.reverseRecOn with
  | nil => rfl
  | append_singleton made last ih =>
    rw [registered_concat, List.filterMap_append, ← ih]
    -- the last one registered is for this variable, for another, or for something else
    cases last with
    | change changed h => exact getD_insert_concat _ changed key h
    | entry | ending => exact (List.append_nil _).symm

end Hooks

/-- The callbacks of a batch, in the order of registration. -/
def Errand.registeredIn (made : List (Registration H)) : Errand H → List H
  | entry thread => made.filterMap (Registration.forEntry? thread)
  | change _ key _ => made.filterMap (Registration.forChange? key)
  | branch callback _ => [callback]

/-- A batch runs what was registered for its errand, in the order of registration. -/
theorem Errand.callbacks_eq {d : Dialog H} {made : List (Registration H)}
    (hhooks : d.hooks = .registered made) (errand : Errand H) :
    errand.callbacks d = errand.registeredIn made := by
  cases errand with
  | entry thread =>
    show d.hooks.atEntry thread = _
    rw [hhooks]
    exact Hooks.atEntry_registered thread made
  | change intake key reply =>
    show d.hooks.atChange key = _
    rw [hhooks]
    exact Hooks.atChange_registered key made
  | branch => rfl

/-! ## §4. Routines. -/

namespace Routine

mutual

/-- What a command does to its handle. -/
def commandDeeds (scene : Scene) : Command → Handle → Ledger → List Deed
  | .goto thread, _, _ => [.goto thread]
  | .set key value, _, _ => [.set key value]
  | .setReply key, _, _ => [.set key (.string (scene.reply.getD ""))]
  | .copy source target, h, _ => ((h.get? source).map (Deed.set target)).toList
  | .say _, _, _ | .fail _ _, _, _ | .failTimes _ _ _, _, _ | .record _, _, _ => []
  | .ifReply text body, h, ledger =>
    if scene.reply = some text then commandsDeeds scene body h ledger else []
  | .ifVar key value body, h, ledger =>
    match h.get? key with
    | some held => if held.alike value then commandsDeeds scene body h ledger else []
    | none => []

/-- What commands do, up to the first that fails. -/
def commandsDeeds (scene : Scene) : List Command → Handle → Ledger → List Deed
  | [], _, _ => []
  | command :: rest, h, ledger =>
    match runCommand scene command h ledger with
    | (.ok after, ledger') =>
      commandDeeds scene command h ledger ++ commandsDeeds scene rest after ledger'
    | (.error _, _) => []

end

mutual

/-- A command does its deeds to the handle. -/
theorem runCommand_deeds (scene : Scene) (command : Command) (h : Handle) (ledger : Ledger)
    {after : Handle} {ledger' : Ledger}
    (hrun : runCommand scene command h ledger = (.ok after, ledger')) :
    after = h.perform (commandDeeds scene command h ledger) := by
  -- command by command, each in the handle and the ledger it finds
  cases command with
  | goto | set | setReply | say | record =>
    cases hrun
    rfl
  | fail => cases hrun
  | copy source target =>
    unfold runCommand at hrun
    unfold commandDeeds
    cases hsource : h.get? source with
    | none | some =>
      rw [hsource] at hrun
      cases hrun
      rfl
  | failTimes times hook reason =>
    simp only [runCommand] at hrun
    split at hrun
    · cases hrun
    · cases hrun
      rfl
  | ifReply text body =>
    unfold runCommand at hrun
    unfold commandDeeds
    split at hrun
    · rename_i hreply
      rw [if_pos hreply]
      exact runCommands_deeds scene body h ledger hrun
    · rename_i hreply
      cases hrun
      rw [if_neg hreply]
      rfl
  | ifVar key value body =>
    unfold runCommand at hrun
    unfold commandDeeds
    cases hheld : h.get? key with
    | none =>
      rw [hheld] at hrun
      cases hrun
      rfl
    | some held =>
      simp only [hheld] at hrun ⊢
      split at hrun
      · rename_i halike
        rw [if_pos halike]
        exact runCommands_deeds scene body h ledger hrun
      · rename_i halike
        cases hrun
        rw [if_neg halike]
        rfl

/-- So do commands one after the other. -/
theorem runCommands_deeds (scene : Scene) (commands : List Command) (h : Handle)
    (ledger : Ledger) {after : Handle} {ledger' : Ledger}
    (hrun : runCommands scene commands h ledger = (.ok after, ledger')) :
    after = h.perform (commandsDeeds scene commands h ledger) := by
  cases commands with
  | nil =>
    cases hrun
    rfl
  | cons command rest =>
    unfold runCommands at hrun
    unfold commandsDeeds
    rcases hcommand : runCommand scene command h ledger with ⟨result, ledger₁⟩
    rw [hcommand] at hrun
    -- commands that fail hand no handle back
    cases result with
    | error fault => cases hrun
    | ok next =>
      show after = h.perform (commandDeeds scene command h ledger ++ _)
      rw [Handle.perform_append, ← runCommand_deeds scene command h ledger hcommand]
      exact runCommands_deeds scene rest next ledger₁ hrun

end

/-- What a routine does to its handle. -/
def deeds (routine : Routine) (reply : Option String) (handle : Handle) (session : Session)
    (s : Stage) : List Deed :=
  commandsDeeds ⟨reply, session⟩ routine handle s.ledger

end Routine

/-- **Routines do their deeds.** -/
theorem Stage.world_does : Stage.world.Does Routine.deeds := by
  have hperform : ∀ {routine : Routine} {reply handle session} {s s' : Stage} {after},
      Stage.perform routine reply handle session s = (.ok after, s') →
        after = handle.perform (routine.deeds reply handle session s) := by
    intro routine reply handle session s s' after h
    unfold Stage.perform Routine.run at h
    rcases hrun : Routine.runCommands ⟨reply, session⟩ routine handle s.ledger with
      ⟨result, ledger⟩
    rw [hrun] at h
    cases h
    exact Routine.runCommands_deeds _ _ _ _ hrun
  exact ⟨hperform, hperform⟩

end Parley

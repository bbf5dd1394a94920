/-
  Parley.Proofs.Callbacks
  ───────────────────────
  **WHAT A BATCH OF CALLBACKS DOES.**

  Callbacks are called for three reasons, which differ in what the world is
  asked and in what is noted (`Calling`).  Whatever the reason, a batch of them
  goes from an environment to an outcome in one way:

    • `Relay` — callbacks run in order, each with the handle that the world
      handed back to the one before, up to the first that fails,
    • `Batch` — before that the session is made which they share,
    • `batch_iff` — the engine runs every batch so, and the outcome of a batch
      is that of the engine alone,
    • `…_confined` — so a batch touches nothing that is saved.
-/
import Parley.Dialog
import Parley.Proofs.Act

namespace Parley

variable {σ H : Type}

/-! ## §1. Batches. -/

/-- How callbacks of one kind are called. -/
structure Calling (σ H : Type) where
  /-- What the world is asked. -/
  op : H → Handle → Session → σ → Except Fault Handle × σ
  /-- What is noted of a call. -/
  event : H → Handle → Bool → Event H

namespace World

variable (w : World σ H)

/-- Callbacks for the entry of a thread. -/
def entering : Calling σ H := ⟨w.atEntry, .entryCall⟩

/-- Callbacks for a variable that took a reply. -/
def changing (reply : String) : Calling σ H :=
  ⟨fun h => w.atReply h reply, fun h => .changeCall h reply⟩

/-- The callback of a branch that was chosen for a reply. -/
def branching (reply : String) : Calling σ H :=
  ⟨fun h => w.atReply h reply, fun h => .branchCall h reply⟩

end World

/-- One call. -/
def Calling.call (c : Calling σ H) (session : Session) (h : H) (handle : Handle) :
    Act σ H Handle :=
  .call (c.event h handle) (c.op h handle session)

/-- Callbacks run one after the other, from an environment to an outcome: the
world hands each a handle back, which the next one gets, and the first that
fails ends it.  Only the state of the world changes. -/
inductive Relay (c : Calling σ H) (session : Session) :
    List H → Handle → Env σ → Outcome σ H Handle → Prop
  /-- No callback is left. -/
  | done (handle : Handle) (env : Env σ) : Relay c session [] handle env ⟨.ok handle, env, []⟩
  /-- A callback fails; the ones after it do not run. -/
  | failed {h : H} {handle : Handle} {env : Env σ} {fault : Fault} {world : σ}
      (hcall : c.op h handle session env.world = (.error fault, world)) (rest : List H) :
      Relay c session (h :: rest) handle env
        ⟨.error fault, { env with world }, [c.event h handle false]⟩
  /-- A callback hands a handle on. -/
  | passed {h : H} {rest : List H} {handle after : Handle} {env env' : Env σ} {world : σ}
      {result : Except Fault Handle} {events : List (Event H)}
      (hcall : c.op h handle session env.world = (.ok after, world))
      (hmore : Relay c session rest after { env with world } ⟨result, env', events⟩) :
      Relay c session (h :: rest) handle env
        ⟨result, env', c.event h handle true :: events⟩

/-- A batch of callbacks with one session, which is made if there is a callback. -/
inductive Batch (w : World σ H) (c : Calling σ H) :
    List H → Handle → Env σ → Outcome σ H Handle → Prop
  /-- There is no callback. -/
  | empty (handle : Handle) (env : Env σ) : Batch w c [] handle env ⟨.ok handle, env, []⟩
  /-- No session is made, and no callback runs. -/
  | unspawned {batch : List H} {env : Env σ} {fault : Fault} {world : σ} (hne : batch ≠ [])
      (hspawn : w.spawn env.world = (.error fault, world)) (handle : Handle) :
      Batch w c batch handle env ⟨.error fault, { env with world }, [.spawned false]⟩
  /-- The callbacks run. -/
  | relayed {batch : List H} {handle : Handle} {env env' : Env σ} {session : Session}
      {world : σ} {result : Except Fault Handle} {events : List (Event H)} (hne : batch ≠ [])
      (hspawn : w.spawn env.world = (.ok session, world))
      (hrelay : Relay c session batch handle { env with world } ⟨result, env', events⟩) :
      Batch w c batch handle env ⟨result, env', .spawned true :: events⟩

namespace Handle

variable {h : Handle} {p target : Position}

/-- A handle redirects from a position to its own, if that is another. -/
theorem of_redirect? (hredirect : h.redirect? p = some target) :
    target = h.position ∧ target ≠ p := by
  unfold redirect? movedFrom at hredirect
  split at hredirect
  · rename_i hmoved
    cases hredirect
    exact ⟨rfl, by simpa using hmoved⟩
  · cases hredirect

/-- A handle that is at a position leads nowhere from there. -/
theorem redirect?_of_eq (hthere : h.position = p) : h.redirect? p = none := by
  unfold redirect? movedFrom
  rw [hthere, if_neg (by simp)]

/-- A handle that is elsewhere leads there. -/
theorem redirect?_of_ne (hmoved : h.position ≠ p) : h.redirect? p = some h.position := by
  unfold redirect? movedFrom
  rw [if_pos (bne_iff_ne.mpr hmoved)]

end Handle

/-- Where a callback leads that decides about a reply: where it moved the handle
to, or if it did not on to the line. -/
def Handle.routeFrom (after : Handle) (p : Position) : Route :=
  match after.redirect? p with
  | some target => .restart target
  | none => .onward

/-- Where a route leads elsewhere, the handle was moved there. -/
theorem Handle.of_routeFrom {after : Handle} {p target : Position}
    (h : after.routeFrom p = .restart target) : after.redirect? p = some target := by
  unfold routeFrom at h
  split at h
  · rename_i moved hmoved
    cases h
    exact hmoved
  · cases h

section Runs

variable {w : World σ H} {c : Calling σ H} {session : Session} {batch : List H}
  {handle : Handle} {env : Env σ} {o : Outcome σ H Handle}

/-- A relay changes nothing but the state of the world. -/
theorem Relay.env_eq (h : Relay c session batch handle env o) :
    o.env = { env with world := o.env.world } := by
  -- along the relay; each call changes the world and nothing else
  induction h with
  | done => rfl
  | failed => rfl
  | passed _ _ ih => exact ih

/-- A batch changes nothing but the state of the world. -/
theorem Batch.env_eq (h : Batch w c batch handle env o) :
    o.env = { env with world := o.env.world } := by
  cases h with
  | empty => rfl
  | unspawned => rfl
  | relayed _ _ hrelay => exact hrelay.env_eq

/-- A batch draws no random words. -/
theorem Batch.words (h : Batch w c batch handle env o) : o.env.words = env.words := by
  rw [h.env_eq]

/-- Every event of a relay is the call of one of its callbacks. -/
theorem Relay.kinds {kind : EventKind} (hkind : ∀ h handle ok, (c.event h handle ok).kind = kind)
    (h : Relay c session batch handle env o) : ∀ e ∈ o.events, e.kind = kind := by
  -- along the relay, one call an event
  induction h with
  | done => exact fun _ he => absurd he List.not_mem_nil
  | failed =>
    intro e he
    rw [List.mem_singleton.mp he]
    exact hkind _ _ false
  | passed _ _ ih => exact List.forall_mem_cons.mpr ⟨hkind _ _ true, ih⟩

/-- Every event of a batch is about its session, or the call of one of its callbacks. -/
theorem Batch.kinds {kind : EventKind} (hkind : ∀ h handle ok, (c.event h handle ok).kind = kind)
    (h : Batch w c batch handle env o) : ∀ e ∈ o.events, e.kind ∈ [.spawned, kind] := by
  cases h with
  | empty => exact fun _ he => absurd he List.not_mem_nil
  | unspawned =>
    intro e he
    rw [List.mem_singleton.mp he]
    exact List.mem_cons_self
  | relayed _ _ hrelay =>
    refine List.forall_mem_cons.mpr ⟨List.mem_cons_self, fun e he => ?_⟩
    rw [hrelay.kinds hkind e he]
    exact List.mem_cons_of_mem _ List.mem_cons_self

end Runs

namespace Dialog

variable (d : Dialog H) (w : World σ H) {c : Calling σ H}

/-- The engine hands a handle through callbacks as in a relay. -/
theorem passAlong_relay (session : Session) :
    ∀ (batch : List H) (handle : Handle) (env : Env σ),
      Relay c session batch handle env (passAlong (c.call session) batch handle env) := by
  intro batch
  -- along the batch; each callback hands its own handle and environment on
  induction batch with
  | nil => exact .done
  | cons h rest ih =>
    intro handle env
    unfold passAlong Calling.call
    rcases hcall : c.op h handle session env.world with ⟨result, world⟩
    cases result with
    | error fault =>
      rw [Act.bind_of_error (Act.call_of_op _ hcall)]
      exact .failed hcall rest
    | ok after =>
      rw [Act.bind_of_ok (Act.call_of_op _ hcall)]
      exact .passed hcall (ih after { env with world })

/-- A relay has no other outcome than that of the engine. -/
theorem passAlong_of_relay {session : Session} {batch : List H} {handle : Handle}
    {env : Env σ} {o : Outcome σ H Handle} (h : Relay c session batch handle env o) :
    passAlong (c.call session) batch handle env = o := by
  -- along the relay, as the engine runs it
  induction h with
  | done => rfl
  | failed hcall rest => exact Act.bind_of_error (Act.call_of_op _ hcall)
  | passed hcall _ ih =>
    refine (Act.bind_of_ok (Act.call_of_op _ hcall)).trans ?_
    rw [ih]
    rfl

/-- **A batch of callbacks** runs as `Batch` says, and in no other way. -/
theorem batch_iff {batch : List H} {handle : Handle} {env : Env σ} {o : Outcome σ H Handle} :
    Batch w c batch handle env o ↔ runBatch w c.call batch handle env = o := by
  constructor
  · intro h
    cases h with
    | empty => rfl
    | unspawned hne hspawn =>
      obtain ⟨h, rest, rfl⟩ := List.exists_cons_of_ne_nil hne
      exact Act.bind_of_error (Act.call_of_op .spawned hspawn)
    | relayed hne hspawn hrelay =>
      obtain ⟨h, rest, rfl⟩ := List.exists_cons_of_ne_nil hne
      refine (Act.bind_of_ok (Act.call_of_op .spawned hspawn)).trans ?_
      rw [passAlong_of_relay hrelay]
      rfl
  · rintro rfl
    cases batch with
    | nil => exact .empty handle env
    | cons h rest =>
      have hne : h :: rest ≠ [] := List.cons_ne_nil h rest
      show Batch w c (h :: rest) handle env
        ((spawn w >>= fun session => passAlong (c.call session) (h :: rest) handle) env)
      rcases hspawn : w.spawn env.world with ⟨result, world⟩
      have hmade : spawn w env = _ := Act.call_of_op .spawned hspawn
      cases result with
      | error fault =>
        -- no session is made, so no callback is tried
        rw [Act.bind_of_error hmade]
        exact .unspawned hne hspawn handle
      | ok session =>
        rw [Act.bind_of_ok hmade]
        exact .relayed hne hspawn (passAlong_relay session (h :: rest) handle { env with world })

/-- **The callbacks for the entry of a thread run as one batch.** -/
theorem runEntry_batch (thread : String) (handle : Handle) (env : Env σ) :
    Batch w w.entering (d.hooks.atEntry thread) handle env (d.runEntry w thread handle env) :=
  (batch_iff w).mpr rfl

/-- **The callbacks for a changed variable run as one batch**, all about the
same reply. -/
theorem runChange_batch (key reply : String) (handle : Handle) (env : Env σ) :
    Batch w (w.changing reply) (d.hooks.atChange key) handle env
      (d.runChange w key reply handle env) :=
  (batch_iff w).mpr rfl

/-- **The callback of a branch runs as a batch of its own**, and decides with the
handle that it hands back. -/
theorem runHandler_eq (h : H) (reply : String) (handle : Handle) :
    runHandler w h reply handle
      = (runBatch w (w.branching reply).call [h] handle >>= fun after =>
          pure (after.routeFrom handle.position, after.values)) := by
  show (spawn w >>= fun session => Act.call _ _ >>= fun after => pure _)
    = ((spawn w >>= fun session => Act.call _ _ >>= fun after => Act.answer after) >>= _)
  rw [bind_assoc]
  refine bind_congr fun session => ?_
  exact congrArg (· >>= _) (bind_pure _).symm

/-! ## §2. Batches leave the saved progress alone. -/

/-- Making a session brings its event. -/
theorem spawn_confined : Act.Confined [.spawned] (spawn w) :=
  .call w.spawn fun _ => List.mem_singleton.mpr rfl

/-- A batch brings what its callbacks bring. -/
theorem passAlong_confined {kinds : List EventKind} {call : H → Handle → Act σ H Handle}
    (hcall : ∀ h handle, Act.Confined kinds (call h handle)) :
    ∀ (batch : List H) (handle : Handle), Act.Confined kinds (passAlong call batch handle) := by
  intro batch
  -- along the batch, for any handle
  induction batch with
  | nil => intro handle; exact .answer handle
  | cons h rest ih =>
    intro handle
    exact (hcall h handle).bind ih

/-- A batch brings its session too. -/
theorem runBatch_confined {kinds : List EventKind}
    {call : Session → H → Handle → Act σ H Handle} (hspawned : .spawned ∈ kinds)
    (hcall : ∀ session h handle, Act.Confined kinds (call session h handle))
    (batch : List H) (handle : Handle) : Act.Confined kinds (runBatch w call batch handle) := by
  cases batch with
  | nil => exact .answer handle
  | cons h rest =>
    have hspawn : Act.Confined kinds (spawn w) := .call w.spawn fun _ => hspawned
    exact hspawn.bind fun session => passAlong_confined (hcall session) (h :: rest) handle

/-- The callbacks for the entry of a thread bring their session and their calls. -/
theorem runEntry_confined (thread : String) (handle : Handle) :
    Act.Confined [.spawned, .entryCall] (d.runEntry w thread handle) := by
  refine runBatch_confined w (by simp) ?_ _ _
  intro session h handle
  exact .call _ fun _ => by simp [Event.kind]

/-- So do those for a changed variable. -/
theorem runChange_confined (key reply : String) (handle : Handle) :
    Act.Confined [.spawned, .changeCall] (d.runChange w key reply handle) := by
  refine runBatch_confined w (by simp) ?_ _ _
  intro session h handle
  exact .call _ fun _ => by simp [Event.kind]

/-- Callbacks for the end bring one call each. -/
theorem tellAll_confined (session : Session) (values : Values) :
    ∀ batch : List H, Act.Confined [.spawned, .endCall] (tellAll w session values batch) := by
  intro batch
  -- along the batch
  induction batch with
  | nil => exact .answer ()
  | cons h rest ih =>
    exact (Act.Confined.call _ fun _ => by simp [Event.kind]).bind fun _ => ih

/-- The callbacks for the end bring their session and their calls, if there are any. -/
theorem runEnd_confined (values : Values) :
    Act.Confined [.spawned, .endCall] (d.runEnd w values) := by
  unfold runEnd
  cases d.hooks.ending with
  | nil => exact .answer ()
  | cons h rest =>
    exact ((spawn_confined w).mono (by simp)).bind
      fun session => tellAll_confined w session values (h :: rest)

/-- The callback of a branch brings its session and its call. -/
theorem runHandler_confined (h : H) (reply : String) (handle : Handle) :
    Act.Confined [.spawned, .branchCall] (runHandler w h reply handle) := by
  refine ((spawn_confined w).mono (by simp)).bind ?_
  intro session
  refine (Act.Confined.call _ fun _ => by simp [Event.kind]).bind ?_
  intro after
  exact .pure _

end Dialog

end Parley

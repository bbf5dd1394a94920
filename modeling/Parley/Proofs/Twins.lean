/-
  Parley.Proofs.Twins
  ───────────────────
  **TWO RUNS THAT COME TO THE SAME.**

  Two runs may differ in the state of the world, as far as a relation `R` allows,
  and in the random words to come.  Two acts are `Twins` if they come to the same
  in any such runs: the same result, the same progress saved, states that `R`
  allows again, and events that compare by a relation `E` between what happened.

  A relation between events is handed on by sequences if it holds between equal
  events, and between parts put together (`Comparison`).  The twins of each sort
  of act are found here, once for all such relations.
-/
import Mathlib.Data.List.Forall2
import Parley.Proofs.Callbacks

namespace Parley

variable {σ H α β : Type}

/-! ## §1. What is compared. -/

/-- Two calls on the world come to the same in two runs: from states that `R` relates they
have the same result, and leave such states. -/
def Agree (R : σ → σ → Prop) (op op' : σ → Except Fault α × σ) : Prop :=
  ∀ s s', R s s' → (op s).1 = (op' s').1 ∧ R (op s).2 (op' s').2

/-- The surroundings of two runs: their worlds are related, the same is saved, and any words
are to come. -/
structure Env.Matches (R : σ → σ → Prop) (env env' : Env σ) : Prop where
  /-- The states of the world are related. -/
  world : R env.world env'.world
  /-- The same progress is saved. -/
  saved : env.saved = env'.saved

/-- A way to compare what happens in two runs. -/
structure Comparison (E : List (Event H) → List (Event H) → Prop) : Prop where
  /-- What is the same compares. -/
  refl : ∀ events, E events events
  /-- What compares part by part compares. -/
  append : ∀ {first first' last last'}, E first first' → E last last' →
    E (first ++ last) (first' ++ last')

/-- Events may be compared by being the same list. -/
theorem Comparison.eq : Comparison (H := H) Eq :=
  ⟨fun _ => rfl, fun hfirst hlast => by rw [hfirst, hlast]⟩

/-- Events may be compared one by one, by any relation that holds of an event and itself. -/
theorem Comparison.forall₂ {alike : Event H → Event H → Prop} (h : ∀ e, alike e e) :
    Comparison (List.Forall₂ alike) :=
  ⟨fun _ => List.forall₂_same.mpr fun e _ => h e, fun hfirst hlast => List.rel_append hfirst hlast⟩

/-- Two outcomes that come to the same. -/
structure Outcome.Matches (R : σ → σ → Prop) (E : List (Event H) → List (Event H) → Prop)
    (o o' : Outcome σ H α) : Prop where
  /-- The results are the same. -/
  result : o.result = o'.result
  /-- What is left is alike. -/
  env : o.env.Matches R o'.env
  /-- What happened compares. -/
  events : E o.events o'.events

namespace Act

/-! ## §2. Twins. -/

/-- Two acts come to the same wherever two runs have got. -/
def Twins (R : σ → σ → Prop) (E : List (Event H) → List (Event H) → Prop)
    (act act' : Act σ H α) : Prop :=
  ∀ env env', Env.Matches R env env' → Outcome.Matches R E (act env) (act' env')

namespace Twins

variable {R : σ → σ → Prop} {E : List (Event H) → List (Event H) → Prop}

/-- Twins stay twins when less is asked of what happens. -/
theorem mono {E' : List (Event H) → List (Event H) → Prop} {act act' : Act σ H α}
    (h : Twins R E act act') (hE : ∀ events events', E events events' → E' events events') :
    Twins R E' act act' := by
  intro env env' henv
  obtain ⟨hresult, hleft, hevents⟩ := h env env' henv
  exact ⟨hresult, hleft, hE _ _ hevents⟩

/-- Calls that agree make twins, if their events compare whenever the calls go alike. -/
theorem call {event event' : Bool → Event H} {op op' : σ → Except Fault α × σ}
    (hop : Agree R op op') (hevent : ∀ ok, E [event ok] [event' ok]) :
    Twins R E (Act.call event op) (Act.call event' op') := by
  intro env env' henv
  obtain ⟨hresult, hworld⟩ := hop env.world env'.world henv.world
  refine ⟨hresult, ⟨hworld, henv.saved⟩, ?_⟩
  show E [event (succeeded (op env.world).1)] [event' (succeeded (op' env'.world).1)]
  -- the two events carry the same mark, for the results are the same
  rw [hresult]
  exact hevent _

/-- The two acts after drawing words: they get messages that may be worded differently. -/
theorem render_bind (draft : Draft) (values : Values) {next next' : Message → Act σ H β}
    (hnext : ∀ words words',
      Twins R E (next (draft.render values words).1) (next' (draft.render values words').1)) :
    Twins R E (Act.render draft values >>= next) (Act.render draft values >>= next') := by
  intro env env' henv
  rw [render_bind_apply, render_bind_apply]
  exact hnext _ _ _ _ ⟨henv.world, henv.saved⟩

variable (hE : Comparison E)

include hE

/-- The same answer in two runs. -/
theorem answer (a : α) : Twins R E (Act.answer a) (Act.answer a) :=
  fun _ _ henv => ⟨rfl, henv, hE.refl []⟩

theorem pure (a : α) : Twins R E (Pure.pure a) (Pure.pure a) := answer hE a

/-- The same failure in two runs. -/
theorem fail (fault : Fault) :
    Twins R E (Act.fail fault : Act σ H α) (Act.fail fault) :=
  fun _ _ henv => ⟨rfl, henv, hE.refl []⟩

/-- A result at hand is the same in both runs, whichever it is. -/
theorem ofExcept (result : Except Fault α) :
    Twins R E (Act.ofExcept result) (Act.ofExcept result) := by
  cases result with
  | error fault => exact fail hE fault
  | ok a => exact answer hE a

/-- The same event noted in two runs. -/
theorem note (event : Event H) : Twins R E (Act.note event) (Act.note event) :=
  fun _ _ henv => ⟨rfl, henv, hE.refl [event]⟩

/-- One call made in two runs, with one event for it. -/
theorem same {event : Bool → Event H} {op : σ → Except Fault α × σ} (hop : Agree R op op) :
    Twins R E (Act.call event op) (Act.call event op) :=
  call hop fun ok => hE.refl [event ok]

/-- Both runs read the same progress, for the same is saved in both. -/
theorem saved : Twins R E (Act.saved : Act σ H Progress) Act.saved := by
  intro env env' henv
  refine ⟨?_, henv, hE.refl []⟩
  show Except.ok env.saved = Except.ok env'.saved
  rw [henv.saved]

/-- Both runs save the same progress, and have it saved from then on. -/
theorem save (progress : Progress) :
    Twins R E (Act.save progress : Act σ H Unit) (Act.save progress) :=
  fun _ _ henv => ⟨rfl, ⟨henv.world, rfl⟩, hE.refl []⟩

/-- Both runs replace the saved values by the same ones. -/
theorem saveValues (values : Values) :
    Twins R E (Act.saveValues values : Act σ H Unit) (Act.saveValues values) := by
  intro env env' henv
  refine ⟨rfl, ⟨henv.world, ?_⟩, hE.refl []⟩
  show { env.saved with values } = { env'.saved with values }
  rw [henv.saved]

omit hE in
/-- To try twins is to get the same answer about how they went. -/
theorem attempt {act act' : Act σ H α} (h : Twins R E act act') :
    Twins R E (Act.attempt act) (Act.attempt act') := by
  intro env env' henv
  obtain ⟨hresult, hleft, hevents⟩ := h env env' henv
  exact ⟨congrArg Except.ok hresult, hleft, hevents⟩

/-- **Sequences of twins are twins**, if for every answer what follows are twins. -/
theorem bind {act act' : Act σ H α} {next next' : α → Act σ H β} (hact : Twins R E act act')
    (hnext : ∀ a, Twins R E (next a) (next' a)) :
    Twins R E (act >>= next) (act' >>= next') := by
  intro env env' henv
  obtain ⟨hresult, hleft, hevents⟩ := hact env env' henv
  rcases h : act env with ⟨result, after, events⟩
  rcases h' : act' env' with ⟨result', after', events'⟩
  rw [h, h'] at hresult hleft hevents
  change result = result' at hresult
  -- one result decides whether either sequence goes on
  subst hresult
  cases result with
  | error fault =>
    rw [bind_of_error h, bind_of_error h']
    exact ⟨rfl, hleft, hevents⟩
  | ok a =>
    rw [bind_of_ok h, bind_of_ok h']
    obtain ⟨hlast, hdone, hmore⟩ := hnext a after after' hleft
    exact ⟨hlast, hdone, hE.append hevents hmore⟩

end Twins

end Act

/-! ## §3. Callbacks. -/

namespace Dialog

variable {R : σ → σ → Prop} {E : List (Event H) → List (Event H) → Prop} (hE : Comparison E)
  (d : Dialog H) {w : World σ H}

include hE

/-- Callbacks that are twins one by one are so along a batch. -/
theorem passAlong_twins {call : H → Handle → Act σ H Handle}
    (hcall : ∀ h handle, Act.Twins R E (call h handle) (call h handle)) :
    ∀ (batch : List H) (handle : Handle),
      Act.Twins R E (passAlong call batch handle) (passAlong call batch handle) := by
  intro batch
  -- along the batch, for any handle: the second callback gets what the first hands back
  induction batch with
  | nil => intro handle; exact .answer hE handle
  | cons h rest ih =>
    intro handle
    exact (hcall h handle).bind hE ih

/-- A batch is run alike in both runs, with the session that is made for it. -/
theorem runBatch_twins (hspawn : Agree R w.spawn w.spawn)
    {call : Session → H → Handle → Act σ H Handle}
    (hcall : ∀ session h handle, Act.Twins R E (call session h handle) (call session h handle))
    (batch : List H) (handle : Handle) :
    Act.Twins R E (runBatch w call batch handle) (runBatch w call batch handle) := by
  -- only a batch with callbacks makes a session
  cases batch with
  | nil => exact .answer hE handle
  | cons h rest =>
    have hmade : Act.Twins R E (spawn w) (spawn w) := .same hE hspawn
    exact hmade.bind hE fun session => passAlong_twins hE (hcall session) (h :: rest) handle

/-- Callbacks for the end that agree one by one do so along their batch. -/
theorem tellAll_twins (hatEnd : ∀ h values session,
      Agree R (w.atEnd h values session) (w.atEnd h values session))
    (session : Session) (values : Values) :
    ∀ batch : List H,
      Act.Twins R E (tellAll w session values batch) (tellAll w session values batch) := by
  intro batch
  -- along the batch; the variables told stay the same
  induction batch with
  | nil => exact .answer hE ()
  | cons h rest ih => exact (Act.Twins.same hE (hatEnd h values session)).bind hE fun _ => ih

/-- **The callbacks for the end of a dialog do the same in both runs.** -/
theorem runEnd_twins (hspawn : Agree R w.spawn w.spawn)
    (hatEnd : ∀ h values session,
      Agree R (w.atEnd h values session) (w.atEnd h values session)) (values : Values) :
    Act.Twins R E (d.runEnd w values) (d.runEnd w values) := by
  unfold runEnd
  cases d.hooks.ending with
  | nil => exact .answer hE ()
  | cons h rest =>
    have hmade : Act.Twins R E (spawn w) (spawn w) := .same hE hspawn
    exact hmade.bind hE fun session => tellAll_twins hE hatEnd session values (h :: rest)

end Dialog

end Parley

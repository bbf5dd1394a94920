/-
  Parley.Proofs.Act
  ─────────────────
  **REASONING ABOUT ACTS.**

  An act is run in an environment and leaves an outcome.  What follows about a
  sequence of acts is said once, here, for all sequences:

    • `bind_cases` — a sequence fails in its first act or goes on with the
      answer of that act; its events are those of the acts in order,
    • `Confined` — the saved progress plays no part and only events of given
      kinds happen,
    • `Lacks` — no event of a given kind happens,
    • `Yields` — an answer, if there is one, has a property,
    • `Brings` — every event has a property.

  Each is closed under sequencing, so that a function of the engine has one
  lemma of each sort, made from the lemmas of the functions it calls.
-/
import Parley.World

namespace Parley

variable {σ H α β γ : Type}

/-! ## §1. Kinds of events. -/

/-- What an event is about, whatever its particulars. -/
inductive EventKind where
  | reached
  | captured
  | offered
  | sent
  | prompted
  | spawned
  | entryCall
  | changeCall
  | branchCall
  | endCall
  | finished
  | handedOver
  deriving DecidableEq, Repr

namespace Event

/-- The kind of an event. -/
def kind : Event H → EventKind
  | reached _ => .reached
  | captured .. => .captured
  | offered .. => .offered
  | sent .. => .sent
  | prompted .. => .prompted
  | spawned _ => .spawned
  | entryCall .. => .entryCall
  | changeCall .. => .changeCall
  | branchCall .. => .branchCall
  | endCall .. => .endCall
  | finished .. => .finished
  | handedOver .. => .handedOver

/-- The position that is reached, if the event is about that. -/
def reached? : Event H → Option Position
  | reached position => some position
  | _ => none

/-- An event about anything else names no position. -/
theorem reached?_eq_none {e : Event H} (h : e.kind ≠ .reached) : e.reached? = none := by
  cases e with
  | reached position => exact absurd rfl h
  | _ => rfl

end Event

/-- The positions that are resolved, in order. -/
def visited (events : List (Event H)) : List Position := events.filterMap Event.reached?

@[simp] theorem visited_nil : visited ([] : List (Event H)) = [] := rfl

@[simp] theorem visited_reached (p : Position) (events : List (Event H)) :
    visited (.reached p :: events) = p :: visited events := rfl

/-- The positions of a trace in two parts are those of the parts, in order. -/
@[simp] theorem visited_append (first last : List (Event H)) :
    visited (first ++ last) = visited first ++ visited last :=
  List.filterMap_append

/-- A trace in which no position is resolved has none to list. -/
theorem visited_eq_nil {events : List (Event H)} (h : ∀ e ∈ events, e.kind ≠ .reached) :
    visited events = [] := by
  refine List.filterMap_eq_nil_iff.mpr ?_
  intro e he
  exact Event.reached?_eq_none (h e he)

/-! ## §2. Sequences. -/

namespace Outcome

/-- An outcome with earlier events put before its own. -/
def after (events : List (Event H)) (o : Outcome σ H α) : Outcome σ H α :=
  { o with events := events ++ o.events }

@[simp] theorem after_result (events : List (Event H)) (o : Outcome σ H α) :
    (o.after events).result = o.result := rfl

@[simp] theorem after_env (events : List (Event H)) (o : Outcome σ H α) :
    (o.after events).env = o.env := rfl

@[simp] theorem after_events (events : List (Event H)) (o : Outcome σ H α) :
    (o.after events).events = events ++ o.events := rfl

@[simp] theorem after_nil (o : Outcome σ H α) : o.after [] = o := rfl

/-- Events put before an outcome in two steps are put there in one. -/
theorem after_after (first second : List (Event H)) (o : Outcome σ H α) :
    (o.after second).after first = o.after (first ++ second) := by
  simp only [after, List.append_assoc]

/-- An outcome with other progress saved. -/
def withSaved (o : Outcome σ H α) (saved : Progress) : Outcome σ H α :=
  { o with env := { o.env with saved } }

@[simp] theorem withSaved_result (o : Outcome σ H α) (saved : Progress) :
    (o.withSaved saved).result = o.result := rfl

@[simp] theorem withSaved_events (o : Outcome σ H α) (saved : Progress) :
    (o.withSaved saved).events = o.events := rfl

end Outcome

namespace Act

@[simp] theorem pure_apply (a : α) (env : Env σ) :
    (pure a : Act σ H α) env = ⟨.ok a, env, []⟩ := rfl

@[simp] theorem note_apply (event : Event H) (env : Env σ) :
    (note event : Act σ H Unit) env = ⟨.ok (), env, [event]⟩ := rfl

@[simp] theorem saved_apply (env : Env σ) :
    (saved : Act σ H Progress) env = ⟨.ok env.saved, env, []⟩ := rfl

@[simp] theorem save_apply (progress : Progress) (env : Env σ) :
    (save progress : Act σ H Unit) env = ⟨.ok (), { env with saved := progress }, []⟩ := rfl

@[simp] theorem saveValues_apply (values : Values) (env : Env σ) :
    (saveValues values : Act σ H Unit) env
      = ⟨.ok (), { env with saved := { env.saved with values } }, []⟩ := rfl

@[simp] theorem render_apply (draft : Draft) (values : Values) (env : Env σ) :
    (render draft values : Act σ H Message) env
      = ⟨.ok (draft.render values env.words).1,
          { env with words := (draft.render values env.words).2 }, []⟩ := rfl

/-- A sequence whose first act answers goes on with that answer. -/
theorem bind_of_ok {act : Act σ H α} {next : α → Act σ H β} {env env' : Env σ} {a : α}
    {events : List (Event H)} (h : act env = ⟨.ok a, env', events⟩) :
    (act >>= next) env = (next a env').after events := by
  show andThen act next env = _
  unfold andThen
  rw [h]
  rfl

/-- A sequence whose first act fails ends there. -/
theorem bind_of_error {act : Act σ H α} {next : α → Act σ H β} {env env' : Env σ}
    {fault : Fault} {events : List (Event H)} (h : act env = ⟨.error fault, env', events⟩) :
    (act >>= next) env = ⟨.error fault, env', events⟩ := by
  show andThen act next env = _
  unfold andThen
  rw [h]

/-- A sequence whose first act does what another one does elsewhere, after some events. -/
theorem bind_of_after {act act' : Act σ H α} {next : α → Act σ H β} {env env' : Env σ}
    {events : List (Event H)} (h : act env = (act' env').after events) :
    (act >>= next) env = ((act' >>= next) env').after events := by
  rcases h' : act' env' with ⟨result, env'', last⟩
  rw [h'] at h
  -- what the second act answers decides whether the rest is run at all
  cases result with
  | error fault => rw [bind_of_error h, bind_of_error h']; rfl
  | ok a => rw [bind_of_ok h, bind_of_ok h', Outcome.after_after]

/-- **What a sequence of two acts can do.** -/
theorem bind_cases (act : Act σ H α) (next : α → Act σ H β) (env : Env σ) :
    (∃ fault env' events, act env = ⟨.error fault, env', events⟩
        ∧ (act >>= next) env = ⟨.error fault, env', events⟩)
      ∨ (∃ a env' events, act env = ⟨.ok a, env', events⟩
        ∧ (act >>= next) env = (next a env').after events) := by
  rcases h : act env with ⟨result, env', events⟩
  cases result with
  | error fault => exact .inl ⟨fault, env', events, rfl, bind_of_error h⟩
  | ok a => exact .inr ⟨a, env', events, rfl, bind_of_ok h⟩

/-- An event of a sequence is one of its first act, or of the second, wherever that began. -/
theorem mem_events_bind {act : Act σ H α} {next : α → Act σ H β} {env : Env σ} {e : Event H}
    (he : e ∈ ((act >>= next) env).events) :
    e ∈ (act env).events ∨ ∃ a env', e ∈ (next a env').events := by
  -- a failure ends the sequence, and then all its events are the first act's
  rcases bind_cases act next env with ⟨fault, env', events, h, h'⟩ | ⟨a, env', events, h, h'⟩
  · rw [h'] at he
    rw [h]
    exact .inl he
  · rw [h'] at he
    rw [h]
    exact (List.mem_append.mp he).imp_right fun hlast => ⟨a, env', hlast⟩

/-- What a call on the world does, once it is known what the world does. -/
theorem call_of_op (event : Bool → Event H) {op : σ → Except Fault α × σ} {env : Env σ}
    {result : Except Fault α} {s : σ} (h : op env.world = (result, s)) :
    call event op env = ⟨result, { env with world := s }, [event (succeeded result)]⟩ := by
  unfold call
  rw [h]

/-- **What a call on the world can do.** -/
theorem call_cases (event : Bool → Event H) (op : σ → Except Fault α × σ) (env : Env σ) :
    (∃ fault world, call event op env = ⟨.error fault, { env with world }, [event false]⟩)
      ∨ (∃ a world, call event op env = ⟨.ok a, { env with world }, [event true]⟩) := by
  unfold call
  rcases op env.world with ⟨result, world⟩
  cases result with
  | error fault => exact .inl ⟨fault, world, rfl⟩
  | ok a => exact .inr ⟨a, world, rfl⟩

/-- An attempt answers how the act went. -/
theorem attempt_of {act : Act σ H α} {env : Env σ} {o : Outcome σ H α} (h : act env = o) :
    attempt act env = ⟨.ok o.result, o.env, o.events⟩ := by
  rw [← h]
  rfl

/-- A sequence that starts with an answer is what follows it. -/
@[simp] theorem pure_bind_apply (a : α) (next : α → Act σ H β) (env : Env σ) :
    (pure a >>= next) env = next a env := by
  rw [bind_of_ok (pure_apply a env), Outcome.after_nil]

/-- A note is the first event of the sequence it starts. -/
@[simp] theorem note_bind_apply (event : Event H) (next : Unit → Act σ H β) (env : Env σ) :
    (note event >>= next) env = (next () env).after [event] :=
  bind_of_ok (note_apply event env)

/-- Reading the saved progress hands it to what follows and leaves no event. -/
@[simp] theorem saved_bind_apply (next : Progress → Act σ H β) (env : Env σ) :
    (saved >>= next) env = next env.saved env := by
  rw [bind_of_ok (saved_apply env), Outcome.after_nil]

/-- What follows a saving runs with that progress saved. -/
@[simp] theorem save_bind_apply (progress : Progress) (next : Unit → Act σ H β) (env : Env σ) :
    (save progress >>= next) env = next () { env with saved := progress } := by
  rw [bind_of_ok (save_apply progress env), Outcome.after_nil]

/-- What follows a saving of values runs with only the values replaced. -/
@[simp] theorem saveValues_bind_apply (values : Values) (next : Unit → Act σ H β)
    (env : Env σ) :
    (saveValues values >>= next) env
      = next () { env with saved := { env.saved with values } } := by
  rw [bind_of_ok (saveValues_apply values env), Outcome.after_nil]

/-- What follows a rendering gets the message and the words left over. -/
@[simp] theorem render_bind_apply (draft : Draft) (values : Values)
    (next : Message → Act σ H β) (env : Env σ) :
    (render draft values >>= next) env
      = next (draft.render values env.words).1
          { env with words := (draft.render values env.words).2 } := by
  rw [bind_of_ok (render_apply draft values env), Outcome.after_nil]

/-- An act whose answer is put through a function. -/
theorem bind_pure_apply (act : Act σ H α) (f : α → β) (env : Env σ) :
    (act >>= fun a => pure (f a)) env
      = ⟨(act env).result.map f, (act env).env, (act env).events⟩ := by
  rcases h : act env with ⟨result, env', events⟩
  cases result with
  | error fault => rw [bind_of_error h]; rfl
  | ok a =>
    rw [bind_of_ok h]
    simp [Outcome.after, Except.map]

/-- Passing an answer on unchanged adds nothing: the right unit law. -/
theorem bind_pure_id (act : Act σ H α) : (act >>= fun a => pure (id a)) = act := by
  funext env
  rcases h : act env with ⟨result, env', events⟩
  cases result with
  | error fault => rw [bind_of_error h]
  | ok a =>
    rw [bind_of_ok h]
    simp [Outcome.after]

/-- **Sequencing is associative**, failures and events included. -/
theorem bind_bind (act : Act σ H α) (next : α → Act σ H β) (last : β → Act σ H γ) :
    (act >>= next >>= last) = act >>= fun a => next a >>= last := by
  funext env
  rcases h : act env with ⟨result, env', events⟩
  -- an act that fails ends both sequences; else the second act decides in both
  cases result with
  | error fault => rw [bind_of_error h, bind_of_error (bind_of_error h)]
  | ok a =>
    rw [bind_of_ok h]
    have hfirst : (act >>= next) env = (next a env').after events := bind_of_ok h
    rcases h' : next a env' with ⟨result', env'', events'⟩
    rw [h'] at hfirst
    cases result' with
    | error fault =>
      rw [bind_of_error h', bind_of_error hfirst]
      rfl
    | ok b => rw [bind_of_ok h', bind_of_ok hfirst, Outcome.after_after]

instance : LawfulMonad (Act σ H) :=
  LawfulMonad.mk' (Act σ H) bind_pure_id (fun a next => funext (pure_bind_apply a next)) bind_bind

/-! ## §3. Acts in which the saved progress plays no part. -/

/-- The act neither looks at the saved progress nor changes it, and only events
of the given kinds happen in it. -/
structure Confined (kinds : List EventKind) (act : Act σ H α) : Prop where
  /-- With other progress saved it does the same. -/
  apart : ∀ env saved, act { env with saved } = (act env).withSaved saved
  /-- Every event is of one of the kinds. -/
  events : ∀ env, ∀ e ∈ (act env).events, e.kind ∈ kinds

namespace Confined

variable {kinds kinds' : List EventKind}

/-- The saved progress stays as it was. -/
theorem saved {act : Act σ H α} (h : Confined kinds act) (env : Env σ) :
    (act env).env.saved = env.saved := by
  have hsame := h.apart env env.saved
  show (act { env with saved := env.saved }).env.saved = env.saved
  rw [hsame]
  rfl

/-- An act confined to some kinds is confined to more. -/
theorem mono {act : Act σ H α} (h : Confined kinds act) (hsub : kinds ⊆ kinds') :
    Confined kinds' act :=
  ⟨h.apart, fun env e he => hsub (h.events env e he)⟩

/-- An answer has no event and leaves the environment alone. -/
theorem answer (a : α) : Confined kinds (Act.answer a : Act σ H α) :=
  ⟨fun _ _ => rfl, fun _ _ he => absurd he List.not_mem_nil⟩

theorem pure (a : α) : Confined kinds (Pure.pure a : Act σ H α) := answer a

/-- A failure has no event and leaves the environment alone. -/
theorem fail (fault : Fault) : Confined kinds (Act.fail fault : Act σ H α) :=
  ⟨fun _ _ => rfl, fun _ _ he => absurd he List.not_mem_nil⟩

/-- A result already at hand is an answer or a failure, and confined as both are. -/
theorem ofExcept (result : Except Fault α) :
    Confined kinds (Act.ofExcept result : Act σ H α) := by
  cases result with
  | error fault => exact fail fault
  | ok a => exact answer a

/-- A note is confined to any kinds with that of its event. -/
theorem note {event : Event H} (h : event.kind ∈ kinds) :
    Confined kinds (Act.note event : Act σ H Unit) := by
  refine ⟨fun _ _ => rfl, ?_⟩
  intro env e he
  rw [List.mem_singleton.mp he]
  exact h

/-- A call on the world is confined to the kind of its event, whether it succeeds or not. -/
theorem call {event : Bool → Event H} (op : σ → Except Fault α × σ)
    (h : ∀ ok, (event ok).kind ∈ kinds) : Confined kinds (Act.call event op) := by
  refine ⟨fun _ _ => rfl, ?_⟩
  intro env e he
  rw [List.mem_singleton.mp he]
  exact h _

/-- A rendering uses words only: no event, and no look at the progress. -/
theorem render (draft : Draft) (values : Values) :
    Confined kinds (Act.render draft values : Act σ H Message) :=
  ⟨fun _ _ => rfl, fun _ _ he => absurd he List.not_mem_nil⟩

/-- An attempt is confined as the act it tries. -/
theorem attempt {act : Act σ H α} (h : Confined kinds act) :
    Confined kinds (Act.attempt act) := by
  refine ⟨?_, h.events⟩
  intro env saved
  unfold Act.attempt
  rw [h.apart env saved]
  rfl

/-- **A sequence is confined if both its acts are**, the second for every answer. -/
theorem bind {act : Act σ H α} {next : α → Act σ H β} (hact : Confined kinds act)
    (hnext : ∀ a, Confined kinds (next a)) : Confined kinds (act >>= next) := by
  constructor
  · -- the first act answers the same, so the second is the same act
    intro env saved
    have hother := hact.apart env saved
    rcases bind_cases act next env with ⟨fault, env', events, h, h'⟩ | ⟨a, env', events, h, h'⟩
    · rw [h] at hother
      rw [h', bind_of_error hother]
      rfl
    · rw [h] at hother
      rw [h', bind_of_ok hother, (hnext a).apart env' saved]
      rfl
  -- an event is one of either act, and both keep to the kinds
  · intro env e he
    rcases mem_events_bind he with hfirst | ⟨a, env', hlast⟩
    · exact hact.events env e hfirst
    · exact (hnext a).events env' e hlast

end Confined

/-- No event of the kind happens in the act. -/
def Lacks (kind : EventKind) (act : Act σ H α) : Prop :=
  ∀ env, ∀ e ∈ (act env).events, e.kind ≠ kind

namespace Lacks

variable {kind : EventKind}

/-- An act confined to other kinds has no event of this one. -/
theorem of_confined {kinds : List EventKind} {act : Act σ H α} (h : Confined kinds act)
    (hkind : kind ∉ kinds) : Lacks kind act := by
  intro env e he hsame
  exact hkind (hsame ▸ h.events env e he)

theorem pure (a : α) : Lacks kind (Pure.pure a : Act σ H α) :=
  fun _ _ he => absurd he List.not_mem_nil

/-- A note of another kind is no event of this one. -/
theorem note {event : Event H} (h : event.kind ≠ kind) :
    Lacks kind (Act.note event : Act σ H Unit) := by
  intro env e he
  rw [List.mem_singleton.mp he]
  exact h

/-- Saving values is no event. -/
theorem saveValues (values : Values) : Lacks kind (Act.saveValues values : Act σ H Unit) :=
  fun _ _ he => absurd he List.not_mem_nil

/-- A sequence lacks the kind if both its acts do. -/
theorem bind {act : Act σ H α} {next : α → Act σ H β} (hact : Lacks kind act)
    (hnext : ∀ a, Lacks kind (next a)) : Lacks kind (act >>= next) := by
  intro env e he
  rcases mem_events_bind he with hfirst | ⟨a, env', hlast⟩
  · exact hact env e hfirst
  · exact hnext a env' e hlast

/-- No position is resolved in an act without such events. -/
theorem visited_eq_nil {act : Act σ H α} (h : Lacks .reached act) (env : Env σ) :
    visited (act env).events = [] :=
  Parley.visited_eq_nil (h env)

end Lacks

/-! ## §4. Answers with a property. -/

/-- Whatever the act answers has the property. -/
def Yields (property : α → Prop) (act : Act σ H α) : Prop :=
  ∀ env a, (act env).result = .ok a → property a

namespace Yields

variable {p : α → Prop} {q : β → Prop}

/-- A single answer has whatever property its value has. -/
theorem answer {a : α} (h : p a) : Yields p (Act.answer a : Act σ H α) := by
  intro env b hb
  cases hb
  exact h

theorem pure {a : α} (h : p a) : Yields p (Pure.pure a : Act σ H α) := answer h

/-- A failure answers nothing, so every property holds of what it answers. -/
theorem fail (fault : Fault) : Yields p (Act.fail fault : Act σ H α) := by
  intro env b hb
  cases hb

/-- Every act yields an answer of which nothing is said. -/
theorem trivial (act : Act σ H α) : Yields (fun _ => True) act := fun _ _ _ => True.intro

/-- **Properties of answers compose**: what the first act yields is what the second may assume. -/
theorem bind {act : Act σ H α} {next : α → Act σ H β} (hact : Yields p act)
    (hnext : ∀ a, p a → Yields q (next a)) : Yields q (act >>= next) := by
  intro env b hb
  have hp := hact env
  -- a sequence that answers got past its first act
  rcases bind_cases act next env with ⟨fault, env', events, h, h'⟩ | ⟨a, env', events, h, h'⟩
  · rw [h'] at hb
    cases hb
  · rw [h] at hp
    rw [h'] at hb
    exact hnext a (hp a rfl) env' b hb

/-- A sequence whose first answer does not matter. -/
theorem seq {act : Act σ H α} {next : α → Act σ H β} (hnext : ∀ a, Yields q (next a)) :
    Yields q (act >>= next) :=
  bind (trivial act) fun a _ => hnext a

end Yields

/-! ## §5. Events with a property. -/

/-- Every event of the act has the property. -/
def Brings (property : Event H → Prop) (act : Act σ H α) : Prop :=
  ∀ env, ∀ e ∈ (act env).events, property e

namespace Brings

variable {p : Event H → Prop}

/-- A property of all events of some kinds is one of every event of an act confined to them. -/
theorem of_confined {kinds : List EventKind} {act : Act σ H α} (h : Confined kinds act)
    (hp : ∀ e : Event H, e.kind ∈ kinds → p e) : Brings p act :=
  fun env e he => hp e (h.events env e he)

theorem pure (a : α) : Brings p (Pure.pure a : Act σ H α) :=
  fun _ _ he => absurd he List.not_mem_nil

/-- A note brings its own event. -/
theorem note {event : Event H} (h : p event) : Brings p (Act.note event : Act σ H Unit) := by
  intro env e he
  rw [List.mem_singleton.mp he]
  exact h

/-- A call on the world brings its event, with the mark of success or the one of failure. -/
theorem call {event : Bool → Event H} (op : σ → Except Fault α × σ) (h : ∀ ok, p (event ok)) :
    Brings p (Act.call event op) := by
  intro env e he
  rw [List.mem_singleton.mp he]
  exact h _

/-- Both acts of a sequence bring events with the property, so the sequence does. -/
theorem bind {act : Act σ H α} {next : α → Act σ H β} (hact : Brings p act)
    (hnext : ∀ a, Brings p (next a)) : Brings p (act >>= next) := by
  intro env e he
  rcases mem_events_bind he with hfirst | ⟨a, env', hlast⟩
  · exact hact env e hfirst
  · exact hnext a env' e hlast

end Brings

end Act

end Parley

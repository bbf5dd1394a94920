/-
  Parley.Proofs.Bounds
  ────────────────────
  **WHAT A TURN CAN COST.**

  A script may lead round in circles, by orders or by callbacks.  A turn ends
  all the same, since every visit takes one line of the budget, whatever its
  position:

    • `Tally` — a count of events; that of a whole is at most the sum of those
      of its parts,
    • `visit_costs` — what a visit costs is what its parts cost,
    • `loopAt_costs` — visits that cost at most one each make a loop that costs
      at most its budget,
    • `loopAt_costs_once` — what only a reply can bring is paid for once,
    • `serve_bounded` — the bounds of a turn.
-/
import Parley.Proofs.Ending

namespace Parley

variable {σ H α β : Type}

/-! ## §1. Tallies. -/

/-- Whether a delivery to the user succeeds. -/
def Event.delivers : Event H → Bool
  | .sent _ ok | .prompted _ _ _ ok => ok
  | _ => false

/-- Whether a question is asked with success. -/
def Event.asks : Event H → Bool
  | .prompted _ _ _ ok => ok
  | _ => false

/-- The number of batches of one kind: the stretches of events of that kind, with
none of another kind between. -/
def stretches (kind : EventKind) : List (Event H) → Nat
  | [] => 0
  | e :: rest =>
    if e.kind = kind ∧ rest.head?.map Event.kind ≠ some kind then stretches kind rest + 1
    else stretches kind rest

/-- An event opens a stretch unless the next one continues it: stretches are counted at their last
event. -/
theorem stretches_cons (kind : EventKind) (e : Event H) (rest : List (Event H)) :
    stretches kind (e :: rest)
      = if e.kind = kind ∧ rest.head?.map Event.kind ≠ some kind then stretches kind rest + 1
        else stretches kind rest := rfl

/-- Two traces put together have no more stretches than they have apart. -/
theorem stretches_append_le (kind : EventKind) (first last : List (Event H)) :
    stretches kind (first ++ last) ≤ stretches kind first + stretches kind last := by
  -- along the first list; only at its last event can two stretches become one
  induction first with
  | nil => simp [stretches]
  | cons e first ih =>
    rw [List.cons_append, stretches_cons, stretches_cons]
    cases first with
    | nil =>
      simp only [List.nil_append, stretches]
      split
      · rename_i hopens
        rw [if_pos ⟨hopens.1, by simp⟩]
        omega
      · exact Nat.le_add_left _ _
    | cons e' first =>
      rw [show ((e' :: first) ++ last).head? = (e' :: first).head? from rfl]
      split <;> omega

/-- Without an event of a kind there is no stretch of it. -/
theorem stretches_eq_zero {kind : EventKind} {events : List (Event H)}
    (h : ∀ e ∈ events, e.kind ≠ kind) : stretches kind events = 0 := by
  induction events with
  | nil => rfl
  | cons e events ih =>
    rw [stretches_cons, if_neg fun hends => h e List.mem_cons_self hends.1]
    exact ih fun e he => h e (List.mem_cons_of_mem _ he)

/-- Events of one kind are one stretch. -/
theorem stretches_le_one {kind : EventKind} {events : List (Event H)}
    (h : ∀ e ∈ events, e.kind = kind) : stretches kind events ≤ 1 := by
  induction events with
  | nil => exact Nat.zero_le 1
  | cons e events ih =>
    -- all but the last event are followed by one of their kind
    cases events with
    | nil =>
      rw [stretches_cons]
      split <;> simp [stretches]
    | cons e' events =>
      have hnext : e'.kind = kind := h e' (by simp)
      rw [stretches_cons, if_neg (by simp [hnext])]
      exact ih fun e he => h e (List.mem_cons_of_mem _ he)

/-- A count of events of some kinds. -/
structure Tally (H : Type) where
  /-- The count. -/
  count : List (Event H) → Nat
  /-- The kinds of events that are counted. -/
  kinds : List EventKind
  /-- The count of a whole is at most the sum of those of its parts. -/
  append_le : ∀ first last, count (first ++ last) ≤ count first + count last
  /-- Events of other kinds are not counted. -/
  quiet : ∀ events, (∀ e ∈ events, e.kind ∉ kinds) → count events = 0

namespace Tally

/-- The number of events with a property, which those of some kinds can have. -/
def ofEvents (p : Event H → Bool) (kinds : List EventKind)
    (h : ∀ e, p e = true → e.kind ∈ kinds) : Tally H where
  count := List.countP p
  kinds := kinds
  append_le _ _ := Nat.le_of_eq List.countP_append
  quiet _ hquiet := List.countP_eq_zero.mpr fun e he hp => hquiet e he (h e hp)

/-- The number of batches of a kind. -/
def batches (kind : EventKind) : Tally H where
  count := stretches kind
  kinds := [kind]
  append_le := stretches_append_le kind
  quiet _ hquiet := stretches_eq_zero fun e he hkind => hquiet e he (by simp [hkind])

/-- The positions that are resolved. -/
def positions : Tally H :=
  ofEvents (fun e => e.kind = .reached) [.reached] (by simp)

/-- The deliveries to the user that succeed. -/
def deliveries : Tally H :=
  ofEvents Event.delivers [.sent, .prompted] (by
    intro e h
    cases e with
    | sent | prompted => simp [Event.kind]
    | _ => cases h)

/-- The questions that are asked with success. -/
def questions : Tally H :=
  ofEvents Event.asks [.prompted] (by
    intro e h
    cases e with
    | prompted => simp [Event.kind]
    | _ => cases h)

/-- The callbacks of branches. -/
def branchCalls : Tally H :=
  ofEvents (fun e => e.kind = .branchCall) [.branchCall] (by simp)

end Tally

/-- The positions listed are as many as those counted. -/
theorem length_visited (events : List (Event H)) :
    (visited events).length = Tally.positions.count events := by
  unfold visited
  rw [List.length_filterMap_eq_countP]
  show List.countP _ events = List.countP _ events
  refine List.countP_congr ?_
  intro e _
  cases e <;> simp [Event.reached?, Event.kind]

/-! ## §2. What acts cost. -/

namespace Act

/-- The act brings at most `n` of what is counted. -/
def Costs (t : Tally H) (n : Nat) (act : Act σ H α) : Prop :=
  ∀ env, t.count (act env).events ≤ n

namespace Costs

variable {t : Tally H} {m n : Nat}

/-- A bound may be raised. -/
theorem mono {act : Act σ H α} (h : Costs t m act) (hmn : m ≤ n) : Costs t n act :=
  fun env => Nat.le_trans (h env) hmn

/-- An act that lacks every counted kind costs nothing. -/
theorem of_lacks {act : Act σ H α} (h : ∀ kind ∈ t.kinds, Lacks kind act) :
    Costs t 0 act := by
  intro env
  refine Nat.le_of_eq (t.quiet _ ?_)
  intro e he hkind
  exact h e.kind hkind env e he rfl

/-- An act confined to kinds that are not counted costs nothing. -/
theorem of_confined {kinds : List EventKind} {act : Act σ H α} (h : Confined kinds act)
    (hkinds : ∀ kind ∈ t.kinds, kind ∉ kinds) : Costs t 0 act :=
  of_lacks fun kind hkind => .of_confined h (hkinds kind hkind)

/-- An answer costs nothing. -/
theorem pure (a : α) : Costs t 0 (Pure.pure a : Act σ H α) :=
  of_lacks fun _ _ => .pure a

/-- A note costs what its event counts. -/
theorem note {event : Event H} (h : t.count [event] ≤ n) :
    Costs t n (Act.note event : Act σ H Unit) :=
  fun _ => h

/-- A sequence costs what its acts cost. -/
theorem bind {act : Act σ H α} {next : α → Act σ H β} (hact : Costs t m act)
    (hnext : ∀ a, Costs t n (next a)) : Costs t (m + n) (act >>= next) := by
  intro env
  have hfirst := hact env
  -- a sequence that fails early costs only what its first act does
  rcases bind_cases act next env with ⟨fault, env', events, h, h'⟩ | ⟨a, env', events, h, h'⟩
  · rw [h] at hfirst
    rw [h']
    exact Nat.le_add_right_of_le hfirst
  · rw [h] at hfirst
    rw [h', Outcome.after_events]
    have hlast := hnext a env'
    have hsum := t.append_le events (next a env').events
    show t.count (events ++ (next a env').events) ≤ m + n
    have hfirst : t.count events ≤ m := hfirst
    omega

end Costs

end Act

namespace Dialog

variable (d : Dialog H) (w : World σ H)

/-! ## §3. What a visit costs. -/

/-- **A visit costs what its parts cost**: the note of its position, the
callbacks for the entry of a thread, what the reply leads to, and the line. -/
theorem visit_costs {t : Tally H} {reached entry answer line : Nat}
    (hreached : ∀ p, t.count [.reached p] ≤ reached)
    (hentry : ∀ previous step working, Act.Costs t entry (d.enter w previous step working))
    (hanswer : ∀ lines step working, Act.Costs t answer (d.answerBefore w lines step working))
    (hline : ∀ lines step working route,
      Act.Costs t line (d.lineRoute w lines step working route))
    (hroute : ∀ kind ∈ t.kinds, kind ∉ routeKinds) (lines : List (Line H)) (a : Place σ) :
    t.count (d.visitAt w lines a).events ≤ reached + (entry + (answer + line)) := by
  have hvisit : Act.Costs t (reached + (entry + (answer + (line + 0))))
      (d.visit w lines a.position a.cause a.reply a.working) := by
    -- the parts in order; the route at the end has no counted event
    rw [visit_eq]
    refine (Act.Costs.note (hreached a.position)).bind ?_
    intro _
    refine (hentry _ _ _).bind ?_
    rintro ⟨entered, redirect⟩
    cases redirect with
    | some target => exact (Act.Costs.pure _).mono (Nat.zero_le _)
    | none =>
      refine (hanswer lines _ entered).bind ?_
      intro answered
      refine (hline lines _ answered.1 answered.2).bind ?_
      intro led
      exact .of_confined (d.follow_confined w _ led.1 led.2) hroute
  exact hvisit a.env

section Parts

variable {t : Tally H}

/-- Entering a thread is free, unless its callbacks or their session are counted. -/
theorem enter_free (hkinds : ∀ kind ∈ t.kinds, kind ∉ [EventKind.spawned, .entryCall])
    (previous : String) (step : Step) (working : Progress) :
    Act.Costs t 0 (d.enter w previous step working) :=
  .of_confined (d.enter_confined w previous step working) hkinds

/-- Answering is free, unless something of a reply or of a branch is counted. -/
theorem answerBefore_free (hkinds : ∀ kind ∈ t.kinds, kind ∉ takingKinds ++ branchKinds)
    (lines : List (Line H)) (step : Step) (working : Progress) :
    Act.Costs t 0 (d.answerBefore w lines step working) :=
  .of_lacks fun kind hkind => d.answerBefore_lacks w (hkinds kind hkind) lines step working

/-- The line is free, unless what it delivers is counted. -/
theorem lineRoute_free (hkinds : ∀ kind ∈ t.kinds, kind ∉ [EventKind.prompted, .sent])
    (lines : List (Line H)) (step : Step) (working : Progress) (route : Route) :
    Act.Costs t 0 (d.lineRoute w lines step working route) :=
  .of_confined (d.lineRoute_confined w lines step working route) hkinds

end Parts

/-- A call on the host delivers one message at most. -/
theorem call_delivers {α : Type} (event : Bool → Event H) (op : σ → Except Fault α × σ) :
    Act.Costs Tally.deliveries 1 (Act.call event op) := by
  intro env
  exact List.countP_le_length

/-- A draft is one message at most. -/
theorem sendDraft_delivers (draft : Draft) (values : Values) :
    Act.Costs Tally.deliveries 1 (sendDraft w draft values : Act σ H Unit) := by
  unfold sendDraft
  split
  · have hconfined : Act.Confined [] (Act.render draft values : Act σ H Message) :=
      .render draft values
    have hrender : Act.Costs Tally.deliveries 0 (Act.render draft values : Act σ H Message) :=
      .of_confined hconfined (by simp)
    exact (hrender.bind fun message => call_delivers _ _).mono (by omega)
  · exact (Act.Costs.pure ()).mono (Nat.zero_le 1)

/-- A line delivers one message at most; a question that is not asked is one that
failed. -/
theorem lineRoute_delivers (lines : List (Line H)) (step : Step) (working : Progress)
    (route : Route) :
    Act.Costs Tally.deliveries 1 (d.lineRoute w lines step working route) := by
  have hrun : ∀ line, Act.Costs Tally.deliveries 1 (d.runLine w line step working.values) := by
    intro line
    cases line with
    | message draft => exact (sendDraft_delivers w draft _).bind fun _ => .pure _
    | action draft directive => exact (sendDraft_delivers w draft _).bind fun _ => .pure _
    | question draft intake =>
      intro env
      show Tally.deliveries.count (d.ask w draft step.position working.values env).events ≤ 1
      -- either the prompt goes through, or it failed and a message stands in for it
      rcases d.ask_cases w draft step.position working.values env with
        ⟨message, env', hask⟩ | ⟨result, env', message, ok, hask, _⟩
      · rw [hask]
        exact List.countP_le_length
      · rw [hask]
        have hone : List.countP Event.delivers
            [(.prompted step.position d.settings.promptId message false : Event H),
              .sent (.ofText d.settings.failureText) ok] ≤ 1 := by
          cases ok <;> simp [Event.delivers]
        exact hone
  unfold lineRoute
  split
  · exact (hrun _).bind fun _ => .pure _
  · exact (Act.Costs.pure _).mono (Nat.zero_le 1)

/-- The callbacks of a batch are one stretch; its session comes before them. -/
theorem batch_stretch (kind : EventKind) {c : Calling σ H}
    (hkind : ∀ h handle ok, (c.event h handle ok).kind = kind) (hspawned : kind ≠ .spawned)
    {batch : List H} {handle : Handle} {env : Env σ} {o : Outcome σ H Handle}
    (h : Batch w c batch handle env o) : stretches kind o.events ≤ 1 := by
  cases h with
  | empty => exact Nat.zero_le 1
  | unspawned =>
    rw [stretches_cons, if_neg fun h => hspawned h.1.symm]
    exact Nat.zero_le 1
  | relayed _ _ hrelay =>
    rw [stretches_cons, if_neg fun h => hspawned h.1.symm]
    exact stretches_le_one (hrelay.kinds hkind)

/-- A visit runs one batch of callbacks for the entry of its thread at most. -/
theorem enter_batch (previous : String) (step : Step) (working : Progress) :
    Act.Costs (.batches .entryCall) 1 (d.enter w previous step working) := by
  unfold enter
  split
  · have hbatch : Act.Costs (.batches .entryCall) 1
        (d.runEntry w step.position.thread (d.handle working step)) := by
      intro env
      exact batch_stretch w .entryCall (fun _ _ _ => rfl) (by decide)
        (d.runEntry_batch w step.position.thread (d.handle working step) env)
    exact hbatch.bind fun _ => .pure _
  · exact (Act.Costs.pure _).mono (Nat.zero_le 1)

/-- What is counted of a reply that is taken, and of the branch that is chosen
for it. -/
theorem answerBefore_costs {t : Tally H} {taking choosing : Nat}
    (htaking : ∀ intake question reply step working,
      Act.Costs t taking (d.takeReply w intake question reply step working))
    (hchoosing : ∀ intake question reply step working,
      Act.Costs t choosing (d.branch w intake question reply step working))
    (lines : List (Line H)) (step : Step) (working : Progress) :
    Act.Costs t (taking + choosing) (d.answerBefore w lines step working) := by
  unfold answerBefore
  split
  · refine (htaking _ _ _ step working).bind ?_
    rintro ⟨taken, redirect⟩
    cases redirect with
    | some target => exact (Act.Costs.pure _).mono (Nat.zero_le _)
    | none => exact hchoosing _ _ _ step taken
  · exact (Act.Costs.pure _).mono (Nat.zero_le _)

/-- Taking a reply runs one batch of callbacks at most. -/
theorem takeReply_batch (intake : Intake H) (question : Position) (reply : String)
    (step : Step) (working : Progress) :
    Act.Costs (.batches .changeCall) 1 (d.takeReply w intake question reply step working) := by
  cases hkey : intake.key with
  | none =>
    rw [d.takeReply_of_no_key w hkey]
    exact (Act.Costs.pure _).mono (Nat.zero_le 1)
  | some key =>
    rw [d.takeReply_of_key w hkey]
    have hnote : (Tally.batches .changeCall).count
        [(.captured question key reply : Event H)] ≤ 0 := Nat.le_refl 0
    have hbatch : Act.Costs (.batches .changeCall) 1
        (d.replyBatch w step.position working.values intake key reply) := by
      intro env
      exact batch_stretch w .changeCall (fun _ _ _ => rfl) (by decide)
        (d.runChange_batch w key reply _ env)
    refine ((Act.Costs.note hnote).bind fun _ => hbatch.bind fun after =>
      (Act.Costs.of_lacks fun kind _ => ?_).bind fun _ => .pure _).mono (by omega)
    exact .saveValues after.values

/-- Choosing a branch runs one callback at most. -/
theorem branch_branchCalls (intake : Intake H) (question : Position) (reply : String)
    (step : Step) (working : Progress) :
    Act.Costs .branchCalls 1 (d.branch w intake question reply step working) := by
  have hnote : Tally.branchCalls.count [(.offered question reply : Event H)] ≤ 0 :=
    Nat.le_refl 0
  have hruns : ∀ h, Act.Costs .branchCalls 1
      (runHandler w h reply (d.handle working step)) := by
    intro h
    have hspawn : Act.Costs .branchCalls 0 (spawn w) :=
      .of_confined (spawn_confined w) (by simp [Tally.branchCalls, Tally.ofEvents])
    have hcall : ∀ session, Act.Costs .branchCalls 1
        ((w.branching reply).call session h (d.handle working step)) :=
      fun _ _ => List.countP_le_length
    exact hspawn.bind fun session => (hcall session).bind fun _ => .pure _
  refine ((Act.Costs.note hnote).bind (n := 1) fun _ => ?_).mono (by omega)
  -- no branch, one with a directive, or one with a callback
  split
  · exact (Act.Costs.pure _).mono (Nat.zero_le 1)
  · exact (Act.Costs.pure _).mono (Nat.zero_le 1)
  · exact (hruns _).bind fun _ => .pure _

/-! ## §4. What a loop costs. -/

section Loops

variable {t : Tally H}

/-- The end of a dialog costs nothing, if it is not what is counted. -/
theorem count_of_endKinds (hend : ∀ kind ∈ t.kinds, kind ∉ endKinds)
    {events : List (Event H)} (h : ∀ e ∈ events, e.kind ∈ endKinds) : t.count events = 0 :=
  t.quiet events fun e he hkind => hend e.kind hkind (h e he)

/-- **A loop costs at most its budget**, if every visit costs at most one. -/
theorem loopAt_costs (hvisit : ∀ lines a, t.count (d.visitAt w lines a).events ≤ 1)
    (hend : ∀ kind ∈ t.kinds, kind ∉ endKinds) (budget : Nat) :
    ∀ a : Place σ, t.count (d.loopAt w budget a).events ≤ budget := by
  -- on the budget; the position may be any at every round
  induction budget with
  | zero =>
    intro a
    exact Nat.le_of_eq (count_of_endKinds hend
      ((d.resolve_zero_confined w a.position a.cause a.reply a.working).events a.env))
  | succ budget ih =>
    intro a
    by_cases hline : d.script.HasLine a.position
    · obtain ⟨lines, hthread, hin⟩ := hline
      obtain ⟨later, hround, hlater⟩ := d.loopAt_round w hthread hin budget
      have hfirst := hvisit lines a
      have hsum := t.append_le (d.visitAt w lines a).events later
      have hrest : t.count later ≤ budget := by
        -- the loop halts after the visit, or goes on with the budget less one
        rcases hlater with rfl | ⟨moved, target, env, _, rfl⟩
        · rw [t.quiet [] (by simp)]
          exact Nat.zero_le budget
        · exact ih _
      rw [hround]
      omega
    · rw [count_of_endKinds hend (d.loopAt_of_no_line w hline _)]
      exact Nat.zero_le _

/-- **What only a reply can bring is paid for once**: no visit but the first has
one. -/
theorem loopAt_costs_once (hvisit : ∀ lines a, t.count (d.visitAt w lines a).events ≤ 1)
    (hquiet : ∀ kind ∈ t.kinds, kind ∉ quietKinds) (budget : Nat) (a : Place σ) :
    t.count (d.loopAt w budget a).events ≤ 1 := by
  have hend : ∀ kind ∈ t.kinds, kind ∉ endKinds := by
    intro kind hkind h
    refine hquiet kind hkind ?_
    simp only [endKinds, List.mem_cons, List.not_mem_nil, or_false] at h
    rcases h with rfl | rfl | rfl <;> simp [quietKinds]
  cases budget with
  | zero => exact Nat.le_trans (d.loopAt_costs w hvisit hend 0 a) (Nat.zero_le 1)
  | succ budget =>
    by_cases hline : d.script.HasLine a.position
    · obtain ⟨lines, hthread, hin⟩ := hline
      obtain ⟨later, hround, hlater⟩ := d.loopAt_round w hthread hin budget
      have hfirst := hvisit lines a
      have hsum := t.append_le (d.visitAt w lines a).events later
      have hrest : t.count later = 0 := by
        -- what is left of the loop goes on without a reply, so it brings none of what is counted
        rcases hlater with rfl | ⟨moved, target, env, _, rfl⟩
        · exact t.quiet [] (by simp)
        · refine t.quiet _ fun e he hkind => hquiet e.kind hkind ?_
          exact (d.resolve_confined w budget target .advanced moved).events env e he
      rw [hround]
      omega
    · rw [count_of_endKinds hend (d.loopAt_of_no_line w hline _)]
      exact Nat.zero_le 1

end Loops

/-- A visit resolves one position. -/
theorem visitAt_positions (lines : List (Line H)) (a : Place σ) :
    Tally.positions.count (d.visitAt w lines a).events ≤ 1 := by
  rw [← length_visited]
  have hvisited := d.visit_visited w lines a.position a.cause a.reply a.working a.env
  exact Nat.le_of_eq (congrArg List.length hvisited)

/-- A visit delivers one message at most: only its line delivers. -/
theorem visitAt_deliveries (lines : List (Line H)) (a : Place σ) :
    Tally.deliveries.count (d.visitAt w lines a).events ≤ 1 :=
  d.visit_costs w (fun _ => Nat.le_refl 0)
    (d.enter_free w (by simp [Tally.deliveries, Tally.ofEvents]))
    (d.answerBefore_free w
      (by simp [Tally.deliveries, Tally.ofEvents, takingKinds, branchKinds]))
    (d.lineRoute_delivers w) (by simp [Tally.deliveries, Tally.ofEvents, routeKinds]) lines a

/-- A visit runs one batch of entry callbacks at most. -/
theorem visitAt_entries (lines : List (Line H)) (a : Place σ) :
    (Tally.batches .entryCall).count (d.visitAt w lines a).events ≤ 1 :=
  d.visit_costs w (fun _ => Nat.le_refl 0) (d.enter_batch w)
    (d.answerBefore_free w (by simp [Tally.batches, takingKinds, branchKinds]))
    (d.lineRoute_free w (by simp [Tally.batches])) (by simp [Tally.batches, routeKinds]) lines a

/-- A visit runs one batch of callbacks for a reply at most. -/
theorem visitAt_changes (lines : List (Line H)) (a : Place σ) :
    (Tally.batches .changeCall).count (d.visitAt w lines a).events ≤ 1 := by
  have hbranch : ∀ intake question reply step working, Act.Costs (.batches .changeCall) 0
      (d.branch w intake question reply step working) := fun _ _ _ _ _ =>
    .of_confined (d.branch_confined w _ _ _ _ _) (by simp [Tally.batches, branchKinds])
  exact d.visit_costs w (fun _ => Nat.le_refl 0) (d.enter_free w (by simp [Tally.batches]))
    (d.answerBefore_costs w (d.takeReply_batch w) hbranch)
    (d.lineRoute_free w (by simp [Tally.batches])) (by simp [Tally.batches, routeKinds]) lines a

/-- A visit runs the callback of one branch at most. -/
theorem visitAt_branchCalls (lines : List (Line H)) (a : Place σ) :
    Tally.branchCalls.count (d.visitAt w lines a).events ≤ 1 := by
  have htaking : ∀ intake question reply step working, Act.Costs .branchCalls 0
      (d.takeReply w intake question reply step working) := fun _ _ _ _ _ =>
    .of_lacks fun kind hkind => d.takeReply_lacks w (by
      simp only [Tally.branchCalls, Tally.ofEvents, List.mem_singleton] at hkind
      simp [hkind, takingKinds]) _ _ _ _ _
  exact d.visit_costs w (fun _ => Nat.le_refl 0)
    (d.enter_free w (by simp [Tally.branchCalls, Tally.ofEvents]))
    (d.answerBefore_costs w htaking (d.branch_branchCalls w))
    (d.lineRoute_free w (by simp [Tally.branchCalls, Tally.ofEvents]))
    (by simp [Tally.branchCalls, Tally.ofEvents, routeKinds]) lines a

/-- A visit asks one question at most, for asking is delivering. -/
theorem visitAt_questions (lines : List (Line H)) (a : Place σ) :
    Tally.questions.count (d.visitAt w lines a).events ≤ 1 := by
  refine Nat.le_trans ?_ (d.visitAt_deliveries w lines a)
  show List.countP Event.asks _ ≤ List.countP Event.delivers _
  refine List.countP_mono_left fun e _ hasks => ?_
  cases e with
  | prompted => exact hasks
  | _ => cases hasks

/-- A visit that goes on has asked nothing. -/
theorem questions_of_goOn {lines : List (Line H)} {a : Place σ} {moved : Progress}
    {target : Position} {env : Env σ} {events : List (Event H)}
    (h : d.visitAt w lines a = ⟨.ok (moved, .goOn target), env, events⟩) :
    Tally.questions.count events = 0 := by
  refine List.countP_eq_zero.mpr fun e he hasks => ?_
  cases e with
  | prompted q prompt message ok =>
    cases (show ok = true from hasks)
    have hasked := d.visit_asks w q lines a.position a.cause a.reply a.working a.env prompt
      message (by rw [show d.visit w lines a.position a.cause a.reply a.working a.env = _ from h]
                  exact he)
    -- asking stops a turn, so this visit would not have gone on
    obtain ⟨_, _, _, hok, hstop, _⟩ := hasked
    cases h.symm.trans hok
    cases hstop
  | _ => cases hasks

/-- **A loop asks one question at most.** -/
theorem loopAt_questions (budget : Nat) :
    ∀ a : Place σ, Tally.questions.count (d.loopAt w budget a).events ≤ 1 := by
  have hend : ∀ kind ∈ (Tally.questions (H := H)).kinds, kind ∉ endKinds := by
    simp [Tally.questions, Tally.ofEvents, endKinds]
  -- on the budget; a visit that asks is the last
  induction budget with
  | zero =>
    intro a
    exact Nat.le_trans (d.loopAt_costs w (d.visitAt_questions w) hend 0 a) (Nat.zero_le 1)
  | succ budget ih =>
    intro a
    by_cases hline : d.script.HasLine a.position
    · obtain ⟨lines, hthread, hin⟩ := hline
      obtain ⟨later, hround, hlater⟩ := d.loopAt_round w hthread hin budget
      rw [hround]
      -- a visit that goes on has asked nothing, so the count is that of what follows
      rcases hlater with rfl | ⟨moved, target, env, hgoes, rfl⟩
      · rw [List.append_nil]
        exact d.visitAt_questions w lines a
      · have hnone := d.questions_of_goOn w hgoes
        have hsum := Tally.questions.append_le (d.visitAt w lines a).events
          (d.loopAt w budget (.onward target moved env)).events
        have hrest := ih (.onward target moved env)
        omega
    · rw [count_of_endKinds hend (d.loopAt_of_no_line w hline _)]
      exact Nat.zero_le 1

/-! ## §5. What a turn costs. -/

/-- The bounds of a call, in its outcome. -/
structure Bounded (call : Call) (env : Env σ) (o : Outcome σ H Report) : Prop where
  /-- At most as many positions are resolved as the settings say. -/
  positions : (visited o.events).length ≤ d.settings.maxSteps
  /-- At most as many messages and questions are delivered. -/
  deliveries : o.events.countP Event.delivers ≤ d.settings.maxSteps
  /-- At most as many batches of callbacks for the entry of a thread run. -/
  entries : stretches .entryCall o.events ≤ d.settings.maxSteps
  /-- At most one batch of callbacks for a reply runs. -/
  changes : stretches .changeCall o.events ≤ 1
  /-- At most one callback of a branch runs. -/
  branches : o.events.countP (fun e => e.kind = .branchCall) ≤ 1
  /-- At most one question is asked with success. -/
  questions : o.events.countP Event.asks ≤ 1
  /-- If one is, that is the last event; the dialog waits and stands at it. -/
  asked : ∀ q prompt message, .prompted q prompt message true ∈ o.events →
    d.Asked q prompt message o
  /-- If the turn comes past the last line of a thread with its last visit, the
  dialog ends all the same. -/
  endFirst : ∀ start b events lines, d.outset call env = some start →
    d.Leads w d.settings.maxSteps start events b →
    d.script.thread? b.position.thread = some lines → lines.length ≤ b.position.index →
    ∃ closing, o.events = events ++ closing
      ∧ d.Concluding b.reply b.working.values o.result closing

/-- A loop that comes past the last line of a thread ends the dialog there,
whatever is left of its budget. -/
theorem loopAt_concluding {b : Place σ} {lines : List (Line H)}
    (hthread : d.script.thread? b.position.thread = some lines)
    (hend : lines.length ≤ b.position.index) (left : Nat) :
    d.Concluding b.reply b.working.values (d.loopAt w left b).commit.result
      (d.loopAt w left b).commit.events := by
  have hconcluding := d.conclude_concluding w b.reply b.working.values b.env
  unfold loopAt
  rw [d.resolve_of_end w hthread hend, Outcome.commit_result, Outcome.commit_events]
  rcases hdone : d.conclude w b.reply b.working.values b.env with ⟨result, env, closing⟩
  rw [hdone] at hconcluding
  -- to conclude may fail in the host or a callback; then its events are all there is
  cases result with
  | error fault =>
    rw [Act.bind_of_error hdone]
    exact hconcluding
  | ok report =>
    rw [Act.bind_of_ok hdone, Outcome.after_events, Act.pure_apply, List.append_nil]
    exact hconcluding

/-- **A turn is bounded.**  Whatever the script, the callbacks and the host do, a
call resolves at most as many positions as the settings say, delivers and calls
back at most so often, and asks at most one question, with which it ends; a
dialog that has come to its end is not cut off. -/
theorem serve_bounded (call : Call) (env : Env σ) :
    d.Bounded w call env (d.serve w call env) := by
  cases houtset : d.outset call env with
  | none =>
    have hnothing : (d.serve w call env).events = [] := by
      rcases d.serve_of_no_outset w houtset with hserve | ⟨fault, hserve⟩ <;> rw [hserve]
    constructor
    case endFirst =>
      intro start b events lines hstart
      rw [houtset] at hstart
      cases hstart
    all_goals (rw [hnothing]; simp [stretches])
  | some start =>
    have hserve := d.serve_of_outset w houtset
    have hevents : (d.serve w call env).events
        = (d.loopAt w d.settings.maxSteps start).events := by
      rw [hserve, Outcome.commit_events]
    constructor
    case positions =>
      rw [hevents, length_visited]
      exact d.loopAt_costs w (d.visitAt_positions w)
        (by simp [Tally.positions, Tally.ofEvents, endKinds]) _ start
    case deliveries =>
      rw [hevents]
      exact d.loopAt_costs w (d.visitAt_deliveries w)
        (by simp [Tally.deliveries, Tally.ofEvents, endKinds]) _ start
    case entries =>
      rw [hevents]
      exact d.loopAt_costs w (d.visitAt_entries w) (by simp [Tally.batches, endKinds]) _ start
    case changes =>
      rw [hevents]
      exact d.loopAt_costs_once w (d.visitAt_changes w) (by simp [Tally.batches, quietKinds])
        _ start
    case branches =>
      rw [hevents]
      exact d.loopAt_costs_once w (d.visitAt_branchCalls w)
        (by simp [Tally.branchCalls, Tally.ofEvents, quietKinds]) _ start
    case questions =>
      rw [hevents]
      exact d.loopAt_questions w _ start
    case asked => exact fun q prompt message hasked => d.serve_asked w hasked
    case endFirst =>
      intro start' b events lines hstart hleads hthread hend
      rw [houtset] at hstart
      cases hstart
      -- the way has used the budget up, and the loop at its end has none left
      have hconcluding := d.loopAt_concluding w hthread hend 0
      have hloop := hleads.loopAt_eq 0
      rw [Nat.add_zero] at hloop
      rw [hserve, hloop, Outcome.commit_after, Outcome.after_events, Outcome.after_result]
      exact ⟨_, rfl, hconcluding⟩

end Dialog

end Parley

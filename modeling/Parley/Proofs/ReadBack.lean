/-
  Parley.Proofs.ReadBack
  ──────────────────────
  **WHAT IS STORED IS READ BACK.**

  Records leave members out where they are empty, or write null for what is
  missing; directives are written as a word or as an object with one member.

    • `Json.record?_object` — what a reader finds in an object that has every member
      it needs,
    • `Suggestion.ofJson?_toJson`, `Incoming.ofJson?_toJson`, `Report.ofJson?_toJson`,
      `Directive.ofJson?_toJson` — these are read back as they were stored,
    • `Message.ofJson?_toJson`, `Draft.ofJson?_toJson` — so are these, except that null
      attachments are read as none.

  `stored_forms_read_back` puts these together.
-/
import Parley.Directive
import Parley.Incoming
import Parley.Proofs.Persistence

namespace Parley

/-! ## §1. Members. -/

namespace Json

/-- **What a reader finds in an object** that has every member it needs: each declared member, or
nothing in its place. -/
theorem record?_object {members : Members} {found : List (String × Json)}
    (h : ∀ m ∈ members, m.2 = .required → found.lookup m.1 ≠ none) :
    (object found).record? members = some (members.map fun m => found.lookup m.1) := by
  show membersByName? found members = _
  -- along the declared members
  induction members with
  | nil => rfl
  | cons head rest ih =>
    obtain ⟨name, presence⟩ := head
    obtain ⟨hhead, hrest⟩ := List.forall_mem_cons.mp h
    have hneeded : ((found.lookup name).isNone && presence == .required) = false := by
      cases hlookup : found.lookup name with
      | some j => rfl
      | none => simpa using fun hrequired => hhead hrequired hlookup
    simp [membersByName?, hneeded, ih hrest]

/-- A text is read back as it is stored. -/
theorem string?_string (s : String) : (string s).string? = some s := rfl

/-- A list is read back if its items are. -/
theorem listOf?_map {α : Type} {read? : Json → Option α} {encode : α → Json}
    (h : ∀ a, read? (encode a) = some a) (items : List α) :
    listOf? read? (array (items.map encode)) = some items := by
  show (items.map encode).mapM read? = some items
  induction items with
  | nil => rfl
  | cons a rest ih => simp [h, ih]

/-- Every value but null is kept. -/
theorem bind_nonNull?_eq_iff (x : Option Json) : x.bind nonNull? = x ↔ x ≠ some null := by
  cases x with
  | none => simp
  | some j => cases j <;> simp [nonNull?]

/-- What is not there may be stored as null. -/
theorem nonNull?_getD (x : Option Json) : nonNull? (x.getD null) = x.bind nonNull? := by
  cases x <;> rfl

/-- A value that may be missing is read back if it is never stored as null. -/
theorem maybe_ofOption {α : Type} {read? : Json → Option α} {encode : α → Json}
    (h : ∀ a, read? (encode a) = some a) (hnull : ∀ a, encode a ≠ null) (x : Option α) :
    maybe read? (some (ofOption encode x)) = some x := by
  cases x with
  | none => rfl
  | some a =>
    -- null would be taken for a value that is missing
    have hmaybe : ∀ j, j ≠ null → maybe read? (some j) = (read? j).map some := by
      intro j hj
      cases j with
      | null => exact absurd rfl hj
      | _ => rfl
    exact (hmaybe (encode a) (hnull a)).trans (by rw [h, Option.map_some])

/-- A list that is left out when it has no items. -/
theorem orElse_list {α : Type} {read? : Json → Option α} {encode : α → Json}
    (h : ∀ a, read? (encode a) = some a) (items : List α) :
    orElse (listOf? read?) []
        (if items.isEmpty then none else some (array (items.map encode))) = some items := by
  cases items with
  | nil => rfl
  | cons a rest => exact listOf?_map h (a :: rest)

/-- A table that is left out when it has no entries. -/
theorem orElse_table (t : Table Json) :
    orElse table? .empty (if t.isEmpty then none else some (ofTable t)) = some t := by
  by_cases hempty : t.isEmpty = true
  · rw [if_pos hempty, t.isEmpty_eq_true_iff.mp hempty]
    rfl
  · rw [if_neg hempty]
    exact table?_ofTable t

end Json

/-! ## §2. Records. -/

/-- A suggested reply is read back. -/
theorem Suggestion.ofJson?_toJson (s : Suggestion) : ofJson? s.toJson = some s := rfl

/-- So is the kind of an arrival, -/
theorem IncomingKind.ofJson?_toJson (k : IncomingKind) : ofJson? k.toJson = some k := by
  cases k <;> rfl

/-- and an arrival, with a text or without one. -/
theorem Incoming.ofJson?_toJson (a : Incoming) : ofJson? a.toJson = some a := by
  obtain ⟨kind, text⟩ := a
  have htext : Json.maybe Json.string? (some (Json.ofOption .string text)) = some text :=
    Json.maybe_ofOption Json.string?_string (fun _ => Json.noConfusion) text
  show (IncomingKind.ofJson? kind.toJson).bind (fun kind =>
    (Json.maybe Json.string? (some (Json.ofOption .string text))).bind fun text =>
      some (⟨kind, text⟩ : Incoming)) = _
  rw [IncomingKind.ofJson?_toJson, htext]
  rfl

/-- A status is read back by its name. -/
theorem Status.ofJson?_name (s : Status) : ofJson? (.string s.name) = some s := by
  cases s <;> rfl

/-- A report is read back, with variables or without. -/
theorem Report.ofJson?_toJson (r : Report) : ofJson? r.toJson = some r := by
  obtain ⟨status, values⟩ := r
  have hvalues : Json.maybe Json.table? (some (Json.ofOption Json.ofTable values)) = some values :=
    Json.maybe_ofOption Json.table?_ofTable (fun _ => Json.noConfusion) values
  show (Status.ofJson? (.string status.name)).bind (fun status =>
    (Json.maybe Json.table? (some (Json.ofOption Json.ofTable values))).bind fun values =>
      some (⟨status, values⟩ : Report)) = _
  rw [Status.ofJson?_name, hvalues]
  rfl

/-! ## §3. Directives. -/

/-- **A directive is read back**, and so is the thread of a hand-over, if it names one. -/
theorem Directive.ofJson?_toJson (a : Directive) : ofJson? a.toJson = some a := by
  cases a with
  | handOver script thread => cases thread <;> rfl
  | _ => rfl

/-! ## §4. Messages and drafts. -/

namespace Message

/-- The message with null attachments left out. -/
def withoutNull (m : Message) : Message :=
  { m with attachments := m.attachments.bind Json.nonNull? }

/-- What a reader finds in the stored form: the text is always there. -/
theorem toJson_found (m : Message) :
    ∃ found, m.toJson = .object found
      ∧ found.lookup "text" = some (.string m.text)
      ∧ found.lookup "suggested_actions"
        = (if m.suggestions.isEmpty then none
          else some (.array (m.suggestions.map Suggestion.toJson)))
      ∧ found.lookup "attachments" = m.attachments
      ∧ found.lookup "channel_data"
        = if m.channel.isEmpty then none else some (Json.ofTable m.channel) := by
  refine ⟨_, rfl, ?_⟩
  -- each of three members is there or left out
  cases m.attachments <;> cases m.channel.isEmpty <;> cases m.suggestions.isEmpty <;>
    exact ⟨rfl, rfl, rfl, rfl⟩

/-- A message that has no null attachments loses nothing. -/
theorem withoutNull_eq_iff (m : Message) : m.withoutNull = m ↔ m.attachments ≠ some .null := by
  obtain ⟨text, suggestions, attachments, channel⟩ := m
  rw [withoutNull, Message.mk.injEq]
  simpa using Json.bind_nonNull?_eq_iff attachments

/-- **A message is read back**, but for null attachments. -/
theorem ofJson?_toJson (m : Message) : ofJson? m.toJson = some m.withoutNull := by
  obtain ⟨found, hform, htext, hsuggestions, hattachments, hchannel⟩ := m.toJson_found
  have hrecord : (Json.object found).record? members
      = some [found.lookup "text", found.lookup "suggested_actions", found.lookup "attachments",
        found.lookup "channel_data"] := by
    refine Json.record?_object (List.forall_mem_cons.mpr ⟨fun _ => ?_, by simp⟩)
    rw [htext]
    exact Option.some_ne_none _
  unfold ofJson?
  rw [hform, hrecord, htext, hsuggestions, hattachments, hchannel]
  simp only [Option.bind_eq_bind, Option.bind_some, Json.orElse_table,
    Json.orElse_list Suggestion.ofJson?_toJson]
  rfl

end Message

namespace Draft

/-- The draft with null attachments left out. -/
def withoutNull (d : Draft) : Draft :=
  { d with attachments := d.attachments.bind Json.nonNull? }

/-- **A draft is read back**, but for null attachments. -/
theorem ofJson?_toJson (d : Draft) : ofJson? d.toJson = some d.withoutNull := by
  have htexts : Json.listOf? Json.string? (.array (d.texts.map .string)) = some d.texts :=
    Json.listOf?_map Json.string?_string d.texts
  have hsuggestions := Json.listOf?_map Suggestion.ofJson?_toJson d.suggestions
  have hrecord : d.toJson.record? members
      = some [some (.array (d.texts.map .string)),
        some (.array (d.suggestions.map Suggestion.toJson)), some (d.attachments.getD .null),
        some (Json.ofTable d.channel)] :=
    Json.record?_object (by simp [members])
  unfold ofJson?
  rw [hrecord]
  simp only [Option.bind_eq_bind, Option.bind_some, Json.orElse, htexts, hsuggestions,
    Json.table?_ofTable, Json.nonNull?_getD]
  rfl

/-- A draft that has no null attachments loses nothing. -/
theorem withoutNull_eq_iff (d : Draft) : d.withoutNull = d ↔ d.attachments ≠ some .null := by
  obtain ⟨texts, suggestions, attachments, channel⟩ := d
  rw [withoutNull, Draft.mk.injEq]
  simpa using Json.bind_nonNull?_eq_iff attachments

/-- A draft that has null attachments and nothing else. -/
def nullOnly : Draft := { attachments := some .null }

/-- **Only a draft of null attachments falls silent.** -/
theorem hasContent_withoutNull_iff (d : Draft) :
    d.withoutNull.hasContent = d.hasContent ↔ d ≠ nullOnly := by
  by_cases hnull : d.attachments = some .null
  · -- the rest decides, and it is empty in one draft only
    obtain ⟨texts, suggestions, attachments, channel⟩ := d
    cases hnull
    have hsent : hasContent ⟨texts, suggestions, some .null, channel⟩ = true := by
      simp [hasContent]
    have hsilent : (withoutNull ⟨texts, suggestions, some .null, channel⟩).hasContent = false
        ↔ texts = [] ∧ suggestions = [] ∧ channel = .empty := by
      simp [withoutNull, hasContent, Json.nonNull?, Table.isEmpty_eq_true_iff, and_assoc]
    rw [hsent, ← Bool.not_eq_false, hsilent, nullOnly, ne_eq, Draft.mk.injEq]
    simp
  · have hsame : d.withoutNull = d := d.withoutNull_eq_iff.mpr hnull
    have hne : d ≠ nullOnly := fun h => hnull (h ▸ rfl)
    rw [hsame]
    exact iff_of_true rfl hne

end Draft

/-- **What is stored is read back.**  Suggested replies, arrivals, reports and directives are; so
are messages and drafts, except that null attachments are read as none.  A draft has something to
send after it was stored if and only if it had before, unless it has null attachments and nothing
else; that one falls silent. -/
theorem stored_forms_read_back :
    (∀ s : Suggestion, Suggestion.ofJson? s.toJson = some s)
      ∧ (∀ a : Incoming, Incoming.ofJson? a.toJson = some a)
      ∧ (∀ r : Report, Report.ofJson? r.toJson = some r)
      ∧ (∀ a : Directive, Directive.ofJson? a.toJson = some a)
      ∧ (∀ m : Message, (Message.ofJson? m.toJson = some m ↔ m.attachments ≠ some .null)
        ∧ Message.ofJson? ({ m with attachments := some .null } : Message).toJson
          = some { m with attachments := none })
      ∧ (∀ d : Draft, (Draft.ofJson? d.toJson = some d ↔ d.attachments ≠ some .null)
        ∧ Draft.ofJson? ({ d with attachments := some .null } : Draft).toJson
          = some { d with attachments := none })
      ∧ (∀ d : Draft, ∃ back, Draft.ofJson? d.toJson = some back
        ∧ (back.hasContent = d.hasContent ↔ d ≠ .nullOnly))
      ∧ Draft.nullOnly.hasContent = true
      ∧ (Draft.ofJson? Draft.nullOnly.toJson).map Draft.hasContent = some false := by
  refine ⟨Suggestion.ofJson?_toJson, Incoming.ofJson?_toJson, Report.ofJson?_toJson,
    Directive.ofJson?_toJson, ?messages, ?drafts, ?content, rfl, ?silent⟩
  case messages =>
    intro m
    rw [Message.ofJson?_toJson, Message.ofJson?_toJson, Option.some.injEq, m.withoutNull_eq_iff]
    exact ⟨Iff.rfl, rfl⟩
  case drafts =>
    intro d
    rw [Draft.ofJson?_toJson, Draft.ofJson?_toJson, Option.some.injEq, d.withoutNull_eq_iff]
    exact ⟨Iff.rfl, rfl⟩
  case content => exact fun d => ⟨d.withoutNull, d.ofJson?_toJson, d.hasContent_withoutNull_iff⟩
  case silent =>
    rw [Draft.ofJson?_toJson]
    rfl

end Parley

/-
  Parley.Proofs.Rendering
  ───────────────────────
  **RENDERING CHANGES TEMPLATES, AND NOTHING ELSE.**

  A place in a value is named by a path of member names and indices.

    • `Json.at?_renderTree` — a place of a rendered value holds what the value
      holds there, rendered,
    • `rendered_renderTree` — of that, texts alone are changed: the members of
      an object keep their names, an array keeps its length (`Rendered`),
    • `Draft.renders_render` — the message of a draft has one of its texts
      rendered, its attachments and two entries of its channel data, and the
      rest as it stands in the draft (`Draft.Renders`).

  `render_changes_templates` puts these together.
-/
import Parley.Variants

namespace Parley

/-! ## §1. Places in a value. -/

namespace Json

/-- A step into a value. -/
inductive Edge where
  /-- To the member of a name. -/
  | key (name : String)
  /-- To the item of an index. -/
  | index (i : Nat)
  deriving DecidableEq, Repr

/-- Where a step leads. -/
def child? : Edge → Json → Option Json
  | .key name, j => j.member? name
  | .index i, .array items => items[i]?
  | .index _, _ => none

/-- What a value holds at the end of a path. -/
def at? (path : List Edge) (j : Json) : Option Json := path.foldlM (fun j step => j.child? step) j

/-- A path leads through its first step, and on from there. -/
theorem at?_cons (step : Edge) (path : List Edge) (j : Json) :
    j.at? (step :: path) = (j.child? step).bind (at? path) := rfl

end Json

/-! ## §2. Rendered values. -/

namespace Template

/-- An array is rendered item by item. -/
theorem renderTree_array (values : Values) (items : List Json) :
    renderTree values (.array items) = .array (items.map (renderTree values)) := by
  have hitems : renderItems values items = items.map (renderTree values) := by
    induction items with
    | nil => rfl
    | cons item rest ih => rw [renderItems, ih, List.map_cons]
  rw [renderTree, hitems]

/-- An object is rendered member by member, under the same names. -/
theorem renderTree_object (values : Values) (members : List (String × Json)) :
    renderTree values (.object members)
      = .object (members.map fun e => (e.1, renderTree values e.2)) := by
  have hmembers : renderMembers values members
      = members.map fun e => (e.1, renderTree values e.2) := by
    induction members with
    | nil => rfl
    | cons head rest ih =>
      obtain ⟨key, value⟩ := head
      rw [renderMembers, ih, List.map_cons]
  rw [renderTree, hmembers]

/-- A step into a rendered value leads to the rendering of what it leads to. -/
theorem child?_renderTree (values : Values) (step : Json.Edge) (tree : Json) :
    (renderTree values tree).child? step = (tree.child? step).map (renderTree values) := by
  -- what is no object has no members, and what is no array no items, rendered or not
  cases step with
  | key name =>
    cases tree with
    | object members =>
      rw [renderTree_object]
      exact Table.lookup_map (fun _ => renderTree values) members name
    | _ =>
      rw [renderTree]
      rfl
  | index i =>
    cases tree with
    | array items =>
      rw [renderTree_array]
      exact List.getElem?_map
    | _ =>
      rw [renderTree]
      rfl

/-- **Rendering goes on at every place**: what a place holds is rendered, and no place comes or
goes. -/
theorem at?_renderTree (values : Values) (path : List Json.Edge) :
    ∀ tree : Json, (renderTree values tree).at? path = (tree.at? path).map (renderTree values) := by
  -- along the path, from any value
  induction path with
  | nil => exact fun tree => rfl
  | cons step path ih =>
    intro tree
    rw [Json.at?_cons, Json.at?_cons, child?_renderTree]
    cases tree.child? step with
    | none => rfl
    | some next => exact ih next

/-- What stands in the place of a value: a text is rendered, what holds other values has as many and
under the same names, and anything else is the same. -/
inductive Rendered (values : Values) : Json → Json → Prop
  /-- A text is rendered. -/
  | string (s : String) : Rendered values (.string s) (.string (render s values))
  /-- Null stays. -/
  | null : Rendered values .null .null
  /-- So does a truth value. -/
  | bool (b : Bool) : Rendered values (.bool b) (.bool b)
  /-- So does a number. -/
  | number (n : Number) : Rendered values (.number n) (.number n)
  /-- An array keeps its length. -/
  | array {items items' : List Json} (h : items'.length = items.length) :
      Rendered values (.array items) (.array items')
  /-- An object keeps the names of its members. -/
  | object {members members' : List (String × Json)}
      (h : members'.map (·.1) = members.map (·.1)) :
      Rendered values (.object members) (.object members')

/-- What stands in the place of a value is what its kind calls for. -/
theorem rendered_renderTree (values : Values) (tree : Json) :
    Rendered values tree (renderTree values tree) := by
  cases tree with
  | null =>
    rw [renderTree]
    exact .null
  | bool b =>
    rw [renderTree]
    exact .bool b
  | number n =>
    rw [renderTree]
    exact .number n
  | string s =>
    rw [renderTree]
    exact .string s
  | array items =>
    rw [renderTree_array]
    exact .array (List.length_map _)
  | object members =>
    rw [renderTree_object]
    exact .object (by simp)

end Template

/-! ## §3. Which text is used. -/

namespace Words

/-- A word that picks an index picks one below the number of choices. -/
theorem accept?_lt {n : Nat} (hn : 0 < n) {word : UInt32} {i : Nat}
    (h : accept? n word = some i) : i < n := by
  simp only [accept?] at h
  split at h
  · cases h
    -- the index is the high half of a product with the word, which is below 2 ^ 32
    refine Nat.div_lt_of_lt_mul ?_
    exact Nat.mul_lt_mul_of_pos_right word.toNat_lt hn
  · cases h

/-- **What is chosen is there.** -/
theorem choose_lt {n : Nat} (hn : 0 < n) (words : Words) : (words.choose n).1 < n := by
  have hgo : ∀ ahead drawn, (choose.go n ahead drawn).1 < n := by
    intro ahead
    -- along the words to come; those that pick nothing are passed over
    induction ahead with
    | nil => intro drawn; exact hn
    | cons word rest ih =>
      intro drawn
      unfold choose.go
      split
      · rename_i i haccept
        exact accept?_lt hn haccept
      · exact ih (drawn + 1)
  exact hgo words.ahead words.drawn

end Words

namespace Draft

/-- With replies to suggest, the first text is used, whatever the words. -/
theorem variant_of_suggestions {draft : Draft} (h : draft.suggestions ≠ []) (words : Words) :
    (draft.variant words).1 = draft.texts.head? := by
  have hempty : draft.suggestions.isEmpty = false := by simpa using h
  unfold variant
  cases draft.texts with
  | nil => rfl
  | cons first rest =>
    simp only [hempty]
    rfl

/-- With none, the words pick one of the texts. -/
theorem variant_of_plain {draft : Draft} (h : draft.suggestions = [])
    (hne : draft.texts ≠ []) (words : Words) :
    ∃ i, i < draft.texts.length ∧ (draft.variant words).1 = draft.texts[i]? := by
  refine ⟨(words.choose draft.texts.length).1,
    Words.choose_lt (List.length_pos_iff.mpr hne) words, ?_⟩
  unfold variant
  -- the words are only asked where there is a text
  cases htexts : draft.texts with
  | nil => exact absurd htexts hne
  | cons first rest =>
    simp only [h]
    rfl

/-- A draft without texts has none to use. -/
theorem variant_of_no_texts {draft : Draft} (h : draft.texts = []) (words : Words) :
    (draft.variant words).1 = none := by
  unfold variant
  rw [h]

/-! ## §4. Drafts. -/

/-- A message is what a draft shows with some variables. -/
structure Renders (draft : Draft) (values : Values) (m : Message) : Prop where
  /-- With replies to suggest, the first text is rendered. -/
  text_of_suggestions : ∀ first rest, draft.texts = first :: rest → draft.suggestions ≠ [] →
    m.text = Template.render first values
  /-- With none, some text is. -/
  text_of_plain : draft.texts ≠ [] → draft.suggestions = [] →
    ∃ text ∈ draft.texts, m.text = Template.render text values
  /-- A draft without texts shows none. -/
  text_of_no_texts : draft.texts = [] → m.text = ""
  /-- Suggested replies are not rendered. -/
  suggestions : m.suggestions = draft.suggestions
  /-- Attachments are. -/
  attachments : m.attachments = draft.attachments.map (Template.renderTree values)
  /-- The channel data have the same names. -/
  keys : m.channel.keys = draft.channel.keys
  /-- Attachments among them are rendered, -/
  attached : ∀ key, key = "attachments" ∨ key = "attachment" →
    m.channel.get? key = (draft.channel.get? key).map (Template.renderTree values)
  /-- and no other entry is. -/
  others : ∀ key, key ≠ "attachments" → key ≠ "attachment" →
    m.channel.get? key = draft.channel.get? key

/-- Attachments are kept under two names in the channel data. -/
theorem mem_renderedChannel {key : String} :
    key ∈ renderedChannel ↔ key = "attachments" ∨ key = "attachment" := by
  simp [renderedChannel]

/-- An entry of the channel data is rendered if its name is one of those of attachments. -/
theorem get?_channel (draft : Draft) (values : Values) (text : Option String) (key : String) :
    (draft.message values text).channel.get? key
      = if key ∈ renderedChannel then (draft.channel.get? key).map (Template.renderTree values)
        else draft.channel.get? key :=
  Table.get?_mapAt renderedChannel _ draft.channel key

/-- **A draft is rendered part by part**, whatever the random words are. -/
theorem renders_render (draft : Draft) (values : Values) (words : Words) :
    draft.Renders values (draft.render values words).1 where
  text_of_suggestions := by
    intro first rest htexts hsuggestions
    show ((draft.variant words).1.map (Template.render · values)).getD "" = _
    rw [variant_of_suggestions hsuggestions, htexts]
    rfl
  text_of_plain := by
    intro htexts hsuggestions
    obtain ⟨i, hi, hvariant⟩ := variant_of_plain hsuggestions htexts words
    refine ⟨draft.texts[i], List.getElem_mem hi, ?_⟩
    show ((draft.variant words).1.map (Template.render · values)).getD "" = _
    rw [hvariant, List.getElem?_eq_getElem hi]
    rfl
  text_of_no_texts := by
    intro htexts
    show ((draft.variant words).1.map (Template.render · values)).getD "" = _
    rw [variant_of_no_texts htexts]
    rfl
  suggestions := rfl
  attachments := rfl
  keys := Table.keys_mapAt _ _ _
  attached := by
    intro key hkey
    exact (get?_channel draft values _ key).trans (if_pos (mem_renderedChannel.mpr hkey))
  others := by
    intro key hattachments hattachment
    refine (get?_channel draft values _ key).trans (if_neg fun hkey => ?_)
    exact (mem_renderedChannel.mp hkey).elim hattachments hattachment

end Draft

/-- **Rendering changes templates, and nothing else.**  A rendered value has the same places, with
the same names of members, and at each what stood there but for texts, which are rendered.  The
message of a draft has its suggested replies and its channel data as they are, but for the
attachments among them; those, the attachments of the draft and the text that is used are
rendered. -/
theorem render_changes_templates :
    (∀ values tree path, Option.Rel (Template.Rendered values) (tree.at? path)
      ((Template.renderTree values tree).at? path))
      ∧ ∀ (draft : Draft) values words, draft.Renders values (draft.render values words).1 := by
  refine ⟨?values, ?drafts⟩
  case values =>
    intro values tree path
    rw [Template.at?_renderTree]
    cases tree.at? path with
    | none => exact .none
    | some node => exact .some (Template.rendered_renderTree values node)
  case drafts => exact Draft.renders_render

end Parley

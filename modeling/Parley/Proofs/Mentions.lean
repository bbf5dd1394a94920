/-
  Parley.Proofs.Mentions
  ──────────────────────
  **A RENDERING DEPENDS ON THE VARIABLES IT MENTIONS.**

  A placeholder mentions the variable that its reference begins with; a value
  and a draft mention what the templates in them do.

    • `Names.unique` — a reference names one variable at most, so none whose name
      goes on or ends before,
    • `render_congr`, `renderTree_congr`, `Draft.render_congr` — variables that
      agree on what is mentioned are shown alike,
    • `mentions_iff` — every variable that is mentioned matters: some value of it
      shows.

  Variables agree if they have the same value or both have none.  Doubles that
  are equal as numbers only, as the two zeros are, are not the same value: they
  are written differently.
-/
import Parley.Proofs.Placeholders
import Parley.Proofs.Rendering

namespace Parley

/-! ## §1. Agreement. -/

namespace Table

variable {α : Type} {keys : String → Prop} {t u : Table α}

/-- Two tables hold the same under certain keys, or both nothing. -/
def AgreeOn (keys : String → Prop) (t u : Table α) : Prop :=
  ∀ key, keys key → t.get? key = u.get? key

/-- Tables that agree on some keys agree on fewer. -/
theorem AgreeOn.mono {keys' : String → Prop} (h : AgreeOn keys t u)
    (hkeys : ∀ key, keys' key → keys key) : AgreeOn keys' t u :=
  fun key hkey => h key (hkeys key hkey)

/-- Writing a key changes nothing about the others. -/
theorem agreeOn_insert (t : Table α) {key : String} (value : α) (h : ¬ keys key) :
    AgreeOn keys (t.insert key value) t := by
  intro k hk
  have hne : k ≠ key := by
    rintro rfl
    exact h hk
  exact get?_insert_of_ne t value hne

end Table

/-! ## §2. What is mentioned. -/

namespace Template

/-- The reference of a placeholder. -/
def Piece.reference? : Piece → Option (List Char)
  | .char _ => none
  | .escaped reference => some reference
  | .verbatim reference => some reference

/-- A reference names a variable: `vars.` and the name stand in it, and nothing more or a dot and
what follows. -/
def Names (reference : List Char) (x : String) : Prop :=
  '.' ∉ x.toList ∧ (reference = "vars.".toList ++ x.toList
    ∨ ∃ more, reference = "vars.".toList ++ (x.toList ++ '.' :: more))

/-- A template mentions a variable: it has a placeholder that names it. -/
def Mentions (template : String) (x : String) : Prop :=
  ∃ piece ∈ pieces template.toList, ∃ reference,
    piece.reference? = some reference ∧ Names reference x

/-- The reference to a variable itself. -/
theorem dotted_singleton (x : String) : dotted [x] = "vars.".toList ++ x.toList := by
  unfold dotted
  rw [List.map_singleton, List.intercalate_singleton]

/-- The reference to a member is that to the variable, a dot, and the path from there. -/
theorem dotted_cons_cons (x first : String) (path : List String) :
    dotted (x :: first :: path) = "vars.".toList
      ++ (x.toList ++ '.' :: ['.'].intercalate ((first :: path).map String.toList)) := by
  unfold dotted
  rw [List.map_cons, List.map_cons, List.intercalate_cons_cons, List.append_assoc]
  rfl

/-- A reference names the first of the names it walks through. -/
theorem names_iff {reference : List Char} {x : String} :
    Names reference x
      ↔ ∃ path, reference = dotted (x :: path) ∧ ∀ name ∈ x :: path, '.' ∉ name.toList := by
  constructor
  · rintro ⟨hx, rfl | ⟨more, rfl⟩⟩
    · exact ⟨[], (dotted_singleton x).symm, List.forall_mem_singleton.mpr hx⟩
    · -- what follows the dot is a path by itself
      obtain ⟨first, path, hmore, hnames⟩ := exists_dotted (List.prefix_append "vars.".toList more)
      have hmore : more = ['.'].intercalate ((first :: path).map String.toList) :=
        List.append_cancel_left hmore
      refine ⟨first :: path, ?_, List.forall_mem_cons.mpr ⟨hx, hnames⟩⟩
      rw [dotted_cons_cons, ← hmore]
  · rintro ⟨path, rfl, hnames⟩
    refine ⟨hnames x List.mem_cons_self, ?_⟩
    cases path with
    | nil => exact .inl (dotted_singleton x)
    | cons first path => exact .inr ⟨_, dotted_cons_cons x first path⟩

/-- **A reference names one variable.** -/
theorem Names.unique {reference : List Char} {x y : String} (hx : Names reference x)
    (hy : Names reference y) : x = y := by
  obtain ⟨path, rfl, hpath⟩ := names_iff.mp hx
  obtain ⟨path', hsame, hpath'⟩ := names_iff.mp hy
  have hpaths : some (x :: path) = some (y :: path') := by
    rw [← path?_dotted (List.cons_ne_nil x path) hpath, hsame,
      path?_dotted (List.cons_ne_nil y path') hpath']
  cases hpaths
  rfl

end Template

namespace Json

/-- A text stands in a value, at whatever depth; names of members do not count. -/
inductive Holds (text : String) : Json → Prop
  /-- The text itself. -/
  | here : Holds text (.string text)
  /-- In an item of an array. -/
  | item {item : Json} {items : List Json} (hitem : item ∈ items) (h : Holds text item) :
      Holds text (.array items)
  /-- In a member of an object. -/
  | member {key : String} {value : Json} {members : List (String × Json)}
      (hmember : (key, value) ∈ members) (h : Holds text value) : Holds text (.object members)

/-- A value mentions what a text in it mentions. -/
def Mentions (tree : Json) (x : String) : Prop :=
  ∃ text, tree.Holds text ∧ Template.Mentions text x

end Json

/-- A draft mentions what its texts mention, its attachments and those among its channel data. -/
inductive Draft.Mentions (draft : Draft) (x : String) : Prop
  /-- In a text. -/
  | text {text : String} (htext : text ∈ draft.texts) (h : Template.Mentions text x) :
      Mentions draft x
  /-- In an attachment. -/
  | attachments {tree : Json} (htree : draft.attachments = some tree) (h : tree.Mentions x) :
      Mentions draft x
  /-- In an attachment among the channel data. -/
  | channel {key : String} {tree : Json} (hkey : key ∈ Draft.renderedChannel)
      (htree : draft.channel.get? key = some tree) (h : tree.Mentions x) : Mentions draft x

/-! ## §3. Nothing else is looked at. -/

namespace Template

variable {values values' : Values}

/-- What a reference shows depends on the variable that it names. -/
theorem shown_congr {reference : List Char} (h : Table.AgreeOn (Names reference) values values') :
    shown reference values = shown reference values' := by
  -- a reference that does not start like one to a variable shows nothing
  by_cases hvars : "vars.".toList <+: reference
  · obtain ⟨first, path, rfl, hnames⟩ := exists_dotted hvars
    rw [shown_dotted values hnames, shown_dotted values' hnames,
      h first (names_iff.mpr ⟨path, rfl, hnames⟩)]
  · rw [shown_of_foreign values hvars, shown_of_foreign values' hvars]

/-- What a piece shows depends on the variable that its reference names. -/
theorem Piece.render_congr {piece : Piece}
    (h : ∀ reference, piece.reference? = some reference →
      Table.AgreeOn (Names reference) values values') :
    piece.render values = piece.render values' := by
  -- a character shows itself
  cases piece with
  | char c => rfl
  | escaped reference => exact congrArg Markup.escape (shown_congr (h reference rfl))
  | verbatim reference => exact shown_congr (h reference rfl)

/-- **A template looks at the variables it mentions**, and at no other. -/
theorem render_congr {template : String}
    (h : Table.AgreeOn (Mentions template) values values') :
    render template values = render template values' := by
  have hpieces : ∀ piece ∈ pieces template.toList, piece.render values = piece.render values' := by
    intro piece hpiece
    refine Piece.render_congr fun reference hreference x hx => h x ?_
    exact ⟨piece, hpiece, reference, hreference, hx⟩
  unfold render renderPieces
  rw [List.flatMap_def, List.flatMap_def, List.map_congr_left hpieces]

/-- **So does a value**, by induction on it. -/
theorem renderTree_congr (tree : Json) (h : Table.AgreeOn tree.Mentions values values') :
    renderTree values tree = renderTree values' tree := by
  match tree, h with
  | .null, _ => rw [renderTree, renderTree]
  | .bool b, _ => rw [renderTree, renderTree]
  | .number n, _ => rw [renderTree, renderTree]
  | .string s, h =>
    rw [renderTree, renderTree, render_congr (h.mono fun x hx => ⟨s, .here, hx⟩)]
  | .array items, h =>
    have hitems : ∀ item ∈ items, renderTree values item = renderTree values' item := by
      intro item hitem
      refine renderTree_congr item (h.mono fun x hx => ?_)
      obtain ⟨text, htext, hx⟩ := hx
      exact ⟨text, .item hitem htext, hx⟩
    rw [renderTree_array, renderTree_array, List.map_congr_left hitems]
  | .object members, h =>
    have hmembers : ∀ e ∈ members,
        (e.1, renderTree values e.2) = (e.1, renderTree values' e.2) := by
      rintro ⟨key, value⟩ hmember
      refine congrArg (Prod.mk key) (renderTree_congr value (h.mono fun x hx => ?_))
      obtain ⟨text, htext, hx⟩ := hx
      exact ⟨text, .member hmember htext, hx⟩
    rw [renderTree_object, renderTree_object, List.map_congr_left hmembers]
termination_by sizeOf tree
decreasing_by
  · have := List.sizeOf_lt_of_mem hitem
    simp
    omega
  · have := List.sizeOf_lt_of_mem hmember
    simp at this ⊢
    omega

end Template

namespace Draft

variable {values values' : Values}

/-- The text that is used is one of the draft. -/
theorem mem_of_variant {draft : Draft} {words : Words} {text : String}
    (h : (draft.variant words).1 = some text) : text ∈ draft.texts := by
  by_cases hplain : draft.suggestions = []
  · by_cases hne : draft.texts = []
    · rw [variant_of_no_texts hne] at h
      cases h
    · obtain ⟨i, _, hvariant⟩ := variant_of_plain hplain hne words
      exact List.mem_of_getElem? (hvariant.symm.trans h)
  · rw [variant_of_suggestions hplain] at h
    exact List.mem_of_head? h

/-- **And so does a draft**, with the same random words. -/
theorem render_congr {draft : Draft} (h : Table.AgreeOn draft.Mentions values values')
    (words : Words) : draft.render values words = draft.render values' words := by
  -- text, attachments and channel data, one after the other
  have htext : (draft.variant words).1.map (Template.render · values)
      = (draft.variant words).1.map (Template.render · values') := by
    refine Option.map_congr fun text hvariant => Template.render_congr (h.mono fun x hx => ?_)
    exact .text (mem_of_variant hvariant) hx
  have hattachments : draft.attachments.map (Template.renderTree values)
      = draft.attachments.map (Template.renderTree values') := by
    refine Option.map_congr fun tree htree => Template.renderTree_congr tree (h.mono fun x hx => ?_)
    exact .attachments htree hx
  have hchannel : draft.channel.mapAt renderedChannel (Template.renderTree values)
      = draft.channel.mapAt renderedChannel (Template.renderTree values') := by
    refine Table.ext_get? fun key => ?_
    rw [Table.get?_mapAt, Table.get?_mapAt]
    by_cases hkey : key ∈ renderedChannel
    · rw [if_pos hkey, if_pos hkey]
      refine Option.map_congr fun tree htree => ?_
      exact Template.renderTree_congr tree (h.mono fun x hx => .channel hkey htree hx)
    · rw [if_neg hkey, if_neg hkey]
  show (draft.message values (draft.variant words).1, (draft.variant words).2)
    = (draft.message values' (draft.variant words).1, (draft.variant words).2)
  unfold message
  rw [htext, hattachments, hchannel]

end Draft

/-! ## §4. All that is mentioned matters. -/

namespace Template

/-- A value under members of the given names. -/
def under (value : Json) : List String → Json
  | [] => value
  | name :: path => .object [(name, under value path)]

/-- A path leads to the value that stands under its names. -/
theorem reaches_under (value : Json) (path : List String) :
    Reaches path (under value path) value := by
  induction path with
  | nil => exact .here value
  | cons name path ih => exact .member (by simp) ih

/-- A reference shows the text that stands where its path leads. -/
theorem shown_under {x : String} {path : List String}
    (hnames : ∀ name ∈ x :: path, '.' ∉ name.toList) (text : String) :
    shown (dotted (x :: path)) (Table.empty.insert x (under (.string text) path))
      = text.toList := by
  have hfound : Refers (Table.empty.insert x (under (.string text) path)) (dotted (x :: path))
      (Json.string text).shown.toList :=
    .found hnames (Table.get?_insert_self _ _ _) (reaches_under _ path)
  rw [Json.shown] at hfound
  exact hfound.shown_eq

/-- Where there are no variables, no reference shows anything. -/
theorem shown_empty (reference : List Char) : shown reference .empty = [] := by
  by_cases hvars : "vars.".toList <+: reference
  · obtain ⟨first, path, rfl, hnames⟩ := exists_dotted hvars
    rw [shown_dotted _ hnames]
    rfl
  · exact shown_of_foreign _ hvars

/-- A piece shows no less with variables than with none. -/
theorem Piece.length_render_empty_le (values : Values) (piece : Piece) :
    (piece.render .empty).length ≤ (piece.render values).length := by
  cases piece with
  | char c => simp only [Piece.render, Nat.le_refl]
  | escaped reference =>
    rw [Piece.render, shown_empty]
    exact Nat.zero_le _
  | verbatim reference =>
    rw [Piece.render, shown_empty]
    exact Nat.zero_le _

/-- Nor do several pieces. -/
theorem length_renderPieces_empty_le (values : Values) (ps : List Piece) :
    (renderPieces .empty ps).length ≤ (renderPieces values ps).length := by
  -- piece by piece, for lengths add up
  induction ps with
  | nil => simp only [renderPieces, List.flatMap_nil, Nat.le_refl]
  | cons piece rest ih =>
    have hpiece := piece.length_render_empty_le values
    unfold renderPieces at ih ⊢
    rw [List.flatMap_cons, List.flatMap_cons, List.length_append, List.length_append]
    omega

/-- **Every variable that a template mentions matters**, and no other does. -/
theorem mentions_iff (template : String) (x : String) :
    Mentions template x
      ↔ ∃ values value, render template (values.insert x value) ≠ render template values := by
  constructor
  · rintro ⟨piece, hpiece, reference, hreference, hx⟩
    obtain ⟨path, rfl, hnames⟩ := names_iff.mp hx
    -- a member at the end of the path that shows a letter
    refine ⟨.empty, under (.string "a") path, fun hsame => ?_⟩
    have hshown := shown_under hnames "a"
    generalize Table.insert .empty x (under (.string "a") path) = values at hsame hshown
    have hlonger : (piece.render .empty).length < (piece.render values).length := by
      cases piece with
      | char c => cases hreference
      | escaped reference =>
        cases hreference
        rw [Piece.render, Piece.render, shown_empty, hshown]
        decide
      | verbatim reference =>
        cases hreference
        rw [Piece.render, Piece.render, shown_empty, hshown]
        decide
    -- no other piece gets shorter
    obtain ⟨before, behind, hpieces⟩ := List.append_of_mem hpiece
    have hlength := congrArg List.length (String.ofList_injective hsame)
    have hbefore := length_renderPieces_empty_le values before
    have hbehind := length_renderPieces_empty_le values behind
    unfold renderPieces at hlength hbefore hbehind
    rw [hpieces] at hlength
    simp only [List.flatMap_append, List.flatMap_cons, List.length_append] at hlength
    omega
  · rintro ⟨values, value, hdiffers⟩
    refine Classical.byContradiction fun hx => ?_
    exact hdiffers (render_congr (Table.agreeOn_insert values value hx))

end Template

/-- **A rendering depends on the variables it mentions, and on no other.**  Variables that agree on
what a template, a value or a draft mentions are shown alike in it, for a draft with the same random
words; so to set any other variable, whatever its name, changes no message. -/
theorem renderings_depend_on_mentions (values values' : Values) :
    (∀ template, Table.AgreeOn (Template.Mentions template) values values' →
        Template.render template values = Template.render template values')
      ∧ (∀ tree : Json, Table.AgreeOn tree.Mentions values values' →
        Template.renderTree values tree = Template.renderTree values' tree)
      ∧ (∀ (draft : Draft) words, Table.AgreeOn draft.Mentions values values' →
        draft.render values words = draft.render values' words)
      ∧ ∀ (draft : Draft) words x value, ¬ draft.Mentions x →
        draft.render (values.insert x value) words = draft.render values words := by
  refine ⟨?template, ?tree, ?draft, ?other⟩
  case template => exact fun _ h => Template.render_congr h
  case tree => exact Template.renderTree_congr
  case draft => exact fun _ words h => Draft.render_congr h words
  case other =>
    exact fun _ words _ value hx => Draft.render_congr (Table.agreeOn_insert values value hx) words

/-! ## §5. A draft with a name. -/

namespace Template

/-- A template that is one placeholder mentions what its reference names. -/
theorem mentions_slot (s : Slot) (x : String) :
    Mentions (String.ofList s.escaped) x ↔ Names s.reference x := by
  have hpieces : pieces (String.ofList s.escaped).toList = [.escaped s.reference] := by
    have hfront := placeholder?_escaped s []
    rw [List.append_nil] at hfront
    rw [String.toList_ofList, pieces_of_some hfront, pieces_nil]
  unfold Mentions
  rw [hpieces]
  simp [Piece.reference?]

/-- A reference to a member of the variable `name`, on a line of its own. -/
def nameSlot : Slot where
  before := ['\n', ' ']
  reference := dotted ["name", "first"]
  behind := ['\n']
  before_blank := List.all_eq_true.mp rfl
  reference_ne_nil := by decide
  reference_plain c hc := isReferenceChar_iff.mp (List.all_eq_true.mp rfl c hc)
  behind_blank := List.all_eq_true.mp rfl

/-- The template of that placeholder mentions nothing but the name. -/
theorem mentions_nameSlot {x : String} (h : Mentions (String.ofList nameSlot.escaped) x) :
    x = "name" :=
  ((mentions_slot nameSlot x).mp h).unique (names_iff.mpr ⟨["first"], rfl, by decide⟩)

end Template

/-- A tree with the name in it. -/
def nameTree : Json := .array [.null, .string (String.ofList Template.nameSlot.escaped)]

/-- Nor does the tree. -/
theorem nameTree_mentions {x : String} (h : nameTree.Mentions x) : x = "name" := by
  obtain ⟨text, htext, hx⟩ := h
  -- the tree is an array, whose first item is null and holds no text
  cases htext with
  | item hitem htext =>
    rcases List.mem_cons.mp hitem with rfl | hitem
    · cases htext
    · rw [List.mem_singleton.mp hitem] at htext
      cases htext
      exact Template.mentions_nameSlot hx

/-- A draft with the name in a text, in an attachment and in one among its channel data, where also
a note stands. -/
def nameDraft : Draft where
  texts := [String.ofList Template.nameSlot.escaped]
  attachments := some nameTree
  channel := .ofList [("attachment", nameTree), ("note", .string "\x7b\x7bvars.age\x7d\x7d")]

/-- Nor does the draft, for the note among its channel data is not rendered. -/
theorem nameDraft_mentions {x : String} (h : nameDraft.Mentions x) : x = "name" := by
  cases h with
  | text htext hx =>
    rw [List.mem_singleton.mp htext] at hx
    exact Template.mentions_nameSlot hx
  | attachments htree hx =>
    cases htree
    exact nameTree_mentions hx
  | channel hkey htree hx =>
    rcases Draft.mem_renderedChannel.mp hkey with rfl | rfl
    · cases htree
    · cases htree
      exact nameTree_mentions hx

/-- Variables with a name. -/
def adaValues : Values := Table.empty.insert "name" (.object [("first", .string "Ada")])

/-- The same with variables whose names go on, end before and stand in the note. -/
def crowdedValues : Values :=
  ((adaValues.insert "names" (.string "Bo")).insert "nam" .null).insert "age" (.ofNat 7)

/-- Both have the same name. -/
theorem crowdedValues_agree {keys : String → Prop} (h : ∀ key, keys key → key = "name") :
    Table.AgreeOn keys crowdedValues adaValues := by
  intro key hkey
  rw [h key hkey]
  rfl

/-- With the same name, all of these are shown alike, whatever stands in the note. -/
theorem nameDraft_depends_on_name :
    Template.render (String.ofList Template.nameSlot.escaped) crowdedValues
        = Template.render (String.ofList Template.nameSlot.escaped) adaValues
      ∧ Template.renderTree crowdedValues nameTree = Template.renderTree adaValues nameTree
      ∧ nameDraft.render crowdedValues ⟨[7], 0⟩ = nameDraft.render adaValues ⟨[7], 0⟩
      ∧ nameDraft.render (crowdedValues.insert "age" .null) ⟨[7], 0⟩
        = nameDraft.render crowdedValues ⟨[7], 0⟩ := by
  obtain ⟨htemplate, htree, hdraft, hother⟩ :=
    renderings_depend_on_mentions crowdedValues adaValues
  refine ⟨?_, ?_, ?_, ?_⟩
  · exact htemplate _ (crowdedValues_agree fun _ => Template.mentions_nameSlot)
  · exact htree nameTree (crowdedValues_agree fun _ => nameTree_mentions)
  · exact hdraft nameDraft _ (crowdedValues_agree fun _ => nameDraft_mentions)
  · have hage : ¬ nameDraft.Mentions "age" := fun h => absurd (nameDraft_mentions h) (by decide)
    exact hother nameDraft _ "age" .null hage

end Parley

/-
  Parley.Table
  ────────────
  **KEYED TABLES IN KEY ORDER.**

  A `Table α` maps names to values of type `α`.  It is a list of entries whose
  keys increase strictly in the byte order of their UTF-8 form, and it carries
  that fact as a field, so that two tables with the same entries are equal and
  enumeration has one answer.

  Contents:

      get?     — the value under a key
      insert   — write a key, replacing what it held
      ofList   — write entries one after another (the last write wins)
      extend   — write every entry of another table
      keys     — the keys, in order
-/

namespace Parley

/-! ## §1. The order of keys. -/

/-- Byte order of the UTF-8 forms: the first differing byte decides, and a
proper start of a key comes first. -/
def keyBefore (a b : String) : Prop :=
  a.toByteArray.data.toList < b.toByteArray.data.toList

instance (a b : String) : Decidable (keyBefore a b) :=
  inferInstanceAs (Decidable (a.toByteArray.data.toList < b.toByteArray.data.toList))

/-- No key comes before itself. -/
theorem keyBefore_irrefl (a : String) : ¬ keyBefore a a :=
  List.lt_irrefl _

/-- The order of keys is transitive. -/
theorem keyBefore_trans {a b c : String} (hab : keyBefore a b) (hbc : keyBefore b c) :
    keyBefore a c :=
  List.lt_trans hab hbc

/-- Of two different keys one comes before the other. -/
theorem keyBefore_of_not {a b : String} (hne : a ≠ b) (hab : ¬ keyBefore a b) :
    keyBefore b a := by
  have hle : b.toByteArray.data.toList ≤ a.toByteArray.data.toList := List.not_lt.mp hab
  rcases List.le_iff_lt_or_eq.mp hle with h | h
  · exact h
  · exact absurd (String.toByteArray_inj.mp (ByteArray.ext (Array.toList_inj.mp h))).symm hne

/-! ## §2. Entry lists. -/

/-- Keys increase strictly along the list. -/
def Ordered {α : Type} (entries : List (String × α)) : Prop :=
  entries.Pairwise fun a b => keyBefore a.1 b.1

/-- Write `key` into an ordered entry list. -/
def putEntry {α : Type} (key : String) (value : α) : List (String × α) → List (String × α)
  | [] => [(key, value)]
  | (k, v) :: rest =>
    if key = k then (key, value) :: rest
    else if keyBefore key k then (key, value) :: (k, v) :: rest
    else (k, v) :: putEntry key value rest

/-- An entry after a writing is the one written or was there before. -/
theorem mem_putEntry {α : Type} {key : String} {value : α} {e : String × α}
    {entries : List (String × α)} (h : e ∈ putEntry key value entries) :
    e = (key, value) ∨ e ∈ entries := by
  induction entries with
  | nil => simpa [putEntry] using h
  | cons head rest ih =>
    obtain ⟨k, v⟩ := head
    unfold putEntry at h
    split at h
    · rcases List.mem_cons.mp h with h | h
      · exact .inl h
      · exact .inr (List.mem_cons_of_mem _ h)
    · split at h
      · exact List.mem_cons.mp h
      · rcases List.mem_cons.mp h with h | h
        · exact .inr (h ▸ List.mem_cons_self)
        · exact (ih h).imp id (List.mem_cons_of_mem _)

/-- **Writing keeps the entries in order**, wherever the key belongs. -/
theorem ordered_putEntry {α : Type} {key : String} {value : α}
    {entries : List (String × α)} (h : Ordered entries) :
    Ordered (putEntry key value entries) := by
  induction entries with
  | nil => exact List.pairwise_singleton _ _
  | cons head rest ih =>
    obtain ⟨k, v⟩ := head
    obtain ⟨hk, hrest⟩ := List.pairwise_cons.mp h
    unfold putEntry
    -- the key is found, belongs before the head, or belongs further on
    split
    · subst_vars
      exact List.pairwise_cons.mpr ⟨hk, hrest⟩
    · rename_i hne
      split
      · rename_i hlt
        refine List.pairwise_cons.mpr ⟨fun e he => ?_, h⟩
        rcases List.mem_cons.mp he with rfl | he
        · exact hlt
        · exact keyBefore_trans hlt (hk e he)
      · rename_i hnlt
        refine List.pairwise_cons.mpr ⟨fun e he => ?_, ih hrest⟩
        rcases mem_putEntry he with rfl | he
        · exact keyBefore_of_not hne hnlt
        · exact hk e he

/-! ## §3. Tables. -/

/-- Values under names, in the order of the names. -/
structure Table (α : Type) where
  /-- The entries, keys strictly increasing. -/
  entries : List (String × α)
  /-- Keys increase strictly. -/
  ordered : Ordered entries

namespace Table

variable {α β : Type}

/-- A table is its list of entries: that they are in order is no further data. -/
@[ext] theorem ext {s t : Table α} (h : s.entries = t.entries) : s = t := by
  cases s; cases t; cases h; rfl

instance [DecidableEq α] : DecidableEq (Table α) := fun s t =>
  decidable_of_iff (s.entries = t.entries) ⟨Table.ext, fun h => h ▸ rfl⟩

/-- The table with no entry. -/
def empty : Table α := ⟨[], List.Pairwise.nil⟩

instance : EmptyCollection (Table α) := ⟨empty⟩

instance : Inhabited (Table α) := ⟨empty⟩

/-- The value under `key`. -/
def get? (t : Table α) (key : String) : Option α := t.entries.lookup key

/-- Whether `key` has a value. -/
def contains (t : Table α) (key : String) : Bool := (t.get? key).isSome

/-- Write `value` under `key`, replacing what was there. -/
def insert (t : Table α) (key : String) (value : α) : Table α :=
  ⟨putEntry key value t.entries, ordered_putEntry t.ordered⟩

/-- Write every entry of a list in turn; of two entries with one key the later
one wins. -/
def insertMany (t : Table α) : List (String × α) → Table α
  | [] => t
  | (k, v) :: rest => (t.insert k v).insertMany rest

/-- The table of a list of entries; the last entry of a key wins. -/
def ofList (entries : List (String × α)) : Table α := empty.insertMany entries

/-- Write every entry of `u` over `t`. -/
def extend (t u : Table α) : Table α := t.insertMany u.entries

/-- The keys, in order. -/
def keys (t : Table α) : List String := t.entries.map (·.1)

/-- Whether there is no entry. -/
def isEmpty (t : Table α) : Bool := t.entries.isEmpty

/-- Apply `f` to the value under every key of `names`, leaving the others. -/
def mapAt (names : List String) (f : α → α) (t : Table α) : Table α where
  entries := t.entries.map fun e => (e.1, if names.contains e.1 then f e.2 else e.2)
  ordered := by
    unfold Ordered
    rw [List.pairwise_map]
    exact t.ordered

/-! ## §4. How look-up sees each operation. -/

@[simp] theorem get?_empty (key : String) : (empty : Table α).get? key = none := rfl

/-- A list that starts with an entry holds its value under its key, and else what the rest holds.
-/
theorem lookup_entry (key k : String) (value : α) (rest : List (String × α)) :
    ((key, value) :: rest).lookup k = if k = key then some value else rest.lookup k := by
  rw [List.lookup_cons]
  by_cases h : k = key
  · rw [if_pos h, beq_iff_eq.mpr h]
  · rw [if_neg h, beq_eq_false_iff_ne.mpr h]

/-- After a writing the key holds what was written, and every other what it held. -/
theorem lookup_putEntry (key k : String) (value : α) (entries : List (String × α)) :
    (putEntry key value entries).lookup k =
      if k = key then some value else entries.lookup k := by
  induction entries with
  | nil => exact lookup_entry key k value []
  | cons head rest ih =>
    obtain ⟨k', v'⟩ := head
    unfold putEntry
    -- the key may be that of the head, come before it, or come after it
    by_cases h1 : key = k'
    · subst h1
      rw [if_pos rfl, lookup_entry, lookup_entry]
      by_cases h : k = key
      · rw [if_pos h, if_pos h]
      · rw [if_neg h, if_neg h, if_neg h]
    · rw [if_neg h1]
      by_cases h2 : keyBefore key k'
      · rw [if_pos h2]
        exact lookup_entry key k value _
      · rw [if_neg h2, lookup_entry, lookup_entry, ih]
        by_cases h3 : k = k'
        · subst h3
          rw [if_pos rfl, if_neg (Ne.symm h1), if_pos rfl]
        · rw [if_neg h3, if_neg h3]

/-- What a table holds under a key after another, or the same, is written. -/
theorem get?_insert (t : Table α) (key k : String) (value : α) :
    (t.insert key value).get? k = if k = key then some value else t.get? k :=
  lookup_putEntry key k value t.entries

@[simp] theorem get?_insert_self (t : Table α) (key : String) (value : α) :
    (t.insert key value).get? key = some value := by
  simp [get?_insert]

/-- Writing a key leaves what is held under the others. -/
theorem get?_insert_of_ne (t : Table α) {key k : String} (value : α) (h : k ≠ key) :
    (t.insert key value).get? k = t.get? k := by
  simp [get?_insert, h]

/-- Writing a key twice is writing it once, with the later value. -/
theorem putEntry_putEntry (key : String) (first last : α) (entries : List (String × α)) :
    putEntry key last (putEntry key first entries) = putEntry key last entries := by
  induction entries with
  | nil => simp [putEntry]
  | cons head rest ih =>
    obtain ⟨k, v⟩ := head
    by_cases hsame : key = k
    · simp [putEntry, hsame]
    · by_cases hbefore : keyBefore key k
      · simp [putEntry, hsame, hbefore]
      · simp [putEntry, hsame, hbefore, ih]

@[simp] theorem keys_mapAt (names : List String) (f : α → α) (t : Table α) :
    (t.mapAt names f).keys = t.keys := by
  simp [mapAt, keys]

/-- Where entries keep their keys, each is found with what it has become. -/
theorem lookup_map (f : String → α → β) (entries : List (String × α)) (k : String) :
    (entries.map fun e => (e.1, f e.1 e.2)).lookup k = (entries.lookup k).map (f k) := by
  induction entries with
  | nil => rfl
  | cons head rest ih =>
    obtain ⟨key, value⟩ := head
    rw [List.map_cons, lookup_entry, lookup_entry, ih]
    by_cases hk : k = key
    · rw [if_pos hk, if_pos hk, hk]
      rfl
    · rw [if_neg hk, if_neg hk]

/-- A value is changed under the names given, and under no other. -/
theorem get?_mapAt (names : List String) (f : α → α) (t : Table α) (k : String) :
    (t.mapAt names f).get? k = if k ∈ names then (t.get? k).map f else t.get? k := by
  refine (lookup_map (fun key value => if names.contains key then f value else value)
    t.entries k).trans ?_
  by_cases hk : k ∈ names
  · simp [hk, get?]
  · simp [hk, get?]

/-- Of two values written under one key the later one stays. -/
@[simp] theorem insert_insert (t : Table α) (key : String) (first last : α) :
    (t.insert key first).insert key last = t.insert key last :=
  ext (putEntry_putEntry key first last t.entries)

/-- The only table without entries is the empty one. -/
theorem isEmpty_eq_true_iff (t : Table α) : t.isEmpty = true ↔ t = empty := by
  rw [isEmpty, List.isEmpty_iff]
  exact ⟨fun h => ext h, fun h => h ▸ rfl⟩

/-- A key that comes before all others is not among them. -/
theorem lookup_eq_none {key : String} {entries : List (String × α)}
    (h : ∀ e ∈ entries, keyBefore key e.1) : entries.lookup key = none := by
  refine List.lookup_eq_none_iff.mpr ?_
  rintro ⟨k, v⟩ he
  have hne : key ≠ k := by
    rintro rfl
    exact keyBefore_irrefl key (h _ he)
  exact bne_iff_ne.mpr hne

/-- The entry of a key has what is found under it. -/
theorem mem_entries_iff (t : Table α) {key : String} {value : α} :
    (key, value) ∈ t.entries ↔ t.get? key = some value := by
  obtain ⟨entries, hordered⟩ := t
  show (key, value) ∈ entries ↔ entries.lookup key = some value
  -- along the entries, which are in order and so have the key once at most
  induction entries with
  | nil => simp
  | cons head rest ih =>
    obtain ⟨k, v⟩ := head
    obtain ⟨hk, hrest⟩ := List.pairwise_cons.mp hordered
    rw [List.mem_cons, lookup_entry, ih hrest]
    by_cases hkey : key = k
    · -- no later entry has the key again
      subst hkey
      rw [if_pos rfl, lookup_eq_none hk]
      simp [eq_comm]
    · simp [hkey]

/-- The keys of a table are those that have a value. -/
theorem mem_keys_iff (t : Table α) {key : String} : key ∈ t.keys ↔ t.contains key = true := by
  refine List.mem_map.trans ⟨?_, ?_⟩
  · rintro ⟨⟨k, value⟩, hentry, rfl⟩
    exact Option.isSome_iff_exists.mpr ⟨value, t.mem_entries_iff.mp hentry⟩
  · intro hcontains
    obtain ⟨value, hvalue⟩ := Option.isSome_iff_exists.mp hcontains
    exact ⟨(key, value), t.mem_entries_iff.mpr hvalue, rfl⟩

/-- **Tables that hold the same under every key are equal.** -/
theorem ext_get? {t u : Table α} (h : ∀ key, t.get? key = u.get? key) : t = u := by
  -- the same entries, none twice, in the same order
  have hmem : ∀ e, e ∈ t.entries ↔ e ∈ u.entries := by
    rintro ⟨key, value⟩
    rw [t.mem_entries_iff, u.mem_entries_iff, h key]
  have hnodup : ∀ v : Table α, v.entries.Nodup := by
    intro v
    refine v.ordered.imp fun {a b} hbefore hsame => ?_
    rw [hsame] at hbefore
    exact keyBefore_irrefl _ hbefore
  have hperm : t.entries.Perm u.entries :=
    (List.perm_ext_iff_of_nodup (hnodup t) (hnodup u)).mpr hmem
  refine ext (hperm.eq_of_pairwise ?_ t.ordered u.ordered)
  intro a b _ _ hab hba
  exact absurd (keyBefore_trans hab hba) (keyBefore_irrefl _)

/-- Of entries with different keys, each is found. -/
theorem get?_insertMany (k : String) {entries : List (String × α)} (h : Ordered entries) :
    ∀ t : Table α, (t.insertMany entries).get? k = (entries.lookup k).or (t.get? k) := by
  induction entries with
  | nil => exact fun t => rfl
  | cons head rest ih =>
    obtain ⟨key, value⟩ := head
    obtain ⟨hkey, hrest⟩ := List.pairwise_cons.mp h
    intro t
    show ((t.insert key value).insertMany rest).get? k = _
    rw [ih hrest, get?_insert, lookup_entry]
    by_cases hk : k = key
    · -- no later entry writes the key again
      subst hk
      rw [lookup_eq_none hkey, if_pos rfl, if_pos rfl]
      rfl
    · rw [if_neg hk, if_neg hk]

/-- Over a table, what another holds counts first. -/
theorem get?_extend (t u : Table α) (k : String) :
    (t.extend u).get? k = (u.get? k).or (t.get? k) :=
  get?_insertMany k u.ordered t

/-- Entries written in two parts are written in one. -/
theorem insertMany_append (first last : List (String × α)) :
    ∀ t : Table α, t.insertMany (first ++ last) = (t.insertMany first).insertMany last := by
  induction first with
  | nil => exact fun t => rfl
  | cons head rest ih => exact fun t => ih (t.insert head.1 head.2)

/-- An entry whose key comes after all others is written at the end. -/
theorem putEntry_last {key : String} {value : α} {entries : List (String × α)}
    (h : ∀ e ∈ entries, keyBefore e.1 key) :
    putEntry key value entries = entries ++ [(key, value)] := by
  induction entries with
  | nil => rfl
  | cons head rest ih =>
    obtain ⟨k, v⟩ := head
    have hk : keyBefore k key := h (k, v) List.mem_cons_self
    have hne : key ≠ k := by
      rintro rfl
      exact keyBefore_irrefl key hk
    have hnot : ¬ keyBefore key k := fun hback => keyBefore_irrefl key (keyBefore_trans hback hk)
    unfold putEntry
    rw [if_neg hne, if_neg hnot, ih fun e he => h e (List.mem_cons_of_mem _ he), List.cons_append]

/-- Entries that continue a table in order are written at its end. -/
theorem entries_insertMany (entries : List (String × α)) :
    ∀ t : Table α, Ordered (t.entries ++ entries) →
      (t.insertMany entries).entries = t.entries ++ entries := by
  induction entries with
  | nil => exact fun t _ => (List.append_nil t.entries).symm
  | cons head rest ih =>
    obtain ⟨key, value⟩ := head
    intro t h
    have hlast : (t.insert key value).entries = t.entries ++ [(key, value)] :=
      putEntry_last fun e he => (List.pairwise_append.mp h).2.2 e he (key, value) List.mem_cons_self
    rw [List.append_cons] at h ⊢
    rw [← hlast] at h ⊢
    exact ih (t.insert key value) h

/-- **A table is that of its own entries.** -/
@[simp] theorem ofList_entries (t : Table α) : ofList t.entries = t :=
  ext (entries_insertMany t.entries empty t.ordered)

/-- No writing takes a key away. -/
theorem contains_insert {t : Table α} {k : String} (h : t.contains k = true) (key : String)
    (value : α) : (t.insert key value).contains k = true := by
  unfold contains at h ⊢
  rw [get?_insert]
  split
  · rfl
  · exact h

/-- Nor do several. -/
theorem contains_insertMany {k : String} (entries : List (String × α)) :
    ∀ {t : Table α}, t.contains k = true → (t.insertMany entries).contains k = true := by
  induction entries with
  | nil => exact fun h => h
  | cons head rest ih => exact fun h => ih (contains_insert h head.1 head.2)

end Table

end Parley

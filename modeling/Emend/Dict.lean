/-!
# Dictionaries in key order

A `Dict` maps strings to values and keeps its entries in ascending order of their keys, which is
the order of the bytes of their UTF-8 forms.  The order is part of the type, so that two
dictionaries with the same entries are equal.

The operations are defined on plain lists of entries first (`Entries`), for values that hold such
lists inside a recursive type.
-/

set_option autoImplicit false

namespace Emend

variable {α : Type}

/-! ## Entries

Lists of entries are sorted by inserting one after the other, so that of several entries with one
key the last stays, and what is said of one insertion holds of sorting by induction. -/

/-- Key-value pairs. -/
abbrev Entries (α : Type) := List (String × α)

namespace Entries

/-- The entries are in strictly ascending order of their keys. -/
def Sorted (es : Entries α) : Prop := es.Pairwise fun a b ↦ a.1 < b.1

/-- The value of the first entry with a key. -/
def get? (es : Entries α) (key : String) : Option α :=
  (es.find? fun e ↦ e.1 = key).map Prod.snd

/-- Puts an entry in its place among sorted entries, instead of one that has its key. -/
def insert (es : Entries α) (key : String) (value : α) : Entries α :=
  match es with
  | [] => [(key, value)]
  | e :: rest =>
    if key < e.1 then (key, value) :: e :: rest
    else if key = e.1 then (key, value) :: rest
    else e :: insert rest key value

/-- Removes the entries with a key. -/
def erase (es : Entries α) (key : String) : Entries α := es.filter fun e ↦ e.1 ≠ key

/-- Sorts entries by key.  Of several with one key the last stays. -/
def sort (es : Entries α) : Entries α := es.foldl (fun acc e ↦ acc.insert e.1 e.2) []

theorem mem_insert {es : Entries α} {key : String} {value : α} {e : String × α}
    (h : e ∈ es.insert key value) : e = (key, value) ∨ e ∈ es := by
  induction es with
  | nil => simpa [insert] using h
  | cons x rest ih =>
    unfold insert at h
    split at h
    · simpa using h
    · split at h
      · rcases List.mem_cons.1 h with h | h
        · exact .inl h
        · exact .inr (List.mem_cons_of_mem _ h)
      · rcases List.mem_cons.1 h with h | h
        · exact .inr (h ▸ List.mem_cons_self)
        · exact (ih h).imp_right (List.mem_cons_of_mem _)

theorem get?_cons (e : String × α) (es : Entries α) (key : String) :
    get? (e :: es) key = if e.1 = key then some e.2 else es.get? key := by
  by_cases h : e.1 = key <;> simp [get?, h]

@[simp] theorem get?_insert_self (es : Entries α) (key : String) (value : α) :
    (es.insert key value).get? key = some value := by
  induction es with
  | nil => rw [insert, get?_cons, if_pos rfl]
  | cons x rest ih =>
    unfold insert
    split
    · rw [get?_cons, if_pos rfl]
    · split
      · rw [get?_cons, if_pos rfl]
      · next hne => rw [get?_cons, if_neg fun heq ↦ hne heq.symm, ih]

theorem get?_insert_of_ne {es : Entries α} {key other : String} (h : other ≠ key) (value : α) :
    (es.insert key value).get? other = es.get? other := by
  induction es with
  | nil => rw [insert, get?_cons, if_neg h.symm]
  | cons x rest ih =>
    unfold insert
    split
    · rw [get?_cons, if_neg h.symm]
    · split
      · next heq => rw [get?_cons, get?_cons, if_neg h.symm, if_neg (heq ▸ h.symm)]
      · rw [get?_cons, get?_cons, ih]

@[simp] theorem get?_erase_self (es : Entries α) (key : String) :
    (es.erase key).get? key = none := by
  simp [erase, get?, List.find?_eq_none]

theorem get?_erase_of_ne {es : Entries α} {key other : String} (h : other ≠ key) :
    (es.erase key).get? other = es.get? other := by
  induction es with
  | nil => rfl
  | cons x rest ih =>
    by_cases hx : x.1 = key
    · have hdropped : erase (x :: rest) key = erase rest key :=
        List.filter_cons_of_neg (by simpa using hx)
      rw [hdropped, ih, get?_cons, if_neg (hx ▸ h.symm)]
    · have hkept : erase (x :: rest) key = x :: erase rest key :=
        List.filter_cons_of_pos (by simpa using hx)
      rw [hkept, get?_cons, get?_cons, ih]

theorem Sorted.insert {es : Entries α} (h : es.Sorted) (key : String) (value : α) :
    (es.insert key value).Sorted := by
  induction es with
  | nil => simp [Entries.insert, Sorted]
  | cons x rest ih =>
    obtain ⟨hx, hrest⟩ := List.pairwise_cons.1 h
    unfold Entries.insert
    split
    · next hlt =>
      refine List.pairwise_cons.2 ⟨fun e he ↦ ?_, h⟩
      rcases List.mem_cons.1 he with rfl | he
      · exact hlt
      · exact String.lt_trans hlt (hx e he)
    · split
      · next heq => exact List.pairwise_cons.2 ⟨fun e he ↦ heq ▸ hx e he, hrest⟩
      · next hlt hne =>
        refine List.pairwise_cons.2 ⟨fun e he ↦ ?_, ih hrest⟩
        rcases mem_insert he with rfl | he
        · exact Decidable.byContradiction fun hge ↦
            hne (String.le_antisymm (String.not_lt.1 hge) (String.not_lt.1 hlt))
        · exact hx e he

/-- A key behind all others goes to the end. -/
theorem insert_of_forall_lt {es : Entries α} {key : String} (h : ∀ e ∈ es, e.1 < key) (value : α) :
    es.insert key value = es ++ [(key, value)] := by
  induction es with
  | nil => rfl
  | cons x rest ih =>
    obtain ⟨hx, hrest⟩ := List.forall_mem_cons.1 h
    have hne : key ≠ x.1 := fun heq ↦ String.lt_irrefl _ (heq ▸ hx)
    rw [insert, if_neg (String.lt_asymm hx), if_neg hne, ih hrest, List.cons_append]

theorem Sorted.erase {es : Entries α} (h : es.Sorted) (key : String) : (es.erase key).Sorted :=
  List.Pairwise.filter _ h

end Entries

/-! ## Dictionaries -/

/-- A map from strings to values, with its entries in ascending order of their keys. -/
structure Dict (α : Type) where
  entries : Entries α
  sorted : entries.Sorted
  deriving DecidableEq

namespace Dict

/-- The dictionary without entries. -/
def empty : Dict α := ⟨[], List.Pairwise.nil⟩

instance : Inhabited (Dict α) := ⟨empty⟩

/-- The value of a key. -/
def get? (d : Dict α) (key : String) : Option α := d.entries.get? key

/-- Gives a key a value, in place of the one it may have. -/
def insert (d : Dict α) (key : String) (value : α) : Dict α :=
  ⟨d.entries.insert key value, d.sorted.insert key value⟩

/-- Takes a key and its value out. -/
def erase (d : Dict α) (key : String) : Dict α := ⟨d.entries.erase key, d.sorted.erase key⟩

/-- The keys, in ascending order. -/
def keys (d : Dict α) : List String := d.entries.map Prod.fst

/-- The number of entries. -/
def size (d : Dict α) : Nat := d.entries.length

/-- Whether there are no entries. -/
def isEmpty (d : Dict α) : Bool := d.entries.isEmpty

theorem eq_empty_of_isEmpty {d : Dict α} (h : d.isEmpty = true) : d = empty := by
  obtain ⟨entries, sorted⟩ := d
  obtain rfl : entries = [] := List.isEmpty_iff.1 h
  rfl

/-- The dictionary of some entries.  Of several with one key the last counts. -/
def ofEntries (es : Entries α) : Dict α := es.foldl (fun d e ↦ d.insert e.1 e.2) empty

theorem entries_foldl_insert {d : Dict α} {es : Entries α}
    (h : Entries.Sorted (d.entries ++ es)) :
    (es.foldl (fun d e ↦ d.insert e.1 e.2) d).entries = d.entries ++ es := by
  induction es generalizing d with
  | nil => exact (List.append_nil _).symm
  | cons e es ih =>
    have hlt : ∀ f ∈ d.entries, f.1 < e.1 := fun f hf ↦
      (List.pairwise_append.1 h).2.2 f hf e List.mem_cons_self
    have hinsert : (d.insert e.1 e.2).entries = d.entries ++ [e] :=
      Entries.insert_of_forall_lt hlt e.2
    rw [List.foldl_cons, ih, hinsert, List.append_assoc]
    · rfl
    · rwa [hinsert, List.append_assoc]

/-- A dictionary is the dictionary of its entries. -/
theorem ofEntries_entries (d : Dict α) : ofEntries d.entries = d := by
  have h : (ofEntries d.entries).entries = d.entries := entries_foldl_insert d.sorted
  cases hd : ofEntries d.entries with
  | mk entries sorted =>
    rw [hd] at h
    subst h
    rfl

end Dict

end Emend

import Emend.Json.Decode

/-!
# What decoders read

A decoder inverts an encoder if it reads back every value that the encoder wrote
(`Decoder.Inverts`).  For a structure this is settled field by field: `Record.Reads` says what a
record makes of the members of an object, and the lemmas on `Record.member?` find each field among
them.

So the proof for a structure follows the structure, with one step for a field, and does not mention
how a record goes through members or counts what it has seen.
-/

set_option autoImplicit false

namespace Emend

variable {α β : Type}

/-! ## Plain decoders -/

namespace Decoder

/-- A decoder reads back what an encoder writes. -/
def Inverts (d : Decoder α) (encode : α → Json) : Prop := ∀ a, d (encode a) = .ok a

theorem string_inverts : string.Inverts .str := fun _ ↦ rfl

theorem text_inverts : text.Inverts fun t ↦ .str (String.ofList t) := by
  intro t
  show Except.ok (String.ofList t).toList = _
  rw [String.toList_ofList]

theorem u32_inverts : u32.Inverts fun n ↦ .int n.toNat := by
  intro n
  have := n.toNat_lt
  rw [u32, intBetween, if_pos (by omega)]
  show Except.ok (UInt32.ofNat n.toNat) = _
  rw [UInt32.ofNat_toNat]

theorem i32_inverts : i32.Inverts fun v ↦ .int v.toInt := by
  intro v
  have hlow := v.le_toInt
  have hhigh := v.toInt_lt
  rw [i32, intBetween, if_pos (by omega)]
  show Except.ok (Int32.ofInt v.toInt) = _
  rw [Int32.ofInt_toInt]

theorem mapM_map {d : Decoder α} {encode : α → Json} (h : d.Inverts encode) (xs : List α) :
    (xs.map encode).mapM d = .ok xs := by
  induction xs with
  | nil => rfl
  | cons x xs ih =>
    rw [List.map_cons, List.mapM_cons, h x, ih]
    rfl

theorem Inverts.list {d : Decoder α} {encode : α → Json} (h : d.Inverts encode) :
    d.list.Inverts fun xs ↦ .arr (xs.map encode) :=
  mapM_map h

/-- The members of an object, where the entries of a dictionary were written. -/
theorem mapM_members {d : Decoder α} {encode : α → Json} (h : d.Inverts encode)
    (es : Entries α) :
    (es.map fun (key, a) ↦ (key, encode a)).mapM
      (fun m ↦ (d m.2).map fun a ↦ (m.1, a)) = .ok es := by
  induction es with
  | nil => rfl
  | cons e es ih =>
    rw [List.map_cons, List.mapM_cons, h e.2, ih]
    rfl

theorem Inverts.dict {d : Decoder α} {encode : α → Json} (h : d.Inverts encode) :
    d.dict.Inverts fun x ↦ .obj (x.entries.map fun (key, a) ↦ (key, encode a)) := by
  intro x
  rw [Decoder.dict, mapM_members h, Except.map, x.ofEntries_entries]

theorem get?_map_name {name : α → String} (hname : Function.Injective name) {xs : List α} {a : α}
    (ha : a ∈ xs) : Entries.get? (xs.map fun a ↦ (name a, a)) (name a) = some a := by
  induction xs with
  | nil => cases ha
  | cons x xs ih =>
    rw [List.map_cons, Entries.get?_cons]
    split
    · next hx => rw [hname hx]
    · next hne =>
      rcases List.mem_cons.1 ha with rfl | ha
      · exact absurd rfl hne
      · exact ih ha

/-- Values are read back from their names, if no two of them share one. -/
theorem enumeration_inverts (xs : List α) {name : α → String} (hxs : ∀ a, a ∈ xs)
    (hname : Function.Injective name) (nothing : Decoder Unit) :
    (enumeration (xs.map fun a ↦ (name a, a)) nothing).Inverts fun a ↦ .str (name a) := by
  intro a
  simp only [enumeration, get?_map_name hname (hxs a)]

end Decoder

/-! ## Members of objects

A record looks for its field among the members and decodes the first one with that key.  The lemmas
walk along the members that an encoder has written, past one member at a time; which keys are
different is left to `simp` or `decide`. -/

namespace Record

variable {key k : String} {d : Decoder α} {ms : Entries Json} {found : Option α}

theorem member?_head_iff {j : Json} : member? key d ((key, j) :: ms) = .ok found ↔
    ∃ a, d j = .ok a ∧ some a = found := by
  rw [member?, List.findIdx?_cons, if_pos (by simp)]
  simp only [List.getElem?_cons_zero]
  cases d j <;> simp

/-- Another member in front changes nothing but the number of a member at fault. -/
theorem member?_tail_iff {j : Json} (hk : k ≠ key) :
    member? key d ((k, j) :: ms) = .ok found ↔ member? key d ms = .ok found := by
  rw [member?, member?, List.findIdx?_cons, if_neg (by simpa using hk)]
  cases ms.findIdx? fun m ↦ m.1 = key with
  | none => rfl
  | some i =>
    simp only [Option.map_some, List.getElem?_cons_succ]
    cases ms[i]? with
    | none => rfl
    | some m => cases hd : d m.2 <;> simp [hd]

theorem member?_head {j : Json} {a : α} (h : d j = .ok a) :
    member? key d ((key, j) :: ms) = .ok (some a) :=
  member?_head_iff.2 ⟨a, h, rfl⟩

theorem member?_tail {j : Json} (hk : k ≠ key) (h : member? key d ms = .ok found) :
    member? key d ((k, j) :: ms) = .ok found :=
  (member?_tail_iff hk).2 h

/-- Of several members with a key, the first is read. -/
theorem member?_eq_ok_iff : member? key d ms = .ok found ↔
    (Entries.get? ms key = none ∧ found = none) ∨
      ∃ j a, Entries.get? ms key = some j ∧ d j = .ok a ∧ found = some a := by
  induction ms with
  | nil =>
    show Except.ok none = Except.ok found ↔ _
    simp [Entries.get?, eq_comm]
  | cons m ms ih =>
    obtain ⟨k, j⟩ := m
    rw [Entries.get?_cons]
    by_cases hk : k = key
    · subst hk
      rw [member?_head_iff]
      simp [eq_comm]
    · rw [member?_tail_iff hk, ih, if_neg hk]

/-! ## Records

`Reads` leaves out how errors name the place at fault, which an encoder never gives rise to.  There
is an equivalence for each way to build a record, for taking what was read apart, and a rule in the
one direction, for putting a record together field by field. -/

/-- What a record makes of the members of an object. -/
def Reads (r : Record α) (ms : Entries Json) (a : α) : Prop := r.ofMembers ms = .ok a

theorem decoder_obj_iff {r : Record α} {a : α} (name : String) :
    r.decoder name (.obj ms) = .ok a ↔ r.Reads ms a := by
  show (r.ofMembers ms).mapError Fault.error = _ ↔ r.ofMembers ms = _
  cases r.ofMembers ms with
  | ok b => exact ⟨fun h ↦ congrArg _ (Except.ok.inj h), fun h ↦ congrArg _ (Except.ok.inj h)⟩
  | error e => exact ⟨nofun, nofun⟩

theorem reads_seq_iff {f : Record (α → β)} {r : Record α} {b : β} :
    (f <*> r).Reads ms b ↔ ∃ g a, f.Reads ms g ∧ r.Reads ms a ∧ g a = b := by
  show (Record.seq f r).ofMembers ms = _ ↔ ∃ g a, f.ofMembers ms = _ ∧ r.ofMembers ms = _ ∧ _
  simp only [Record.seq]
  cases f.ofMembers ms <;> cases r.ofMembers ms <;> simp

theorem reads_map_iff {f : α → β} {r : Record α} {b : β} :
    (f <$> r).Reads ms b ↔ ∃ a, r.Reads ms a ∧ f a = b := by
  show (Record.pure f <*> r).Reads ms b ↔ _
  rw [reads_seq_iff]
  constructor
  · rintro ⟨g, a, hg, ha, rfl⟩
    cases hg
    exact ⟨a, ha, rfl⟩
  · rintro ⟨a, ha, rfl⟩
    exact ⟨f, a, rfl, ha, rfl⟩

theorem reads_required_iff {a : α} :
    (required key d).Reads ms a ↔ member? key d ms = .ok (some a) := by
  show (field key d none none).ofMembers ms = _ ↔ _
  simp only [field]
  cases member? key d ms with
  | error e => simp
  | ok found => cases found <;> simp

/-- A field that is absent has its default. -/
theorem reads_optional_iff {a default : α} : (optional key d default).Reads ms a ↔
    ∃ found, member? key d ms = .ok found ∧ found.getD default = a := by
  show (field key d (some default) (some default)).ofMembers ms = _ ↔ _
  simp only [field]
  cases member? key d ms with
  | error e => simp
  | ok found => cases found <;> simp

/-- What is read for a field with a default, by whether its key is among the members. -/
theorem reads_optional_get?_iff {a default : α} : (optional key d default).Reads ms a ↔
    (Entries.get? ms key = none ∧ a = default) ∨
      ∃ j, Entries.get? ms key = some j ∧ d j = .ok a := by
  rw [reads_optional_iff]
  simp only [member?_eq_ok_iff]
  constructor
  · rintro ⟨_, ⟨hkey, rfl⟩ | ⟨j, b, hkey, hj, rfl⟩, rfl⟩
    · exact .inl ⟨hkey, rfl⟩
    · exact .inr ⟨j, hkey, hj⟩
  · rintro (⟨hkey, rfl⟩ | ⟨j, hkey, hj⟩)
    · exact ⟨none, .inl ⟨hkey, rfl⟩, rfl⟩
    · exact ⟨some a, .inr ⟨j, a, hkey, hj, rfl⟩, rfl⟩

theorem decoder_obj {r : Record α} {a : α} (h : r.Reads ms a) (name : String) :
    r.decoder name (.obj ms) = .ok a :=
  (decoder_obj_iff name).2 h

theorem Reads.seq {f : Record (α → β)} {r : Record α} {g : α → β} {a : α} (hf : f.Reads ms g)
    (h : r.Reads ms a) : (f <*> r).Reads ms (g a) :=
  reads_seq_iff.2 ⟨g, a, hf, h, rfl⟩

theorem Reads.map {r : Record α} {a : α} (f : α → β) (h : r.Reads ms a) :
    (f <$> r).Reads ms (f a) :=
  reads_map_iff.2 ⟨a, h, rfl⟩

theorem reads_required {a : α} (h : member? key d ms = .ok (some a)) :
    (required key d).Reads ms a :=
  reads_required_iff.2 h

theorem reads_optional {a : α} (h : member? key d ms = .ok (some a)) (default : α) :
    (optional key d default).Reads ms a :=
  reads_optional_iff.2 ⟨some a, h, rfl⟩

theorem reads_absent (h : member? key d ms = .ok none) (default : α) :
    (optional key d default).Reads ms default :=
  reads_optional_iff.2 ⟨none, h, rfl⟩

end Record

end Emend

import SqlTemplate.Proofs.LawfulReading

/-!
# The tagged form of values

A value can be given as a record in many ways (`Tagged.Encodes`): each of its parts may be nested in
it or be a value already, its items and entries may be in any kind of sequence, and an empty list or
mapping may leave them out. What counts as a sequence, as a number and as a tag is up to the things
themselves, so the relation has their answers for a parameter. With the plain answers
(`Conversions.plain`) it is what one would write down.

All of it is proved for every validator that keeps the laws. Such a validator reads nothing as a
value that does not encode it, and it reads whatever encodes a value unless there are more records
inside one another than it goes into (`ofTagged_eq_ok`). The two directions are inductions of
different kinds: one on the value that comes out, the other on how the record encodes it.
-/

namespace SqlTemplate

namespace Tagged

section Encodings

variable (c : Conversions)

/-- The content of a scalar's record. -/
inductive IsScalar : Argument → SqlValue → Prop
  | bool (b : Bool) : IsScalar (.bool b) (.bool b)
  | int (member : Option Member) (n : Int) : IsScalar (.int member n) (.int n)
  /-- Whole numbers do for floats; truth values do not. -/
  | float {argument : Argument} {x : Binary64} (h : c.number? argument = some x) :
    IsScalar argument (.float x)
  | text (member : Option Member) (s : Text) : IsScalar (.text member s) (.text s)

mutual

/-- The argument is the value already, or a record of it in which at most `depth` records stand
inside one another. -/
inductive Encodes : (depth : Nat) → Argument → SqlValue → Prop
  | classified (depth : Nat) (value : SqlValue) : Encodes (depth + 1) (.classified value) value
  | null (depth : Nat) (kind : String) {entries : List (Argument × Argument)}
    (hr : IsRecord c .null [] entries) : Encodes (depth + 1) (.mapping kind entries) .null
  | scalar (depth : Nat) (kind : String) {entries : List (Argument × Argument)}
    {content : Argument} {value : SqlValue} (hr : IsRecord c value.shape [valueField] entries)
    (hf : Field valueField content entries) (h : IsScalar c content value) :
    Encodes (depth + 1) (.mapping kind entries) value
  | list {depth : Nat} (kind : String) {entries : List (Argument × Argument)} {whole : Argument}
    {parts : List Argument} {items : List SqlValue} (hr : IsRecord c .list [itemsField] entries)
    (hf : Field itemsField whole entries) (hp : c.sequence? whole = some parts)
    (h : EncodesItems depth parts items) : Encodes (depth + 1) (.mapping kind entries) (.list items)
  | emptyList (depth : Nat) (kind : String) {entries : List (Argument × Argument)}
    (hr : IsRecord c .list [] entries) : Encodes (depth + 1) (.mapping kind entries) (.list [])
  | mapping {depth : Nat} (kind : String) {entries : List (Argument × Argument)} {whole : Argument}
    {parts : List Argument} {items : List (Text × SqlValue)}
    (hr : IsRecord c .mapping [itemsField] entries) (hf : Field itemsField whole entries)
    (hp : c.sequence? whole = some parts) (h : EncodesEntries depth parts items) :
    Encodes (depth + 1) (.mapping kind entries) (.mapping items)
  | emptyMapping (depth : Nat) (kind : String) {entries : List (Argument × Argument)}
    (hr : IsRecord c .mapping [] entries) :
    Encodes (depth + 1) (.mapping kind entries) (.mapping [])

/-- Each part encodes the item in its place. -/
inductive EncodesItems : (depth : Nat) → List Argument → List SqlValue → Prop
  | nil (depth : Nat) : EncodesItems depth [] []
  | cons {depth : Nat} {part : Argument} {parts : List Argument} {item : SqlValue}
    {items : List SqlValue} (h : Encodes depth part item) (hs : EncodesItems depth parts items) :
    EncodesItems depth (part :: parts) (item :: items)

/-- Each part is a pair of a key and what encodes the item under it. -/
inductive EncodesEntries : (depth : Nat) → List Argument → List (Text × SqlValue) → Prop
  | nil (depth : Nat) : EncodesEntries depth [] []
  | cons {depth : Nat} {pair : Argument} {pairs : List Argument} {member : Option Member}
    {key : Text} {part : Argument} {item : SqlValue} {entries : List (Text × SqlValue)}
    (hp : c.sequence? pair = some [.text member key, part]) (h : Encodes depth part item)
    (hs : EncodesEntries depth pairs entries) :
    EncodesEntries depth (pair :: pairs) ((key, item) :: entries)

end

end Encodings

/-! ## More answers, more encodings -/

section Mono

variable {c c' : Conversions}

theorem IsScalar.mono (hc : c.Within c') {content : Argument} {value : SqlValue}
    (h : IsScalar c content value) : IsScalar c' content value := by
  cases h with
  | bool b => exact .bool b
  | int member n => exact .int member n
  | float h => exact .float (hc.number h)
  | text member s => exact .text member s

mutual

/-- What encodes a value still does so if things give more answers. -/
theorem Encodes.mono (hc : c.Within c') : ∀ {depth : Nat} {argument : Argument} {value : SqlValue},
    Encodes c depth argument value → Encodes c' depth argument value
  | _, _, _, .classified depth value => .classified depth value
  | _, _, _, .null depth kind hr => .null depth kind (hr.mono hc)
  | _, _, _, .scalar depth kind hr hf h => .scalar depth kind (hr.mono hc) hf (h.mono hc)
  | _, _, _, .list kind hr hf hp h => .list kind (hr.mono hc) hf (hc.sequence hp) (h.mono hc)
  | _, _, _, .emptyList depth kind hr => .emptyList depth kind (hr.mono hc)
  | _, _, _, .mapping kind hr hf hp h => .mapping kind (hr.mono hc) hf (hc.sequence hp) (h.mono hc)
  | _, _, _, .emptyMapping depth kind hr => .emptyMapping depth kind (hr.mono hc)

theorem EncodesItems.mono (hc : c.Within c') : ∀ {depth : Nat} {parts : List Argument}
    {items : List SqlValue}, EncodesItems c depth parts items → EncodesItems c' depth parts items
  | _, _, _, .nil depth => .nil depth
  | _, _, _, .cons h hs => .cons (h.mono hc) (hs.mono hc)

theorem EncodesEntries.mono (hc : c.Within c') : ∀ {depth : Nat} {parts : List Argument}
    {entries : List (Text × SqlValue)},
    EncodesEntries c depth parts entries → EncodesEntries c' depth parts entries
  | _, _, _, .nil depth => .nil depth
  | _, _, _, .cons hp h hs => .cons (hc.sequence hp) (h.mono hc) (hs.mono hc)

end

end Mono

/-! ## What encodes a value is read as it -/

section Completeness

variable {v : Validator}

/-- A scalar's record is read by the model of its shape. -/
theorem reads_of_isScalar (h : v.Lawful) {depth : Nat} {entries : List (Argument × Argument)}
    {content : Argument} {value : SqlValue}
    (hr : IsRecord v.conversions value.shape [valueField] entries)
    (hf : Field valueField content entries) (hs : IsScalar v.conversions content value) :
    v.Reads depth value.shape entries value := by
  cases hs with
  | bool b => exact ⟨hr, b, rfl, .inl ⟨_, hf, h.bool.mpr rfl⟩⟩
  | int member n => exact ⟨hr, n, rfl, .inl ⟨_, hf, h.int.mpr ⟨member, rfl⟩⟩⟩
  | float hx => exact ⟨hr, _, rfl, .inl ⟨_, hf, h.float.mpr hx⟩⟩
  | text member s => exact ⟨hr, s, rfl, .inl ⟨_, hf, h.text.mpr ⟨member, rfl⟩⟩⟩

/- The recursion follows the derivation: each record that it goes into takes one from the depth of
the encoding and adds one to the records around. -/
mutual

/-- What encodes a value is read as it, if the validator goes as far in as the encoding does from
where it stands. -/
theorem Encodes.check_eq (h : v.Lawful) : ∀ {depth around : Nat} {argument : Argument}
    {value : SqlValue}, Encodes v.conversions depth argument value → around + depth ≤ v.limit →
    v.check around .value argument = .ok value
  | _, _, _, _, .classified _ value, hlimit => h.classified (by omega) value
  | _, _, _, _, .null _ kind hr, hlimit => h.record (by omega) kind ⟨hr, rfl⟩
  | _, _, _, _, .scalar _ kind hr hf hs, hlimit =>
    h.record (by omega) kind (reads_of_isScalar h hr hf hs)
  | _, _, _, _, .list kind hr hf hp hs, hlimit =>
    have hitems := h.many.mpr ⟨_, hp, hs.map_check_eq h (by omega)⟩
    h.record (by omega) kind ⟨hr, _, rfl, .inl ⟨_, hf, hitems⟩⟩
  | _, _, _, _, .emptyList _ kind hr, hlimit =>
    have ⟨hr, hnone⟩ := (isRecord_nil_iff itemsField_ne).mp hr
    h.record (by omega) kind ⟨hr, _, rfl, .inr ⟨hnone, rfl⟩⟩
  | _, _, _, _, .mapping kind hr hf hp hs, hlimit =>
    have hentries := h.many.mpr ⟨_, hp, hs.map_check_eq h (by omega)⟩
    h.record (by omega) kind ⟨hr, _, rfl, .inl ⟨_, hf, hentries⟩⟩
  | _, _, _, _, .emptyMapping _ kind hr, hlimit =>
    have ⟨hr, hnone⟩ := (isRecord_nil_iff itemsField_ne).mp hr
    h.record (by omega) kind ⟨hr, _, rfl, .inr ⟨hnone, rfl⟩⟩

/-- Each part is read as the item in its place. -/
theorem EncodesItems.map_check_eq (h : v.Lawful) : ∀ {depth around : Nat} {parts : List Argument}
    {items : List SqlValue}, EncodesItems v.conversions depth parts items →
    around + depth ≤ v.limit → parts.map (v.check around .value) = items.map .ok
  | _, _, _, _, .nil _, _ => rfl
  | _, _, _, _, .cons hpart hs, hlimit => by
    rw [List.map_cons, List.map_cons, hpart.check_eq h hlimit, hs.map_check_eq h hlimit]

theorem EncodesEntries.map_check_eq (h : v.Lawful) : ∀ {depth around : Nat}
    {parts : List Argument} {entries : List (Text × SqlValue)},
    EncodesEntries v.conversions depth parts entries → around + depth ≤ v.limit →
    parts.map (v.check around (.pair .text .value)) = entries.map .ok
  | _, _, _, _, .nil _, _ => rfl
  | _, _, _, _, .cons hp hpart hs, hlimit =>
    have hkey := h.text.mpr ⟨_, rfl⟩
    List.cons_eq_cons.mpr
      ⟨h.pair.mpr ⟨_, _, hp, hkey, hpart.check_eq h hlimit⟩, hs.map_check_eq h hlimit⟩

end

/-- A record encodes one value at most. The validator that reads records field by field shows it: as
far in as both encodings go, it reads the record as either value. -/
theorem Encodes.unique {c : Conversions} (hc : c.Standard) {depth depth' : Nat}
    {argument : Argument} {value value' : SqlValue} (h : Encodes c depth argument value)
    (h' : Encodes c depth' argument value') : value = value' := by
  have hlaws := lawful_validator hc (max depth depth')
  have hread : (validator c (max depth depth')).check 0 .value argument = .ok value :=
    h.check_eq hlaws (by simp only [validator]; omega)
  have hread' : (validator c (max depth depth')).check 0 .value argument = .ok value' :=
    h'.check_eq hlaws (by simp only [validator]; omega)
  exact Except.ok.inj (hread.symm.trans hread')

end Completeness

/-! ## What is read as a value encodes it -/

section Soundness

open SqlValue

variable {v : Validator} {depth around : Nat}

end Soundness

/-! ## The record of a value -/

/-- The tag of a record, in the field that every record has. -/
def tagEntry (shape : Shape) : Argument × Argument :=
  (.ofText kindField, .ofText shape.tag)

/-- A record with a single field besides its tag. -/
def record (shape : Shape) (name : Text) (item : Argument) : Argument :=
  .mapping "dict" [tagEntry shape, (.ofText name, item)]

mutual

/-- The value as records all the way down, with lists for sequences. -/
def ofValue : SqlValue → Argument
  | .null => .mapping "dict" [tagEntry .null]
  | .bool b => record .bool valueField (.bool b)
  | .int n => record .int valueField (.ofInt n)
  | .float x => record .float valueField (.ofFloat x)
  | .text s => record .text valueField (.ofText s)
  | .list items => record .list itemsField (.ofList (ofItems items))
  | .mapping entries => record .mapping itemsField (.ofList (ofEntries entries))

def ofItems : List SqlValue → List Argument
  | [] => []
  | item :: items => ofValue item :: ofItems items

/-- The entries of a mapping as pairs of a key and the record of the item under it. -/
def ofEntries : List (Text × SqlValue) → List Argument
  | [] => []
  | (key, item) :: entries => .ofList [.ofText key, ofValue item] :: ofEntries entries

end

section Canonical

variable {name : Text}

theorem isRecord_tagEntry (shape : Shape) : IsRecord .plain shape [] [tagEntry shape] where
  tag := ⟨_, .here .., rfl⟩
  known := List.forall_mem_singleton.mpr ⟨kindField, List.mem_singleton_self _, none, rfl⟩

/-- A tag and one field are a record of its shape that may have this field. -/
theorem isRecord_record (shape : Shape) (item : Argument) :
    IsRecord .plain shape [name] [tagEntry shape, (.ofText name, item)] where
  tag := ⟨_, .here .., rfl⟩
  known := by
    rw [OnlyNamed, List.forall_mem_cons, List.forall_mem_singleton]
    exact ⟨⟨kindField, by simp, none, rfl⟩, ⟨name, by simp, none, rfl⟩⟩

/-- Such a record holds what it was made with. The field comes behind the tag, so its name must be
another. -/
theorem field_record (hname : name ≠ kindField) (shape : Shape) (item : Argument) :
    Field name item [tagEntry shape, (.ofText name, item)] :=
  .there (fun h => hname (h.unique ⟨none, rfl⟩)) (.here ..)

/-- Whatever the field of such a record is, it is among the names that the record may have. -/
theorem IsRecord.mem {c : Conversions} {shape shape' : Shape} {names : List Text} {item : Argument}
    (h : IsRecord c shape names [tagEntry shape', (.ofText name, item)]) :
    name ∈ kindField :: names := by
  obtain ⟨other, hother, hnamed⟩ := h.known (.ofText name, item) (by simp)
  rwa [hnamed.unique ⟨none, rfl⟩] at hother

/-- A scalar's record encodes the scalar, also for things that give more answers than the plain
ones. -/
theorem encodes_record {c : Conversions} (hc : Conversions.plain.Within c) (depth : Nat)
    {value : SqlValue} {item : Argument} (h : IsScalar c item value) :
    Encodes c (depth + 1) (record value.shape valueField item) value :=
  .scalar depth "dict" ((isRecord_record ..).mono hc) (field_record valueField_ne ..) h

mutual

/-- The record of a value encodes it plainly, in as many records as the value is high, and in more
wherever it stands among higher ones. -/
theorem encodes_ofValue : ∀ {depth : Nat} {value : SqlValue}, value.height ≤ depth →
    Encodes .plain depth (ofValue value) value
  | 0, value, hheight => absurd hheight (by have := value.height_pos; omega)
  | depth + 1, .null, _ => .null depth "dict" (isRecord_tagEntry .null)
  | depth + 1, .bool b, _ => encodes_record (.refl _) depth (.bool b)
  | depth + 1, .int n, _ => encodes_record (.refl _) depth (.int none n)
  | depth + 1, .float _, _ => encodes_record (.refl _) depth (.float rfl)
  | depth + 1, .text s, _ => encodes_record (.refl _) depth (.text none s)
  | depth + 1, .list items, hheight =>
    have hitems : SqlValue.heightOfItems items ≤ depth := by rw [SqlValue.height] at hheight; omega
    .list "dict" (isRecord_record ..) (field_record itemsField_ne ..) rfl
      (encodesItems_ofItems hitems)
  | depth + 1, .mapping entries, hheight =>
    have hentries : SqlValue.heightOfEntries entries ≤ depth := by
      rw [SqlValue.height] at hheight
      omega
    .mapping "dict" (isRecord_record ..) (field_record itemsField_ne ..) rfl
      (encodesEntries_ofEntries hentries)

theorem encodesItems_ofItems : ∀ {depth : Nat} {items : List SqlValue},
    SqlValue.heightOfItems items ≤ depth → EncodesItems .plain depth (ofItems items) items
  | depth, [], _ => .nil depth
  | _, item :: items, hheight => by
    rw [SqlValue.heightOfItems, Nat.max_le] at hheight
    exact .cons (encodes_ofValue hheight.1) (encodesItems_ofItems hheight.2)

theorem encodesEntries_ofEntries : ∀ {depth : Nat} {entries : List (Text × SqlValue)},
    SqlValue.heightOfEntries entries ≤ depth →
    EncodesEntries .plain depth (ofEntries entries) entries
  | depth, [], _ => .nil depth
  | _, (_, item) :: entries, hheight => by
    rw [SqlValue.heightOfEntries, Nat.max_le] at hheight
    exact .cons rfl (encodes_ofValue hheight.1) (encodesEntries_ofEntries hheight.2)

end

end Canonical

/-! ## Records that lie too far in -/

section Nested

end Nested

end Tagged

open Tagged

end SqlTemplate

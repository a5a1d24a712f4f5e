import SqlTemplate.Argument

/-!
# Keys of mappings

Two keys of a mapping are the same key if they are equal, and numbers are equal if their values
are, of whatever kinds they are. The first of several equal keys stands for all of them, and the
last of their items is the one that is kept. What can change is no key.
-/

namespace SqlTemplate.Argument

/-- A number on the extended line; `none` for NaN. -/
inductive Extended
  | finite (value : Rat)
  | infinite (negative : Bool)
  deriving DecidableEq

/-- What a float is worth. A NaN is worth nothing. -/
def extendedOfFloat? : Binary64 → Option Extended
  | .infinite negative => some (.infinite negative)
  | x => x.toRat?.map .finite

/-- What a number of any kind is worth. By this, numbers of different kinds may be one key. -/
def extended? : Argument → Option Extended
  | bool value => some (.finite (if value then 1 else 0))
  | int _ value => some (.finite value)
  | float _ value => extendedOfFloat? value
  | decimal (.infinite negative) => some (.infinite negative)
  | decimal value => value.toRat?.map .finite
  | fraction value => some (.finite value)
  | complex re im => if im.isNonzero then none else extendedOfFloat? re
  | _ => none

/-- Whether two floats are equal as numbers: zeros are, whatever their signs, and no NaN is. -/
def sameFloat (x y : Binary64) : Bool :=
  (extendedOfFloat? x).isSome && extendedOfFloat? x == extendedOfFloat? y

mutual

/-- Whether two values are equal. Those of different shapes never are, even if they are worth the
same. -/
def sameValue : SqlValue → SqlValue → Bool
  | .null, .null => true
  | .bool a, .bool b => a == b
  | .int a, .int b => a == b
  | .float x, .float y => sameFloat x y
  | .text s, .text t => s == t
  | .list items, .list items' => sameValues items items'
  | .mapping entries, .mapping entries' => sameEntries entries entries'
  | _, _ => false

def sameValues : List SqlValue → List SqlValue → Bool
  | [], [] => true
  | a :: as, b :: bs => sameValue a b && sameValues as bs
  | _, _ => false

/-- Whether the entries of two classified mappings are equal, in their order. -/
def sameEntries : List (Text × SqlValue) → List (Text × SqlValue) → Bool
  | [], [] => true
  | (s, a) :: as, (t, b) :: bs => s == t && sameValue a b && sameEntries as bs
  | _, _ => false

end

mutual

def sameKey : Argument → Argument → Bool
  | null, null | skip, skip => true
  | text _ s, text _ t => s == t
  | bytes _ b, bytes _ b' => b == b'
  | sequence _ items, sequence _ items' => sameKeys items items'
  | classified a, classified b => sameValue a b
  | other thing _, other thing' _ => thing.sameness == .alike && thing == thing'
  | complex re im, complex re' im' => sameFloat re re' && sameFloat im im'
  | a, b => a.extended?.isSome && a.extended? == b.extended?

def sameKeys : List Argument → List Argument → Bool
  | [], [] => true
  | a :: as, b :: bs => sameKey a b && sameKeys as bs
  | _, _ => false

end

mutual

/-- The kind of the first part of an argument that cannot be a key, if there is one. -/
def changingPart? : Argument → Option String
  | sequence kind items => if kind = "tuple" then changingPartOf? items else some kind
  | mapping kind _ => some kind
  | bytes true _ => some "bytearray"
  | other thing _ => if thing.sameness = .changing then some thing.kind else none
  | decimal (.nan _ true) => some "Decimal"
  | _ => none

/-- The kind of the first among several parts that cannot be a key. -/
def changingPartOf? : List Argument → Option String
  | [] => none
  | item :: items => (changingPart? item).or (changingPartOf? items)

end

/-- Puts an item under a key, in the place of an equal key if there is one. -/
def putEntry (key item : Argument) :
    List (Argument × Argument) → List (Argument × Argument)
  | [] => [(key, item)]
  | (key', item') :: entries =>
    if sameKey key key' then (key', item) :: entries
    else (key', item') :: putEntry key item entries

/-- The mapping that holds the entries, put in one after the other. -/
def ofEntries (kind : String) (entries : List (Argument × Argument)) : Except Fault Argument :=
  match changingPartOf? (entries.map (·.1)) with
  | some part => .error (.noKey part)
  | none => .ok (.mapping kind (entries.foldl (fun held (key, item) => putEntry key item held) []))

end SqlTemplate.Argument

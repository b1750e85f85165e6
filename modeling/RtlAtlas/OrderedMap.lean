/-
Maps that remember the order in which their keys first came: storing under a known key replaces the
value where it stands, storing under a new one appends. `get?` and `keys` are the two views.
-/
namespace RtlAtlas

/-- A map as its entries in order. -/
structure OrderedMap (α β : Type) where
  entries : List (α × β)
  deriving DecidableEq, Repr

namespace OrderedMap

variable {α β : Type} [DecidableEq α]

def empty : OrderedMap α β := ⟨[]⟩

instance : Inhabited (OrderedMap α β) := ⟨empty⟩

def keys (m : OrderedMap α β) : List α := m.entries.map (·.1)

/-- The values, in the order of their keys. -/
def values (m : OrderedMap α β) : List β := m.entries.map (·.2)

/-- The number of entries. -/
def size (m : OrderedMap α β) : Nat := m.entries.length

def get? (m : OrderedMap α β) (key : α) : Option β :=
  (m.entries.find? fun e => e.1 == key).map (·.2)

/-- Whether a key has a value. -/
def contains (m : OrderedMap α β) (key : α) : Bool := m.entries.any fun e => e.1 == key

/-- Replaces the first value under a key, or appends the entry. -/
def put (key : α) (value : β) : List (α × β) → List (α × β)
  | [] => [(key, value)]
  | e :: es => if e.1 == key then (key, value) :: es else e :: put key value es

def insert (m : OrderedMap α β) (key : α) (value : β) : OrderedMap α β :=
  ⟨put key value m.entries⟩

/-- Stores a value under a key that has none yet. -/
def insertNew (m : OrderedMap α β) (key : α) (value : β) : OrderedMap α β :=
  if m.contains key then m else m.insert key value

/-- Takes the entry of a key away. -/
def erase (m : OrderedMap α β) (key : α) : OrderedMap α β :=
  ⟨m.entries.filter fun e => e.1 != key⟩

/-- Changes the value of a key where it stands. -/
def modify (m : OrderedMap α β) (key : α) (f : β → β) : OrderedMap α β :=
  ⟨m.entries.map fun e => if e.1 == key then (e.1, f e.2) else e⟩

/-- The map of a list of entries, of which later ones replace earlier ones. -/
def ofList (es : List (α × β)) : OrderedMap α β :=
  es.foldl (fun m e => m.insert e.1 e.2) empty

/-- Stores every entry of a second map. -/
def update (m other : OrderedMap α β) : OrderedMap α β :=
  other.entries.foldl (fun m e => m.insert e.1 e.2) m

/-! ## Views -/

@[simp] theorem get?_empty (key : α) : (empty : OrderedMap α β).get? key = none := rfl

theorem find?_put (key k : α) (value : β) (es : List (α × β)) :
    ((put key value es).find? fun e => e.1 == k).map (·.2) =
      if k = key then some value else (es.find? fun e => e.1 == k).map (·.2) := by
  induction es with
  | nil =>
    by_cases h : k = key
    · subst h; simp [put]
    · have h' : ¬key = k := fun e => h e.symm
      simp [put, h, h']
  | cons e es ih =>
    by_cases he : e.1 = key
    · by_cases h : k = key
      · subst h; simp [put, he]
      · have h' : ¬key = k := fun e => h e.symm
        simp [put, he, h, h']
    · by_cases hk : e.1 = k
      · have hkk : ¬k = key := fun e' => he (hk.trans e')
        simp [put, hk, hkk]
      · simp only [put, beq_iff_eq, he, if_false, List.find?_cons, beq_eq_false_iff_ne.2 hk]
        exact ih

/-- Storing answers the stored value for its key and changes no other key. -/
theorem get?_insert (m : OrderedMap α β) (key k : α) (value : β) :
    (m.insert key value).get? k = if k = key then some value else m.get? k := by
  unfold get? insert
  exact find?_put key k value m.entries

theorem contains_eq_isSome (m : OrderedMap α β) (key : α) :
    m.contains key = (m.get? key).isSome := by
  unfold contains get?
  induction m.entries with
  | nil => rfl
  | cons e es ih =>
    by_cases h : e.1 = key
    · simp [h]
    · simp only [List.any_cons, List.find?_cons, beq_eq_false_iff_ne.2 h, Bool.false_or, ih]

theorem mem_keys {m : OrderedMap α β} {key : α} : key ∈ m.keys ↔ m.contains key = true := by
  simp [keys, contains]

end OrderedMap

end RtlAtlas

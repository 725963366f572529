import ClusterDiagnosis.Number.Double

/-!
Dynamic values: what a cluster snapshot, an event, a settings entry or a reply is made of. Nothing
is promised about the shape of such data, so every reader of it says what it does with each shape.
-/

set_option autoImplicit false
set_option relaxedAutoImplicit false

namespace ClusterDiagnosis

/-- A dynamic value. The entries of a map keep their order, and no key occurs twice. -/
inductive Value where
  | null
  | bool (b : Bool)
  | int (n : Int)
  | float (d : Double)
  | str (s : String)
  | list (items : List Value)
  | map (entries : List (String × Value))
  deriving Inhabited, Repr

mutual

/-- Equality of values can be decided. -/
def Value.decideEq (v w : Value) : Decidable (v = w) :=
  match v, w with
  | .null, .null => isTrue rfl
  | .bool a, .bool b => decidable_of_iff (a = b) (by simp)
  | .int a, .int b => decidable_of_iff (a = b) (by simp)
  | .float a, .float b => decidable_of_iff (a = b) (by simp)
  | .str a, .str b => decidable_of_iff (a = b) (by simp)
  | .list a, .list b =>
    match decideListEq a b with
    | isTrue h => isTrue (by rw [h])
    | isFalse h => isFalse (by simpa using h)
  | .map a, .map b =>
    match decideEntriesEq a b with
    | isTrue h => isTrue (by rw [h])
    | isFalse h => isFalse (by simpa using h)
  | .null, .bool _ | .null, .int _ | .null, .float _ | .null, .str _ | .null, .list _
  | .null, .map _ | .bool _, .null | .bool _, .int _ | .bool _, .float _ | .bool _, .str _
  | .bool _, .list _ | .bool _, .map _ | .int _, .null | .int _, .bool _ | .int _, .float _
  | .int _, .str _ | .int _, .list _ | .int _, .map _ | .float _, .null | .float _, .bool _
  | .float _, .int _ | .float _, .str _ | .float _, .list _ | .float _, .map _ | .str _, .null
  | .str _, .bool _ | .str _, .int _ | .str _, .float _ | .str _, .list _ | .str _, .map _
  | .list _, .null | .list _, .bool _ | .list _, .int _ | .list _, .float _ | .list _, .str _
  | .list _, .map _ | .map _, .null | .map _, .bool _ | .map _, .int _ | .map _, .float _
  | .map _, .str _ | .map _, .list _ => isFalse (by simp)

def Value.decideListEq (v w : List Value) : Decidable (v = w) :=
  match v, w with
  | [], [] => isTrue rfl
  | [], _ :: _ => isFalse (by simp)
  | _ :: _, [] => isFalse (by simp)
  | a :: as, b :: bs =>
    match decideEq a b, decideListEq as bs with
    | isTrue h, isTrue t => isTrue (by rw [h, t])
    | isFalse h, _ => isFalse (by simp [h])
    | _, isFalse t => isFalse (by simp [t])

def Value.decideEntriesEq (v w : List (String × Value)) : Decidable (v = w) :=
  match v, w with
  | [], [] => isTrue rfl
  | [], _ :: _ => isFalse (by simp)
  | _ :: _, [] => isFalse (by simp)
  | (k, a) :: as, (l, b) :: bs =>
    match decEq k l, decideEq a b, decideEntriesEq as bs with
    | isTrue h, isTrue e, isTrue t => isTrue (by rw [h, e, t])
    | isFalse h, _, _ => isFalse (by simp [h])
    | _, isFalse e, _ => isFalse (by simp [e])
    | _, _, isFalse t => isFalse (by simp [t])

end

instance : DecidableEq Value := Value.decideEq

/-- The entries of a map under construction: a key that is there already keeps its place. -/
def putEntry {α : Type} (key : String) (value : α) : List (String × α) → List (String × α)
  | [] => [(key, value)]
  | (k, v) :: r => if k = key then (k, value) :: r else (k, v) :: putEntry key value r

/-- The value under a key. -/
def entryAt? {α : Type} (key : String) : List (String × α) → Option α
  | [] => none
  | (k, v) :: r => if k = key then some v else entryAt? key r

theorem entryAt?_putEntry {α : Type} (key k : String) (value : α) (es : List (String × α)) :
    entryAt? k (putEntry key value es) = if k = key then some value else entryAt? k es := by
  induction es with
  | nil => simp [putEntry, entryAt?, eq_comm]
  | cons e r ih =>
    obtain ⟨k', v⟩ := e
    by_cases h : k' = key
    · subst h
      by_cases hk : k' = k
      · simp [putEntry, entryAt?, hk]
      · simp [putEntry, entryAt?, hk, Ne.symm hk]
    · by_cases hk : k' = k
      · subst hk
        simp [putEntry, entryAt?, h]
      · simp [putEntry, entryAt?, h, hk, ih]

namespace Value

/-- Absent, zero and empty values do not count; all others do. -/
def counts : Value → Bool
  | null => false
  | bool b => b
  | int n => n != 0
  | float d => !d.isZero
  | str s => !s.isEmpty
  | list items => !items.isEmpty
  | map entries => !entries.isEmpty

/-- The value if it counts, else the other one. -/
def orElse (v other : Value) : Value :=
  if v.counts then v else other

/-- The value of an optional text. -/
def ofText : Option String → Value
  | none => null
  | some s => str s

/-- The entry under a key of a map; nothing where there is no such entry or no map. -/
def at? (v : Value) (key : String) : Option Value :=
  match v with
  | map entries => entryAt? key entries
  | _ => none

end Value

end ClusterDiagnosis

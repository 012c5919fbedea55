import AgentTranscript.Number.Binary64

/-! JSON values. The members of an object are kept in the order of their keys, one for each key.
Integers and doubles are different numbers even where they are equal in value. -/
namespace AgentTranscript

inductive JsonNumber where
  | integer (n : Int)
  | real (x : Binary64)

namespace JsonNumber

instance : BEq JsonNumber where
  beq
    | integer m, integer n => m == n
    | real x, real y => x == y
    | _, _ => false

theorem beq_self (n : JsonNumber) : (n == n) = true := by
  cases n with
  | integer n => exact beq_self_eq_true n
  | real x => exact Binary64.beq_self x

end JsonNumber

inductive Json where
  | null
  | bool (b : Bool)
  | number (n : JsonNumber)
  | string (s : String)
  | array (items : List Json)
  | object (members : List (String × Json))

namespace Json

mutual
/-- Equality of structure, with the two zeros taken as one. -/
def same : Json → Json → Bool
  | null, null => true
  | bool a, bool b => a == b
  | number m, number n => m == n
  | string s, string t => s == t
  | array xs, array ys => sameItems xs ys
  | object xs, object ys => sameMembers xs ys
  | _, _ => false
def sameItems : List Json → List Json → Bool
  | [], [] => true
  | x :: xs, y :: ys => same x y && sameItems xs ys
  | _, _ => false
def sameMembers : List (String × Json) → List (String × Json) → Bool
  | [], [] => true
  | (k, x) :: xs, (l, y) :: ys => k == l && same x y && sameMembers xs ys
  | _, _ => false
end

instance : BEq Json := ⟨same⟩

mutual
theorem same_self : ∀ x : Json, same x x = true
  | null => rfl
  | bool b => beq_self_eq_true b
  | number n => n.beq_self
  | string s => beq_self_eq_true s
  | array xs => sameItems_self xs
  | object xs => sameMembers_self xs
theorem sameItems_self : ∀ xs : List Json, sameItems xs xs = true
  | [] => rfl
  | x :: xs => by simp [sameItems, same_self x, sameItems_self xs]
theorem sameMembers_self : ∀ xs : List (String × Json), sameMembers xs xs = true
  | [] => rfl
  | (k, x) :: xs => by simp [sameMembers, same_self x, sameMembers_self xs]
end

instance : ReflBEq Json := ⟨same_self _⟩

/-- Puts a member at its place; a member of that key gives way. -/
def insert (key : String) (value : Json) : List (String × Json) → List (String × Json)
  | [] => [(key, value)]
  | (k, v) :: rest =>
    if key = k then (key, value) :: rest
    else if key < k then (key, value) :: (k, v) :: rest
    else (k, v) :: insert key value rest

def ofMembers (members : List (String × Json)) : Json :=
  .object (members.foldl (fun done m => insert m.1 m.2 done) [])

def ofFields (fields : List (String × Option Json)) : Json :=
  ofMembers (fields.filterMap fun f => f.2.map (f.1, ·))

def find? (key : String) : List (String × Json) → Option Json
  | [] => none
  | (k, v) :: rest => if k = key then some v else find? key rest

def get? (key : String) : Json → Option Json
  | object members => find? key members
  | _ => none

def string? : Json → Option String
  | string s => some s
  | _ => none

def array? : Json → Option (List Json)
  | array items => some items
  | _ => none

def isNull : Json → Bool
  | null => true
  | _ => false

def getString? (key : String) (v : Json) : Option String := (v.get? key).bind string?

def ofInt (n : Int) : Json := .number (.integer n)

theorem find?_insert_self (key : String) (value : Json) (members : List (String × Json)) :
    find? key (insert key value members) = some value := by
  induction members with
  | nil => simp [insert, find?]
  | cons m rest ih =>
    obtain ⟨k, v⟩ := m
    simp only [insert]
    split
    · simp [find?]
    · split
      · simp [find?]
      · rename_i h _
        simp [find?, ih, Ne.symm h]

theorem find?_insert_of_ne {key other : String} (h : other ≠ key) (value : Json)
    (members : List (String × Json)) :
    find? other (insert key value members) = find? other members := by
  induction members with
  | nil => simp [insert, find?, Ne.symm h]
  | cons m rest ih =>
    obtain ⟨k, v⟩ := m
    simp only [insert]
    split
    · rename_i e
      subst e
      simp [find?, Ne.symm h]
    · split <;> simp [find?, ih, Ne.symm h]

end Json
end AgentTranscript

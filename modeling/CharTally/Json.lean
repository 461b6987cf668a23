import CharTally.Binary64

/-!
JSON values.

An object is the list of its members in the order in which their names first
appear; a name stands in it once. `put` is the only way to grow an object and
keeps both facts: a new name goes to the end, a known one keeps its place and
takes the new value.
-/

namespace CharTally

/-- A JSON value. Numbers written without fraction and exponent are integers of any size. -/
inductive Json where
  | null
  | bool (value : Bool)
  | integer (value : Int)
  | real (value : Binary64)
  | text (value : Text)
  | array (items : List Json)
  | object (members : List (Text × Json))
deriving Repr, Inhabited

namespace Json

/-! ## Members -/

/-- Sets a member: in its place if the name is known, otherwise at the end. -/
def put (name : Text) (value : Json) : List (Text × Json) → List (Text × Json)
  | [] => [(name, value)]
  | (known, old) :: rest =>
    if known = name then (name, value) :: rest else (known, old) :: put name value rest

/-- Sets members one after another. -/
def putAll (members : List (Text × Json)) (more : List (Text × Json)) : List (Text × Json) :=
  more.foldl (fun sofar (name, value) => put name value sofar) members

/-- The value of a member. -/
def find? (name : Text) (members : List (Text × Json)) : Option Json := members.lookup name

@[simp] theorem find?_nil (name : Text) : find? name [] = none := rfl

theorem find?_cons (name known : Text) (value : Json) (rest : List (Text × Json)) :
    find? name ((known, value) :: rest) = if name = known then some value else find? name rest := by
  by_cases same : name = known
  · simp [find?, same]
  · simp [find?, List.lookup_cons, same, beq_false_of_ne same]

/-- A name that was set has the value it was set to, and every other name keeps its own. -/
theorem find?_put (name other : Text) (value : Json) (members : List (Text × Json)) :
    find? other (put name value members) =
      if other = name then some value else find? other members := by
  induction members with
  | nil => simp [put, find?_cons]
  | cons member rest ih =>
    obtain ⟨known, old⟩ := member
    by_cases same : known = name
    · subst same
      by_cases h : other = known <;> simp [put, find?_cons, h]
    · by_cases h : other = known
      · subst h
        simp [put, same, find?_cons]
      · simp [put, same, find?_cons, h, ih]

/-! ## Kinds -/

/-- The kinds of value that messages tell apart. -/
inductive Kind where
  | null | bool | integer | real | text | array | object
deriving DecidableEq, Repr

/-- The kind of a value. -/
def kind : Json → Kind
  | .null => .null
  | .bool _ => .bool
  | .integer _ => .integer
  | .real _ => .real
  | .text _ => .text
  | .array _ => .array
  | .object _ => .object

/-- The name of a kind in messages. -/
def Kind.name : Kind → Text
  | .null => "NoneType"
  | .bool => "bool"
  | .integer => "int"
  | .real => "float"
  | .text => "str"
  | .array => "list"
  | .object => "dict"

/-- A value that says nothing: null, false, a zero, or something empty. -/
def isVoid : Json → Bool
  | .null => true
  | .bool value => !value
  | .integer value => value = 0
  | .real value => value.withoutNegativeZero = .finite false 0 0
  | .text value => value.isEmpty
  | .array items => items.isEmpty
  | .object members => members.isEmpty

end Json

end CharTally

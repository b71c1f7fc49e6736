/-!
# JSON values

The values a JSON text can hold. `Number` keeps whole numbers apart from reals, `Json` is the value
type, and `Members` is what an object holds: its members in the order of their names, each name
once. `Members.insert` keeps that order and lets the later of two members of one name win, and
`Members.get?` looks a name up.
-/

namespace DisclosureRelay

/-- A number is a whole number of 64 bits, signed or not, or a binary64 real given by its bits. -/
inductive Number where
  | integer (value : Int)
  | real (bits : UInt64)
  deriving DecidableEq

/-- The whole numbers that are kept exactly, from `-2^63` up to below `2^64`. -/
def Number.Exact (value : Int) : Prop :=
  -Int.pow 2 63 ≤ value ∧ value < Int.pow 2 64

/-- A JSON value. -/
inductive Json where
  | null
  | bool (value : Bool)
  | number (value : Number)
  | text (value : String)
  | list (items : List Json)
  | object (members : List (String × Json))

/-- The members of an object. -/
abbrev Members := List (String × Json)

namespace Members

/-- Puts a member at its place in the order of names; a member of that name is replaced. -/
def insert (name : String) (value : Json) : Members → Members
  | [] => [(name, value)]
  | (other, held) :: rest =>
    if name < other then (name, value) :: (other, held) :: rest
    else if name = other then (name, value) :: rest
    else (other, held) :: insert name value rest

/-- The value of the first member of a name. -/
def get? (members : Members) (name : String) : Option Json :=
  (members.find? (·.1 = name)).map (·.2)

/-- The names stand in strictly rising order, so each occurs once. -/
def Sorted (members : Members) : Prop :=
  (members.map (·.1)).Pairwise (· < ·)

@[simp] theorem get?_nil (name : String) : get? [] name = none := rfl

theorem get?_cons (other : String) (held : Json) (members : Members) (name : String) :
    get? ((other, held) :: members) name =
      if other = name then some held else get? members name := by
  by_cases h : other = name <;> simp [get?, h]

/-- A member that was put in is found, and the others are found as before. -/
theorem get?_insert (name : String) (value : Json) (members : Members) (wanted : String) :
    get? (insert name value members) wanted =
      if name = wanted then some value else get? members wanted := by
  induction members with
  | nil => simp [insert, get?_cons]
  | cons member members ih =>
    obtain ⟨other, held⟩ := member
    rw [insert]
    split
    · rw [get?_cons]
    · split
      · rename_i eq
        subst eq
        simp only [get?_cons]
        split <;> rfl
      · simp only [get?_cons, ih]
        split
        · grind
        · rfl

theorem mem_insert {name : String} {value : Json} {members : Members} {member : String × Json}
    (h : member ∈ insert name value members) : member = (name, value) ∨ member ∈ members := by
  fun_induction insert name value members with grind

/-- Putting a member in keeps the order of names. -/
theorem Sorted.insert {members : Members} (sorted : Sorted members) (name : String)
    (value : Json) : Sorted (members.insert name value) := by
  simp only [Sorted, List.pairwise_map] at *
  fun_induction Members.insert name value members with
  | case1 => simp
  | case2 other held rest lt =>
    simp only [List.pairwise_cons, List.mem_cons, forall_eq_or_imp] at *
    exact ⟨⟨lt, fun member h => String.lt_trans lt (sorted.1 member h)⟩, sorted⟩
  | case3 held rest ge =>
    simp only [List.pairwise_cons] at *
    exact sorted
  | case4 other held rest ge ne ih =>
    simp only [List.pairwise_cons] at *
    refine ⟨fun member h => ?_, ih sorted.2⟩
    rcases mem_insert h with rfl | h
    · exact Std.lt_of_le_of_ne (Std.not_lt.1 ge) (Ne.symm ne)
    · exact sorted.1 member h

end Members

namespace Json

/-- A count as a value. -/
def natural (value : Nat) : Json :=
  .number (.integer value)

/-- A text that may be missing; a missing one is `null`. -/
def textOrNull : Option String → Json
  | none => .null
  | some value => .text value

mutual

/-- Every object below has sorted members and every whole number is exact: the values a reader
can answer with. -/
def Ordered : Json → Prop
  | .null | .bool _ | .text _ | .number (.real _) => True
  | .number (.integer value) => Number.Exact value
  | .list items => OrderedItems items
  | .object members => Members.Sorted members ∧ OrderedMembers members

/-- Every item is ordered. -/
def OrderedItems : List Json → Prop
  | [] => True
  | item :: rest => item.Ordered ∧ OrderedItems rest

/-- Every member's value is ordered. -/
def OrderedMembers : List (String × Json) → Prop
  | [] => True
  | (_, value) :: rest => value.Ordered ∧ OrderedMembers rest

end

end Json

end DisclosureRelay

/-
# Attribute sets

The attributes of an element in source order, at most one of each name. Setting a name that is
present replaces its value and leaves its place; a new name goes to the end.
-/

namespace MarkupAudit

/-- Attributes in source order. -/
structure AttributeSet where
  entries : List (String × String)
  deriving Repr, DecidableEq, Inhabited

namespace AttributeSet

/-- No attributes. -/
def empty : AttributeSet := ⟨[]⟩

/-- Give a name a value among some entries. -/
def setEntry (name value : String) : List (String × String) → List (String × String)
  | [] => [(name, value)]
  | entry :: rest =>
      if entry.1 = name then (name, value) :: rest else entry :: setEntry name value rest

/-- Give a name a value; a name that is present keeps its place. -/
def set (attributes : AttributeSet) (name value : String) : AttributeSet :=
  ⟨setEntry name value attributes.entries⟩

/-- The value of a name. -/
def get? (attributes : AttributeSet) (name : String) : Option String :=
  attributes.entries.lookup name

/-- The name has a value. -/
def contains (attributes : AttributeSet) (name : String) : Bool :=
  (attributes.get? name).isSome

/-- The names, in source order. -/
def names (attributes : AttributeSet) : List String :=
  attributes.entries.map Prod.fst

/-- The number of attributes. -/
def size (attributes : AttributeSet) : Nat :=
  attributes.entries.length

/-- The set that results from setting some pairs in turn. -/
def ofList (pairs : List (String × String)) : AttributeSet :=
  pairs.foldl (fun attributes pair => attributes.set pair.1 pair.2) empty

/-- Setting an entry gives its name the new value and leaves the values of other names. -/
theorem lookup_setEntry (name value other : String) (entries : List (String × String)) :
    (setEntry name value entries).lookup other =
      if other = name then some value else entries.lookup other := by
  induction entries with
  | nil =>
      by_cases same : other = name
      · simp [setEntry, same]
      · have apart : (other == name) = false := beq_false_of_ne same
        simp [setEntry, List.lookup_cons, same, apart]
  | cons entry rest ih =>
      obtain ⟨first, held⟩ := entry
      by_cases found : first = name
      · by_cases same : other = name
        · simp [setEntry, found, same]
        · have apart : (other == name) = false := beq_false_of_ne same
          simp [setEntry, List.lookup_cons, found, same, apart]
      · by_cases here : other = first
        · have apart : ¬other = name := fun same => found (here.symm.trans same)
          rw [setEntry, if_neg found, if_neg apart, here, List.lookup_cons_self,
            List.lookup_cons_self]
        · have apart : (other == first) = false := beq_false_of_ne here
          simp only [setEntry, if_neg found, List.lookup_cons, apart]
          exact ih

/-- Setting an entry keeps the names in their order and adds a new one at the end. -/
theorem names_setEntry (name value : String) (entries : List (String × String)) :
    (setEntry name value entries).map Prod.fst =
      if name ∈ entries.map Prod.fst then entries.map Prod.fst
      else entries.map Prod.fst ++ [name] := by
  induction entries with
  | nil => simp [setEntry]
  | cons entry rest ih =>
      by_cases found : entry.1 = name
      · simp [setEntry, found]
      · by_cases later : name ∈ rest.map Prod.fst
        · rw [setEntry, if_neg found, List.map_cons, ih, if_pos later, List.map_cons,
            if_pos (List.mem_cons_of_mem _ later)]
        · have absent : name ∉ entry.1 :: rest.map Prod.fst := by
            simpa [Ne.symm found] using later
          rw [setEntry, if_neg found, List.map_cons, ih, if_neg later, List.map_cons,
            if_neg absent, List.cons_append]

/-- The value of any name after one name has been set. -/
theorem get?_set (attributes : AttributeSet) (name value other : String) :
    (attributes.set name value).get? other =
      if other = name then some value else attributes.get? other :=
  lookup_setEntry name value other attributes.entries

/-- The names after one name has been set. -/
theorem names_set (attributes : AttributeSet) (name value : String) :
    (attributes.set name value).names =
      if name ∈ attributes.names then attributes.names else attributes.names ++ [name] :=
  names_setEntry name value attributes.entries

end AttributeSet

end MarkupAudit

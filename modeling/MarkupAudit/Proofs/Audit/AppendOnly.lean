/-
# Nothing is taken back

What has been found stays found. At every moment of a session the violations are those of any
earlier moment, in the same order, and possibly more after them; once the audit has been closed,
there are no more. All that can still happen to a violation is that it is given its category.

The category is decided by the code and the parameters, which do not change, so giving it a second
time changes nothing. A violation may be handed over with a category that is not its own; that is
replaced when categories are assigned for the first time.
-/

import MarkupAudit.Proofs.Audit.Session

namespace MarkupAudit

/-! ## What may become of a violation -/

namespace Violation

/-- The violation without its category. -/
def uncategorized (violation : Violation) : Violation :=
  { violation with category := none }

/-- One violation is what may become of another: the same, or the same with its category. -/
def Becomes (violation next : Violation) : Prop :=
  next = violation ∨ next = violation.categorized

/-- The violation has the category that it belongs to. -/
def IsSettled (violation : Violation) : Prop :=
  violation.category = some violation.categorize

theorem isSettled_categorized (violation : Violation) : violation.categorized.IsSettled := rfl

theorem IsSettled.categorized_eq {violation : Violation} (settled : violation.IsSettled) :
    violation.categorized = violation := by
  rw [categorized, ← settled]

namespace Becomes

variable {first second third : Violation}

theorem refl (violation : Violation) : violation.Becomes violation := .inl rfl

theorem trans (becomes : first.Becomes second) (later : second.Becomes third) :
    first.Becomes third := by
  rcases becomes with rfl | rfl
  · exact later
  · rcases later with rfl | rfl
    · exact .inr rfl
    · exact .inr rfl

theorem uncategorized_eq (becomes : first.Becomes second) :
    second.uncategorized = first.uncategorized := by
  rcases becomes with rfl | rfl
  · rfl
  · rfl

/-- A violation with its own category does not change any more. -/
theorem eq_of_isSettled (becomes : first.Becomes second) (settled : first.IsSettled) :
    second = first := by
  rcases becomes with rfl | rfl
  · rfl
  · exact settled.categorized_eq

end Becomes

end Violation

/-! ## Earlier and later -/

namespace Audit

/-- An audit is what may have become of an earlier one. -/
structure Precedes (earlier later : Audit) : Prop where
  becomes : ∀ {place : Nat} {violation : Violation}, earlier.violations[place]? = some violation →
    ∃ next, later.violations[place]? = some next ∧ violation.Becomes next
  closed : earlier.isClosed = true →
    later.isClosed = true ∧ later.violations.size = earlier.violations.size

namespace Precedes

variable {first second third : Audit}

theorem of_violations_eq (same : second.violations = first.violations)
    (closed : first.isClosed = true → second.isClosed = true) : first.Precedes second where
  becomes found := ⟨_, same ▸ found, .refl _⟩
  closed isClosed := ⟨closed isClosed, congrArg Array.size same⟩

theorem refl (audit : Audit) : audit.Precedes audit := of_violations_eq rfl id

theorem trans (precedes : first.Precedes second) (later : second.Precedes third) :
    first.Precedes third := by
  constructor
  case becomes =>
    intro place violation found
    obtain ⟨next, foundNext, becomes⟩ := precedes.becomes found
    obtain ⟨last, foundLast, becomesLast⟩ := later.becomes foundNext
    exact ⟨last, foundLast, becomes.trans becomesLast⟩
  case closed =>
    intro isClosed
    obtain ⟨isClosedNext, size⟩ := precedes.closed isClosed
    obtain ⟨isClosedLast, sizeLast⟩ := later.closed isClosedNext
    exact ⟨isClosedLast, sizeLast.trans size⟩

/-- With their categories left aside, the violations of an earlier audit are the first ones. -/
theorem isPrefix (precedes : first.Precedes second) :
    first.violations.toList.map Violation.uncategorized <+:
      second.violations.toList.map Violation.uncategorized := by
  refine List.prefix_iff_getElem?.mpr fun place inside => ?_
  rw [List.length_map] at inside
  have found : first.violations[place]? = some first.violations.toList[place] := by
    rw [← Array.getElem?_toList, List.getElem?_eq_getElem inside]
  obtain ⟨next, foundNext, becomes⟩ := precedes.becomes found
  rw [List.getElem?_map, Array.getElem?_toList, foundNext, Option.map_some, List.getElem_map,
    becomes.uncategorized_eq]

end Precedes

/-- No elementary change takes anything back. -/
theorem Change.precedes {audit next : Audit} (change : audit.Change next) :
    audit.Precedes next := by
  cases change with
  | append violations isOpen =>
      constructor
      case becomes =>
        intro place violation found
        refine ⟨violation, ?_, .refl violation⟩
        have inside : place < audit.violations.size := (Array.getElem?_eq_some_iff.mp found).1
        rw [extend, Array.getElem?_append, if_pos inside, found]
      case closed =>
        intro isClosed
        rw [isOpen] at isClosed
        contradiction
  | count number => exact .of_violations_eq rfl id
  | annotate =>
      constructor
      case becomes =>
        intro place violation found
        refine ⟨violation.categorized, ?_, .inr rfl⟩
        rw [Audit.annotate, Array.getElem?_map, found, Option.map_some]
      case closed => exact fun isClosed => ⟨isClosed, Array.size_map⟩
  | markUnknown => exact .of_violations_eq rfl id
  | close => exact .of_violations_eq rfl fun _ => rfl

theorem Changes.precedes {audit next : Audit} (changes : audit.Changes next) :
    audit.Precedes next := by
  induction changes with
  | refl => exact .refl audit
  | tail _ change ih => exact ih.trans change.precedes

theorem precedes_after (audit : Audit) (operations : List Operation) :
    audit.Precedes (audit.after operations) :=
  (audit.changes_after operations).precedes

end Audit

/-! ## Sessions -/

namespace Operation

/-- The operation assigns every violation its category. -/
inductive Assigns : Operation → Prop where
  | annotate : Assigns .annotate
  | write (table : TemplateTable) : Assigns (.write table)

/-- The operation closes the audit. -/
inductive Closes : Operation → Prop where
  | close : Closes .close
  | write (table : TemplateTable) : Closes (.write table)

theorem Closes.isClosed_perform {operation : Operation} (closes : operation.Closes)
    (audit : Audit) : (operation.perform audit).1.isClosed = true := by
  cases closes with
  | close => rfl
  | write table => rfl

/-- After categories have been assigned, every violation there was has its own. -/
theorem Assigns.exists_isSettled {operation : Operation} (assigns : operation.Assigns)
    {audit : Audit} {place : Nat} (inside : place < audit.violations.size) :
    ∃ violation, (operation.perform audit).1.violations[place]? = some violation ∧
      violation.IsSettled := by
  have annotated : audit.annotate.violations[place]? =
      some audit.violations[place].categorized := by
    rw [Audit.annotate, Array.getElem?_map, Array.getElem?_eq_getElem inside, Option.map_some]
  refine ⟨audit.violations[place].categorized, ?_, Violation.isSettled_categorized _⟩
  cases assigns with
  | annotate => exact annotated
  | write table => exact annotated

end Operation

namespace Audit

/-- A session has assigned a category to the violation at a place, which was there by then. -/
def HasAssigned (start : Audit) (session : List Operation) (place : Nat) : Prop :=
  ∃ first operation rest, session = first ++ operation :: rest ∧ operation.Assigns ∧
    place < (start.after first).violations.size

/-- An audit is what a session has left of it, and a later one what has become of it since. -/
structure AppendOnly (start : Audit) (session : List Operation) (earlier later : Audit) :
    Prop where
  /-- Categories aside, the violations of the earlier audit are the first ones of the later. -/
  initial : earlier.violations.toList.map Violation.uncategorized <+:
    later.violations.toList.map Violation.uncategorized
  /-- Each of them has the category that it had, or now has its own. -/
  becomes : ∀ {place : Nat} {violation : Violation},
    earlier.violations[place]? = some violation →
      ∃ next, later.violations[place]? = some next ∧ violation.Becomes next
  /-- A category that has been assigned stays. -/
  assigned : ∀ {place : Nat}, start.HasAssigned session place →
    ∃ violation category, earlier.violations[place]? = some violation ∧
      violation.category = some category ∧ later.violations[place]? = some violation
  /-- So does a category with which a violation was handed over, if it is its own. -/
  settled : ∀ {place : Nat} {violation : Violation},
    earlier.violations[place]? = some violation → violation.IsSettled →
      later.violations[place]? = some violation
  /-- Once the audit has been closed, no violation is added to it, and all attempts fail. -/
  closed : (∃ operation ∈ session, operation.Closes) →
    later.violations.size = earlier.violations.size ∧
      ∀ violation rest, later.add violation = .error .closed ∧
        later.addAll (violation :: rest) = (later, some .closed)

theorem Precedes.getElem?_of_isSettled {earlier later : Audit} (precedes : earlier.Precedes later)
    {place : Nat} {violation : Violation} (found : earlier.violations[place]? = some violation)
    (settled : violation.IsSettled) : later.violations[place]? = some violation := by
  obtain ⟨next, foundNext, becomes⟩ := precedes.becomes found
  rw [foundNext, becomes.eq_of_isSettled settled]

theorem exists_isSettled_of_hasAssigned {start : Audit} {session : List Operation} {place : Nat}
    (assigned : start.HasAssigned session place) :
    ∃ violation, (start.after session).violations[place]? = some violation ∧
      violation.IsSettled := by
  obtain ⟨first, operation, rest, rfl, assigns, inside⟩ := assigned
  obtain ⟨violation, found, settled⟩ := assigns.exists_isSettled inside
  have stays := (precedes_after _ rest).getElem?_of_isSettled found settled
  exact ⟨violation, by rwa [after_append], settled⟩

theorem isClosed_of_closes {start : Audit} {session : List Operation} {operation : Operation}
    (performed : operation ∈ session) (closes : operation.Closes) :
    (start.after session).isClosed = true := by
  obtain ⟨first, rest, rfl⟩ := List.append_of_mem performed
  rw [after_append]
  exact ((precedes_after _ rest).closed (closes.isClosed_perform _)).1

/-- Over any session, the audit only grows at its end: at no later moment is a violation gone,
moved or changed but for its category, which is assigned once, and from the time on at which the
audit is closed it does not grow. -/
theorem appendOnly_after (start : Audit) (before after : List Operation) :
    start.AppendOnly before (start.after before) (start.after (before ++ after)) := by
  have precedes : (start.after before).Precedes (start.after (before ++ after)) := by
    rw [after_append]
    exact precedes_after _ after
  constructor
  case initial => exact precedes.isPrefix
  case becomes => exact precedes.becomes
  case assigned =>
    intro place assigned
    obtain ⟨violation, found, settled⟩ := exists_isSettled_of_hasAssigned assigned
    exact ⟨violation, _, found, settled, precedes.getElem?_of_isSettled found settled⟩
  case settled => exact precedes.getElem?_of_isSettled
  case closed =>
    rintro ⟨operation, performed, closes⟩
    obtain ⟨isClosed, size⟩ := precedes.closed (isClosed_of_closes performed closes)
    refine ⟨size, fun violation rest => ⟨add_of_isClosed _ violation isClosed, ?_⟩⟩
    rw [addAll_of_isClosed isClosed]
    rfl

end Audit

end MarkupAudit

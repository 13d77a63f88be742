/-
# Lines

A text as a row of lines, as a reader of reports takes it. A line ends with a line feed, and a
carriage return before that does not belong to the line either; the last line need not end.

Where a text is put between other characters, it brings its own empty lines with it and no others.
An empty line takes two line breaks that follow each other directly, so characters that are no part
of a line break keep apart what is on their two sides.
-/

import Mathlib.Data.List.Infix

namespace MarkupAudit.Text

/-! ## Reading lines -/

/-- A character at the beginning of the first of some lines, or of a line of its own. -/
def consLine (c : Char) : List (List Char) → List (List Char)
  | [] => [[c]]
  | line :: rest => (c :: line) :: rest

/-- The lines of some characters. A line feed ends a line, and so does a carriage return with a line
feed behind it; a carriage return alone is a character like any other. -/
def linesOf : List Char → List (List Char)
  | [] => []
  | c :: rest =>
      if c = '\n' then [] :: linesOf rest
      -- A carriage return before a line feed is part of the break.
      else if c = '\r' ∧ rest.head? = some '\n' then linesOf rest
      else consLine c (linesOf rest)

/-- The lines of a text. -/
def lines (text : String) : List String :=
  (linesOf text.toList).map String.ofList

/-- A character is no part of a line break. -/
def isSolid (c : Char) : Bool :=
  c != '\n' && c != '\r'

theorem isSolid_iff (c : Char) : isSolid c = true ↔ c ≠ '\n' ∧ c ≠ '\r' := by
  simp [isSolid]

theorem linesOf_feed (rest : List Char) : linesOf ('\n' :: rest) = [] :: linesOf rest := if_pos rfl

theorem linesOf_cons {c : Char} (noFeed : c ≠ '\n') {rest : List Char}
    (noBreak : c = '\r' → rest.head? ≠ some '\n') :
    linesOf (c :: rest) = consLine c (linesOf rest) := by
  rw [linesOf, if_neg noFeed, if_neg fun ⟨isReturn, before⟩ => noBreak isReturn before]

theorem linesOf_cons_of_solid {c : Char} (solid : isSolid c = true) (rest : List Char) :
    linesOf (c :: rest) = consLine c (linesOf rest) := by
  obtain ⟨noFeed, noReturn⟩ := (isSolid_iff c).mp solid
  exact linesOf_cons noFeed fun isReturn => absurd isReturn noReturn

theorem linesOf_ne_nil {text : List Char} (given : text ≠ []) : linesOf text ≠ [] := by
  induction text with
  | nil => exact absurd rfl given
  | cons c rest ih =>
      rw [linesOf]
      split
      · nofun
      · split
        · rename_i isBreak
          refine ih fun nothing => ?_
          rw [nothing] at isBreak
          cases isBreak.2
        · cases linesOf rest <;> nofun

theorem consLine_append {lines : List (List Char)} (given : lines ≠ []) (c : Char)
    (more : List (List Char)) : consLine c (lines ++ more) = consLine c lines ++ more := by
  cases lines with
  | nil => exact absurd rfl given
  | cons line rest => rfl

/-- What follows a line feed begins a new line. -/
theorem linesOf_append (front rest : List Char) :
    linesOf (front ++ '\n' :: rest) = linesOf (front ++ ['\n']) ++ linesOf rest := by
  induction front with
  | nil => exact linesOf_feed rest
  | cons c front ih =>
      -- Whether a line ends at a character depends on the next one, which is the same.
      have sameHead : (front ++ '\n' :: rest).head? = (front ++ ['\n']).head? := by
        cases front <;> rfl
      rw [List.cons_append, List.cons_append, linesOf, linesOf, sameHead, ih]
      split
      · rfl
      · split
        · rfl
        · exact consLine_append (linesOf_ne_nil (by simp)) c _

/-- There is no line feed in a line. -/
theorem not_mem_of_mem_linesOf {text line : List Char} (listed : line ∈ linesOf text) :
    '\n' ∉ line := by
  induction text generalizing line with
  | nil => cases listed
  | cons c rest ih =>
      rw [linesOf] at listed
      split at listed
      · rcases List.mem_cons.mp listed with rfl | later
        · nofun
        · exact ih later
      · rename_i noFeed
        split at listed
        · exact ih listed
        · cases known : linesOf rest with
          | nil =>
              rw [known] at listed
              obtain rfl := List.mem_singleton.mp listed
              simpa using Ne.symm noFeed
          | cons first more =>
              rw [known] at listed ih
              rcases List.mem_cons.mp listed with rfl | later
              · simpa [Ne.symm noFeed] using ih List.mem_cons_self
              · exact ih (List.mem_cons_of_mem first later)

/-- A text without a line feed is one line, if it does not end with a carriage return. -/
theorem linesOf_concat_feed {text : List Char} (noFeed : '\n' ∉ text)
    (noReturn : text.getLast? ≠ some '\r') : linesOf (text ++ ['\n']) = [text] := by
  induction text with
  | nil => rfl
  | cons c rest ih =>
      rw [List.mem_cons, not_or] at noFeed
      cases rest with
      | nil =>
          have solid : isSolid c = true := (isSolid_iff c).mpr
            ⟨Ne.symm noFeed.1, fun isReturn => noReturn (by rw [isReturn]; rfl)⟩
          exact linesOf_cons_of_solid solid _
      | cons next more =>
          have later := ih noFeed.2 (by rwa [List.getLast?_cons_cons] at noReturn)
          rw [List.cons_append, linesOf_cons (Ne.symm noFeed.1), later, consLine]
          rintro - before
          exact noFeed.2 (List.mem_of_mem_head? before)

/-! ## Empty lines -/

/-- A line break stands at the beginning of a text. -/
def BeginsWithBreak (text : List Char) : Prop :=
  ['\n'] <+: text ∨ ['\r', '\n'] <+: text

/-- There is an empty line between two other lines of a text, wherever the text is put: a line feed
is directly followed by another line break. -/
def HasEmptyLine (text : List Char) : Prop :=
  ['\n', '\n'] <:+: text ∨ ['\n', '\r', '\n'] <:+: text

instance (text : List Char) : Decidable (HasEmptyLine text) :=
  inferInstanceAs (Decidable (_ ∨ _))

theorem not_hasEmptyLine_nil : ¬HasEmptyLine [] := by decide

theorem hasEmptyLine_feed (rest : List Char) :
    HasEmptyLine ('\n' :: rest) ↔ BeginsWithBreak rest ∨ HasEmptyLine rest := by
  simp only [HasEmptyLine, BeginsWithBreak, List.infix_cons_iff, List.cons_prefix_cons, true_and]
  exact or_or_or_comm

theorem hasEmptyLine_cons {c : Char} (noFeed : c ≠ '\n') (rest : List Char) :
    HasEmptyLine (c :: rest) ↔ HasEmptyLine rest := by
  simp [HasEmptyLine, List.infix_cons_iff, List.cons_prefix_cons, Ne.symm noFeed]

/-- A text without line feeds neither has an empty line nor leads to one in what follows. -/
theorem hasEmptyLine_append_of_not_mem {front : List Char} (noFeed : '\n' ∉ front)
    (rest : List Char) : HasEmptyLine (front ++ rest) ↔ HasEmptyLine rest := by
  induction front with
  | nil => rfl
  | cons c more ih =>
      rw [List.mem_cons, not_or] at noFeed
      rw [List.cons_append, hasEmptyLine_cons (Ne.symm noFeed.1), ih noFeed.2]

theorem not_hasEmptyLine_of_not_mem {text : List Char} (noFeed : '\n' ∉ text) :
    ¬HasEmptyLine text := by
  rw [← text.append_nil, hasEmptyLine_append_of_not_mem noFeed]
  exact not_hasEmptyLine_nil

/-- A pattern in which a character does not occur is found on one side of this character. -/
theorem infix_append_cons_iff {α : Type} {pattern : List α} {c : α} (absent : c ∉ pattern)
    (front rest : List α) :
    pattern <:+: front ++ c :: rest ↔ pattern <:+: front ∨ pattern <:+: rest := by
  have starts (part : List α) (inside : ∀ item ∈ part, item ∈ pattern)
      (isPrefix : part <+: c :: rest) : part = [] := by
    cases part with
    | nil => rfl
    | cons item more =>
        obtain ⟨rfl, _⟩ := List.cons_prefix_cons.mp isPrefix
        exact absurd (inside item List.mem_cons_self) absent
  rw [List.infix_append_iff, List.infix_cons_iff]
  constructor
  · rintro (left | (across | right) | ⟨one, other, rfl, isSuffix, isPrefix⟩)
    · exact .inl left
    · obtain rfl := starts pattern (fun _ => id) across
      exact .inl (List.nil_infix)
    · exact .inr right
    · obtain rfl := starts other (fun _ => List.mem_append_right one) isPrefix
      rw [List.append_nil]
      exact .inl isSuffix.isInfix
  · rintro (left | right)
    · exact .inl left
    · exact .inr (.inl (.inr right))

/-- A character that is no part of a line break keeps apart what is on its two sides. -/
theorem hasEmptyLine_append_cons {c : Char} (solid : isSolid c = true) (front rest : List Char) :
    HasEmptyLine (front ++ c :: rest) ↔ HasEmptyLine front ∨ HasEmptyLine rest := by
  obtain ⟨noFeed, noReturn⟩ := (isSolid_iff c).mp solid
  rw [HasEmptyLine, infix_append_cons_iff (by simp [noFeed]),
    infix_append_cons_iff (by simp [noFeed, noReturn])]
  exact or_or_or_comm

theorem hasEmptyLine_append {front text rest : List Char} {c : Char} (solid : isSolid c = true)
    (begins : text = c :: rest) :
    HasEmptyLine (front ++ text) ↔ HasEmptyLine front ∨ HasEmptyLine text := by
  rw [begins, hasEmptyLine_append_cons solid, hasEmptyLine_cons ((isSolid_iff c).mp solid).1]

/-- The first line is empty if a line break stands at the beginning. -/
theorem head?_linesOf (text : List Char) :
    (linesOf text).head? = some [] ↔ BeginsWithBreak text := by
  cases text with
  | nil => simp [linesOf, BeginsWithBreak]
  | cons c rest =>
      rw [linesOf, BeginsWithBreak, List.cons_prefix_cons, List.cons_prefix_cons]
      split
      · rename_i isFeed
        exact iff_of_true rfl (.inl ⟨isFeed.symm, List.nil_prefix⟩)
      · rename_i noFeed
        split
        · rename_i isBreak
          obtain ⟨more, rfl⟩ := List.head?_eq_some_iff.mp isBreak.2
          rw [linesOf_feed]
          exact iff_of_true rfl (.inr ⟨isBreak.1.symm, more, rfl⟩)
        · rename_i noBreak
          refine iff_of_false (by cases linesOf rest <;> nofun) ?_
          rintro (⟨isFeed, _⟩ | ⟨isReturn, more, rfl⟩)
          · exact noFeed isFeed.symm
          · exact noBreak ⟨isReturn.symm, rfl⟩

theorem nil_mem_linesOf_iff (text : List Char) :
    [] ∈ linesOf text ↔ BeginsWithBreak text ∨ [] ∈ (linesOf text).tail := by
  rw [← head?_linesOf]
  cases linesOf text with
  | nil => simp
  | cons line rest => simp [eq_comm]

/-- The first line apart, the empty lines of a text are those between two others. -/
theorem nil_mem_tail_linesOf_iff (text : List Char) :
    [] ∈ (linesOf text).tail ↔ HasEmptyLine text := by
  induction text with
  | nil => exact iff_of_false nofun not_hasEmptyLine_nil
  | cons c rest ih =>
      rw [linesOf]
      split
      · rename_i isFeed
        rw [isFeed, hasEmptyLine_feed, List.tail_cons, nil_mem_linesOf_iff, ih]
      · rename_i noFeed
        rw [hasEmptyLine_cons noFeed]
        split
        · exact ih
        · rw [← ih]
          cases linesOf rest <;> rfl

example : linesOf "a\n\r\nb\r".toList = ["a".toList, [], "b\r".toList] := by decide

/-- If no line break stands at the beginning of a text, its empty lines are between two others. -/
theorem nil_mem_linesOf_of_solid {c : Char} (solid : isSolid c = true) (rest : List Char) :
    [] ∈ linesOf (c :: rest) ↔ HasEmptyLine (c :: rest) := by
  obtain ⟨noFeed, noReturn⟩ := (isSolid_iff c).mp solid
  have noBreak : ¬BeginsWithBreak (c :: rest) := by
    simp [BeginsWithBreak, List.cons_prefix_cons, Ne.symm noFeed, Ne.symm noReturn]
  rw [nil_mem_linesOf_iff, or_iff_right noBreak, nil_mem_tail_linesOf_iff]

/-- To end the last line makes no difference, if that ends with no part of a line break. -/
theorem linesOf_concat_feed_of_solid {c : Char} (solid : isSolid c = true) (front : List Char) :
    linesOf (front ++ [c] ++ ['\n']) = linesOf (front ++ [c]) := by
  induction front with
  | nil =>
      rw [List.nil_append, List.singleton_append, linesOf_cons_of_solid solid,
        linesOf_cons_of_solid solid]
      rfl
  | cons d front ih =>
      have sameHead : (front ++ [c] ++ ['\n']).head? = (front ++ [c]).head? := by
        cases front <;> rfl
      rw [List.cons_append, List.cons_append, linesOf, linesOf, sameHead, ih]

/-- The last line is not empty if it ends with no part of a line break. -/
theorem ne_nil_of_getLast?_linesOf {c : Char} (solid : isSolid c = true) (front : List Char) :
    ∀ line ∈ (linesOf (front ++ [c])).getLast?, line ≠ [] := by
  induction front with
  | nil =>
      rw [List.nil_append, linesOf_cons_of_solid solid]
      rintro _ ⟨⟩
      nofun
  | cons d front ih =>
      have given : linesOf (front ++ [c]) ≠ [] := linesOf_ne_nil (by simp)
      rw [List.cons_append, linesOf]
      split
      · rwa [List.getLast?_cons_of_ne_nil given]
      · split
        · exact ih
        · cases known : linesOf (front ++ [c]) with
          | nil => exact absurd known given
          | cons line rest =>
              rw [known] at ih
              cases rest with
              | nil =>
                  rintro _ ⟨⟩
                  nofun
              | cons next more =>
                  rwa [List.getLast?_cons_cons] at ih

/-! ## Lines of texts -/

/-- The lines that directly follow an empty line. -/
def afterEmpty (lines : List String) : List String :=
  ((lines.zip lines.tail).filter (·.1 == "")).map (·.2)

/-- The last of some lines, if there are any, is not empty. -/
def EndsFilled (lines : List String) : Prop :=
  ∀ line ∈ lines.getLast?, line ≠ ""

theorem afterEmpty_cons_cons (line next : String) (rest : List String) :
    afterEmpty (line :: next :: rest) =
      (if line = "" then [next] else []) ++ afterEmpty (next :: rest) := by
  by_cases isEmpty : line = "" <;> simp [afterEmpty, isEmpty]

theorem afterEmpty_cons {line : String} (filled : line ≠ "") (rest : List String) :
    afterEmpty (line :: rest) = afterEmpty rest := by
  cases rest with
  | nil => rfl
  | cons next more => rw [afterEmpty_cons_cons, if_neg filled, List.nil_append]

/-- Lines that end with a filled one do not reach into what follows. -/
theorem afterEmpty_append {front : List String} (ends : EndsFilled front) (rest : List String) :
    afterEmpty (front ++ rest) = afterEmpty front ++ afterEmpty rest := by
  induction front with
  | nil => rfl
  | cons line more ih =>
      cases more with
      | nil => exact afterEmpty_cons (ends line rfl) rest
      | cons next more =>
          have later := ih ends
          rw [List.cons_append, List.cons_append, afterEmpty_cons_cons, afterEmpty_cons_cons,
            ← List.cons_append, later, List.append_assoc]

theorem afterEmpty_flatMap {α : Type} {items : List α} {part : α → List String}
    (ends : ∀ item ∈ items, EndsFilled (part item)) (rest : List String) :
    afterEmpty (items.flatMap part ++ rest) =
      items.flatMap (fun item => afterEmpty (part item)) ++ afterEmpty rest := by
  induction items with
  | nil => rfl
  | cons item more ih =>
      have later := ih fun other listed => ends other (List.mem_cons_of_mem item listed)
      rw [List.flatMap_cons, List.flatMap_cons, List.append_assoc,
        afterEmpty_append (ends item List.mem_cons_self), later, List.append_assoc]

theorem mem_of_mem_afterEmpty {line : String} {lines : List String}
    (listed : line ∈ afterEmpty lines) : line ∈ lines := by
  obtain ⟨⟨before, after⟩, chosen, rfl⟩ := List.mem_map.mp listed
  have inside := (List.mem_filter.mp chosen).1
  exact List.mem_of_mem_tail (List.of_mem_zip inside).2

theorem afterEmpty_eq_nil_iff {lines : List String} (ends : EndsFilled lines) :
    afterEmpty lines = [] ↔ "" ∉ lines := by
  induction lines with
  | nil => exact iff_of_true rfl nofun
  | cons line more ih =>
      cases more with
      | nil =>
          have filled : line ≠ "" := ends line rfl
          exact iff_of_true rfl (by simpa using filled.symm)
      | cons next more =>
          have here : (if line = "" then [next] else []) = [] ↔ "" ≠ line := by
            by_cases isEmpty : line = ""
            · simp [isEmpty]
            · simp [isEmpty, Ne.symm isEmpty]
          rw [afterEmpty_cons_cons, List.append_eq_nil_iff, ih ends, here, ← not_or,
            ← List.mem_cons]

/-- Some texts, each of which has been ended with a line feed. -/
def endAll (texts : List String) : String :=
  String.join (texts.map (· ++ "\n"))

theorem endAll_cons (text : String) (rest : List String) :
    endAll (text :: rest) = text ++ "\n" ++ endAll rest := by
  rw [endAll, List.map_cons, String.join_cons, endAll]

theorem lines_endAll (texts : List String) :
    lines (endAll texts) = texts.flatMap fun text => lines (text ++ "\n") := by
  induction texts with
  | nil => rfl
  | cons text rest ih =>
      rw [List.flatMap_cons, ← ih, endAll_cons]
      simp only [lines, String.toList_append]
      show (linesOf (text.toList ++ ['\n'] ++ _)).map _ = _
      rw [List.append_assoc, List.singleton_append, linesOf_append, List.map_append]
      rfl

/-- A text is a line. -/
theorem lines_concat_feed {text : String} (noFeed : '\n' ∉ text.toList)
    (noReturn : text.toList.getLast? ≠ some '\r') : lines (text ++ "\n") = [text] := by
  rw [lines, String.toList_append]
  show (linesOf (text.toList ++ ['\n'])).map _ = _
  rw [linesOf_concat_feed noFeed noReturn, List.map_singleton, String.ofList_toList]

/-- A text that begins and ends with no part of a line break. -/
structure IsFramed (text : String) : Prop where
  begins : ∃ c rest, isSolid c = true ∧ text.toList = c :: rest
  ends : ∃ front c, isSolid c = true ∧ text.toList = front ++ [c]

namespace IsFramed

variable {text : String} (framed : IsFramed text)
include framed

theorem lines_concat_feed : lines (text ++ "\n") = lines text := by
  obtain ⟨front, c, solid, ends⟩ := framed.ends
  rw [lines, lines, String.toList_append, ends]
  exact congrArg _ (linesOf_concat_feed_of_solid solid front)

theorem endsFilled_lines : EndsFilled (lines text) := by
  obtain ⟨front, c, solid, ends⟩ := framed.ends
  intro line isLast
  rw [lines, ends, List.getLast?_map, Option.mem_def, Option.map_eq_some_iff] at isLast
  obtain ⟨chars, isLast, rfl⟩ := isLast
  exact fun nothing => ne_nil_of_getLast?_linesOf solid front chars isLast
    (String.ofList_eq_empty_iff.mp nothing)

theorem empty_mem_lines_iff : "" ∈ lines text ↔ HasEmptyLine text.toList := by
  obtain ⟨c, rest, solid, begins⟩ := framed.begins
  rw [begins, ← nil_mem_linesOf_of_solid solid, ← begins, lines, List.mem_map]
  constructor
  · rintro ⟨chars, listed, nothing⟩
    rwa [String.ofList_eq_empty_iff.mp nothing] at listed
  · exact fun listed => ⟨[], listed, rfl⟩

end IsFramed

/-- There is no line feed in a line. -/
theorem not_mem_of_mem_lines {text line : String} (listed : line ∈ lines text) :
    '\n' ∉ line.toList := by
  obtain ⟨chars, isLine, rfl⟩ := List.mem_map.mp listed
  rw [String.toList_ofList]
  exact not_mem_of_mem_linesOf isLine

end MarkupAudit.Text

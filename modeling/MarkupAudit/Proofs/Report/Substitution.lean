/-
# What a template is filled to

A template consists of literal characters and placeholders in one way only. Filled with parameters,
it is the row of the texts that its pieces become: a placeholder with the number of a parameter
becomes this parameter, just as it is, and everything else stays as it is written. Numbers have no
limit here, and zeros in front do not count.

The loop over offsets in bytes comes to the same result, on every text. It never cuts a character in
two, since it cuts only beside percent signs and digits, which take one byte each and are
characters of their own. Nor does it mistake a number: one that does not fit into a word is greater
than that of any parameter, as long as all the parameters can be counted in a word.
-/

import MarkupAudit.Proofs.Json.Spelling
import MarkupAudit.Proofs.Report.Placeholders
import MarkupAudit.Report.Substitution

namespace MarkupAudit.Template

open String (utf8Len utf8Len_append)
open Text (slice? sliceFrom? slice?_append sliceFrom?_append)

/-! ## What pieces become -/

/-- What a piece of a template becomes. -/
inductive Piece.Becomes (params : List String) : Piece → String → Prop where
  | literal (c : Char) : Becomes params (.literal c) (String.ofList [c])
  /-- The parameters are counted from one. -/
  | param {digits : List Char} {place : Nat} {param : String} :
      Nat.ofDigitChars 10 digits 0 = place + 1 → params[place]? = some param →
        Becomes params (.placeholder digits) param
  | kept {digits : List Char} :
      Nat.ofDigitChars 10 digits 0 = 0 ∨ params.length < Nat.ofDigitChars 10 digits 0 →
        Becomes params (.placeholder digits) (String.ofList ('%' :: digits))

/-- A piece becomes what is put in for it and nothing else. -/
theorem Piece.becomes_iff {params : List String} {piece : Piece} {text : String} :
    piece.Becomes params text ↔ String.ofList (piece.filled params) = text := by
  constructor
  · intro becomes
    cases becomes with
    | literal c => rfl
    | param numbered given =>
        rw [← number_eq] at numbered
        rw [filled, placeholder_of_given numbered given, String.ofList_toList]
    | kept missing =>
        rw [← number_eq] at missing
        rw [filled, placeholder_of_missing missing]
  · rintro rfl
    cases piece with
    | literal c => exact .literal c
    | placeholder digits =>
        by_cases missing : number digits = 0 ∨ params.length < number digits
        · rw [filled, placeholder_of_missing missing]
          rw [number_eq] at missing
          exact .kept missing
        · obtain ⟨place, numbered⟩ := Nat.exists_eq_add_one.mpr
            (by omega : 0 < number digits)
          have given : params[place]? = some params[place] :=
            List.getElem?_eq_getElem (by omega)
          rw [filled, placeholder_of_given numbered given, String.ofList_toList]
          rw [number_eq] at numbered
          exact .param numbered given

/-- A template becomes a message: it consists of pieces, and the message of what these become. -/
def Becomes (template : String) (params : List String) (message : String) : Prop :=
  ∃ pieces texts, Decomposes template.toList pieces ∧
    List.Forall₂ (Piece.Becomes params) pieces texts ∧ message = String.join texts

/-- A template becomes one message and no other. -/
theorem becomes_iff {template : String} {params : List String} {message : String} :
    Becomes template params message ↔ message = format template params := by
  have becomeThese (texts : List String) :
      List.Forall₂ (Piece.Becomes params) (pieces template.toList) texts ↔
        (pieces template.toList).map (fun piece => String.ofList (piece.filled params)) = texts := by
    have same : Piece.Becomes params =
        fun piece text => String.ofList (piece.filled params) = text :=
      funext₂ fun _ _ => propext Piece.becomes_iff
    rw [same, ← List.forall₂_eq_eq_eq, List.forall₂_map_left_iff]
  rw [← join_filled]
  constructor
  · rintro ⟨parts, texts, decomposes, become, rfl⟩
    obtain rfl := decomposes.eq_pieces
    rw [(becomeThese texts).mp become]
  · rintro rfl
    exact ⟨pieces template.toList, _, decomposes_pieces _, (becomeThese _).mpr rfl, rfl⟩

/-- Without parameters every placeholder stays. -/
theorem fill_nil (text : List Char) : fill [] text = text := by
  induction text using fill.induct with
  | case1 => rw [fill]
  | case2 rest ih =>
      have stays : placeholder [] (rest.takeWhile isDigit) = '%' :: rest.takeWhile isDigit :=
        placeholder_of_missing (Nat.eq_zero_or_pos _)
      rw [fill, if_pos rfl, ih, stays, List.cons_append, List.takeWhile_append_dropWhile]
  | case3 c rest other ih => rw [fill, if_neg other, ih]

/-! ## Numbers in a word -/

/-- A number that has outgrown a word does not come back into it. -/
theorem foldlM_withDigit? (digits : List Char) {value : Nat} (small : value < Nat.pow 2 64) :
    digits.foldlM withDigit? value =
      if Nat.ofDigitChars 10 digits value < Nat.pow 2 64 then
        some (Nat.ofDigitChars 10 digits value) else none := by
  induction digits generalizing value with
  | nil =>
      rw [List.foldlM_nil, Nat.ofDigitChars_nil, if_pos small]
      rfl
  | cons c digits ih =>
      rw [List.foldlM_cons, withDigit?, Nat.ofDigitChars_cons, Nat.mul_comm 10 value]
      split
      case isTrue fits => exact ih fits
      case isFalse beyond =>
        have greater := Json.le_ofDigitChars digits (value * 10 + (c.toNat - '0'.toNat))
        rw [if_neg (by omega)]
        rfl

theorem word?_eq (digits : List Char) :
    word? digits =
      if digits ≠ [] ∧ Nat.ofDigitChars 10 digits 0 < Nat.pow 2 64 then
        some (Nat.ofDigitChars 10 digits 0) else none := by
  cases digits with
  | nil => rfl
  | cons c digits =>
      rw [word?, foldlM_withDigit? _ (Nat.two_pow_pos 64)]
      · simp only [ne_eq, reduceCtorEq, not_false_eq_true, true_and]
      · nofun

/-- What stands for a placeholder is the parameter for its digits, and the placeholder itself if
there is no such parameter. -/
theorem placeholder_eq_param? {params : List String} (few : params.length < Nat.pow 2 64)
    (digits : List Char) :
    placeholder params digits =
      match param? params digits with
      | some param => param.toList
      | none => '%' :: digits := by
  rw [placeholder, param?, word?_eq, ← number_eq]
  by_cases counted : digits ≠ [] ∧ number digits < Nat.pow 2 64
  · rw [if_pos counted]
    cases number digits with
    | zero => rfl
    | succ place => rfl
  · rw [if_neg counted]
    split
    case h_1 => rfl
    case h_2 place numbered =>
      have present : digits ≠ [] := by
        rintro rfl
        exact absurd numbered (Nat.zero_ne_add_one place)
      have beyond : params[place]? = none :=
        List.getElem?_eq_none (by have := not_and.mp counted present; omega)
      rw [beyond]

/-! ## The loop -/

theorem percent?_of_notMem {text : List Char} (absent : '%' ∉ text) : percent? text = none :=
  if_neg absent

theorem percent?_append {lead : List Char} (literal : '%' ∉ lead) (after : List Char) :
    percent? (lead ++ '%' :: after) = some (utf8Len lead) := by
  have kept : ∀ c ∈ lead, decide (c ≠ '%') = true :=
    fun c listed => decide_eq_true (ne_of_mem_of_not_mem listed literal)
  rw [percent?, if_pos (List.mem_append_right lead List.mem_cons_self),
    List.takeWhile_append_of_pos kept, List.takeWhile_cons_of_neg (by decide), List.append_nil]

/-- A round puts out what stands in front of the percent sign and what stands for the placeholder.
None of its cuts goes through a character. -/
theorem round?_append {params : List String} (few : params.length < Nat.pow 2 64)
    (lead after : List Char) :
    round? params (utf8Len lead) (lead ++ '%' :: after) =
      some (lead ++ placeholder params (after.takeWhile isDigit), after.dropWhile isDigit) := by
  obtain ⟨digits, rest, rfl, taken, left⟩ : ∃ digits rest, after = digits ++ rest ∧
      after.takeWhile isDigit = digits ∧ after.dropWhile isDigit = rest :=
    ⟨_, _, List.takeWhile_append_dropWhile.symm, rfl, rfl⟩
  have sign : utf8Len lead + 1 = utf8Len (lead ++ ['%']) := by
    rw [utf8Len_append]
    rfl
  have width : utf8Len (digits ++ rest) - utf8Len rest = utf8Len digits := by
    rw [utf8Len_append, Nat.add_sub_cancel]
  have before : slice? 0 (utf8Len lead) (lead ++ '%' :: (digits ++ rest)) = some lead := by
    simpa using slice?_append [] lead ('%' :: (digits ++ rest))
  have behind : sliceFrom? (utf8Len lead + 1) (lead ++ '%' :: (digits ++ rest)) =
      some (digits ++ rest) := by
    simpa [sign] using sliceFrom?_append (lead ++ ['%']) (digits ++ rest)
  have written : slice? (utf8Len lead) (utf8Len lead + 1 + utf8Len digits)
      (lead ++ '%' :: (digits ++ rest)) = some ('%' :: digits) := by
    rw [Nat.add_assoc, Nat.add_comm 1]
    exact slice?_append lead ('%' :: digits) rest
  have counted : slice? 0 (utf8Len digits) (digits ++ rest) = some digits := by
    simpa using slice?_append [] digits rest
  rw [taken, left, round?, before, behind]
  dsimp only [Option.bind_eq_bind, Option.bind_some]
  rw [left, width, written, counted, sliceFrom?_append]
  dsimp only [Option.bind_some]
  rw [placeholder_eq_param? few]
  cases param? params digits with
  | some param => rfl
  | none => rfl

/-- The loop has a result on every text, and puts out the filled text behind what there is. -/
theorem substitute?_eq {params : List String} (few : params.length < Nat.pow 2 64)
    (out text : List Char) : substitute? params out text = some (out ++ fill params text) := by
  -- By induction on the length of the text, of which every round leaves less.
  by_cases present : '%' ∈ text
  · obtain ⟨lead, after, rfl, literal⟩ := List.eq_append_cons_of_mem present
    have shorter : (after.dropWhile isDigit).length < (lead ++ '%' :: after).length :=
      length_lt_of_round? (round?_append few lead after)
    rw [substitute?, percent?_append literal]
    dsimp only
    split
    case h_1 stopped => exact absurd (round?_append few lead after) (by simp [stopped])
    case h_2 piece rest made =>
      rw [round?_append few] at made
      cases made
      rw [substitute?_eq few, fill_append_of_notMem literal, fill, if_pos rfl]
      simp only [List.append_assoc]
  · have nothing := fill_append_of_notMem present params []
    rw [List.append_nil, fill, List.append_nil] at nothing
    rw [substitute?, percent?_of_notMem present, nothing]
termination_by text.length

/-- A template consists of pieces in one way and becomes one message, in which every piece stands
for itself or for its parameter. Without parameters this is the template. The loop gives the same
message, as long as all the parameters can be counted in a word. -/
theorem format_substitutes (template : String) (params : List String) :
    (∃! pieces, Decomposes template.toList pieces) ∧
      (∀ message, Becomes template params message ↔ message = format template params) ∧
      format template [] = template ∧
      (params.length < Nat.pow 2 64 →
        substitute? params [] template.toList = some (format template params).toList) := by
  refine ⟨⟨pieces template.toList, decomposes_pieces _, fun _ => Decomposes.eq_pieces⟩,
    fun _ => becomes_iff, ?_, ?_⟩
  · rw [format, fill_nil, String.ofList_toList]
  · intro few
    rw [substitute?_eq few, List.nil_append, format, String.toList_ofList]

/-- A parameter is put in as it is, its number may have zeros in front, and `2 ^ 64 + 1` is not taken
for one. -/
theorem format_substitutes_words :
    ["%2", "ü"].length < Nat.pow 2 64 ∧
      substitute? ["%2", "ü"] [] "é%1%02 %18446744073709551617%%0ß%".toList =
        some "é%2ü %18446744073709551617%%0ß%".toList := by
  have few : ["%2", "ü"].length < Nat.pow 2 64 := by decide
  refine ⟨few, ?_⟩
  rw [(format_substitutes _ _).2.2.2 few, format, String.toList_ofList, fill_eq]
  decide

end MarkupAudit.Template

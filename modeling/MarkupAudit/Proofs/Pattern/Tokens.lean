/-
# Tokens before a parenthesis

The reader of tokens ends in a text or goes on behind the parenthesis that follows it, except where
the text ends in the middle of a word edge. What it reads are characters, sets and conditions on
places, repetitions with bounds that are in order, and what opens and closes groups.
-/

import MarkupAudit.Proofs.Pattern.Matching
import MarkupAudit.Proofs.Pattern.Sets

namespace MarkupAudit.Pattern

open MarkupAudit.Text

/-! ## Groups -/

theorem consumes_readGroupName : Consumes readGroupName := by
  intro text name rest found
  unfold readGroupName at found
  dsimp only at found
  split at found
  · rename_i same
    split at found
    · cases found
      have within := List.dropWhile_suffix (l := text) (· != '>')
      rw [same] at within
      exact exists_cons_of_suffix within
    · cases found
  · cases found

section Groups

variable (settings : Settings)

/-- Switches of settings, the settings with them, and what ends them. -/
def readSwitching (seen : List Char) (text : List Char) :
    Option ((Settings × List Char × Char) × List Char) :=
  (readSwitches settings seen text).map fun found =>
    ((found.1, found.2.1, found.2.2.1), found.2.2.2)

/-- The settings after one more switch. A minus sign changes nothing by itself. -/
def switched? (seen : List Char) (c : Char) : Option Settings :=
  if seen.contains c then none
  else if c == '-' then some settings
  else settings.switch (!seen.contains '-') c

/-- The end of switches. -/
def isSwitchEnd (c : Char) : Bool := c == ':' || c == ')'

theorem readSwitching_end (seen : List Char) {c : Char} (ends : isSwitchEnd c = true)
    (rest : List Char) : readSwitching settings seen (c :: rest) =
      (if seen.head? == some '-' then none else some (settings, seen, c)).map (·, rest) := by
  have isEnd : (c == ':' || c == ')') = true := ends
  rw [readSwitching, readSwitches, if_pos isEnd]
  split <;> rfl

theorem readSwitching_next (seen : List Char) {c : Char} (goesOn : ¬isSwitchEnd c = true)
    (rest : List Char) : readSwitching settings seen (c :: rest) =
      (switched? settings seen c).bind fun settings =>
        readSwitching settings (c :: seen) rest := by
  have notEnd : ¬(c == ':' || c == ')') = true := goesOn
  rw [readSwitching, readSwitches, if_neg notEnd, switched?]
  split
  · rfl
  · split
    · rfl
    · cases settings.switch (!seen.contains '-') c <;> rfl

theorem consumes_readSwitching (seen : List Char) : Consumes (readSwitching settings seen) := by
  intro text value rest found
  induction text generalizing settings seen with
  | nil => cases found
  | cons c text ih =>
      refine ⟨c, text, rfl, ?_⟩
      by_cases ends : isSwitchEnd c = true
      · rw [readSwitching_end settings seen ends] at found
        obtain ⟨_, _, same⟩ := Option.map_eq_some_iff.mp found
        cases same
        exact List.suffix_rfl
      · rw [readSwitching_next settings seen ends] at found
        obtain ⟨switched, _, later⟩ := Option.bind_eq_some_iff.mp found
        obtain ⟨d, left, rfl, within⟩ := ih switched (c :: seen) later
        exact within.trans (List.suffix_cons d left)

/-- A group with a name. -/
def readNamedGroup (text : List Char) : Option (Token × List Char) :=
  (readGroupName text).bind fun found =>
    (some (some found.1)).bind fun name => some (.openGroup settings name, found.2)

/-- What switches of settings are: the start of a group, or a switch of its own. -/
def switchToken? (found : Settings × List Char × Char) : Option Token :=
  if found.2.2 == ':' then some (.openGroup found.1 none)
  else if found.2.1.isEmpty then none
  else some (.setting found.1)

/-- A group or a switch with settings of its own. -/
def readSettingGroup (text : List Char) : Option (Token × List Char) :=
  (readSwitching settings [] text).bind fun found =>
    (switchToken? found.1).bind fun token => some (token, found.2)

theorem consumes_readNamedGroup : Consumes (readNamedGroup settings) :=
  consumes_readGroupName.mapValue (fun name => some (some name)) (Token.openGroup settings)

theorem consumes_readSettingGroup : Consumes (readSettingGroup settings) :=
  (consumes_readSwitching settings []).mapValue switchToken? id

/-- What follows the question mark of a group. -/
def readQuery (text : List Char) : Option (Token × List Char) :=
  match text with
  | 'P' :: '<' :: rest => readNamedGroup settings rest
  | '<' :: '=' :: _ => none
  | '<' :: '!' :: _ => none
  | '<' :: rest => readNamedGroup settings rest
  | rest => readSettingGroup settings rest

theorem readGroup_nil {text : List Char} (nothing : settings.skip text = []) :
    readGroup settings text = some (.openGroup settings none, []) := by
  rw [readGroup]
  simp only [nothing]

theorem readGroup_other {text rest : List Char} {c : Char}
    (skipped : settings.skip text = c :: rest) (plain : c ≠ '?') :
    readGroup settings text = some (.openGroup settings none, c :: rest) := by
  rw [readGroup]
  simp only [skipped]
  split <;> simp_all

theorem readQuery_setting {text : List Char} (notNamed : ∀ rest, text ≠ 'P' :: '<' :: rest)
    (notAngle : ∀ rest, text ≠ '<' :: rest) :
    readQuery settings text = readSettingGroup settings text := by
  unfold readQuery
  split
  · exact absurd rfl (notNamed _)
  · exact absurd rfl (notAngle _)
  · exact absurd rfl (notAngle _)
  · exact absurd rfl (notAngle _)
  · rfl

theorem readQuery_angle {text : List Char} (notEqual : ∀ rest, text ≠ '=' :: rest)
    (notBang : ∀ rest, text ≠ '!' :: rest) :
    readQuery settings ('<' :: text) = readNamedGroup settings text := by
  unfold readQuery
  split
  · rename_i same
    cases same
  · rename_i same
    exact absurd (List.cons.inj same).2 (notEqual _)
  · rename_i same
    exact absurd (List.cons.inj same).2 (notBang _)
  · rename_i same
    rw [(List.cons.inj same).2]
  · rename_i other
    exact (other _ rfl).elim

theorem readGroup_query {text rest : List Char} (skipped : settings.skip text = '?' :: rest) :
    readGroup settings text = readQuery settings rest := by
  rw [readGroup]
  simp only [skipped]
  split
  · rename_i same
    cases same
    rfl
  · rename_i same
    cases same
    rfl
  · rename_i same
    cases same
    rfl
  · rename_i notEqual notBang same
    cases same
    rw [readQuery_angle settings (fun rest same => notEqual rest (by rw [same]))
      (fun rest same => notBang rest (by rw [same]))]
    rfl
  · rename_i notNamed notEqual notBang notAngle same
    cases same
    rw [readQuery_setting settings (fun rest same => notNamed rest (by rw [same]))
      (fun rest same => notAngle rest (by rw [same])), readSettingGroup, readSwitching]
    cases readSwitches settings [] rest with
    | none => rfl
    | some found =>
        obtain ⟨inner, seen, final, left⟩ := found
        simp only [switchToken?, Option.bind_eq_bind, Option.bind_some, Option.map_some]
        split
        · rfl
        · split <;> rfl
  · rename_i other
    exact (other rest rfl).elim

theorem readQuery_suffix {text rest : List Char} {token : Token}
    (found : readQuery settings text = some (token, rest)) : rest <:+ text := by
  unfold readQuery at found
  split at found
  · exact ((consumes_readNamedGroup settings).shrinks found).trans (List.suffix_append ['P', '<'] _)
  · cases found
  · cases found
  · exact ((consumes_readNamedGroup settings).shrinks found).trans (List.suffix_cons '<' _)
  · exact (consumes_readSettingGroup settings).shrinks found

theorem shrinks_readGroup : Shrinks (readGroup settings) := by
  intro text token rest found
  refine List.IsSuffix.trans ?_ (skip_suffix settings text)
  cases skipped : settings.skip text with
  | nil =>
      rw [readGroup_nil settings skipped] at found
      cases found
      exact List.suffix_rfl
  | cons c left =>
      by_cases query : c = '?'
      · subst query
        rw [readGroup_query settings skipped] at found
        exact (readQuery_suffix settings found).trans (List.suffix_cons '?' left)
      · rw [readGroup_other settings skipped query] at found
        cases found
        exact List.suffix_rfl

end Groups

section Tokens

variable (settings : Settings)

/-! ## Repetitions -/

/-- The number that digits denote, unless it is too large. -/
def count? (digits : List Char) : Option Nat :=
  let count := digits.foldl (fun value c => value * 10 + (c.toNat - '0'.toNat)) 0
  if digits.isEmpty || Nat.pow 2 32 ≤ count then none else some count

/-- Digits, and blanks behind them. -/
def readNumber (text : List Char) : Option (Nat × List Char) :=
  (some (run settings (fun c => '0' ≤ c && c ≤ '9') text)).bind fun found =>
    (some (run settings isBlank found.2)).bind fun left =>
      (count? found.1).bind fun count => some (count, left.2)

theorem readCount_eq (text : List Char) :
    readCount settings text = readNumber settings (text.dropWhile isBlank) := by
  unfold readCount readNumber count? run
  dsimp only [Option.bind_some]
  split <;> rfl

theorem shrinks_readNumber : Shrinks (readNumber settings) :=
  shrinks_run.bind fun digits => shrinks_run.mapValue (fun _ => count? digits) id

theorem shrinks_readCount : Shrinks (readCount settings) := by
  intro text value rest found
  rw [readCount_eq] at found
  exact (shrinks_readNumber settings found).trans (List.dropWhile_suffix isBlank)

/-- The end of an operator of repetition. -/
def readEnd (token : Token) (text : List Char) : Option (Token × List Char) :=
  some (token, dropLazy (settings.skip text))

theorem dropLazy_suffix (text : List Char) : dropLazy text <:+ text := by
  unfold dropLazy
  split
  · exact List.suffix_cons '?' _
  · exact List.suffix_rfl

theorem shrinks_readEnd (token : Token) : Shrinks (readEnd settings token) := by
  intro text value rest found
  cases found
  exact (dropLazy_suffix _).trans (skip_suffix settings text)

/-- The closing brace of a repetition. -/
def readBrace (token? : Option Token) (text : List Char) : Option (Token × List Char) :=
  match text with
  | '\x7d' :: rest => token?.bind fun token => readEnd settings token rest
  | _ => none

theorem readBrace_of_ne (token? : Option Token) {c : Char} (other : c ≠ '\x7d')
    (rest : List Char) : readBrace settings token? (c :: rest) = none := by
  unfold readBrace
  split
  · rename_i same
    exact absurd (List.cons.inj same).1 other
  · rfl

theorem consumes_readBrace (token? : Option Token) : Consumes (readBrace settings token?) := by
  refine .of_cons rfl fun c text token rest found => ?_
  by_cases brace : c = '\x7d'
  · subst brace
    obtain ⟨value, _, ending⟩ := Option.bind_eq_some_iff.mp found
    exact shrinks_readEnd settings value ending
  · rw [readBrace_of_ne settings token? brace] at found
    cases found

/-- A repetition with both bounds, if they are in order. -/
def bounded? (least most : Nat) : Option Token :=
  if least ≤ most then some (.repetition least (some most)) else none

/-- The number of times at most, which the closing brace must follow. -/
def readUpTo (least : Nat) (text : List Char) : Option (Token × List Char) :=
  (readCount settings text).bind fun found => readBrace settings (bounded? least found.1) found.2

/-- What follows the comma between the bounds of a repetition. -/
def readMost (least : Nat) (text : List Char) : Option (Token × List Char) :=
  match settings.skip text with
  | '\x7d' :: rest => readEnd settings (.repetition least none) rest
  | rest => readUpTo settings least rest

/-- What follows the first bound of a repetition. -/
def readLimit (least : Nat) (text : List Char) : Option (Token × List Char) :=
  match text with
  | ',' :: rest => readMost settings least rest
  | text => readBrace settings (some (.repetition least (some least))) text

theorem readMost_brace (least : Nat) {text rest : List Char}
    (skipped : settings.skip text = '\x7d' :: rest) :
    readMost settings least text = readEnd settings (.repetition least none) rest := by
  simp only [readMost, skipped]

theorem readMost_other (least : Nat) {text : List Char}
    (other : ∀ rest, settings.skip text ≠ '\x7d' :: rest) :
    readMost settings least text = readUpTo settings least (settings.skip text) := by
  unfold readMost
  split
  · rename_i same
    exact absurd same (other _)
  · rfl

theorem readLimit_of_ne (least : Nat) {text : List Char} (other : ∀ rest, text ≠ ',' :: rest) :
    readLimit settings least text =
      readBrace settings (some (.repetition least (some least))) text := by
  unfold readLimit
  split
  · exact absurd rfl (other _)
  · rfl

theorem readBounds_eq (text : List Char) :
    readBounds settings text = (readCount settings (settings.skip text)).bind fun found =>
      readLimit settings found.1 found.2 := by
  unfold readBounds
  refine Option.bind_congr fun found _ => ?_
  obtain ⟨least, rest⟩ := found
  dsimp only
  split
  · rfl
  · show _ = readMost settings least _
    split
    · rename_i skipped
      rw [readMost_brace settings least skipped]
      rfl
    · rename_i other
      rw [readMost_other settings least other, readUpTo]
      refine Option.bind_congr fun found _ => ?_
      obtain ⟨most, left⟩ := found
      dsimp only
      split
      · unfold readBrace
        simp only [guard, bounded?]
        split <;> rfl
      · rename_i notBrace
        unfold readBrace
        split
        · rename_i same
          exact absurd rfl (notBrace _)
        · rfl
  · rename_i notBrace notComma
    rw [readLimit_of_ne settings least (fun rest same => notComma rest same)]
    unfold readBrace
    split
    · exact absurd rfl (notBrace _)
    · rfl

theorem shrinks_readUpTo (least : Nat) : Shrinks (readUpTo settings least) :=
  (shrinks_readCount settings).bind fun most =>
    (consumes_readBrace settings (bounded? least most)).shrinks

theorem shrinks_readMost (least : Nat) : Shrinks (readMost settings least) := by
  intro text token rest found
  refine List.IsSuffix.trans ?_ (skip_suffix settings text)
  by_cases brace : ∃ rest, settings.skip text = '\x7d' :: rest
  · obtain ⟨left, skipped⟩ := brace
    rw [readMost_brace settings least skipped] at found
    rw [skipped]
    exact (shrinks_readEnd settings _ found).trans (List.suffix_cons _ left)
  · rw [readMost_other settings least fun rest same => brace ⟨rest, same⟩] at found
    exact shrinks_readUpTo settings least found

theorem shrinks_readLimit (least : Nat) : Shrinks (readLimit settings least) := by
  intro text token rest found
  unfold readLimit at found
  split at found
  · exact (shrinks_readMost settings least found).trans (List.suffix_cons ',' _)
  · exact (consumes_readBrace settings _).shrinks found

theorem shrinks_readBounds : Shrinks (readBounds settings) := by
  rw [funext (readBounds_eq settings)]
  exact (shrinks_readCount settings).skip.bind (shrinks_readLimit settings)

/-- The signs that take more of the text than themselves. -/
def openSigns : List Char := ['(', '?', '*', '+', '\x7b', '[', '\\']

/-- The signs that are tokens by themselves. -/
def closedSigns : List Char := [')', '|', '^', '$', '.']

/-- The token that a sign is by itself. -/
def sign? (c : Char) : Option Token :=
  (readToken settings [c]).map (·.1)

theorem readToken_literal {c : Char} (notOpen : c ∉ openSigns) (notClosed : c ∉ closedSigns)
    (rest : List Char) : readToken settings (c :: rest) =
      (settings.literal c false).bind fun node => some (.item node 0, rest) := by
  unfold readToken
  split <;> simp_all [openSigns, closedSigns]

theorem readToken_of_not_mem {c : Char} (notOpen : c ∉ openSigns) (rest : List Char) :
    readToken settings (c :: rest) = (sign? settings c).map fun token => (token, rest) := by
  by_cases isClosed : c ∈ closedSigns
  · simp only [closedSigns, List.mem_cons, List.not_mem_nil, or_false] at isClosed
    rcases isClosed with rfl | rfl | rfl | rfl | rfl
    · rfl
    · rfl
    · rfl
    · rfl
    · unfold sign? readToken
      cases settings.dot <;> rfl
  · rw [sign?, readToken_literal settings notOpen isClosed,
      readToken_literal settings notOpen isClosed]
    cases settings.literal c false <;> rfl

/-- A symbol behind a backslash as a token. -/
def symbolToken? (symbol : Symbol) : Option Token :=
  (symbol.node? settings).map fun node => .item node 0

theorem readToken_escape (rest : List Char) :
    readToken settings ('\\' :: rest) = (readEscape settings rest).bind fun found =>
      (symbolToken? settings found.1).bind fun token => some (token, found.2) := by
  show ((readEscape settings rest).bind fun found => _) = _
  refine Option.bind_congr fun found _ => ?_
  unfold symbolToken?
  dsimp only
  cases Symbol.node? settings found.1 <;> rfl

theorem consumes_readToken : Consumes (readToken settings) := by
  refine .of_cons rfl fun c text token rest found => ?_
  by_cases taken : c ∈ openSigns
  · simp only [openSigns, List.mem_cons, List.not_mem_nil, or_false] at taken
    rcases taken with rfl | rfl | rfl | rfl | rfl | rfl | rfl
    · exact shrinks_readGroup settings found
    · cases found
      exact dropLazy_suffix text
    · cases found
      exact dropLazy_suffix text
    · cases found
      exact dropLazy_suffix text
    · exact shrinks_readBounds settings found
    · exact ((consumes_bracket settings).mapValue some
        fun content => Token.item (.one content.set) content.depth).shrinks found
    · rw [readToken_escape] at found
      exact ((consumes_readEscape settings).mapValue (symbolToken? settings) id).shrinks found
  · rw [readToken_of_not_mem settings taken] at found
    obtain ⟨_, _, same⟩ := Option.map_eq_some_iff.mp found
    cases same
    exact List.suffix_rfl

end Tokens

end MarkupAudit.Pattern

/-
# Symbols before a parenthesis

The readers of the symbols of patterns end in a text or go on behind the parenthesis that follows
it. There is one exception: for a word edge the reader looks ahead whether a name in braces
follows. If the text ends behind the brace, as far as it counts, then there is no symbol. With a
parenthesis behind it there is one, and the brace is left to be read.
-/

import MarkupAudit.Proofs.Pattern.Continuation

namespace MarkupAudit.Pattern

open MarkupAudit.Text

/-! ## Texts in braces -/

section Symbols

variable (settings : Settings)

/-- A run of certain characters up to a closing brace. -/
def upToBrace (wanted : Char → Bool) (text : List Char) : Option (List Char × List Char) :=
  match run settings wanted text with
  | (name, '\x7d' :: rest) => some (name, rest)
  | _ => none

variable {settings} {wanted : Char → Bool}

theorem shrinks_upToBrace : Shrinks (upToBrace settings wanted) := by
  intro text value rest found
  have left : (run settings wanted text).2 <:+ text := run_suffix text
  rw [upToBrace] at found
  split at found
  · rename_i same
    cases found
    rw [same] at left
    exact (List.suffix_cons _ _).trans left
  · cases found

variable (settings)

theorem readBraced_eq :
    readBraced settings =
      fun text => upToBrace settings (· != '\x7d') (settings.skip text) := by
  funext text
  rw [readBraced, upToBrace, run]
  generalize takeRun settings _ _ _ = found
  obtain ⟨name, left⟩ := found
  dsimp only
  split <;> simp_all

theorem shrinks_readBraced : Shrinks (readBraced settings) :=
  readBraced_eq settings ▸ shrinks_upToBrace.skip

theorem readDigits_cons (count : Nat) (c : Char) (rest : List Char) :
    readDigits settings (count + 1) (c :: rest) =
      (readDigits settings count (settings.skip rest)).bind fun found =>
        some (c :: found.1, found.2) := rfl

theorem shrinks_readDigits (count : Nat) : Shrinks (readDigits settings count) := by
  induction count with
  | zero =>
      intro text value rest found
      cases found
      exact List.suffix_rfl
  | succ count ih =>
      intro text value rest found
      cases text with
      | nil => cases found
      | cons c text =>
          rw [readDigits_cons] at found
          obtain ⟨before, one, two⟩ := Option.bind_eq_some_iff.mp found
          cases two
          exact ((ih one).trans (skip_suffix settings text)).trans (List.suffix_cons c text)

/-- The character that digits denote. -/
def denoted? (digits : List Char) : Option Char :=
  (hexValue? digits).bind charOf?

theorem shrinks_readCode (count : Nat) : Shrinks (readCode settings count) := by
  intro text value rest found
  refine List.IsSuffix.trans ?_ (skip_suffix settings text)
  rw [readCode] at found
  split at found
  · rename_i inner same
    rw [same]
    have braced := (shrinks_readBraced settings).mapValue denoted? (Symbol.literal · false)
    exact (braced found).trans (List.suffix_cons _ inner)
  · exact (shrinks_readDigits settings count).mapValue denoted?
      (Symbol.literal · (count == 2)) found

theorem skip_nil : settings.skip [] = [] := by
  unfold Settings.skip
  split <;> rfl

/-- The set with a name in braces, or all other characters. -/
def bracedSet? (negated : Bool) (name : List Char) : Option CodeSet :=
  (braceClass name).bind fun found => settings.negate (negated != found.1) (settings.fold found.2)

/-- The set with a name of one letter, or all other characters. -/
def letterSet? (negated : Bool) (letter : Char) : Option CodeSet :=
  (named? (String.singleton letter)).bind fun set => settings.negate negated (settings.fold set)

theorem readNamed_brace (negated : Bool) (unicode : settings.unicode = true) (rest : List Char) :
    readNamed settings negated ('\x7b' :: rest) = (readBraced settings rest).bind fun found =>
      (bracedSet? settings negated found.1).bind fun set => some (Symbol.set set, found.2) := by
  rw [readNamed, skip_cons (counts_brace settings), unicode]
  simp only [bracedSet?, Option.bind_assoc]
  rfl

theorem readNamed_letter (negated : Bool) (unicode : settings.unicode = true) {c : Char}
    (counts : settings.Counts c) (notBrace : c ≠ '\x7b') (notEscape : c ≠ '\\')
    (rest : List Char) :
    readNamed settings negated (c :: rest) = (skipper settings rest).bind fun found =>
      (letterSet? settings negated c).bind fun set => some (Symbol.set set, found.2) := by
  rw [readNamed, skip_cons counts, unicode]
  split
  · rename_i nothing
    cases nothing
  · rename_i same
    exact absurd (List.cons.inj same).1 notBrace
  · rename_i same
    exact absurd (List.cons.inj same).1 notEscape
  · rename_i letter after _ _ same
    obtain ⟨rfl, rfl⟩ := List.cons.inj same
    simp only [letterSet?, Option.bind_assoc, skipper]
    rfl

theorem readNamed_escape (negated : Bool) (rest : List Char) :
    readNamed settings negated ('\\' :: rest) = none := by
  have counts : settings.Counts '\\' := fun _ => by decide
  rw [readNamed, skip_cons counts]
  cases settings.unicode <;> rfl

theorem readNamed_nil (negated : Bool) : readNamed settings negated [] = none := by
  rw [readNamed, skip_nil]
  cases settings.unicode <;> rfl

theorem readNamed_of_not_unicode (negated : Bool) (ascii : settings.unicode = false)
    (text : List Char) : readNamed settings negated text = none := by
  rw [readNamed, ascii]
  rfl

theorem readNamed_skip (negated : Bool) (text : List Char) :
    readNamed settings negated (settings.skip text) = readNamed settings negated text := by
  rw [readNamed, readNamed, skip_skip]

theorem shrinks_readNamed (negated : Bool) : Shrinks (readNamed settings negated) := by
  intro text symbol rest found
  rw [← readNamed_skip] at found
  refine List.IsSuffix.trans ?_ (skip_suffix settings text)
  have fixed := skip_skip settings text
  generalize settings.skip text = visible at found fixed
  by_cases unicode : settings.unicode = true
  · cases visible with
    | nil => rw [readNamed_nil] at found; cases found
    | cons c left =>
        refine List.IsSuffix.trans ?_ (List.suffix_cons c left)
        by_cases brace : c = '\x7b'
        · subst brace
          rw [readNamed_brace settings negated unicode] at found
          exact (shrinks_readBraced settings).mapValue (bracedSet? settings negated) Symbol.set
            found
        · by_cases escape : c = '\\'
          · subst escape
            rw [readNamed_escape] at found
            cases found
          · rw [readNamed_letter settings negated unicode (counts_of_skip fixed) brace
              escape] at found
            exact (shrinks_skipper settings).mapValue (fun _ => letterSet? settings negated c)
              Symbol.set found
  · rw [readNamed_of_not_unicode settings negated (by simpa using unicode)] at found
    cases found

/-- The kind of word edge with a given name. -/
def edgeKind? (name : List Char) : Option Anchor :=
  ([("start", Anchor.wordStart), ("end", Anchor.wordEnd),
    ("start-half", Anchor.wordStartHalf), ("end-half", Anchor.wordEndHalf)].lookup
      (String.ofList name)).map (· settings.word)

/-- A word edge with a name in braces. -/
def readEdgeKind (text : List Char) : Option (Symbol × List Char) :=
  (upToBrace settings isEdgeLetter text).bind fun found =>
    (edgeKind? settings found.1).bind fun kind => some (Symbol.anchor kind, found.2)

theorem readWordEdge_plain {text : List Char} (plain : ∀ rest, text ≠ '\x7b' :: rest) :
    readWordEdge settings text = some (.anchor (.wordEdge settings.word), text) := by
  unfold readWordEdge
  split
  · rename_i rest
    exact absurd rfl (plain rest)
  · rfl

theorem readWordEdge_brace {rest left : List Char} {c : Char}
    (skipped : settings.skip rest = c :: left) :
    readWordEdge settings ('\x7b' :: rest) =
      if isEdgeLetter c then readEdgeKind settings (c :: left)
      else some (.anchor (.wordEdge settings.word), '\x7b' :: rest) := by
  rw [readWordEdge]
  simp only [skipped]
  cases letter : isEdgeLetter c with
  | false => rfl
  | true =>
      simp only [readEdgeKind, upToBrace, run, List.length_cons, Bool.not_true, Bool.false_eq_true,
        if_false, if_true]
      generalize takeRun settings _ _ _ = found
      obtain ⟨name, after⟩ := found
      dsimp only
      split
      · simp only [edgeKind?, Option.bind_some]
        generalize List.lookup (String.ofList name) _ = kind
        cases kind <;> rfl
      · split <;> simp_all

theorem readWordEdge_cut {rest : List Char} (nothing : settings.skip rest = []) :
    readWordEdge settings ('\x7b' :: rest) = none := by
  rw [readWordEdge]
  simp only [nothing]

theorem shrinks_readEdgeKind : Shrinks (readEdgeKind settings) :=
  shrinks_upToBrace.mapValue (edgeKind? settings) Symbol.anchor

/-- What is read is a condition on a place. If it is the plain one, nothing has been taken from the
text. -/
theorem readWordEdge_spec {text rest : List Char} {symbol : Symbol}
    (found : readWordEdge settings text = some (symbol, rest)) :
    (∃ condition, symbol = .anchor condition) ∧
      (rest = text ∨ ∃ inner, text = '\x7b' :: inner ∧ rest <:+ settings.skip inner) := by
  by_cases brace : ∃ inner, text = '\x7b' :: inner
  · obtain ⟨inner, rfl⟩ := brace
    cases skipped : settings.skip inner with
    | nil => rw [readWordEdge_cut settings skipped] at found; cases found
    | cons c left =>
        rw [readWordEdge_brace settings skipped] at found
        split at found
        · have shorter := shrinks_readEdgeKind settings found
          obtain ⟨_, _, two⟩ := Option.bind_eq_some_iff.mp found
          obtain ⟨kind, _, same⟩ := Option.bind_eq_some_iff.mp two
          cases same
          exact ⟨⟨kind, rfl⟩, .inr ⟨inner, rfl, skipped ▸ shorter⟩⟩
        · cases found
          exact ⟨⟨_, rfl⟩, .inl rfl⟩
  · rw [readWordEdge_plain settings fun rest same => brace ⟨rest, same⟩] at found
    cases found
    exact ⟨⟨_, rfl⟩, .inl rfl⟩

theorem shrinks_readWordEdge : Shrinks (readWordEdge settings) := by
  intro text symbol rest found
  rcases (readWordEdge_spec settings found).2 with rfl | ⟨inner, rfl, within⟩
  · exact List.suffix_rfl
  · exact (within.trans (skip_suffix settings inner)).trans (List.suffix_cons _ inner)

/-- The symbols that are one character after the backslash. -/
def letterSymbol? (c : Char) : Option Symbol :=
  (readEscape settings [c]).map (·.1)

/-- The characters after a backslash that take more of the text. -/
def openEscapes : List Char := ['x', 'u', 'U', 'p', 'P', 'b']

theorem readEscape_of_not_mem {c : Char} (closed : c ∉ openEscapes) (rest : List Char) :
    readEscape settings (c :: rest) =
      (letterSymbol? settings c).map fun symbol => (symbol, rest) := by
  simp only [openEscapes, List.mem_cons, List.not_mem_nil, or_false, not_or] at closed
  obtain ⟨notX, notU, notLongU, notP, notLongP, notB⟩ := closed
  unfold letterSymbol? readEscape
  simp only [beq_iff_eq, notX, notU, notLongU, notP, notLongP, if_false]
  split
  · cases settings.letterClass c <;> rfl
  · split
    · rfl
    · split <;> simp_all

theorem consumes_readEscape : Consumes (readEscape settings) := by
  refine .of_cons rfl fun c text symbol rest found => ?_
  by_cases taken : c ∈ openEscapes
  · simp only [openEscapes, List.mem_cons, List.not_mem_nil, or_false] at taken
    rcases taken with rfl | rfl | rfl | rfl | rfl | rfl
    · exact shrinks_readCode settings 2 found
    · exact shrinks_readCode settings 4 found
    · exact shrinks_readCode settings 8 found
    · exact shrinks_readNamed settings false found
    · exact shrinks_readNamed settings true found
    · exact shrinks_readWordEdge settings found
  · rw [readEscape_of_not_mem settings taken] at found
    obtain ⟨_, _, same⟩ := Option.map_eq_some_iff.mp found
    cases same
    exact List.suffix_rfl

/-- A character in a set, or a symbol behind a backslash. -/
theorem readMember_of_ne {c : Char} (notEscape : c ≠ '\\') (rest : List Char) :
    readMember settings (c :: rest) = some (.literal c false, rest) := by
  rw [readMember]
  exact fun same => notEscape same

theorem consumes_readMember : Consumes (readMember settings) := by
  refine .of_cons rfl fun c text symbol rest found => ?_
  by_cases escape : c = '\\'
  · subst escape
    exact (consumes_readEscape settings).shrinks found
  · rw [readMember_of_ne settings escape] at found
    cases found
    exact List.suffix_rfl

end Symbols

end MarkupAudit.Pattern

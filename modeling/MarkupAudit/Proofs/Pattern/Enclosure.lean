/-
# Patterns inside a group

What is read of a text inside a group has to do with what is read of the text by itself. Tokens are
taken inside more groups as they are without them, unless they close one of these. So a text that is
read to its end is read inside a group up to the parenthesis that closes it, unless it ends in a
remark that swallows the parenthesis. And a text that is read to its end inside a group, with what
is left closing it, is read to its end by itself, unless a parenthesis in it closes the group early.
-/

import MarkupAudit.Proofs.Pattern.Tokens

namespace MarkupAudit.Pattern

open MarkupAudit.Text

/-! ## Reading to the end of a text -/

/-- As many steps as there are characters, and one more, are enough. -/
theorem readTokens_of_lt {steps more : Nat} {reading : Reading} {text : List Char}
    (enough : text.length < steps) (enoughToo : text.length < more) :
    readTokens steps reading text = readTokens more reading text := by
  induction steps generalizing more reading text with
  | zero => cases enough
  | succ steps ih =>
      cases more with
      | zero => cases enoughToo
      | succ more =>
          have shorter := length_skip_le reading.body.settings text
          rw [readTokens, readTokens]
          split
          · rfl
          · refine Option.bind_congr fun found isFound => ?_
            have less := (consumes_readToken reading.body.settings).length_lt isFound
            refine Option.bind_congr fun next _ => ?_
            exact ih (by omega) (by omega)

/-- What has been read when a text ends. -/
def Reading.readAll (reading : Reading) (text : List Char) : Option Reading :=
  readTokens (text.length + 1) reading text

namespace Reading

variable {reading : Reading} {text : List Char}

theorem readAll_of_skip_nil (nothing : reading.body.settings.skip text = []) :
    reading.readAll text = some reading := by
  rw [readAll, readTokens]
  simp only [nothing]

theorem readAll_of_skip_cons {c : Char} {rest : List Char}
    (skipped : reading.body.settings.skip text = c :: rest) :
    reading.readAll text = (readToken reading.body.settings (c :: rest)).bind fun found =>
      (reading.take found.1).bind fun next => next.readAll found.2 := by
  have shorter := length_skip_le reading.body.settings text
  rw [readAll, readTokens]
  simp only [skipped]
  refine Option.bind_congr fun found isFound => ?_
  have less := (consumes_readToken reading.body.settings).length_lt isFound
  rw [skipped] at shorter
  refine Option.bind_congr fun next _ => ?_
  exact readTokens_of_lt (by omega) (Nat.lt_succ_self _)

/-- The same reading inside more groups. -/
def within (reading : Reading) (bodies : List Body) : Reading :=
  { reading with outer := reading.outer ++ bodies }

end Reading

/-! ## What tokens are -/

/-- The patterns that a token stands for are proper, and so are the bounds of a repetition. -/
def Token.IsProper : Token → Prop
  | .item node _ => node.IsProper
  | .repetition least most => ∀ limit ∈ most, least ≤ limit
  | _ => True

section Tokens

variable {settings : Settings}

theorem readGroup_spec {text rest : List Char} {token : Token}
    (found : readGroup settings text = some (token, rest)) :
    (∃ inner name, token = .openGroup inner name) ∨ ∃ inner, token = .setting inner := by
  cases skipped : settings.skip text with
  | nil =>
      rw [readGroup_nil settings skipped] at found
      cases found
      exact .inl ⟨_, _, rfl⟩
  | cons c left =>
      by_cases query : c = '?'
      · subst query
        rw [readGroup_query settings skipped] at found
        have named {text : List Char} (found : readNamedGroup settings text = some (token, rest)) :
            ∃ inner name, token = .openGroup inner name := by
          obtain ⟨_, _, two⟩ := Option.bind_eq_some_iff.mp found
          cases two
          exact ⟨_, _, rfl⟩
        unfold readQuery at found
        split at found
        · exact .inl (named found)
        · cases found
        · cases found
        · exact .inl (named found)
        · obtain ⟨⟨switched, _⟩, _, two⟩ := Option.bind_eq_some_iff.mp found
          obtain ⟨_, isToken, same⟩ := Option.bind_eq_some_iff.mp two
          cases same
          unfold switchToken? at isToken
          split at isToken
          · cases isToken
            exact .inl ⟨_, _, rfl⟩
          · split at isToken
            · cases isToken
            · cases isToken
              exact .inr ⟨_, rfl⟩
      · rw [readGroup_other settings skipped query] at found
        cases found
        exact .inl ⟨_, _, rfl⟩

theorem readBrace_eq_some {token? : Option Token} {text rest : List Char} {token : Token}
    (found : readBrace settings token? text = some (token, rest)) : token? = some token := by
  unfold readBrace at found
  split at found
  · obtain ⟨_, isToken, same⟩ := Option.bind_eq_some_iff.mp found
    cases same
    exact isToken
  · cases found

theorem readBounds_spec {text rest : List Char} {token : Token}
    (found : readBounds settings text = some (token, rest)) :
    ∃ least most, token = .repetition least most ∧ ∀ limit ∈ most, least ≤ limit := by
  rw [readBounds_eq] at found
  obtain ⟨⟨least, left⟩, isCount, limit⟩ := Option.bind_eq_some_iff.mp found
  clear isCount
  dsimp only at limit
  unfold readLimit at limit
  split at limit
  · rename_i after
    by_cases brace : ∃ rest, settings.skip after = '\x7d' :: rest
    · obtain ⟨inner, skipped⟩ := brace
      rw [readMost_brace settings least skipped] at limit
      cases limit
      exact ⟨least, none, rfl, by simp⟩
    · rw [readMost_other settings least fun rest same => brace ⟨rest, same⟩] at limit
      obtain ⟨⟨most, last⟩, _, closing⟩ := Option.bind_eq_some_iff.mp limit
      have inOrder := readBrace_eq_some closing
      unfold bounded? at inOrder
      split at inOrder
      · rename_i ordered
        cases inOrder
        exact ⟨least, some most, rfl, by simpa using ordered⟩
      · cases inOrder
  · cases readBrace_eq_some limit
    exact ⟨least, some least, rfl, by simp⟩

theorem literal_isProper {c : Char} {asByte : Bool} {node : Node}
    (found : settings.literal c asByte = some node) : node.IsProper := by
  unfold Settings.literal at found
  split at found
  · cases found
  · cases found
    trivial

theorem node?_isProper {symbol : Symbol} {node : Node} (found : symbol.node? settings = some node) :
    node.IsProper := by
  unfold Symbol.node? at found
  split at found
  · exact literal_isProper found
  · cases found
    trivial
  · cases found
    trivial

/-- Tokens are proper, and only a closing parenthesis closes a group. -/
theorem readToken_spec {c : Char} {text rest : List Char} {token : Token}
    (found : readToken settings (c :: text) = some (token, rest)) :
    token.IsProper ∧ (token = .closeGroup → c = ')') := by
  by_cases taken : c ∈ openSigns
  · simp only [openSigns, List.mem_cons, List.not_mem_nil, or_false] at taken
    rcases taken with rfl | rfl | rfl | rfl | rfl | rfl | rfl
    · rcases readGroup_spec found with ⟨inner, name, rfl⟩ | ⟨inner, rfl⟩
      · exact ⟨trivial, fun same => by cases same⟩
      · exact ⟨trivial, fun same => by cases same⟩
    · cases found
      exact ⟨by simp [Token.IsProper], fun same => by cases same⟩
    · cases found
      exact ⟨by simp [Token.IsProper], fun same => by cases same⟩
    · cases found
      exact ⟨by simp [Token.IsProper], fun same => by cases same⟩
    · obtain ⟨least, most, rfl, ordered⟩ := readBounds_spec found
      exact ⟨ordered, fun same => by cases same⟩
    · obtain ⟨_, _, same⟩ := Option.bind_eq_some_iff.mp found
      cases same
      exact ⟨trivial, fun same => by cases same⟩
    · rw [readToken_escape] at found
      obtain ⟨⟨symbol, _⟩, _, two⟩ := Option.bind_eq_some_iff.mp found
      obtain ⟨_, isToken, same⟩ := Option.bind_eq_some_iff.mp two
      cases same
      obtain ⟨node, isNode, rfl⟩ := Option.map_eq_some_iff.mp isToken
      exact ⟨node?_isProper isNode, fun same => by cases same⟩
  · by_cases isClosed : c ∈ closedSigns
    · simp only [closedSigns, List.mem_cons, List.not_mem_nil, or_false] at isClosed
      rcases isClosed with rfl | rfl | rfl | rfl | rfl
      · cases found
        exact ⟨trivial, fun _ => rfl⟩
      · cases found
        exact ⟨trivial, fun same => by cases same⟩
      · cases found
        exact ⟨trivial, fun same => by cases same⟩
      · cases found
        exact ⟨trivial, fun same => by cases same⟩
      · obtain ⟨_, _, same⟩ := Option.bind_eq_some_iff.mp found
        cases same
        exact ⟨trivial, fun same => by cases same⟩
    · rw [readToken_literal settings taken isClosed] at found
      obtain ⟨_, isLiteral, same⟩ := Option.bind_eq_some_iff.mp found
      cases same
      exact ⟨literal_isProper isLiteral, fun same => by cases same⟩

end Tokens

/-! ## What a reading has read -/

/-- Items with proper patterns. -/
def Body.IsProper (body : Body) : Prop :=
  (∀ item ∈ body.items, item.node.IsProper) ∧ ∀ item ∈ body.branches, item.node.IsProper

/-- Groups with proper patterns. -/
def Reading.IsProper (reading : Reading) : Prop :=
  reading.body.IsProper ∧ ∀ body ∈ reading.outer, body.IsProper

theorem Node.IsProper.andThen {first second : Node} (isFirst : first.IsProper)
    (isSecond : second.IsProper) : (first.andThen second).IsProper := by
  unfold Node.andThen
  split
  · exact isSecond
  · exact isFirst
  · exact ⟨isFirst, isSecond⟩

theorem joinItems_isProper {items : List Item} (proper : ∀ item ∈ items, item.node.IsProper) :
    (joinItems items).node.IsProper := by
  have folded (node : Node) (isNode : node.IsProper) :
      (items.foldl (fun node item => item.node.andThen node) node).IsProper := by
    induction items generalizing node with
    | nil => exact isNode
    | cons item items ih =>
        exact ih (fun other listed => proper other (List.mem_cons_of_mem item listed)) _
          ((proper item List.mem_cons_self).andThen isNode)
  unfold joinItems
  split
  · trivial
  · exact proper _ List.mem_cons_self
  · exact folded .empty trivial

theorem Body.IsProper.joined {body : Body} (proper : body.IsProper) :
    body.joined.node.IsProper := by
  obtain ⟨settings, branches, items⟩ := body
  obtain ⟨ofItems, ofBranches⟩ := proper
  have folded (node : Node) (isNode : node.IsProper) :
      (branches.foldl (fun node item => .alt item.node node) node).IsProper := by
    clear ofItems
    dsimp only at ofBranches
    induction branches generalizing node with
    | nil => exact isNode
    | cons item branches ih =>
        exact ih (fun other listed => ofBranches other (List.mem_cons_of_mem item listed)) _
          ⟨ofBranches item List.mem_cons_self, isNode⟩
  unfold Body.joined
  dsimp only
  split
  · exact joinItems_isProper ofItems
  · exact folded _ (joinItems_isProper ofItems)

theorem Body.IsProper.push {body : Body} {node : Node} {depth : Nat} (proper : body.IsProper)
    (isNode : node.IsProper) : (body.push node depth).IsProper :=
  ⟨List.forall_mem_cons.mpr ⟨isNode, proper.1⟩, proper.2⟩

namespace Reading

theorem IsProper.take {reading next : Reading} {token : Token} (proper : reading.IsProper)
    (isToken : token.IsProper) (taken : reading.take token = some next) : next.IsProper := by
  obtain ⟨body, outer, names⟩ := reading
  obtain ⟨inner, around⟩ := proper
  unfold Reading.take at taken
  dsimp only at inner around taken
  cases token with
  | item node depth =>
      cases taken
      exact ⟨inner.push isToken, around⟩
  | repetition least most =>
      dsimp only at taken
      split at taken
      · cases taken
      · rename_i item items same
        split at taken
        · cases taken
        · cases taken
          have repeated := inner.1
          rw [same] at repeated
          obtain ⟨isItem, isRest⟩ := List.forall_mem_cons.mp repeated
          have without : Body.IsProper { body with items := items } := ⟨isRest, inner.2⟩
          exact ⟨without.push ⟨isToken, isItem⟩, around⟩
  | bar =>
      cases taken
      refine ⟨⟨by simp, ?_⟩, around⟩
      exact List.forall_mem_cons.mpr ⟨joinItems_isProper inner.1, inner.2⟩
  | openGroup settings name =>
      dsimp only at taken
      split at taken
      · cases taken
      · cases taken
        exact ⟨⟨by simp [Body.start], by simp [Body.start]⟩,
          List.forall_mem_cons.mpr ⟨inner, around⟩⟩
  | closeGroup =>
      cases outer with
      | nil => cases taken
      | cons outermost outer =>
          cases taken
          obtain ⟨isOuter, more⟩ := List.forall_mem_cons.mp around
          exact ⟨isOuter.push inner.joined, more⟩
  | setting settings =>
      cases taken
      exact ⟨⟨List.forall_mem_cons.mpr ⟨trivial, inner.1⟩, inner.2⟩, around⟩

/-- Whatever text is read, the patterns that come of it are proper. -/
theorem IsProper.readAll {reading last : Reading} {text : List Char} (proper : reading.IsProper)
    (found : reading.readAll text = some last) : last.IsProper := by
  induction size : text.length using Nat.strongRecOn generalizing reading text with
  | ind bound ih =>
      cases skipped : reading.body.settings.skip text with
      | nil =>
          rw [readAll_of_skip_nil skipped] at found
          obtain rfl := Option.some.inj found
          exact proper
      | cons c left =>
          rw [readAll_of_skip_cons skipped] at found
          obtain ⟨⟨token, rest⟩, isToken, later⟩ := Option.bind_eq_some_iff.mp found
          obtain ⟨next, taken, ended⟩ := Option.bind_eq_some_iff.mp later
          have shorter := length_skip_le reading.body.settings text
          have less := (consumes_readToken reading.body.settings).length_lt isToken
          rw [skipped] at shorter
          exact ih rest.length (by omega) (proper.take (readToken_spec isToken).1 taken) ended rfl

end Reading

namespace Reading

end Reading

end MarkupAudit.Pattern

/-
# The wish for JSON

The option that asks for JSON can be put in front of arguments that are followed and lack it. The
arguments then say the same as before, apart from that wish. Reading takes note of the wish in one
field only, which none of the other options looks at.
-/

import MarkupAudit.CommandLine.Arguments
import MarkupAudit.Proofs.Rules.Compilation

namespace MarkupAudit.CommandLine

namespace Given

/-- The same arguments with the wish for JSON. -/
def withJson (given : Given) : Given :=
  { given with json := true }

/-- Taking an argument neither makes nor looks at the wish for JSON. -/
def IgnoresJson (take : Given → Except Refusal Given) : Prop :=
  ∀ given next : Given, take given = .ok next →
    next.json = given.json ∧ take given.withJson = .ok next.withJson

theorem ignoresJson_ite (isRefused : Given → Bool) (change : Given → Given)
    (sameTest : ∀ given, isRefused given.withJson = isRefused given)
    (sameWish : ∀ given, (change given).json = given.json)
    (sameChange : ∀ given, change given.withJson = (change given).withJson) :
    IgnoresJson fun given => if isRefused given then .error .usage else .ok (change given) := by
  intro given next taken
  dsimp only at taken ⊢
  split at taken
  · contradiction
  · rename_i followed
    cases taken
    rw [sameTest, if_neg followed, sameChange]
    exact ⟨sameWish given, rfl⟩

theorem ignoresJson_takeInput (path : String) : IgnoresJson (·.takeInput path) :=
  ignoresJson_ite (fun given => given.input.isSome || path.isEmpty)
    (fun given => { given with input := some path }) (fun _ => rfl) (fun _ => rfl) fun _ => rfl

theorem ignoresJson_takeInputs (paths : List String) : IgnoresJson (·.takeInputs paths) := by
  induction paths with
  | nil =>
      intro given next taken
      cases taken
      exact ⟨rfl, rfl⟩
  | cons path rest ih =>
      intro given next taken
      obtain ⟨between, first, others⟩ := bind_eq_ok_iff.mp taken
      obtain ⟨sameFirst, again⟩ := ignoresJson_takeInput path _ _ first
      obtain ⟨sameOthers, againOthers⟩ := ih _ _ others
      exact ⟨sameOthers.trans sameFirst, bind_eq_ok_iff.mpr ⟨_, again, againOthers⟩⟩

theorem ignoresJson_of_valueTaker? {name : String}
    {take : Given → String → Except Refusal Given} (found : valueTaker? name = some take)
    (value : String) : IgnoresJson (take · value) := by
  unfold valueTaker? at found
  split at found
  all_goals cases found
  case h_1 =>
    exact ignoresJson_ite (fun given => given.rules.isSome || value.isEmpty)
      (fun given => { given with rules := some value }) (fun _ => rfl) (fun _ => rfl) fun _ => rfl
  case h_2 =>
    exact ignoresJson_ite (fun given => given.templates.isSome || value.isEmpty)
      (fun given => { given with templates := some value }) (fun _ => rfl) (fun _ => rfl)
      fun _ => rfl
  case h_3 =>
    exact ignoresJson_ite (·.logLevel.isSome)
      (fun given => { given with logLevel := some value }) (fun _ => rfl) (fun _ => rfl)
      fun _ => rfl

end Given

open Given (IgnoresJson)

/-- The only switch that is followed is the wish for JSON. -/
theorem json_of_takeSwitch {given next : Given} {name : String}
    (taken : takeSwitch given name = .ok next) : next.json = true := by
  unfold takeSwitch at taken
  split at taken
  case h_1 =>
    simp only [Given.takeJson] at taken
    split at taken
    · contradiction
    · cases taken
      rfl
  all_goals contradiction

/-- Arguments that do not ask for JSON are read alike after it has been asked for. -/
theorem readFrom_withJson (arguments : List String) {given next : Given}
    (accepted : readFrom given arguments = .ok next) (silent : next.json = false) :
    given.json = false ∧ readFrom given.withJson arguments = .ok next.withJson := by
  -- A step that ignores the wish, and then the reading of the rest.
  have onward {take : Given → Except Refusal Given} (ignores : IgnoresJson take)
      {rest : List String} (given : Given)
      (ih : ∀ given, readFrom given rest = .ok next →
        given.json = false ∧ readFrom given.withJson rest = .ok next.withJson)
      (accepted : (take given >>= (readFrom · rest)) = .ok next) :
      given.json = false ∧
        (take given.withJson >>= (readFrom · rest)) = .ok next.withJson := by
    obtain ⟨between, taken, others⟩ := bind_eq_ok_iff.mp accepted
    obtain ⟨same, again⟩ := ignores _ _ taken
    obtain ⟨unset, read⟩ := ih _ others
    exact ⟨same ▸ unset, bind_eq_ok_iff.mpr ⟨_, again, read⟩⟩
  fun_induction readFrom given arguments
  case case1 =>
    cases accepted
    exact ⟨silent, rfl⟩
  case case2 form =>
    obtain ⟨same, again⟩ := Given.ignoresJson_takeInputs _ _ _ accepted
    rw [readFrom, form]
    exact ⟨same ▸ silent, again⟩
  case case4 form ih =>
    rw [readFrom, form]
    exact onward (Given.ignoresJson_takeInput _) _ ih accepted
  case case5 value _ found form ih =>
    simp only [readFrom, form, found]
    exact onward (Given.ignoresJson_of_valueTaker? found value) _ ih accepted
  case case6 found value next form ih =>
    simp only [readFrom, form, found, next]
    exact onward (Given.ignoresJson_of_valueTaker? found value) _ ih accepted
  case case10 ih =>
    -- The wish has been made now, and is never taken back.
    obtain ⟨between, taken, others⟩ := bind_eq_ok_iff.mp accepted
    have unset := (ih _ others).1
    rw [json_of_takeSwitch taken] at unset
    contradiction
  all_goals contradiction

/-- Where JSON is not asked for, the option can be put in front. -/
theorem Arguments.read_json {arguments : List String} {given : Arguments}
    (accepted : read arguments = .ok given) (silent : given.json = false) :
    read ("--json" :: arguments) = .ok { given with json := true } := by
  obtain ⟨last, readAll, finished⟩ := bind_eq_ok_iff.mp accepted
  unfold Given.finish at finished
  split at finished
  · contradiction
  · rename_i input named
    cases finished
    have again := (readFrom_withJson arguments readAll silent).2
    have first : readFrom .start ("--json" :: arguments) = .ok last.withJson := again
    refine bind_eq_ok_iff.mpr ⟨_, first, ?_⟩
    rw [Given.finish, Given.withJson, named]

end MarkupAudit.CommandLine

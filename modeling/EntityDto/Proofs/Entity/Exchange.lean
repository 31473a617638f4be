import EntityDto.Proofs.Entity.Replacement
import EntityDto.Proofs.Token.Extent

/-!
Exchanging one line of a source for another one that opens the same, balances the same and says the
same: the fields read from the source keep their traits.
-/

namespace EntityDto

open Text

/-- The balance of the first line is all that counts for where a block closes. -/
theorem closingIndex?_cons_congr {line other : Text} (same : parenBalance line = parenBalance other)
    (depth : Int) (below : List Text) :
    closingIndex? depth (line :: below) = closingIndex? depth (other :: below) := by
  rw [closingIndex?, closingIndex?, same]

/-- Lines that may be exchanged, for they open, balance and say the same. -/
structure Exchangeable (line other : Text) : Prop where
  balance : parenBalance line = parenBalance other
  opens : Token.opensColumnBlock (trim line) = Token.opensColumnBlock (trim other)
  signed : (trim line).startsWith ['@'] = (trim other).startsWith ['@']
  decorator : (trim line).startsWith ['@'] = true → SameDecorator (trim line) (trim other)
  block : ∀ above below : List Text,
    (joinLines (above ++ line :: below)).contains "@Column(".toList
        = (joinLines (above ++ other :: below)).contains "@Column(".toList →
      SameBlock (joinLines (above ++ line :: below)) (joinLines (above ++ other :: below))

/-- A line may be replaced by one that it may be exchanged for. -/
theorem Exchangeable.replaceable {line other : Text} (same : Exchangeable line other) :
    Replaceable [line] [other] where
  length := rfl
  closes depth _ below := closingIndex?_cons_congr same.balance depth below
  reaches _ _ _ index _ := Nat.le_add_left 1 index
  block := same.block

/-- A line by itself that declares nothing is a decorator if it has the sign of one. -/
theorem singleKind_of_silent {line : Text} {number : Nat}
    (silent : Token.declares ⟨Token.singleKind (trim line), number, trim line⟩ = false) :
    Token.singleKind (trim line) = if (trim line).startsWith ['@'] then .decorator else .other := by
  -- A single line is a decorator, a property or skipped, and this one is no property.
  rcases singleKind_cases line with ⟨signed, kind⟩ | ⟨declaration, -, kind⟩ | ⟨skipped, kind⟩
  · rw [kind, if_pos signed]
  · simp [Token.declares, Token.declaration?, kind] at silent
  · simp [kind, skipped.plain]

/-- No property is read from the line with that number. -/
def NoPropertyAt (tokens : List Token) (number : Nat) : Prop :=
  ∀ token ∈ tokens, token.lineNumber = number → token.declares = false

instance (tokens : List Token) (number : Nat) : Decidable (NoPropertyAt tokens number) :=
  inferInstanceAs
    (Decidable (∀ token ∈ tokens, token.lineNumber = number → token.declares = false))

/-- What no token is, none of some of them is. -/
theorem NoPropertyAt.of_subset {tokens others : List Token} {number : Nat}
    (silent : NoPropertyAt tokens number) (among : others ⊆ tokens) : NoPropertyAt others number :=
  fun token member => silent token (among member)

/-- No property is read from a line that belongs to a column block. -/
theorem noPropertyAt_of_covers {source : Text} {token : Token} (member : token ∈ Entity.tokens source)
    (isBlock : token.block?.isSome = true) {number : Nat} (covers : token.Covers number) :
    NoPropertyAt (Entity.tokens source) number := by
  intro other otherMember atNumber
  have takes := other.height_pos
  -- A token at the line is the block itself.
  obtain rfl : token = other :=
    (Entity.tile_tokens source).eq_of_covers member otherMember covers
      ⟨Nat.le_of_eq atNumber, by omega⟩
  unfold Token.block? at isBlock
  unfold Token.declares Token.declaration?
  cases kind : token.kind <;> simp [kind] at isBlock ⊢

/-- An exchangeable line at the front leaves the tokens in step, unless a property is read from it. -/
theorem inStep_exchange_front {line other : Text} (same : Exchangeable line other) {number : Nat}
    {below : List Text} (silent : NoPropertyAt (Token.ofLinesFrom number (line :: below)) number)
    (otherSilent : NoPropertyAt (Token.ofLinesFrom number (other :: below)) number) :
    InStep SameDecorator SameBlock (Token.ofLinesFrom number (line :: below))
      (Token.ofLinesFrom number (other :: below)) := by
  cases opens : Token.opensColumnBlock (trim line) with
  | true =>
    have opensToo : Token.opensColumnBlock (trim other) = true := same.opens ▸ opens
    have closesAlike := closingIndex?_cons_congr same.balance 0 below
    have decorator := same.decorator (startsWith_of_opensColumnBlock opens)
    -- Both blocks begin with the sign of a column decorator, so their texts say the same.
    have block (lines : List Text) :
        SameBlock (joinLines (line :: lines)) (joinLines (other :: lines)) := by
      refine same.block [] lines ?_
      exact (contains_column_of_opens opens lines).trans
        (contains_column_of_opens opensToo lines).symm
    cases closes : closingIndex? 0 (line :: below) with
    | some index =>
      rw [Token.ofLinesFrom_closed opens closes,
        Token.ofLinesFrom_closed opensToo (closesAlike ▸ closes)]
      exact .columnBlock decorator (block _) (inStep_refl .refl _ _)
    | none =>
      rw [Token.ofLinesFrom_unclosed opens closes,
        Token.ofLinesFrom_unclosed opensToo (closesAlike ▸ closes)]
      exact .columnBlock decorator (block _) (inStep_refl .refl _ _)
  | false =>
    have single : Token.opensColumnBlock (trim other) = false := same.opens ▸ opens
    rw [Token.ofLinesFrom_single opens] at silent ⊢
    rw [Token.ofLinesFrom_single single] at otherSilent ⊢
    rw [singleKind_of_silent (silent _ List.mem_cons_self rfl),
      singleKind_of_silent (otherSilent _ List.mem_cons_self rfl), ← same.signed]
    -- Without a declaration the line either decorates on both sides or is skipped on both.
    cases signed : (trim line).startsWith ['@'] with
    | true => exact .decorator (same.decorator signed) (inStep_refl .refl _ _)
    | false => exact .skip (.skipOther (inStep_refl .refl _ _))

/-- Exchanging a line leaves the tokens in step, unless a property is read from the line itself. -/
theorem inStep_exchange {line other : Text} (same : Exchangeable line other) {number : Nat}
    {above below : List Text}
    (silent : NoPropertyAt (Token.ofLinesFrom number (above ++ line :: below)) (number + above.length))
    (otherSilent :
      NoPropertyAt (Token.ofLinesFrom number (above ++ other :: below)) (number + above.length)) :
    InStep SameDecorator SameBlock (Token.ofLinesFrom number (above ++ line :: below))
      (Token.ofLinesFrom number (above ++ other :: below)) := by
  refine inStep_replace .refl same.replaceable fun inside otherInside => ?_
  -- The tokens from the line on are among those of the whole source.
  exact inStep_exchange_front same (silent.of_subset inside.subset)
    (otherSilent.of_subset otherInside.subset)

end EntityDto

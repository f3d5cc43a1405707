import LSystem.Proofs.Grammar.Resumption
import LSystem.Proofs.Symbol.Interning

/-!
# Rounds that compose

If no symbol has two rules, an expansion of `m + n` rounds is one of `m` rounds and another one of
`n` rounds on what the first has given, whatever the seeds. For words that come to their end this is
known from expansions that are resumed (`Expansion.expand_add_of_single`). What is left to see here
is what becomes of an expansion that fails within the first `m` rounds.

It fails again with more rounds, at the same symbol of the same level (`Expansion.FailsAt`), because
levels do not depend on how many of them are asked for. But the generation that it reports is the
lesser one of the round that would have had to replace the symbol and the number of rounds, and this
number has grown. So it matters on which side of the cut the symbol was found. If it stopped one of
the `m` rounds, that round is still the one that is stopped, and the error stays what it was. If the
`m` rounds came to their end and the symbol turned up in what they left, it counted to the last of
them; now there is a round behind it, which is the one that meets the symbol, so that the error is
one generation later (`expand_add`).
-/

namespace LSystem

open Chance Expansion

namespace Expansion

variable {g : Grammar} {w : Word} {s : Symbol} {rng : Generator}

/-- **Where an expansion fails:** nothing is unbound before level `k`, and on level `k` the first
unbound symbol is `s`. -/
structure FailsAt (g : Grammar) (w : Word) (rng : Generator) (k : Nat) (s : Symbol) : Prop where
  before : ∀ j < k, unbound? g (level g (w, rng) j).1 = none
  symbol : unbound? g (level g (w, rng) k).1 = some s

/-- An expansion that fails does so at some level, and reports an unbound symbol. -/
theorem exists_failsAt {seed : UInt64} {generations : UInt32} {e : Error}
    (h : g.expand seed generations w = .error e) :
    ∃ k ≤ generations.toNat, ∃ s, FailsAt g w (.ofSeed seed) k s ∧
      e = unboundError g (min (k + 1) generations.toNat) s := by
  rcases bound_or_exists_unbound g (w, .ofSeed seed) generations.toNat with
    hbound | ⟨k, hk, s, hbefore, hs⟩
  · rw [expand_of_bound hbound] at h
    cases h
  · rw [expand_of_unbound hk hbefore hs] at h
    cases h
    exact ⟨k, hk, s, ⟨hbefore, hs⟩, rfl⟩

/-- **The rounds themselves fail** if they come to the level, and not if they only lead to it. -/
theorem FailsAt.lt_iff {k m : Nat} (h : FailsAt g w rng k s) (hk : k ≤ m) :
    k < m ↔ ∃ e, (rounds g m 0 w).run rng = .error e := by
  constructor
  · intro hlt
    exact ⟨_, run_rounds_of_unbound 0 hlt h.before h.symbol⟩
  · rintro ⟨e, he⟩
    -- If `k` were `m`, there would be nothing unbound on the levels that are replaced.
    refine Nat.lt_of_le_of_ne hk ?_
    rintro rfl
    rw [run_rounds_of_bound 0 h.before] at he
    cases he

/-- **With more rounds an expansion fails at the same place.** The seed does not matter if there is
no choice. -/
theorem FailsAt.expand_of_single (hsingle : ∀ s, (g.productions s).length < 2) {seed : UInt64}
    {k : Nat} (h : FailsAt g w (.ofSeed seed) k s) {generations : UInt32}
    (hk : k ≤ generations.toNat) (seed' : UInt64) :
    g.expand seed' generations w =
      .error (unboundError g (min (k + 1) generations.toNat) s) := by
  rw [expand_eq_of_single hsingle seed' seed]
  exact expand_of_unbound hk h.before h.symbol

end Expansion

/-- **Rounds compose** if no symbol has two rules. After `m` rounds that give a word, the rounds
that follow are those of an expansion of that word, the generations of whose errors are counted from
the first round on. If the `m` rounds fail, so do `m + n`, with the same symbol and in the same
generation, and if it is only found in what the `m` rounds leave and there is another round, in the
generation that follows. -/
theorem Grammar.expand_add {g : Grammar} (hsingle : ∀ s, (g.productions s).length ≤ 1) (w : Word)
    {m n : UInt32} (hsum : m.toNat + n.toNat < UInt32.size) (seed seed' seed'' : UInt64) :
    (∀ c, g.expand seed m w = .ok c →
      g.expand seed' (m + n) w = (g.expand seed'' n c).mapError (.later m.toNat)) ∧
    ∀ e, g.expand seed m w = .error e → ∃ symbol generation, e = .unbound symbol generation ∧
      ((∃ e', (rounds g m.toNat 0 w).run (.ofSeed seed) = .error e') ∨ n = 0 →
        g.expand seed' (m + n) w = .error (.unbound symbol generation)) ∧
      ∀ left, (rounds g m.toNat 0 w).run (.ofSeed seed) = .ok left → n ≠ 0 →
        g.expand seed' (m + n) w = .error (.unbound symbol (generation + 1)) := by
  have hsingle' : ∀ s, (g.productions s).length < 2 := fun s => Nat.lt_succ_of_le (hsingle s)
  have htotal : (m + n).toNat = m.toNat + n.toNat := by
    rw [UInt32.toNat_add, Nat.mod_eq_of_lt hsum]
  constructor
  · intro c hc
    calc g.expand seed' (m + n) w
        = g.expand seed (m + n) w := expand_eq_of_single hsingle' seed' seed _ _
      _ = (g.expand seed'' n c).mapError (.later m.toNat) := expand_add_of_single hsingle' hsum hc
  · intro e he
    obtain ⟨k, hk, s, hfails, rfl⟩ := exists_failsAt he
    -- The longer expansion fails at the same level, which it counts against its own end.
    have hk' : k ≤ (m + n).toNat := by omega
    have hlonger := hfails.expand_of_single hsingle' hk' seed'
    rw [htotal] at hlonger
    refine ⟨_, _, rfl, ?_, ?_⟩
    · intro hfirst
      have hcount : min (k + 1) (m.toNat + n.toNat) = min (k + 1) m.toNat := by
        rcases hfirst with hrounds | rfl
        · have hlt := (hfails.lt_iff hk).2 hrounds
          omega
        · have hzero : (0 : UInt32).toNat = 0 := rfl
          omega
      rw [hlonger, hcount]
      rfl
    · intro left hleft hn
      -- The rounds have come to their end, so what fails is the check of what they leave.
      have hlast : ¬ k < m.toNat := by
        intro hlt
        obtain ⟨e', he'⟩ := (hfails.lt_iff hk).1 hlt
        rw [hleft] at he'
        cases he'
      have hpos : 0 < n.toNat := Nat.pos_of_ne_zero fun hzero => hn (UInt32.toNat_inj.1 hzero)
      have hcount : min (k + 1) (m.toNat + n.toNat) = min (k + 1) m.toNat + 1 := by omega
      rw [hlonger, hcount]
      rfl

/-- A runner that leaves buds behind, out of which comes something that nothing is known of. -/
def Grammar.runner (symbols : SymbolTable) : Grammar where
  symbols
  start := [0]
  rules := group [(0, ⟨[1, 0, 3], 1⟩), (3, ⟨[2, 1], 5⟩)]
  meanings := (∅ : Meanings).insert 1 .forward

private theorem Grammar.length_productions_runner_le (t : SymbolTable) (s : Symbol) :
    ((runner t).productions s).length ≤ 1 := by
  rw [productions_of_group rfl s, productionsAmong, List.filter_cons, List.filter_singleton]
  grind

/-- The runner can grow for one round. Its first bud opens in the second round, which is the last
one or is followed by a third. If it grows for three rounds, it is the third that meets the open
bud, and it stays the third if there are more. -/
theorem Grammar.expand_add_runner :
    ∃ t : SymbolTable, t.toList = ["runner", "F", "flower", "bud"] ∧
      (∀ s, ((runner t).productions s).length ≤ 1) ∧
      (runner t).expand 7 1 [0] = .ok [1, 0, 3] ∧
      (runner t).expand 8 3 [0] = ((runner t).expand 9 2 [1, 0, 3]).mapError (.later 1) ∧
      (runner t).expand 7 2 [0] = .error (.unbound "flower" 2) ∧
      (runner t).expand 8 3 [0] = .error (.unbound "flower" 3) ∧
      (runner t).expand 8 7 [0] = .error (.unbound "flower" 3) := by
  -- Any table of these tokens will do, and there is one since they are admitted.
  have hadmits : SymbolTable.empty.Admits ["runner", "F", "flower", "bud"] := by decide
  obtain ⟨_, t, hintern⟩ := SymbolTable.exists_internTokens hadmits
  have htokens : t.toList = ["runner", "F", "flower", "bud"] :=
    (SymbolTable.numbered_of_internTokens hintern).toList_eq
  have hflower : t.name? 2 = some "flower" := by
    rw [SymbolTable.name?_eq_getElem?]
    exact congrArg (·[2]?) htokens
  have hsingle := length_productions_runner_le t
  have hfirst : (runner t).expand 7 1 [0] = .ok [1, 0, 3] :=
    expand_eq_ok_of_all (by cbv) (by cbv)
  -- Two rounds go through, and the third one meets the flower.
  have hfails : FailsAt (runner t) [0] (.ofSeed 7) 2 2 := by
    refine ⟨fun j hj => ?_, by cbv⟩
    obtain rfl | rfl : j = 0 ∨ j = 1 := by omega
    · cbv
    · cbv
  have herror (generation : Nat) :
      unboundError (runner t) generation 2 = .unbound "flower" generation := by
    show Error.unbound ((t.name? 2).getD "") generation = _
    rw [hflower, Option.getD_some]
  have hsecond : (runner t).expand 7 2 [0] = .error (.unbound "flower" 2) := by
    have htwo : 2 ≤ (2 : UInt32).toNat := by decide
    rw [expand_of_unbound htwo hfails.before hfails.symbol]
    exact congrArg _ (herror 2)
  have hthird : (runner t).expand 7 3 [0] = .error (.unbound "flower" 3) := by
    have htwo : 2 ≤ (3 : UInt32).toNat := by decide
    rw [expand_of_unbound htwo hfails.before hfails.symbol]
    exact congrArg _ (herror 3)
  have hleft := run_rounds_of_bound 0 hfails.before
  have hstopped := (hfails.lt_iff (m := 3) (by decide)).1 (by decide)
  obtain ⟨hgoes, -⟩ := expand_add hsingle [0] (m := 1) (n := 2) (by decide) 7 8 9
  obtain ⟨-, hcut⟩ := expand_add hsingle [0] (m := 2) (n := 1) (by decide) 7 8 9
  obtain ⟨-, hlater⟩ := expand_add hsingle [0] (m := 3) (n := 4) (by decide) 7 8 9
  obtain ⟨_, _, hsame, -, hnext⟩ := hcut _ hsecond
  obtain ⟨_, _, hsame', hkept, -⟩ := hlater _ hthird
  cases hsame
  cases hsame'
  exact ⟨t, htokens, hsingle, hfirst, hgoes _ hfirst, hsecond,
    hnext _ hleft (by decide), hkept (.inl hstopped)⟩

end LSystem

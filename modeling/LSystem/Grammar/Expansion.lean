import LSystem.Grammar.Basic
import LSystem.Grammar.Word

/-!
# Expansion

A word is expanded in rounds. In one round every symbol with rules gives way to one of its
replacements, and every other symbol stays; all of this happens from left to right, and
every choice draws from the same generator, so that a seed fixes the whole expansion. A
symbol that is unbound ends the expansion where it is met: in the round that would have
to replace it, or in the check that follows the last round.
-/

namespace LSystem

open Chance

namespace Expansion

/-- Steps of an expansion: they draw random numbers and may fail. -/
abbrev Draw := StateT Generator (Except Error)

/-- The error of an unbound symbol. -/
def unboundError (g : Grammar) (generation : Nat) (s : Symbol) : Error :=
  .unbound ((g.symbols.name? s).getD "") generation

/-- What takes the place of a symbol in a round. -/
def replace (g : Grammar) (generation : Nat) (s : Symbol) : Draw Word :=
  match g.ruleSet? s with
  | some r => do
    let p ← modifyGet r.choose
    return p.replacement
  | none =>
    if g.isBound s then return [s] else throw (unboundError g generation s)

/-- **One round.** -/
def round (g : Grammar) (generation : Nat) (w : Word) : Draw Word := do
  let parts ← w.mapM (replace g generation)
  return parts.flatten

/-- The rounds that follow the first `generation` ones, `n` of them. -/
def rounds (g : Grammar) : (n generation : Nat) → Word → Draw Word
  | 0, _, w => return w
  | n + 1, generation, w => do rounds g n (generation + 1) (← round g (generation + 1) w)

/-- Looks for unbound symbols in the word that is left after the last round. -/
def check (g : Grammar) (generation : Nat) (w : Word) : Except Error Unit :=
  match w.find? fun s => !g.isBound s with
  | some s => .error (unboundError g generation s)
  | none => .ok ()

end Expansion

/-- **Expands a word** for a number of rounds, with the choices that a seed fixes. -/
def Grammar.expand (g : Grammar) (seed : UInt64) (generations : UInt32) (w : Word) :
    Except Error Word := do
  let n := generations.toNat
  let (w, _) ← (Expansion.rounds g n 0 w).run (.ofSeed seed)
  Expansion.check g n w
  return w

namespace Expansion

/-- The lengths of the words after each round that comes to its end, behind those in `done`,
the last of which comes first. -/
def lengthsOnto (g : Grammar) (done : List Nat) :
    (n generation : Nat) → Generator → Word → List Nat
  | 0, _, _, _ => done.reverse
  | n + 1, generation, rng, w =>
    match (round g (generation + 1) w).run rng with
    | .ok (w, rng) => lengthsOnto g (w.length :: done) n (generation + 1) rng w
    | .error _ => done.reverse

end Expansion

/-- **The lengths of the words of an expansion** after each round that comes to its end. -/
def Grammar.roundLengths (g : Grammar) (seed : UInt64) (generations : UInt32) (w : Word) :
    List Nat :=
  Expansion.lengthsOnto g [] generations.toNat 0 (.ofSeed seed) w

end LSystem

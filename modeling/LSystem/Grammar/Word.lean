import LSystem.Symbol.Table

/-!
# Words as text

A word is written down token by token. Tokens of one character stand next to each other;
a longer token is set off by blanks on both sides, so that it can be told from its
neighbours.
-/

namespace LSystem

/-- A word: symbols in their order. -/
abbrev Word := List Symbol

namespace Word

/-- The token of a symbol, and a question mark for a number without a token. -/
def tokenOf (t : SymbolTable) (s : Symbol) : String := (t.name? s).getD "?"

/-- Whether a token has to be set off. -/
def isWide (token : String) : Bool := 1 < token.length

/-- Writes tokens behind a text, the last token of which was wide or not. -/
def writeOnto (text : String) (wide : Bool) : List String → String
  | [] => text
  | token :: tokens =>
    let apart := !text.isEmpty && (isWide token || wide)
    writeOnto ((if apart then text.push ' ' else text) ++ token) (isWide token) tokens

/-- **A word as text.** -/
def render (t : SymbolTable) (w : Word) : String := writeOnto "" false (w.map (tokenOf t))

end Word

end LSystem

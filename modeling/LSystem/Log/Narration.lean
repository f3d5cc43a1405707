import LSystem.Log.Event
import LSystem.Ribbon

/-!
# What a ribbon tells about its evaluation

The events of loading, expanding and evaluating a ribbon, in the order in which they
happen. An evaluation that fails tells what happened up to the failure.
-/

namespace LSystem

open Log

/-- What is told of a grammar that has been loaded. -/
def Grammar.loadEvents (d : Description) (g : Grammar) : List Event :=
  [{ level := .debug, target := "lsystem_ribbon::grammar", message := "grammar loaded",
     fields :=
      [("symbols", g.symbols.size), ("rules", d.rules.length), ("axiom", g.start.length)] }]

namespace Ribbon

/-- What is told of the rounds of an expansion, the first of which is number `generation`. -/
def roundEvents (generation : Nat) : List Nat → List Event
  | [] => []
  | n :: ns =>
    { level := .debug, target := "lsystem_ribbon::expander", message := "expanded generation",
      fields := [("generation", generation), ("tokens", n)] } :: roundEvents (generation + 1) ns

/-- What is told of an expansion with the given result. -/
def expansionEvents (r : Ribbon) (result : Except Error Word) : List Event :=
  roundEvents 1 (r.grammar.roundLengths r.seed r.generations r.grammar.start) ++
    match result with
    | .ok w =>
      [{ level := .info, target := "lsystem_ribbon::ribbon", message := "expanded grammar",
         fields :=
          [("generations", r.generations.toNat), ("seed", r.seed.toNat), ("tokens", w.length)] }]
    | .error _ => []

/-- What is told of the trace of a word. -/
def traceEvents (w : Word) (t : Curve.Trace) : List Event :=
  [{ level := .debug, target := "lsystem_ribbon::interpreter",
     message := "interpreted command string",
     fields := [("commands", w.length), ("points", t.pointCount)] },
    { level := .info, target := "lsystem_ribbon::ribbon", message := "traced turtle",
      fields := [("points", t.pointCount)] }]

/-- What is told of the curves of a trace. -/
def assemblyEvents (t : Curve.Trace) (b : Curve.Buffer) : List Event :=
  (if Curve.discarded t = 0 then [] else
    [{ level := .debug, target := "lsystem_ribbon::curve",
       message := "dropped single-point strands", fields := [("discarded", Curve.discarded t)] }])
    ++ [{ level := .info, target := "lsystem_ribbon::curve", message := "assembled curves",
          fields := [("curves", b.curveCount), ("vertices", b.vertexCount)] }]

/-- What is told of an evaluation. -/
def evaluationEvents (r : Ribbon) : List Event :=
  match r.curve.validate with
  | .error _ => []
  | .ok _ =>
    let word := r.expand
    r.expansionEvents word ++
      match word with
      | .error _ => []
      | .ok w =>
        match Turtle.trace r.turtle r.repertoire w with
        | .error _ => []
        | .ok t =>
          traceEvents w t ++
            match Curve.assemble r.curve t with
            | .error _ => []
            | .ok b => assemblyEvents t b

end Ribbon

end LSystem

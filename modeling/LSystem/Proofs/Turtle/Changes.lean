import LSystem.Proofs.Description.Tokens
import LSystem.Proofs.Symbol.Interning
import LSystem.Proofs.Turtle.Repertoire
import Mathlib.Data.List.DropRight
import Mathlib.Data.List.Nodup

/-!
# Repertoires that change

A repertoire is a table that grows when a symbol beyond its end is assigned something. Meanwhile
the places in between are filled up, and it may be replaced by another table of any length. What a
turtle knows of all that is one operation for each symbol. This should be the one that the symbol
was assigned last, and where there is none since the table was replaced, the one that the new table
holds; `operationAfter` says so without any table that grows.

A change may assign operations to many symbols at once. The meanings of a grammar are then given out
in an order that is not known, so `Change.Leads` allows all of them, and a repertoire is one of
those to which a history may lead (`After`). But no symbol is given out twice. So each change
assigns at most one operation to a symbol, in whatever order it goes through its symbols
(`Change.assigned?`), and what it leaves is the same in all orders (`operation_of_leads`). By
induction on the history all repertoires to which it may lead agree with `operationAfter`, and so do
the walks that a turtle takes with them (`trace_of_changes`).
-/

namespace LSystem.Turtle.Repertoire

/-! ### Changes -/

/-- **What can be done to a repertoire.** -/
inductive Change where
  /-- Assigns an operation to a symbol. -/
  | set (s : Symbol) (op : Operation)
  /-- Replaces the whole table. -/
  | replace (operations : Array Operation)
  /-- Assigns their operations to the conventional symbols that have numbers. -/
  | standard (t : SymbolTable)
  /-- Assigns the meanings of a grammar, in some order. -/
  | meanings (g : Grammar)

namespace Change

/-- A repertoire that a change may leave. -/
inductive Leads : Change → Repertoire → Repertoire → Prop
  | set (s : Symbol) (op : Operation) (r : Repertoire) : Leads (.set s op) r (r.set s op)
  | replace (operations : Array Operation) (r : Repertoire) :
      Leads (.replace operations) r ⟨operations⟩
  | standard (t : SymbolTable) (r : Repertoire) : Leads (.standard t) r (r.setStandard t)
  | meanings {g : Grammar} {pairs : List (Symbol × Operation)}
      (hperm : pairs.Perm g.meanings.toList) (r : Repertoire) :
      Leads (.meanings g) r (r.setAll pairs)

/-- The table that a change puts in place of the old one. -/
def table? : Change → Option (Array Operation)
  | replace operations => some operations
  | _ => none

/-- **The operation that a change assigns to a symbol.** -/
def assigned? (s : Symbol) : Change → Option Operation
  | set s' op => if s = s' then some op else none
  | replace _ => none
  | standard t => (t.name? s).bind fun name => Operation.standard.lookup name
  | meanings g => g.meaning? s

end Change

/-- The table that was put in place last. -/
def tableAfter (changes : List Change) : Array Operation :=
  (changes.filterMap Change.table?).getLast?.getD #[]

/-- The changes since the table was put in place. -/
def changesSince (changes : List Change) : List Change :=
  changes.rtakeWhile fun c => c.table?.isNone

/-- **The operation of a symbol after some changes:** what it was assigned last since the table was
put in place, otherwise what stands for it in that table, and nothing if the table does not reach
so far. -/
def operationAfter (changes : List Change) (s : Symbol) : Operation :=
  (((changesSince changes).filterMap (Change.assigned? s)).getLast?.or
    (tableAfter changes)[s.toNat]?).getD .ignore

/-- **A repertoire after some changes,** the first of which was made to a new one. -/
inductive After : List Change → Repertoire → Prop
  | new : After [] .empty
  | concat {changes : List Change} {c : Change} {r r' : Repertoire} (h : After changes r)
      (hc : c.Leads r r') : After (changes ++ [c]) r'

/-- Every history leads somewhere. -/
theorem exists_after (changes : List Change) : ∃ r, After changes r := by
  induction changes using List.reverseRecOn with
  | nil => exact ⟨_, .new⟩
  | append_singleton changes c ih =>
    obtain ⟨r, hr⟩ := ih
    cases c with
    | set s op => exact ⟨_, hr.concat (.set s op r)⟩
    | replace operations => exact ⟨_, hr.concat (.replace operations r)⟩
    | standard t => exact ⟨_, hr.concat (.standard t r)⟩
    | meanings g => exact ⟨_, hr.concat (.meanings (List.Perm.refl g.meanings.toList) r)⟩

/-! ### One change -/

section

variable {r r' : Repertoire} {c : Change}

/-- The numbers of the conventional symbols, with their operations. -/
def numbered (t : SymbolTable) : List (Symbol × Operation) :=
  Operation.standard.filterMap fun p => (t.symbol? p.1).map (·, p.2)

/-- Different tokens have different numbers. -/
theorem nodup_keys_numbered (t : SymbolTable) : ((numbered t).map Prod.fst).Nodup := by
  have hkeys : (numbered t).map Prod.fst =
      (Operation.standard.map Prod.fst).filterMap t.symbol? := by
    rw [numbered, List.map_filterMap, List.filterMap_map]
    congr 1
    funext p
    cases h : t.symbol? p.1 <;> simp [h]
  rw [hkeys]
  -- Two tokens with one number are one token.
  refine Description.nodup_keys_standard.filterMap fun name name' s hs hs' => ?_
  have hname := SymbolTable.symbol?_eq_some_iff.1 hs
  rw [SymbolTable.symbol?_eq_some_iff.1 hs'] at hname
  exact (Option.some.inj hname).symm

private theorem lookup_numbered (t : SymbolTable) (s : Symbol) :
    (numbered t).lookup s = (t.name? s).bind fun name => Operation.standard.lookup name := by
  ext op
  rw [lookup_eq_some_iff_mem (nodup_keys_numbered t), numbered, List.mem_filterMap,
    Option.bind_eq_some_iff]
  -- Each number stands in the list once, so looking it up is being in the list.
  constructor
  · rintro ⟨⟨name, op'⟩, hmem, hp⟩
    obtain ⟨s', hs', heq⟩ := Option.map_eq_some_iff.1 hp
    cases heq
    exact ⟨name, SymbolTable.symbol?_eq_some_iff.1 hs',
      (lookup_eq_some_iff_mem Description.nodup_keys_standard).2 hmem⟩
  · rintro ⟨name, hname, hop⟩
    refine ⟨(name, op), mem_of_lookup_eq_some hop, ?_⟩
    rw [SymbolTable.symbol?_eq_some_iff.2 hname]
    rfl

/-- A conventional symbol that has a number is assigned its operation, and nothing else is. -/
theorem operation_setStandard (r : Repertoire) (t : SymbolTable) (s : Symbol) :
    (r.setStandard t).operation s =
      ((t.name? s).bind fun name => Operation.standard.lookup name).getD (r.operation s) := by
  change (r.setAll (numbered t)).operation s = _
  rw [operation_setAll_of_nodup r (nodup_keys_numbered t), lookup_numbered]

/-- **A change that does not replace the table** leaves each symbol the operation that it assigns
to it, and otherwise the one that the symbol had. -/
theorem operation_of_leads (h : c.Leads r r') (htable : c.table? = none) (s : Symbol) :
    r'.operation s = (c.assigned? s).getD (r.operation s) := by
  cases h with
  | set s' op =>
    rw [operation_set, Change.assigned?]
    by_cases hs : s = s'
    · rw [if_pos hs, if_pos hs, Option.getD_some]
    · rw [if_neg hs, if_neg hs, Option.getD_none]
  | replace operations => cases htable
  | standard t => exact operation_setStandard r t s
  | meanings hperm => exact operation_setAll_of_perm r hperm s

end

/-! ### Histories -/

private theorem operationAfter_concat_of_table {changes : List Change} {c : Change}
    {operations : Array Operation} (h : c.table? = some operations) (s : Symbol) :
    operationAfter (changes ++ [c]) s = (operations[s.toNat]?).getD .ignore := by
  have hsince : changesSince (changes ++ [c]) = [] := by
    rw [changesSince, List.rtakeWhile_concat_neg]
    simp [h]
  have htable : tableAfter (changes ++ [c]) = operations := by
    rw [tableAfter, List.filterMap_append, List.filterMap_cons_some h, List.filterMap_nil,
      List.getLast?_concat, Option.getD_some]
  rw [operationAfter, hsince, htable]
  rfl

theorem operationAfter_concat {changes : List Change} {c : Change} (h : c.table? = none)
    (s : Symbol) :
    operationAfter (changes ++ [c]) s = (c.assigned? s).getD (operationAfter changes s) := by
  -- The change belongs to those since the last table, and comes last among them.
  have hsince : changesSince (changes ++ [c]) = changesSince changes ++ [c] := by
    rw [changesSince, List.rtakeWhile_concat_pos]
    · rfl
    · simp [h]
  have htable : tableAfter (changes ++ [c]) = tableAfter changes := by
    rw [tableAfter, List.filterMap_append, List.filterMap_cons_none h, List.filterMap_nil,
      List.append_nil, tableAfter]
  rw [operationAfter, hsince, htable, List.filterMap_append]
  cases hs : c.assigned? s with
  | some op =>
    rw [List.filterMap_cons_some hs, List.filterMap_nil, List.getLast?_concat]
    rfl
  | none =>
    rw [List.filterMap_cons_none hs, List.filterMap_nil, List.append_nil]
    rfl

/-- **What was assigned last counts,** wherever a history has led. -/
theorem After.operation_eq {changes : List Change} {r : Repertoire} (h : After changes r)
    (s : Symbol) : r.operation s = operationAfter changes s := by
  -- The induction is on the history: a change assigns some operations, or begins anew with a table.
  induction h with
  | new => rfl
  | @concat changes c r r' _ hc ih =>
    cases htable : c.table? with
    | none => rw [operationAfter_concat htable, operation_of_leads hc htable, ih]
    | some operations =>
      rw [operationAfter_concat_of_table htable]
      cases hc with
      | replace operations' =>
        cases htable
        rfl
      | set | standard | meanings => cases htable

/-- **A turtle does what its symbols were assigned last.** A history may lead to several
repertoires, and to one at least. All of them give each symbol the operation that it was assigned
last since the table was put in place, or else the one in that table, or else none; and these are
the operations that a turtle carries out along any word. With the meanings of a grammar, in any
order, these are the meanings of the symbols, and symbols without a meaning are ignored. -/
theorem trace_of_changes :
    (∀ changes, ∃ r, After changes r) ∧
    (∀ changes r, After changes r →
      (∀ s, r.operation s = operationAfter changes s) ∧
      ∀ settings w, trace settings r w = walk settings (w.map (operationAfter changes))) ∧
    ∀ g r, After [.meanings g] r → ∀ settings w,
      trace settings r w = walk settings (w.map fun s => (g.meaning? s).getD .ignore) := by
  have htrace : ∀ changes r, After changes r → ∀ settings w,
      trace settings r w = walk settings (w.map (operationAfter changes)) := by
    intro changes r h settings w
    rw [trace, List.map_congr_left fun s _ => h.operation_eq s]
  refine ⟨exists_after, fun changes r h => ⟨h.operation_eq, htrace changes r h⟩,
    fun g r h settings w => ?_⟩
  -- After one change the history is that change, and no table has been set.
  have hmeanings : operationAfter [.meanings g] = fun s => (g.meaning? s).getD .ignore := by
    funext s
    have hchange : (Change.meanings g).table? = none := rfl
    rw [← List.nil_append [Change.meanings g], operationAfter_concat hchange]
    rfl
  rw [htrace _ r h, hmeanings]

/-- Two symbols that mean something, and nothing else. -/
def twigs : Grammar where
  symbols := .empty
  start := [2]
  rules := ∅
  meanings := ((∅ : Std.HashMap Symbol Operation).insert 2 .forward).insert 0 .move

private theorem meaning?_twigs (s : Symbol) :
    twigs.meaning? s = if s = 0 then some .move else if s = 2 then some .forward else none := by
  change (((∅ : Std.HashMap Symbol Operation).insert 2 .forward).insert 0 .move)[s]? = _
  simp only [Std.HashMap.getElem?_insert, Std.HashMap.getElem?_empty, beq_iff_eq,
    @eq_comm _ s]

/-- A table takes the place of what was assigned before. Later the twigs take the place of two of
its entries, one entry is assigned anew, and one stays; a symbol behind the table is assigned too,
and the one between them is not. -/
theorem operation_of_twigs :
    ∃ r, After [.set 300 .forward, .replace #[.turnAround, .branchStart, .turnAround, .scaleStep],
        .set 1 .branchEnd, .set 2 .move, .meanings twigs, .set 5 .branchEnd] r ∧
      [0, 1, 2, 3, 4, 5, 300].map r.operation =
        [.move, .branchEnd, .forward, .scaleStep, .ignore, .branchEnd, .ignore] := by
  obtain ⟨hexists, hafter, -⟩ := trace_of_changes
  obtain ⟨r, hr⟩ := hexists [.set 300 .forward,
    .replace #[.turnAround, .branchStart, .turnAround, .scaleStep], .set 1 .branchEnd,
    .set 2 .move, .meanings twigs, .set 5 .branchEnd]
  refine ⟨r, hr, ?_⟩
  rw [List.map_congr_left fun s _ => (hafter _ _ hr).1 s]
  -- What came before the table is forgotten, and what came after it is kept.
  have hsince : changesSince [.set 300 .forward,
      .replace #[.turnAround, .branchStart, .turnAround, .scaleStep], .set 1 .branchEnd,
      .set 2 .move, .meanings twigs, .set 5 .branchEnd] =
    [.set 1 .branchEnd, .set 2 .move, .meanings twigs, .set 5 .branchEnd] := rfl
  have htable : tableAfter [.set 300 .forward,
      .replace #[.turnAround, .branchStart, .turnAround, .scaleStep], .set 1 .branchEnd,
      .set 2 .move, .meanings twigs, .set 5 .branchEnd] =
    #[.turnAround, .branchStart, .turnAround, .scaleStep] := rfl
  simp [operationAfter, hsince, htable, Change.assigned?, meaning?_twigs]

end LSystem.Turtle.Repertoire

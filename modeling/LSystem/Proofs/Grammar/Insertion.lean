import LSystem.Proofs.Grammar.Derivation
import LSystem.Proofs.Grammar.Grouping
import LSystem.Proofs.Pairs

/-!
# Insertion

All choices of an expansion are drawn from one generator, so whatever draws a number changes what
is chosen behind it, and in all later rounds. A symbol with a single rule does not draw. A word is
*predetermined* for some rounds if no symbol with a choice turns up in it before they are over
(`Grammar.IsPredetermined`). Such a word can be put anywhere into another one, and nothing else in
the expansion is changed by it.

To see this, the two expansions are run side by side, and the predetermined word is expanded a third
time on its own. After every round there are the same words on both sides of what has become of the
inserted one, and the generators agree (`Lockstep`). A round keeps them in lockstep
(`Lockstep.exists_succ`): what is in the middle leaves the generator alone, so that everything
behind it is replaced with the same numbers as if it were not there.

The expansion with the inserted word comes to an unbound symbol exactly if one of the other two does
(`bound_insert_iff`). `expand_insert` puts this together.
-/

namespace LSystem

open Chance Expansion

/-! ### Words that leave nothing to chance -/

/-- **What a word may become** in a number of rounds, whatever is chosen. -/
inductive Grammar.DerivesIn (g : Grammar) (w : Word) : Nat → Word → Prop
  | zero : g.DerivesIn w 0 w
  | succ {k : Nat} {w' : Word} {parts : List Word} (derives : g.DerivesIn w k w')
      (rewrites : List.Forall₂ g.Rewrites w' parts) : g.DerivesIn w (k + 1) parts.flatten

/-- **A word is predetermined** for `n` rounds if nothing that it may become in fewer rounds has a
symbol with two rules or more. -/
def Grammar.IsPredetermined (g : Grammar) (n : Nat) (w : Word) : Prop :=
  ∀ k < n, ∀ w', g.DerivesIn w k w' → ∀ s ∈ w', (g.productions s).length < 2

/-- A word of symbols without a choice is predetermined, if their replacements consist of such
symbols again. -/
theorem Grammar.isPredetermined_of_forall_mem {g : Grammar} {P : Symbol → Prop}
    (hsingle : ∀ s, P s → (g.productions s).length < 2)
    (hclosed : ∀ s, P s → ∀ p ∈ g.productions s, ∀ s' ∈ p.replacement, P s')
    {w : Word} (hw : ∀ s ∈ w, P s) (n : Nat) : g.IsPredetermined n w := by
  -- One round after the other, only such symbols turn up.
  have hderived : ∀ {k w'}, g.DerivesIn w k w' → ∀ s ∈ w', P s := by
    intro k w' h
    induction h with
    | zero => exact hw
    | succ _ hrewrites ih =>
      intro s' hs'
      obtain ⟨s, hs, part, hs_part, hmem⟩ := exists_of_mem_flatten hrewrites hs'
      cases hs_part with
      | rule hp => exact hclosed s (ih s hs) _ hp s' hmem
      | terminal => exact List.mem_singleton.1 hmem ▸ ih s hs
  exact fun k _ w' h s hs => hsingle s (hderived h s hs)

namespace Expansion

variable {g : Grammar}

/-- **A symbol without a choice draws nothing.** -/
theorem exists_substitute_of_single {s : Symbol} (h : (g.productions s).length < 2) :
    ∃ part, ∀ rng, substitute g s rng = (part, rng) := by
  rw [Grammar.productions] at h
  cases hrules : g.ruleSet? s with
  | none => exact ⟨[s], fun rng => by rw [substitute, hrules]⟩
  | some r =>
    -- A sampler is only made where there are two productions or more.
    rw [hrules] at h
    have hsize : r.productions.size < 2 := h
    have hsampler : r.sampler? = none := by rw [r.sampler?_eq, samplerFor?, if_pos hsize]
    refine ⟨r.first.replacement, fun rng => ?_⟩
    have hchoose : r.choose rng = (r.first, rng) := by rw [RuleSet.choose, hsampler]
    rw [substitute, hrules]
    simp only [hchoose]

/-- **A word without a choice draws nothing.** -/
theorem exists_substituteWord_of_single {w : Word} (h : ∀ s ∈ w, (g.productions s).length < 2) :
    ∃ w', ∀ rng, substituteWord g w rng = (w', rng) := by
  induction w with
  | nil => exact ⟨[], fun rng => rfl⟩
  | cons s w ih =>
    rw [List.forall_mem_cons] at h
    obtain ⟨part, hpart⟩ := exists_substitute_of_single h.1
    obtain ⟨w', hw'⟩ := ih h.2
    refine ⟨part ++ w', fun rng => ?_⟩
    simp only [substituteWord, hpart, hw']

/-- A round turns what a word may become into something that it may become. -/
private theorem derivesIn_substituteWord {k : Nat} {w w' : Word} (h : g.DerivesIn w k w')
    (hbound : unbound? g w' = none) (rng : Generator) :
    g.DerivesIn w (k + 1) (substituteWord g w' rng).1 := by
  obtain ⟨parts, hparts, hrewrites⟩ := exists_parts_of_bound hbound rng
  exact hparts ▸ .succ h hrewrites

/-- A word with another one put into it is free of unbound symbols if both words are. -/
private theorem unbound?_insert_eq_none_iff {x d y : Word} :
    unbound? g (x ++ d ++ y) = none ↔ unbound? g (x ++ y) = none ∧ unbound? g d = none := by
  simp only [unbound?_eq_none_iff, List.forall_mem_append]
  tauto

/-! ### Lockstep -/

/-- **Expansions in lockstep.** After `k` rounds `x ++ y` has become `x' ++ y'`, and `x ++ d ++ y`
has become `x' ++ d' ++ y'` and drawn the same numbers. On its own, `d` has become `d'` and drawn
nothing. -/
structure Lockstep (g : Grammar) (x d y : Word) (rng : Generator) (k : Nat) (x' d' y' : Word)
    (rng' : Generator) : Prop where
  without : level g (x ++ y, rng) k = (x' ++ y', rng')
  inserted : level g (x ++ d ++ y, rng) k = (x' ++ d' ++ y', rng')
  alone : ∀ rng₀, level g (d, rng₀) k = (d', rng₀)
  left : g.DerivesIn x k x'
  middle : g.DerivesIn d k d'
  right : g.DerivesIn y k y'

variable {x d y : Word} {rng : Generator} {n k : Nat}

/-- An unbound symbol in the expansion with the inserted word is one in one of the others. -/
theorem Lockstep.unbound?_inserted_iff {x' d' y' : Word} {rng' : Generator}
    (h : Lockstep g x d y rng k x' d' y' rng') (rng₀ : Generator) :
    unbound? g (level g (x ++ d ++ y, rng) k).1 = none ↔
      unbound? g (level g (x ++ y, rng) k).1 = none ∧
        unbound? g (level g (d, rng₀) k).1 = none := by
  rw [h.inserted, h.without, h.alone]
  exact unbound?_insert_eq_none_iff

/-- **One round in lockstep.** -/
theorem Lockstep.exists_succ {x' d' y' : Word} {rng' : Generator}
    (h : Lockstep g x d y rng k x' d' y' rng')
    (hbound : unbound? g (level g (x ++ d ++ y, rng) k).1 = none)
    (hsingle : ∀ s ∈ d', (g.productions s).length < 2) :
    ∃ x'' d'' y'' rng'', Lockstep g x d y rng (k + 1) x'' d'' y'' rng'' := by
  rw [h.inserted, unbound?_eq_none_iff] at hbound
  simp only [List.forall_mem_append, ← unbound?_eq_none_iff] at hbound
  obtain ⟨⟨hx, hd⟩, hy⟩ := hbound
  -- The word in the middle becomes the same word in both expansions, and draws nothing in either.
  obtain ⟨d'', hd''⟩ := exists_substituteWord_of_single hsingle
  -- What stands behind is replaced with the generator that the part in front leaves.
  let front := substituteWord g x' rng'
  let back := substituteWord g y' front.2
  have hwithout : substituteWord g (x' ++ y') rng' = (front.1 ++ back.1, back.2) :=
    substituteWord_append x' y' rng'
  have hinserted :
      substituteWord g (x' ++ d' ++ y') rng' = (front.1 ++ d'' ++ back.1, back.2) := by
    simp only [substituteWord_append, hd'', front, back]
  have hmiddle : g.DerivesIn d (k + 1) d'' := by
    have hderives := derivesIn_substituteWord h.middle hd rng'
    rwa [hd''] at hderives
  exact ⟨front.1, d'', back.1, back.2,
    { without := by rw [level_succ', h.without, nextLevel, hwithout]
      inserted := by rw [level_succ', h.inserted, nextLevel, hinserted]
      alone := fun rng₀ => by rw [level_succ', h.alone, nextLevel, hd'']
      left := derivesIn_substituteWord h.left hx rng'
      middle := hmiddle
      right := derivesIn_substituteWord h.right hy front.2 }⟩

/-- **Expansions stay in lockstep** as long as there are no unbound symbols, be it in the expansion
with the inserted word or in both of the others. -/
theorem exists_lockstep (hd : g.IsPredetermined n d) (rng₀ : Generator) (hk : k ≤ n)
    (hbound : ∀ j < k, unbound? g (level g (x ++ d ++ y, rng) j).1 = none ∨
      unbound? g (level g (x ++ y, rng) j).1 = none ∧
        unbound? g (level g (d, rng₀) j).1 = none) :
    ∃ x' d' y' rng', Lockstep g x d y rng k x' d' y' rng' := by
  induction k with
  | zero => exact ⟨x, d, y, rng, rfl, rfl, fun _ => rfl, .zero, .zero, .zero⟩
  | succ k ih =>
    obtain ⟨x', d', y', rng', h⟩ :=
      ih (Nat.le_of_succ_le hk) fun j hj => hbound j (Nat.lt_succ_of_lt hj)
    -- In lockstep it does not matter of which expansions it is known.
    have hlevel : unbound? g (level g (x ++ d ++ y, rng) k).1 = none :=
      (hbound k (Nat.lt_succ_self k)).elim id (h.unbound?_inserted_iff rng₀).2
    exact h.exists_succ hlevel (hd k hk d' h.middle)

/-- **Nothing is unbound in an expansion with a predetermined word inserted** exactly if nothing is
in the expansion without it, nor in that of the word on its own. -/
theorem bound_insert_iff (hd : g.IsPredetermined n d) (rng₀ : Generator) :
    (∀ k ≤ n, unbound? g (level g (x ++ d ++ y, rng) k).1 = none) ↔
      (∀ k ≤ n, unbound? g (level g (x ++ y, rng) k).1 = none) ∧
        ∀ k ≤ n, unbound? g (level g (d, rng₀) k).1 = none := by
  rw [← forall₂_and]
  -- Either way the levels before level `k` are known to have no unbound symbol, so that the
  -- expansions are in lockstep there.
  constructor
  · intro h k hk
    obtain ⟨_, _, _, _, hlockstep⟩ :=
      exists_lockstep hd rng₀ hk fun j hj => .inl (h j (Nat.le_trans (Nat.le_of_lt hj) hk))
    exact (hlockstep.unbound?_inserted_iff rng₀).1 (h k hk)
  · intro h k hk
    obtain ⟨_, _, _, _, hlockstep⟩ :=
      exists_lockstep hd rng₀ hk fun j hj => .inr (h j (Nat.le_trans (Nat.le_of_lt hj) hk))
    exact (hlockstep.unbound?_inserted_iff rng₀).2 (h k hk)

/-! ### Predetermined words on their own -/

/-- **The levels of a predetermined word** do not depend on the generator, up to the first one with
an unbound symbol. -/
theorem level_eq_level_of_isPredetermined (hd : g.IsPredetermined n d) (hk : k ≤ n)
    (hbound : ∀ j < k, unbound? g (level g (d, rng) j).1 = none) (rng₀ : Generator) :
    (level g (d, rng) k).1 = (level g (d, rng₀) k).1 := by
  -- The word is put into the empty one.
  have hbound' : ∀ j < k, unbound? g (level g ([] ++ d ++ [], rng) j).1 = none := by
    simpa only [List.nil_append, List.append_nil] using hbound
  obtain ⟨_, d', _, _, h⟩ := exists_lockstep hd rng₀ hk fun j hj => .inl (hbound' j hj)
  rw [h.alone, h.alone]

/-- **The expansion of a predetermined word does not depend on the seed,** and neither does the
error if there is one. -/
theorem expand_eq_expand_of_isPredetermined {generations : UInt32}
    (hd : g.IsPredetermined generations.toNat d) (seed seed' : UInt64) :
    g.expand seed generations d = g.expand seed' generations d :=
  expand_congr fun _ hk hbound => level_eq_level_of_isPredetermined hd hk hbound _

/-! ### Expansions with a predetermined word inserted -/

variable {generations : UInt32}

/-- **With a predetermined word inserted an expansion succeeds** exactly if it succeeds without the
word and the word can be expanded on its own. -/
theorem exists_expand_insert_iff (hd : g.IsPredetermined generations.toNat d) (seed : UInt64) :
    (∃ c, g.expand seed generations (x ++ d ++ y) = .ok c) ↔
      (∃ c, g.expand seed generations (x ++ y) = .ok c) ∧
        ∃ d', g.expand seed generations d = .ok d' := by
  simp only [exists_expand_iff]
  exact bound_insert_iff hd _

/-- **What an expansion comes to with a predetermined word inserted** is what it comes to without
the word, with the expansion of the word put into it, between what has become of the symbols on its
left and of those on its right. -/
theorem exists_parts_of_expand_insert (hd : g.IsPredetermined generations.toNat d) {seed : UInt64}
    {c : Word} (hc : g.expand seed generations (x ++ d ++ y) = .ok c) :
    ∃ x' d' y', c = x' ++ d' ++ y' ∧ g.expand seed generations (x ++ y) = .ok (x' ++ y') ∧
      (∀ seed', g.expand seed' generations d = .ok d') ∧
      g.DerivesIn x generations.toNat x' ∧ g.DerivesIn y generations.toNat y' := by
  obtain ⟨hbound, rfl⟩ := expand_eq_ok_iff.1 hc
  -- The expansions have come to the end in lockstep, and the last levels are what they give.
  obtain ⟨hwithout, halone⟩ := (bound_insert_iff hd (.ofSeed seed)).1 hbound
  obtain ⟨x', d', y', rng', h⟩ := exists_lockstep hd (.ofSeed seed) (Nat.le_refl _)
    fun j hj => .inl (hbound j (Nat.le_of_lt hj))
  refine ⟨x', d', y', ?_, ?_, fun seed' => ?_, h.left, h.right⟩
  · rw [h.inserted]
  · rw [expand_of_bound hwithout, h.without]
  · rw [← expand_eq_expand_of_isPredetermined hd seed seed', expand_of_bound halone, h.alone]

end Expansion

/-- **Predetermined words do not disturb the choices of other words.** An expansion with a
predetermined word inserted succeeds exactly if it succeeds without the word and the word can be
expanded on its own. The result is then the one without the word, with what becomes of the word put
into it, and that is the same for all seeds. If no symbol has more than one rule, no expansion
depends on the seed. -/
theorem Grammar.expand_insert (g : Grammar) (generations : UInt32) :
    (∀ d, g.IsPredetermined generations.toNat d → ∀ (seed : UInt64) (x y : Word),
      ((∃ c, g.expand seed generations (x ++ d ++ y) = .ok c) ↔
        (∃ c, g.expand seed generations (x ++ y) = .ok c) ∧
          ∃ d', g.expand seed generations d = .ok d') ∧
      ∀ c, g.expand seed generations (x ++ d ++ y) = .ok c →
        ∃ x' d' y', c = x' ++ d' ++ y' ∧ g.expand seed generations (x ++ y) = .ok (x' ++ y') ∧
          (∀ seed', g.expand seed' generations d = .ok d') ∧
          g.DerivesIn x generations.toNat x' ∧ g.DerivesIn y generations.toNat y') ∧
    ((∀ s, (g.productions s).length < 2) → ∀ (w : Word) (seed seed' : UInt64),
      g.expand seed generations w = g.expand seed' generations w) := by
  constructor
  · exact fun d hd seed x y =>
      ⟨exists_expand_insert_iff hd seed, fun c hc => exists_parts_of_expand_insert hd hc⟩
  · intro hsingle w seed seed'
    have hw : g.IsPredetermined generations.toNat w := fun k _ w' _ s _ => hsingle s
    exact expand_eq_expand_of_isPredetermined hw seed seed'

/-- The second symbol of the thicket is predetermined, for it becomes nothing but itself and the
third one. -/
private theorem Grammar.isPredetermined_thicket (n : Nat) : thicket.IsPredetermined n [1] := by
  have hsecond : thicket.productions 1 = [⟨[2, 1], 1⟩] := by cbv
  have hthird : thicket.productions 2 = [] := by cbv
  refine isPredetermined_of_forall_mem (P := fun s => s = 1 ∨ s = 2) ?_ ?_ (by simp) n
  · rintro s (rfl | rfl)
    · simp [hsecond]
    · simp [hthird]
  · rintro s (rfl | rfl)
    · simp [hsecond]
    · simp [hthird]

/-- A hedge: the thicket without its first symbol. -/
def Grammar.hedge : Grammar where
  symbols := .empty
  start := [1]
  rules := group [(1, ⟨[2, 1], 1⟩)]
  meanings := (∅ : Meanings).insert 2 .forward

private theorem Grammar.length_productions_hedge_lt (s : Symbol) :
    (hedge.productions s).length < 2 := by
  rw [productions_of_group rfl s, productionsAmong, List.length_map]
  exact Nat.lt_succ_of_le (List.length_filter_le _ _)

/-- The second symbol of the thicket, put between two of the first, whose choices stay what they
were, and a hedge, which grows in the same way with every seed. -/
theorem Grammar.expand_insert_thicket :
    thicket.expand 3 2 [0, 0] = .ok [2, 1, 1, 2, 1, 1] ∧
    thicket.expand 3 2 [0, 1, 0] = .ok [2, 1, 2, 2, 1, 1, 2, 1, 1] ∧
    (∃ x' d' y', [2, 1, 2, 2, 1, 1, 2, 1, 1] = x' ++ d' ++ y' ∧
      thicket.expand 3 2 [0, 0] = .ok (x' ++ y') ∧
      (∀ seed, thicket.expand seed 2 [1] = .ok d') ∧
      thicket.DerivesIn [0] 2 x' ∧ thicket.DerivesIn [0] 2 y') ∧
    ∀ seed, hedge.expand seed 2 [1] = .ok [2, 2, 1] := by
  have hinserted : thicket.expand 3 2 [0, 1, 0] = .ok [2, 1, 2, 2, 1, 1, 2, 1, 1] :=
    expand_eq_ok_of_all (by cbv) (by cbv)
  obtain ⟨-, hparts⟩ := (expand_insert thicket 2).1 [1] (isPredetermined_thicket _) 3 [0] [0]
  have hbefore : thicket.expand 3 2 [0, 0] = .ok [2, 1, 1, 2, 1, 1] :=
    expand_eq_ok_of_all (by cbv) (by cbv)
  refine ⟨hbefore, hinserted, hparts _ hinserted, fun seed => ?_⟩
  rw [(expand_insert hedge 2).2 length_productions_hedge_lt [1] seed 0]
  exact expand_eq_ok_of_all (by cbv) (by cbv)

end LSystem

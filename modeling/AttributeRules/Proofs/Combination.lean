import Mathlib.Data.Finset.Lattice.Fold
import Mathlib.Data.Fintype.Basic
import Mathlib.Data.List.Forall2
import Mathlib.Order.Lattice.Nat
import AttributeRules.Proofs.Checks

/-! Combining rules, told by the rules.

Combining a list of rules puts each further one beside what was combined so far, so the first rule ends up below as many
joints as there are others, and each other one below its own joint and the later ones. This fixes the depth of the
combination (`depth_foldl_operator`). Within the limit it comes to what the rules come to one by one: to their results
under the connective, or to the error of the first one that fails (`evaluate_foldl_operator`). A check of named rules is
the evaluation of their combination (`combineAll_by_parts`). -/

namespace AttributeRules
open Text

/-! ### Many results, and the first error -/

section Traversal
variable {α β ε : Type} {f : α → Except ε β}

theorem mapM_cons_eq_ok_iff {x : α} {xs : List α} {ys : List β} :
    (x :: xs).mapM f = .ok ys ↔ ∃ y zs, f x = .ok y ∧ xs.mapM f = .ok zs ∧ ys = y :: zs := by
  rw [List.mapM_cons]
  cases f x with
  | error e => simp [bind, Except.bind]
  | ok y =>
    cases xs.mapM f with
    | error e => simp [bind, Except.bind]
    | ok zs => simp [bind, Except.bind, pure, Except.pure, eq_comm]

/-- All results are there exactly when each of them is. -/
theorem mapM_eq_ok_iff {xs : List α} {ys : List β} :
    xs.mapM f = .ok ys ↔ List.Forall₂ (fun x y => f x = .ok y) xs ys := by
  induction xs generalizing ys with
  | nil => simp [pure, Except.pure, eq_comm]
  | cons x xs ih => simp only [mapM_cons_eq_ok_iff, ih, List.forall₂_cons_left_iff]

/-- A traversal fails with the first error, and what comes after it does not count. -/
theorem mapM_eq_error_iff {xs : List α} {e : ε} :
    xs.mapM f = .error e ↔
      ∃ before x after, xs = before ++ x :: after ∧ (∀ b ∈ before, ∃ y, f b = .ok y) ∧ f x = .error e := by
  constructor
  · intro h
    induction xs with
    | nil => cases h
    | cons x xs ih =>
      cases hx : f x with
      | error e' =>
        rw [List.mapM_cons, hx] at h
        cases h
        exact ⟨[], x, xs, rfl, List.forall_mem_nil _, hx⟩
      | ok y =>
        cases hxs : xs.mapM f with
        | error e' =>
          rw [List.mapM_cons, hx, hxs] at h
          cases h
          obtain ⟨before, x', after, rfl, hbefore, hx'⟩ := ih hxs
          exact ⟨x :: before, x', after, rfl, List.forall_mem_cons.mpr ⟨⟨y, hx⟩, hbefore⟩, hx'⟩
        | ok ys =>
          rw [List.mapM_cons, hx, hxs] at h
          cases h
  · rintro ⟨before, x, after, rfl, hbefore, hx⟩
    induction before with
    | nil =>
      rw [List.nil_append, List.mapM_cons, hx]
      rfl
    | cons b before ih =>
      obtain ⟨⟨y, hy⟩, hrest⟩ := List.forall_mem_cons.mp hbefore
      rw [List.cons_append, List.mapM_cons, hy, ih hrest]
      rfl

end Traversal

namespace Rule

/-! ### Depth -/

/-- The depth of combined rules: of the first rule with a joint for each other one, or of another one with its own joint
and those of the later ones. -/
def combinedDepth (first : Rule) (rest : List Rule) : Nat :=
  max (first.depth + rest.length) (Finset.univ.sup fun i : Fin rest.length => rest[i].depth + (rest.length - i))

section Combining
variable {op : Connective}

/-- Joining the first two rules of a list puts the second one as deep as it will be. -/
theorem combinedDepth_operator (first next : Rule) (rest : List Rule) :
    combinedDepth (operator op first next) rest = combinedDepth first (next :: rest) := by
  have hsup : (Finset.univ.sup fun i : Fin (next :: rest).length =>
        (next :: rest)[i].depth + ((next :: rest).length - i)) =
      max (next.depth + (rest.length + 1))
        (Finset.univ.sup fun i : Fin rest.length => rest[i].depth + (rest.length - i)) := by
    simp [Fin.univ_succ, Finset.sup_map, Function.comp_def]
  rw [combinedDepth, combinedDepth, hsup, depth, List.length_cons]
  omega

theorem depth_foldl_operator (first : Rule) (rest : List Rule) :
    (rest.foldl (operator op) first).depth = combinedDepth first rest := by
  induction rest generalizing first with
  | nil => simp [combinedDepth]
  | cons next rest ih => rw [List.foldl_cons, ih, combinedDepth_operator]

/-! ### Evaluation -/

section Evaluation
variable {context : Context} {limit : Nat}

/-- Rules within the limit, evaluated one by one, fail with the first error of an operand of any of them. -/
theorem mapM_evaluate {rules : List Rule} (h : ∀ r ∈ rules, r.depth ≤ limit) :
    rules.mapM (evaluate context limit) =
      match (rules.flatMap operands).findSome? (operandError? context) with
      | some e => .error e
      | none => .ok (rules.map (joined (operandHolds context))) := by
  induction rules with
  | nil => rfl
  | cons r rules ih =>
    obtain ⟨hr, hrules⟩ := List.forall_mem_cons.mp h
    rw [List.mapM_cons, evaluate_of_depth_le hr, ih hrules, List.flatMap_cons, List.findSome?_append]
    cases r.operands.findSome? (operandError? context) with
    | some e => rfl
    | none => cases (rules.flatMap operands).findSome? (operandError? context) <;> rfl

/-- A combination within the limit comes to what its rules come to one by one. -/
theorem evaluate_foldl_operator {first : Rule} {rest : List Rule} (h : ∀ r ∈ first :: rest, r.depth ≤ limit)
    (hdepth : (rest.foldl (operator op) first).depth ≤ limit) :
    (rest.foldl (operator op) first).evaluate context limit =
      ((first :: rest).mapM (evaluate context limit)).map op.applyAll := by
  rw [evaluate_of_depth_le hdepth, mapM_evaluate h, operands_foldl_operator, joined_foldl_operator, ← List.flatMap_cons]
  cases ((first :: rest).flatMap operands).findSome? (operandError? context) <;> rfl

end Evaluation

/-- What a combination of rules comes to within a limit, told by the rules. -/
structure ByParts (op : Connective) (context : Context) (limit : Nat) (first : Rule) (rest : List Rule)
    (combined : Rule) : Prop where
  operands : combined.operands = (first :: rest).flatMap Rule.operands
  depth : combined.depth = combinedDepth first rest
  /-- There is a result exactly within the limit and where each rule has one. -/
  ok_iff : ∀ b, combined.evaluate context limit = .ok b ↔
    combined.depth ≤ limit ∧ ∃ results,
      List.Forall₂ (fun r result => r.evaluate context limit = .ok result) (first :: rest) results ∧
        b = op.applyAll results
  /-- Within the limit, the first rule that fails decides the error. -/
  error_iff : combined.depth ≤ limit → ∀ e, combined.evaluate context limit = .error e ↔
    ∃ before r after, first :: rest = before ++ r :: after ∧
      (∀ x ∈ before, ∃ b, x.evaluate context limit = .ok b) ∧ r.evaluate context limit = .error e

theorem byParts_foldl_operator {context : Context} {limit : Nat} {first : Rule} {rest : List Rule}
    (h : ∀ r ∈ first :: rest, r.depth ≤ limit) :
    ByParts op context limit first rest (rest.foldl (operator op) first) where
  operands := by rw [operands_foldl_operator, ← List.flatMap_cons]
  depth := depth_foldl_operator first rest
  ok_iff b := by
    constructor
    · intro hresult
      have hdepth := depth_le_of_evaluate hresult
      rw [evaluate_foldl_operator h hdepth] at hresult
      cases hall : (first :: rest).mapM (evaluate context limit) with
      | error e =>
        rw [hall] at hresult
        cases hresult
      | ok results =>
        rw [hall] at hresult
        exact ⟨hdepth, results, mapM_eq_ok_iff.mp hall, (Except.ok.inj hresult).symm⟩
    · rintro ⟨hdepth, results, hall, rfl⟩
      rw [evaluate_foldl_operator h hdepth, mapM_eq_ok_iff.mpr hall]
      rfl
  error_iff hdepth e := by
    rw [evaluate_foldl_operator h hdepth, ← mapM_eq_error_iff]
    cases (first :: rest).mapM (evaluate context limit) <;> simp [Except.map]

end Combining
end Rule

/-! ### Named rules -/

theorem Config.depth_le_of_loadRule {c : Config} {name : String} {r : Rule} (h : c.loadRule name = .ok r) :
    r.depth ≤ c.depthLimit := by
  unfold loadRule at h
  split at h
  · cases h
  · rename_i text _
    cases hparse : Rule.parse c.depthLimit text with
    | error e =>
      rw [hparse] at h
      cases h
    | ok s =>
      rw [hparse] at h
      cases h
      exact (Rule.parse_eq_ok_iff.mp hparse).2

namespace Command
open Rule

/-- What a check of rules that can be loaded comes to: the evaluation of their combination. -/
theorem outcome_checkRules_of_loaded {fs : FileSystem} {path : Path} {c : Config} {source : ContextSource}
    {context : Context} {given : Option String} {op : Connective} {names : List String} {rules : List Rule}
    {combined : Rule} (hload : Config.load fs path = .ok c) (hcontext : loadContext fs source = .ok (some context))
    (hop : given.getD c.settings.defaultOp = op.keyword) (hrules : names.mapM c.loadRule = .ok rules)
    (hcombined : Rule.combineAll op rules = some combined) :
    (checkRules fs (some path) names given source).outcome =
      ((combined.evaluate context c.depthLimit).mapError .rule).map (⟨combined, op, ·⟩) := by
  rw [outcome_checkRules hload hcontext, hop, checkIn_eq hrules hcombined]

/-- The combination of rules that are each within the limit is told by them: its operands are theirs, its depth is given
by theirs, and within the limit it has the results of all of them under the connective or fails with the first one that
does. This is what a check of named rules that can be loaded comes to. -/
theorem combineAll_by_parts (op : Connective) (context : Context) :
    (∀ limit first rest, (∀ r ∈ first :: rest, r.depth ≤ limit) →
      ∃ combined, Rule.combineAll op (first :: rest) = some combined ∧ ByParts op context limit first rest combined) ∧
      ∀ lib mode fs path c source given names, Config.load fs path = .ok c → loadContext fs source = .ok (some context) →
        given.getD c.settings.defaultOp = op.keyword → names ≠ [] → (∀ name ∈ names, ∃ r, c.loadRule name = .ok r) →
        ∃ first rest combined, names.mapM c.loadRule = .ok (first :: rest) ∧
          Rule.combineAll op (first :: rest) = some combined ∧ ByParts op context c.depthLimit first rest combined ∧
          (∀ b, combined.evaluate context c.depthLimit = .ok b →
            Shows lib mode (some path) fs (.check names given source) (showChecked mode names ⟨combined, op, b⟩)) ∧
          ∀ e, combined.evaluate context c.depthLimit = .error e →
            Fails lib mode (some path) fs (.check names given source) (.rule e) := by
  constructor
  · intro limit first rest h
    exact ⟨_, combineAll_cons first rest, byParts_foldl_operator h⟩
  · intro lib mode fs path c source given names hload hcontext hop hne hnames
    have hloaded : ∀ name ∈ names, ∃ r, c.loadRule name = .ok r ∧ r.depth ≤ c.depthLimit := by
      intro name hname
      obtain ⟨r, hr⟩ := hnames name hname
      exact ⟨r, hr, Config.depth_le_of_loadRule hr⟩
    obtain ⟨rules, hrules, hlength, hdepths⟩ := exists_mapM_eq_ok hloaded
    cases rules with
    | nil => exact absurd (List.length_eq_zero_iff.mp hlength.symm) hne
    | cons first rest =>
      have hcombined : Rule.combineAll op (first :: rest) = some _ := combineAll_cons first rest
      have hcheck := outcome_checkRules_of_loaded hload hcontext hop hrules hcombined
      refine ⟨first, rest, _, hrules, hcombined, byParts_foldl_operator hdepths, fun b hb => ?_, fun e he => ?_⟩
      · rw [hb] at hcheck
        exact shows_check hcheck
      · rw [he] at hcheck
        exact fails_check hcheck

/-- Of three rules within four levels the last one fails, and a check of two named ones has a result right at the
limit. -/
theorem combineAll_by_parts_at_limit :
    ∃ (both other last : Rule) (context : Context) (fs : FileSystem) (c : Config) (combined : Rule),
      (∀ r ∈ [both, other, last], r.depth ≤ 4) ∧
        (∃ three, Rule.combineAll .and [both, other, last] = some three ∧ three.depth = 4 ∧
          three.evaluate context 4 = .error (.missingAttribute "z")) ∧
        Config.load fs "c.json" = .ok c ∧ Rule.combineAll .or [both, other] = some combined ∧
        combined.depth = c.depthLimit ∧
        Shows .plain .text (some "c.json") fs
          (.check ["both", "other"] none (.inline "\x7b\"x\":1,\"y\":2\x7d"))
          (showChecked .text ["both", "other"] ⟨combined, .or, true⟩) := by
  let both : Rule := .operator .and (.operand "x = 1") (.operand "y = 2")
  let other : Rule := .operand "y > 2"
  let last : Rule := .operand "z = 1"
  let context : Context := NameMap.ofList [("x", .integer 1), ("y", .integer 2)]
  let text := "\x7brules:\x7bboth:'x = 1 AND y = 2',other:'y > 2'\x7d,settings:\x7bmax_depth:3,default_op:'OR'\x7d\x7d"
  let fs : FileSystem := ⟨[(["c.json"], .file text)]⟩
  let c : Config :=
    { rules := NameMap.ofList [("both", "x = 1 AND y = 2"), ("other", "y > 2")]
      settings := { maxDepth := 3, defaultOp := "OR" } }
  have hdepths : ∀ r ∈ [both, other, last], r.depth ≤ 4 := by decide
  have hload : Config.load fs "c.json" = .ok c := by decide +kernel
  have hloaded : ["both", "other"].mapM c.loadRule = .ok [both, other] := by decide +kernel
  have hnames : ∀ name ∈ ["both", "other"], ∃ r, c.loadRule name = .ok r := by
    intro name hname
    rcases List.mem_cons.mp hname with rfl | hname
    · exact ⟨both, by decide +kernel⟩
    · obtain rfl := List.mem_singleton.mp hname
      exact ⟨other, by decide +kernel⟩
  refine ⟨both, other, last, context, fs, c, .operator .or both other, hdepths, ?_, hload, rfl, by decide, ?_⟩
  · obtain ⟨three, hthree, hparts⟩ := (combineAll_by_parts .and context).1 4 both [other, last] hdepths
    have hdepth : three.depth = 4 := hparts.depth.trans (by decide +kernel)
    refine ⟨three, hthree, hdepth, (hparts.error_iff (Nat.le_of_eq hdepth) _).mpr ?_⟩
    refine ⟨[both, other], last, [], rfl, fun r hr => ?_, by decide +kernel⟩
    rcases List.mem_cons.mp hr with rfl | hr
    · exact ⟨true, by decide +kernel⟩
    · obtain rfl := List.mem_singleton.mp hr
      exact ⟨false, by decide +kernel⟩
  · obtain ⟨first, rest, combined, hrules, hcombined, -, hshows, -⟩ :=
      (combineAll_by_parts .or context).2 .plain .text fs "c.json" c (.inline "\x7b\"x\":1,\"y\":2\x7d") none
        ["both", "other"] hload (by decide +kernel) rfl (by decide) hnames
    cases hloaded.symm.trans hrules
    cases hcombined
    exact hshows true (by decide +kernel)

end Command
end AttributeRules

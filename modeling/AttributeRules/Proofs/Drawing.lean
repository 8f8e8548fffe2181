import AttributeRules.Rule.Printer

/-! What a drawing shows of a rule.

The line of a node is its label behind what leads to the node: a bar or a gap for each step from the root but the last,
and a branch for the last one. So the lines that come from the left rule of a connective start with an open branch or a
bar, and the first line of its right rule with the closing branch. They can be told apart there, whatever the labels are,
and the lines determine the rule (`drawLines_injective`). Where no operand has a line break, the drawing determines its
lines too, and these are one for each node (`draw_eq_iff_and_lines`). -/

namespace AttributeRules.Rule

/-! ### Nodes -/

/-- Which of the two rules that a connective joins. -/
inductive Side
  | left
  | right
  deriving DecidableEq, Repr

/-- The left side comes before the right one. -/
instance : LT Side := ⟨fun a b => a = .left ∧ b = .right⟩

/-- The node that steps from the root lead to, as the rule whose root it is. -/
def at? : Rule → List Side → Option Rule
  | r, [] => some r
  | .operand _, _ :: _ => none
  | .operator _ left _, .left :: steps => left.at? steps
  | .operator _ _ right, .right :: steps => right.at? steps

/-- A node of a rule: the steps that lead to it, and the rule whose root it is. -/
structure Node where
  steps : List Side
  rule : Rule
  deriving DecidableEq, Repr

def Node.below (side : Side) (n : Node) : Node := { n with steps := side :: n.steps }

/-- All nodes, each one in front of those of its left rule, and these in front of those of its right rule. -/
def nodes : Rule → List Node
  | .operand text => [⟨[], .operand text⟩]
  | .operator op left right =>
    ⟨[], .operator op left right⟩ :: (left.nodes.map (Node.below .left) ++ right.nodes.map (Node.below .right))

theorem mem_map_below_iff {n : Node} {side : Side} {ns : List Node} :
    n ∈ ns.map (Node.below side) ↔ ∃ m ∈ ns, n = ⟨side :: m.steps, m.rule⟩ := by
  simp only [List.mem_map, Node.below, eq_comm]

theorem mem_map_below {side side' : Side} {steps : List Side} {r : Rule} {ns : List Node} :
    ⟨side' :: steps, r⟩ ∈ ns.map (Node.below side) ↔ side = side' ∧ ⟨steps, r⟩ ∈ ns := by
  rw [mem_map_below_iff]
  constructor
  · rintro ⟨m, hm, h⟩
    cases h
    exact ⟨rfl, hm⟩
  · rintro ⟨rfl, h⟩
    exact ⟨_, h, rfl⟩

theorem mem_nodes_iff {r : Rule} {n : Node} : n ∈ r.nodes ↔ r.at? n.steps = some n.rule := by
  obtain ⟨steps, n⟩ := n
  induction r generalizing steps with
  | operand text => cases steps <;> simp [nodes, at?, eq_comm]
  | operator op left right ihl ihr =>
    cases steps with
    | nil => simp [nodes, Node.below, at?, eq_comm]
    | cons side steps =>
      rw [nodes, List.mem_cons, List.mem_append, mem_map_below, mem_map_below, ihl, ihr]
      cases side <;> simp [at?]

theorem pairwise_map_below {ns : List Node} (side : Side) (h : ns.Pairwise fun m n => m.steps < n.steps) :
    (ns.map (Node.below side)).Pairwise fun m n => m.steps < n.steps :=
  List.pairwise_map.mpr (h.imp fun hlt => List.Lex.cons hlt)

/-- The nodes stand in the order of their steps, in which a node comes before those below it and left before right. -/
theorem pairwise_nodes (r : Rule) : r.nodes.Pairwise fun m n => m.steps < n.steps := by
  induction r with
  | operand text => exact List.pairwise_singleton _ _
  | operator op left right ihl ihr =>
    refine List.pairwise_cons.mpr ⟨fun n hn => ?_, List.pairwise_append.mpr ⟨pairwise_map_below .left ihl,
      pairwise_map_below .right ihr, fun m hm n hn => ?_⟩⟩
    · rw [List.mem_append, mem_map_below_iff, mem_map_below_iff] at hn
      rcases hn with ⟨m, -, rfl⟩ | ⟨m, -, rfl⟩ <;> exact List.Lex.nil
    · obtain ⟨m, -, rfl⟩ := mem_map_below_iff.mp hm
      obtain ⟨n, -, rfl⟩ := mem_map_below_iff.mp hn
      exact List.Lex.rel ⟨rfl, rfl⟩

/-! ### Lines -/

/-- What is shown of a node itself. -/
def label : Rule → String
  | .operand text => text
  | .operator op _ _ => op.keyword

/-- What stands in front of the label of a node to which these steps lead. -/
def lead : List Side → List Char
  | [] => []
  | [.left] => "├── ".toList
  | [.right] => "└── ".toList
  | .left :: steps => "│   ".toList ++ lead steps
  | .right :: steps => "    ".toList ++ lead steps

def Node.line (n : Node) : List Char := lead n.steps ++ n.rule.label.toList

/-- Hanging the lines of nodes on a branch leads to each of them by one step more. -/
theorem hang_map_line (branch indent : String) (side : Side) (hbranch : lead [side] = branch.toList)
    (hindent : ∀ s steps, lead (side :: s :: steps) = indent.toList ++ lead (s :: steps)) (r : Rule) {ns : List Node}
    (hns : ∀ n ∈ ns, n.steps ≠ []) :
    hang branch indent ((⟨[], r⟩ :: ns).map Node.line) = ((⟨[], r⟩ :: ns).map (Node.below side)).map Node.line := by
  rw [List.map_cons, hang, List.map_cons, List.map_cons, List.map_map, List.map_map]
  refine List.cons_eq_cons.mpr ⟨?_, List.map_congr_left fun n hn => ?_⟩
  · show branch.toList ++ r.label.toList = lead [side] ++ r.label.toList
    rw [hbranch]
  · obtain ⟨s, steps, hsteps⟩ := List.exists_cons_of_ne_nil (hns n hn)
    simp only [Function.comp_apply, Node.below, Node.line, hsteps, hindent, List.append_assoc]

theorem exists_nodes_eq_cons (r : Rule) : ∃ ns, r.nodes = ⟨[], r⟩ :: ns ∧ ∀ n ∈ ns, n.steps ≠ [] := by
  cases r with
  | operand text => exact ⟨[], rfl, List.forall_mem_nil _⟩
  | operator op left right =>
    refine ⟨_, rfl, fun n hn => ?_⟩
    rw [List.mem_append, mem_map_below_iff, mem_map_below_iff] at hn
    rcases hn with ⟨m, -, rfl⟩ | ⟨m, -, rfl⟩ <;> exact List.cons_ne_nil _ _

/-- The lines are those of the nodes. -/
theorem drawLines_eq (r : Rule) : r.drawLines = r.nodes.map Node.line := by
  induction r with
  | operand text => rfl
  | operator op left right ihl ihr =>
    obtain ⟨lns, hl, hlns⟩ := exists_nodes_eq_cons left
    obtain ⟨rns, hr, hrns⟩ := exists_nodes_eq_cons right
    have hleft := hang_map_line "├── " "│   " .left rfl (fun _ _ => rfl) left hlns
    have hright := hang_map_line "└── " "    " .right rfl (fun _ _ => rfl) right hrns
    rw [drawLines, nodes, List.map_cons, List.map_append, ihl, ihr, hl, hr, hleft, hright]
    rfl

/-! ### The rule of the lines -/

theorem hang_injective {branch indent : String} : Function.Injective (hang branch indent) := by
  intro ls ls' h
  cases ls with
  | nil =>
    cases ls' with
    | nil => rfl
    | cons line below => cases h
  | cons line below =>
    cases ls' with
    | nil => cases h
    | cons line' below' =>
      obtain ⟨hline, hbelow⟩ := List.cons.inj h
      rw [List.append_cancel_left hline, List.map_inj_right (fun _ _ => List.append_cancel_left) |>.mp hbelow]

/-- Does the line not start with the branch that closes a connective? -/
def isOpen (line : List Char) : Bool := line.head? != some '└'

theorem isOpen_of_mem_hang {line : List Char} {ls : List (List Char)} (h : line ∈ hang "├── " "│   " ls) :
    isOpen line = true := by
  cases ls with
  | nil => cases h
  | cons first below =>
    rcases List.mem_cons.mp h with rfl | h
    · rfl
    · obtain ⟨l, -, rfl⟩ := List.mem_map.mp h
      rfl

/-- The lines of the left rule end where the closing branch comes first. -/
theorem takeWhile_isOpen (ls : List (List Char)) {ls' : List (List Char)} (h : ls' ≠ []) :
    (hang "├── " "│   " ls ++ hang "└── " "    " ls').takeWhile isOpen = hang "├── " "│   " ls := by
  obtain ⟨first, below, rfl⟩ := List.exists_cons_of_ne_nil h
  have hclosed : isOpen ("└── ".toList ++ first) = false := rfl
  rw [List.takeWhile_append_of_pos fun line hline => isOpen_of_mem_hang hline, hang,
    List.takeWhile_cons_of_neg (Bool.eq_false_iff.mp hclosed), List.append_nil]

theorem drawLines_ne_nil (r : Rule) : r.drawLines ≠ [] := by
  cases r <;> exact List.cons_ne_nil _ _

theorem keyword_injective : Function.Injective Connective.keyword := by
  intro op op' h
  have hread := congrArg Connective.ofText? h
  rw [Connective.ofText?_keyword, Connective.ofText?_keyword] at hread
  exact Option.some.inj hread

/-- A connective has lines below its own. -/
theorem drawLines_operand_ne_operator (text : String) (op : Connective) (left right : Rule) :
    (operand text).drawLines ≠ (operator op left right).drawLines := by
  intro h
  obtain ⟨first, below, hleft⟩ := List.exists_cons_of_ne_nil left.drawLines_ne_nil
  have hbelow := congrArg List.tail h
  rw [drawLines, drawLines, hleft] at hbelow
  cases hbelow

theorem drawLines_injective : Function.Injective drawLines := by
  intro r
  induction r with
  | operand text =>
    intro s h
    cases s with
    | operand text' => rw [String.toList_inj.mp (List.singleton_inj.mp h)]
    | operator op left right => exact absurd h (drawLines_operand_ne_operator text op left right)
  | operator op left right ihl ihr =>
    intro s h
    cases s with
    | operand text => exact absurd h.symm (drawLines_operand_ne_operator text op left right)
    | operator op' left' right' =>
      obtain ⟨hop, hlines⟩ := List.cons.inj h
      have hopen := congrArg (List.takeWhile isOpen) hlines
      rw [takeWhile_isOpen _ right.drawLines_ne_nil, takeWhile_isOpen _ right'.drawLines_ne_nil] at hopen
      rw [hopen] at hlines
      rw [keyword_injective (String.toList_inj.mp hop), ihl (hang_injective hopen),
        ihr (hang_injective (List.append_cancel_left hlines))]

/-! ### The lines of the drawing -/

/-- No operand has a line break. -/
def Unbroken (r : Rule) : Prop := ∀ v ∈ r.operands, '\n' ∉ v.toList

instance (r : Rule) : Decidable r.Unbroken := inferInstanceAs (Decidable (∀ v ∈ r.operands, '\n' ∉ v.toList))

theorem newline_not_mem_lead (steps : List Side) : '\n' ∉ lead steps := by
  fun_induction lead steps with
  | case1 => exact List.not_mem_nil
  | case2 => decide
  | case3 => decide
  | case4 steps hne ih => exact List.not_mem_append (by decide) ih
  | case5 steps hne ih => exact List.not_mem_append (by decide) ih

theorem newline_not_mem_label {r : Rule} (h : r.Unbroken) : ∀ n ∈ r.nodes, '\n' ∉ n.rule.label.toList := by
  induction r with
  | operand text =>
    intro n hn
    rw [List.mem_singleton.mp hn]
    exact h text List.mem_cons_self
  | operator op left right ihl ihr =>
    obtain ⟨hl, hr⟩ := forall_mem_operands_operator.mp h
    intro n hn
    rw [nodes, List.mem_cons, List.mem_append, mem_map_below_iff, mem_map_below_iff] at hn
    rcases hn with rfl | ⟨m, hm, rfl⟩ | ⟨m, hm, rfl⟩
    · show '\n' ∉ op.keyword.toList
      cases op <;> decide
    · exact ihl hl m hm
    · exact ihr hr m hm

theorem splitOn_flatMap_ended {lines : List (List Char)} (h : ∀ line ∈ lines, '\n' ∉ line) :
    (lines.flatMap (· ++ ['\n'])).splitOn '\n' = lines ++ [[]] := by
  induction lines with
  | nil => rfl
  | cons line rest ih =>
    obtain ⟨hline, hrest⟩ := List.forall_mem_cons.mp h
    rw [List.flatMap_cons, List.append_assoc, List.singleton_append, List.splitOn_append_cons_self,
      List.splitOn_eq_singleton hline, ih hrest]
    rfl

theorem splitOn_draw {r : Rule} (h : r.Unbroken) : r.draw.toList.splitOn '\n' = r.nodes.map Node.line ++ [[]] := by
  have hlines : ∀ line ∈ r.nodes.map Node.line, '\n' ∉ line := by
    intro line hline
    obtain ⟨n, hn, rfl⟩ := List.mem_map.mp hline
    exact List.not_mem_append (newline_not_mem_lead n.steps) (newline_not_mem_label h n hn)
  rw [draw, String.toList_ofList, drawLines_eq, splitOn_flatMap_ended hlines]

theorem draw_injective {r s : Rule} (hr : r.Unbroken) (hs : s.Unbroken) (h : r.draw = s.draw) : r = s := by
  have hlines := congrArg (fun text => text.toList.splitOn '\n') h
  simp only [splitOn_draw hr, splitOn_draw hs, ← drawLines_eq] at hlines
  exact drawLines_injective (List.append_cancel_right hlines)

/-- Rules whose operands have no line break are drawn alike only if they are equal, whatever else the operands hold. Cut
at its line breaks such a drawing is one line for each node, ended even where it is the last one. The nodes in it are
those that steps lead to from the root, each once, a node before those below it and these from left to right. -/
theorem draw_eq_iff_and_lines {r s : Rule} (hr : r.Unbroken) (hs : s.Unbroken) :
    (r.draw = s.draw ↔ r = s) ∧
      r.draw.toList.splitOn '\n' = r.nodes.map Node.line ++ [[]] ∧
      (∀ n, n ∈ r.nodes ↔ r.at? n.steps = some n.rule) ∧ r.nodes.Pairwise fun m n => m.steps < n.steps :=
  ⟨⟨draw_injective hr hs, congrArg draw⟩, splitOn_draw hr, fun _ => mem_nodes_iff, pairwise_nodes r⟩

/-- Operands that look like a keyword, like nothing and like a branch with an operand on it. -/
def disguised : Rule := .operator .and (.operator .or (.operand "AND") (.operand "")) (.operand "├── b")

/-- The operand that is drawn as a keyword has no lines below its own, so the rule in which it is a connective is drawn
otherwise. -/
theorem draw_disguised :
    disguised.Unbroken ∧ (operator .and (.operand "OR") (.operator .and (.operand "") (.operand "├── b"))).Unbroken ∧
      disguised.draw ≠ (operator .and (.operand "OR") (.operator .and (.operand "") (.operand "├── b"))).draw ∧
      disguised.draw.toList.splitOn '\n' =
        ["AND".toList, "├── OR".toList, "│   ├── AND".toList, "│   └── ".toList, "└── ├── b".toList, []] :=
  have hr : disguised.Unbroken := by decide
  have hs : (operator .and (.operand "OR") (.operator .and (.operand "") (.operand "├── b"))).Unbroken := by decide
  have hdraw := draw_eq_iff_and_lines hr hs
  ⟨hr, hs, fun h => absurd (hdraw.1.mp h) (by decide), hdraw.2.1.trans (by decide)⟩

/-- A line break in an operand can draw a whole rule. -/
example : (operand "AND\n├── a\n└── b").draw = (operator .and (operand "a") (operand "b")).draw := by decide

end AttributeRules.Rule

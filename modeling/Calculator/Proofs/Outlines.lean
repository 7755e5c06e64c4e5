import Calculator.Proofs.Verbosity

/-!
# Outlines and trees

The list of waiting trees writes what the plain recursion in preorder writes. An outline can be read
back: its lines, taken from the last to the first, grow a forest to the left, and a node is a branch
exactly if the tree to its right stands one level deeper than it does. So trees whose labels hold no
tabs and no line feeds are told apart by their outlines, and parsed trees are among these.
-/

namespace Calculator

/-- The text may be a label of an outline: it holds no tab and no line feed. -/
def Text.IsLabel (text : String) : Prop := '\t' ∉ text.toList ∧ '\n' ∉ text.toList

namespace Tree

/-- The text of a tree in preorder: as many tabs as levels, the label and a line feed, then the left
subtree and the right one, each a level deeper. -/
def preorder (level : Nat) : Tree → String
  | leaf label => String.ofList (List.replicate level '\t') ++ label ++ "\n"
  | branch label left right =>
    String.ofList (List.replicate level '\t') ++ label ++ "\n" ++
      left.preorder (level + 1) ++ right.preorder (level + 1)

/-- The condition holds of every label. -/
def Everywhere (condition : String → Prop) : Tree → Prop
  | leaf label => condition label
  | branch label left right =>
    condition label ∧ left.Everywhere condition ∧ right.Everywhere condition

/-- The levels and the labels of a tree in preorder. -/
def nodes (level : Nat) : Tree → List (Nat × String)
  | leaf label => [(level, label)]
  | branch label left right =>
    (level, label) :: (left.nodes (level + 1) ++ right.nodes (level + 1))

/-- The level and the label that a line of an outline shows. -/
def ofLine (line : List Char) : Nat × String :=
  ((line.takeWhile (· == '\t')).length, String.ofList (line.dropWhile (· == '\t')).dropLast)

/-- A forest with one more node in front. If the first tree stands one level deeper than the node,
it and the second tree become the subtrees of the node; otherwise the node is a leaf. -/
def grow (node : Nat × String) : List (Nat × Tree) → List (Nat × Tree)
  | (level, left) :: (other, right) :: forest =>
    if level = node.1 + 1 then (node.1, branch node.2 left right) :: forest
    else (node.1, leaf node.2) :: (level, left) :: (other, right) :: forest
  | forest => (node.1, leaf node.2) :: forest

/-- The tree of an outline; none if its lines are not those of one tree. -/
def ofOutline? (text : String) : Option Tree :=
  match ((Text.feedLines text.toList).map ofLine).foldr grow [] with
  | [(0, tree)] => some tree
  | _ => none

/-! ## Writing -/

/-- The tabs, the label and the line feed make up the line of a node. -/
theorem outlineLine_eq (level : Nat) (label : String) :
    outlineLine level label = String.ofList (List.replicate level '\t') ++ label ++ "\n" := by
  have tabs : ("".pushn '\t' level).toList = List.replicate level '\t' := by
    induction level with
    | zero => rfl
    | succ level ih =>
      have pushed : "".pushn '\t' (level + 1) = ("".pushn '\t' level).push '\t' := rfl
      rw [pushed, String.toList_push, ih, List.replicate_succ']
  rw [outlineLine, ← tabs, String.ofList_toList]

/-- While trees wait, the text grows by what the recursion writes for each of them. -/
theorem outlineOnto_eq (text : String) (waiting : List (Nat × Tree)) :
    outlineOnto text waiting =
      text ++ String.join (waiting.map fun (level, tree) => tree.preorder level) := by
  fun_induction outlineOnto text waiting with
  | case1 text => simp
  | case2 text level label waiting ih =>
    rw [ih, outlineLine_eq]
    simp only [List.map_cons, String.join_cons, preorder, String.append_assoc]
  | case3 text level label left right waiting ih =>
    rw [ih, outlineLine_eq]
    simp only [List.map_cons, String.join_cons, preorder, String.append_assoc]

/-- The outline of a tree is its text in preorder. -/
theorem outline_eq_preorder (tree : Tree) : tree.outline = tree.preorder 0 := by
  rw [outline, outlineOnto_eq]
  simp

/-! ## Reading back -/

variable {tree : Tree}

/-- The line of a node shows its level and its label. -/
theorem ofLine_line (level : Nat) {label : String} (isLabel : Text.IsLabel label) :
    ofLine (List.replicate level '\t' ++ label.toList ++ ['\n']) = (level, label) := by
  have tabs : ∀ c ∈ List.replicate level '\t', (c == '\t') = true := by simp
  have noTab : ∀ c ∈ label.toList ++ ['\n'], (c == '\t') = false := by
    intro c among
    obtain inLabel | rfl := by simpa using among
    · exact beq_false_of_ne fun isTab => isLabel.1 (isTab ▸ inLabel)
    · rfl
  have taken : (label.toList ++ ['\n']).takeWhile (· == '\t') = [] := by
    rw [List.takeWhile_eq_nil_iff]
    intro nonempty
    simpa using noTab _ (List.getElem_mem nonempty)
  have dropped : (label.toList ++ ['\n']).dropWhile (· == '\t') = label.toList ++ ['\n'] := by
    rw [List.dropWhile_eq_self_iff]
    intro nonempty
    simpa using noTab _ (List.getElem_mem nonempty)
  rw [ofLine, List.append_assoc, List.takeWhile_append_of_pos tabs,
    List.dropWhile_append_of_pos tabs, taken, dropped, List.append_nil, List.length_replicate,
    List.dropLast_concat, String.ofList_toList]

/-- The line of a node is one line. -/
theorem feedLines_node (level : Nat) {label : String} (isLabel : Text.IsLabel label) :
    Text.feedLines (List.replicate level '\t' ++ label.toList ++ ['\n']) =
      [List.replicate level '\t' ++ label.toList ++ ['\n']] := by
  apply Text.feedLines_line
  rw [List.mem_append, not_or]
  exact ⟨by simp, isLabel.2⟩

/-- The lines of the text in preorder show the nodes, and the text ends with a line feed. -/
theorem nodes_of_preorder (labels : tree.Everywhere Text.IsLabel) (level : Nat) :
    Text.IsWholeLines (tree.preorder level) ∧
      (Text.feedLines (tree.preorder level).toList).map ofLine = tree.nodes level := by
  have feed : "\n".toList = ['\n'] := rfl
  have ended : ∀ (depth : Nat) (label : String),
      Text.IsWholeLines (String.ofList (List.replicate depth '\t') ++ label ++ "\n") := by
    intro depth label last isLast
    rw [String.toList_append, feed, List.getLast?_concat] at isLast
    exact (Option.some.inj isLast).symm
  have written : ∀ (depth : Nat) {label : String}, Text.IsLabel label →
      (Text.feedLines (String.ofList (List.replicate depth '\t') ++ label ++ "\n").toList).map
        ofLine = [(depth, label)] := by
    intro depth label isLabel
    rw [String.toList_append, String.toList_append, String.toList_ofList, feed,
      feedLines_node depth isLabel, List.map_singleton, ofLine_line depth isLabel]
  induction tree generalizing level with
  | leaf label => exact ⟨ended level label, written level labels⟩
  | branch label left right leftShown rightShown =>
    obtain ⟨isLabel, leftLabels, rightLabels⟩ := labels
    obtain ⟨leftWhole, leftNodes⟩ := leftShown leftLabels (level + 1)
    obtain ⟨rightWhole, rightNodes⟩ := rightShown rightLabels (level + 1)
    have front := (ended level label).append leftWhole
    refine ⟨front.append rightWhole, ?_⟩
    rw [preorder, String.toList_append, Text.feedLines_append front, String.toList_append,
      Text.feedLines_append (ended level label), List.map_append, List.map_append,
      written level isLabel, leftNodes, rightNodes]
    rfl

/-- The nodes of a tree grow that tree in front of a forest, unless the forest begins deeper than
the tree. -/
theorem foldr_grow_nodes (tree : Tree) {level : Nat} {forest : List (Nat × Tree)}
    (notDeeper : ∀ first ∈ forest.head?, first.1 ≤ level) :
    (tree.nodes level).foldr grow forest = (level, tree) :: forest := by
  induction tree generalizing level forest with
  | leaf label =>
    match forest with
    | [] => rfl
    | [_] => rfl
    | first :: second :: others =>
      have atMost : first.1 ≤ level := notDeeper first rfl
      have notBelow : first.1 ≠ level + 1 := by omega
      exact if_neg notBelow
  | branch label left right leftGrown rightGrown =>
    have aboveForest : ∀ first ∈ forest.head?, first.1 ≤ level + 1 :=
      fun first isFirst => Nat.le_succ_of_le (notDeeper first isFirst)
    have besideRight : ∀ first ∈ ((level + 1, right) :: forest).head?, first.1 ≤ level + 1 := by
      intro first isFirst
      obtain rfl := Option.some.inj isFirst
      exact Nat.le_refl _
    rw [nodes, List.foldr_cons, List.foldr_append, rightGrown aboveForest, leftGrown besideRight]
    exact if_pos rfl

/-- The outline of a tree is read back as the tree. -/
theorem ofOutline?_outline (labels : tree.Everywhere Text.IsLabel) :
    ofOutline? tree.outline = some tree := by
  have alone : ∀ first ∈ ([] : List (Nat × Tree)).head?, first.1 ≤ 0 := by simp
  rw [ofOutline?, outline_eq_preorder, (nodes_of_preorder labels 0).2, foldr_grow_nodes tree alone]
  rfl

/-- The labels of an expression may be labels of an outline. -/
theorem IsExpression.everywhere_isLabel (expression : tree.IsExpression) :
    tree.Everywhere Text.IsLabel := by
  induction expression with
  | leaf magnitude =>
    have noBlank := (Double.finite false magnitude).noBlank_text
    constructor
    · exact fun isTab => absurd (noBlank _ isTab) (by decide)
    · exact fun isFeed => absurd (noBlank _ isFeed) (by decide)
  | @branch level s left right _ _ _ leftLabels rightLabels =>
    refine ⟨?_, leftLabels, rightLabels⟩
    rw [Text.IsLabel, Symbol.toList_text]
    cases s <;> decide

end Tree

namespace CommandLine

/-- With the tree, the reply to an expression begins with the outline and goes on as it does
without. -/
theorem reply_tree {source : String} {tree : Tree} {verbose : Bool}
    (parsed : parseWithin (Parser.nestingLimit verbose) source = .ok tree) :
    (reply ⟨true, verbose⟩ source).output.standard =
      tree.outline ++ (reply ⟨false, verbose⟩ source).output.standard := by
  obtain ⟨_, value, _, written⟩ := replyWithin_of_accepted parsed
  rw [reply, reply, written, written]
  simp [String.append_assoc]

/-- The outline of every tree is its text in preorder. If no label holds a tab or a line feed, the
outline can be read back, so that trees with the same outline are the same. Parsed trees have such
labels, whence two expressions have the same tree exactly if they have the same outline, and that is
what is shown in front of the value where the tree is asked for. -/
theorem outline_determines_tree :
    (∀ tree : Tree, tree.outline = tree.preorder 0) ∧
    (∀ tree : Tree, tree.Everywhere Text.IsLabel → Tree.ofOutline? tree.outline = some tree) ∧
    (∀ tree other : Tree, tree.Everywhere Text.IsLabel → other.Everywhere Text.IsLabel →
      tree.outline = other.outline → tree = other) ∧
    (∀ (source otherSource : String) (tree other : Tree), parse source = .ok tree →
      parse otherSource = .ok other → (tree = other ↔ tree.outline = other.outline)) ∧
    ∀ (verbose : Bool) (source : String) (tree : Tree),
      parseWithin (Parser.nestingLimit verbose) source = .ok tree →
        (reply ⟨true, verbose⟩ source).output.standard =
          tree.outline ++ (reply ⟨false, verbose⟩ source).output.standard := by
  have injective : ∀ tree other : Tree, tree.Everywhere Text.IsLabel →
      other.Everywhere Text.IsLabel → tree.outline = other.outline → tree = other := by
    intro tree other labels otherLabels same
    have readBack := Tree.ofOutline?_outline labels
    rw [same, Tree.ofOutline?_outline otherLabels] at readBack
    exact (Option.some.inj readBack).symm
  refine ⟨Tree.outline_eq_preorder, fun tree => Tree.ofOutline?_outline, injective, ?_,
    fun verbose source tree => reply_tree⟩
  intro source otherSource tree other parsed otherParsed
  have labels := (isExpression_of_parse parsed).everywhere_isLabel
  have otherLabels := (isExpression_of_parse otherParsed).everywhere_isLabel
  exact ⟨congrArg Tree.outline, injective tree other labels otherLabels⟩

/-- Labels may be empty or operators at the leaves, expressions with other blanks and literals have
the same outline, and exchanged operands have another one. -/
theorem outline_determines_tree_alike :
    Tree.ofOutline? (Tree.branch "" (.leaf "+") (.branch "1.0" (.leaf "") (.leaf ""))).outline =
        some (.branch "" (.leaf "+") (.branch "1.0" (.leaf "") (.leaf ""))) ∧
      parse "2.50 * (3)" = .ok (.branch "*" (.leaf "2.5") (.leaf "3.0")) ∧
      parse "2.5*3" = .ok (.branch "*" (.leaf "2.5") (.leaf "3.0")) ∧
      (Tree.branch "*" (.leaf "2.5") (.leaf "3.0")).outline = "*\n\t2.5\n\t3.0\n" ∧
      (Tree.branch "*" (.leaf "2.5") (.leaf "3.0")).outline ≠
        (Tree.branch "*" (.leaf "3.0") (.leaf "2.5")).outline ∧
      (reply ⟨true, false⟩ "2.5*3").output.standard =
        (Tree.branch "*" (.leaf "2.5") (.leaf "3.0")).outline ++
          (reply ⟨false, false⟩ "2.5*3").output.standard := by
  obtain ⟨isPreorder, readBack, _, ofSources, shown⟩ := outline_determines_tree
  have labels : (Tree.branch "" (.leaf "+") (.branch "1.0" (.leaf "") (.leaf ""))).Everywhere
      Text.IsLabel := by
    simp [Tree.Everywhere, Text.IsLabel]
  have spaced : parse "2.50 * (3)" = .ok (.branch "*" (.leaf "2.5") (.leaf "3.0")) := by
    decide +kernel
  have plain : parse "2.5*3" = .ok (.branch "*" (.leaf "2.5") (.leaf "3.0")) := by
    decide +kernel
  have exchanged : parse "3*2.5" = .ok (.branch "*" (.leaf "3.0") (.leaf "2.5")) := by
    decide +kernel
  have other : Tree.branch "*" (.leaf "2.5") (.leaf "3.0") ≠
      .branch "*" (.leaf "3.0") (.leaf "2.5") := by decide
  exact ⟨readBack _ labels, spaced, plain, by rw [isPreorder]; decide,
    mt (ofSources _ _ _ _ plain exchanged).mpr other, shown false _ _ plain⟩

end CommandLine

end Calculator
